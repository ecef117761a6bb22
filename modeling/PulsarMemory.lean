import PulsarMemory.Python.Builtins
import PulsarMemory.Python.Format
import PulsarMemory.Python.Json
import PulsarMemory.External.RssFile
import PulsarMemory.External.Report
import PulsarMemory.External.Samples
import PulsarMemory.External.Merge
import PulsarMemory.Results.AnalyzeFile
import PulsarMemory.Results.FormatBytes
import PulsarMemory.Results.Main
import PulsarMemory.Results.GlobOrder
import PulsarMemory.Results.Completion
import PulsarMemory.Compare.Savings
import PulsarMemory.Compare.Queue
import PulsarMemory.Compare.Results
import PulsarMemory.Compare.Agreement
