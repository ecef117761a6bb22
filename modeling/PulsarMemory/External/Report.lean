import PulsarMemory.External.RssFile
import PulsarMemory.Python.Format

/-!
# `main` of `analyze-external-rss.py`

`main` reduces the RSS file `sys.argv[1]` names with `analyze_rss` and
prints the result as JSON when `sys.argv[2]` is `json`, and as four text
lines otherwise. It exits with a message when no file is named or when no
line of the file is a sample. The figures of the text report are rounded to
hundredths, and rounding keeps their order, so the printed minimum never
exceeds the printed mean, nor the mean the maximum.

The file is the caller's: its lines, or `none` when `open` fails. The text
`json.dumps` writes is not modelled; the JSON output is the dictionary.
-/

namespace PulsarMemory.External

open PulsarMemory.Python

/-- What `main()` prints on standard output. -/
inductive RssOutput where
  /-- `print(json.dumps(result, indent=2))`. -/
  | json (result : RssResult)
  /-- The text report, line by line. -/
  | text (lines : List String)
  deriving DecidableEq

/-- The four lines of the text report. -/
def textReport (result : RssResult) : List String :=
  ["Samples: " ++ toString result.sampleCount,
    "Min RSS: " ++ formatFixed 2 result.minRssMb ++ " MB",
    "Max RSS: " ++ formatFixed 2 result.maxRssMb ++ " MB",
    "Avg RSS: " ++ formatFixed 2 result.avgRssMb ++ " MB"]

/-- `main()`, given `sys.argv` and the lines of the file `sys.argv[1]` names. -/
def main (argv : List String) (file : Option (List String)) : Except MainExit RssOutput :=
  if argv.length < 2 then .error (.exit "Usage: analyze-external-rss.py <rss_file> [json|text]")
  else
    let outputFormat := if argv.length > 2 then argv.getD 2 "" else "text"
    match file with
    | none => .error (.raised .osError)
    | some lines =>
        match analyzeRss lines with
        | none => .error (.exit "No valid RSS data found")
        | some result =>
            .ok (if outputFormat = "json" then .json result else .text (textReport result))

/-- `main` exits with its usage line exactly when no file is named, and with
"No valid RSS data found" exactly when no line of the file is a sample. A
text report prints the result of `analyze_rss`, with figures in the order
`min ≤ avg ≤ max` after rounding. -/
theorem main_outcome (argv lines : List String) :
    (main argv (some lines) = .error (.exit "Usage: analyze-external-rss.py <rss_file> [json|text]") ↔
      argv.length < 2) ∧
    (main argv (some lines) = .error (.exit "No valid RSS data found") ↔
      2 ≤ argv.length ∧ ∀ line ∈ lines, rssOfLine line = none) ∧
    ∀ report, main argv (some lines) = .ok (.text report) →
      ∃ result, analyzeRss lines = some result ∧ report = textReport result ∧
        fixedDigits 2 result.minRssMb ≤ fixedDigits 2 result.avgRssMb ∧
        fixedDigits 2 result.avgRssMb ≤ fixedDigits 2 result.maxRssMb := by
  have noSample : analyzeRss lines = none ↔ ∀ line ∈ lines, rssOfLine line = none := by
    rw [analyzeRss_eq_none_iff, readRssValues_eq_filterMap, List.filterMap_eq_nil_iff]
  by_cases short : argv.length < 2
  · simp [main, short]
  · have named : 2 ≤ argv.length := by omega
    cases analyzed : analyzeRss lines with
    | none => simp [main, short, analyzed, named, ← noSample]
    | some result =>
        have sampled : ¬ ∀ line ∈ lines, rssOfLine line = none := by
          rw [← noSample, analyzed]
          simp
        obtain ⟨-, -, minLeAvg, avgLeMax⟩ := analyzeRss_ordered analyzed
        refine ⟨by simp [main, short, analyzed], by simp [main, short, analyzed, sampled],
          fun report printed => ⟨result, rfl, ?_, fixedDigits_mono 2 minLeAvg,
            fixedDigits_mono 2 avgLeMax⟩⟩
        simp only [main, short, analyzed, if_false] at printed
        split_ifs at printed <;> cases printed <;> rfl

end PulsarMemory.External
