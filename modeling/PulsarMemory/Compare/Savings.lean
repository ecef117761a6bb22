import PulsarMemory.External.RssFile

/-!
# The comparison report of `compare-queue.py` and `compare-results.py`

Both scripts load two pre-reduced stats files, each an object whose
`summary` holds the run's heap and RSS statistics with `message_bytes` and
`message_count`, and print one report: a HeapAlloc and an RSS table in MB
and, when both runs are present, the savings of the variant against the
baseline and the memory amplification of each.

The savings of every metric use one formula, `saving`, and the amplification
table one computation, `amplification`; both are written once here and used
by the two `print_comparison`s, which keep their own bodies. `saving` is
proved equal to the spec's formula `savingOf`; it divides only by a baseline
just checked positive. `amplification` divides both runs' peaks by the
baseline's `message_bytes`, and prints nothing when that is `0`.

Every other division is by `1024`, so none is by zero. The summaries are
exact here: on an integer field beyond float range the script's `/ 1024`
raises `OverflowError`, which the model does not show, so a result that the
script completes takes its fields within `InFloatRange` (`Summary.fields`).
-/

namespace PulsarMemory.Compare

open PulsarMemory.Python

/-- The `summary` object of a pre-reduced stats file. -/
structure Summary where
  minHeapAlloc : ℚ
  maxHeapAlloc : ℚ
  avgHeapAlloc : ℚ
  finalHeapAlloc : ℚ
  minRss : ℚ
  maxRss : ℚ
  avgRss : ℚ
  finalRss : ℚ
  messageBytes : ℚ
  messageCount : Int
  deriving DecidableEq

/-- The fields of a summary that the report reads. -/
def Summary.fields (summary : Summary) : List ℚ :=
  [summary.minHeapAlloc, summary.maxHeapAlloc, summary.avgHeapAlloc, summary.finalHeapAlloc,
    summary.minRss, summary.maxRss, summary.avgRss, summary.finalRss, summary.messageBytes,
    summary.messageCount]

/-- `value / 1024 / 1024`: bytes in MB. -/
def toMb (value : ℚ) : ℚ :=
  value / 1024 / 1024

/-- `Test Data: {data_mb:.2f} MB ({msg_count:,} messages)`. -/
structure TestData where
  dataMb : ℚ
  messageCount : Int
  deriving DecidableEq

/-- The test data line of a run. -/
def testData (summary : Summary) : TestData :=
  ⟨toMb summary.messageBytes, summary.messageCount⟩

/-- One row of the HeapAlloc or RSS table, in MB. -/
structure MemRow where
  label : String
  min : ℚ
  max : ℚ
  avg : ℚ
  final : ℚ
  deriving DecidableEq

/-- The HeapAlloc row of a run. -/
def heapRow (label : String) (summary : Summary) : MemRow :=
  ⟨label, toMb summary.minHeapAlloc, toMb summary.maxHeapAlloc, toMb summary.avgHeapAlloc,
    toMb summary.finalHeapAlloc⟩

/-- The RSS row of a run. -/
def rssRow (label : String) (summary : Summary) : MemRow :=
  ⟨label, toMb summary.minRss, toMb summary.maxRss, toMb summary.avgRss, toMb summary.finalRss⟩

/-- One row of the external `ps aux` RSS table, already in MB. -/
structure ExternalRow where
  label : String
  min : ℚ
  max : ℚ
  avg : ℚ
  deriving DecidableEq

/-- The external RSS row of a run. -/
def externalRow (label : String) (external : External.ExternalRss) : ExternalRow :=
  ⟨label, external.min, external.max, external.avg⟩

/-- One metric of the savings analysis: both values, `SAVED`, and the
percentage. -/
structure Saving where
  baseline : ℚ
  variant : ℚ
  saved : ℚ
  pct : ℚ
  deriving DecidableEq

/-- `saved = baseline - variant` and
`pct = (saved / baseline * 100) if baseline > 0 else 0`, the same lines for
every metric. -/
def saving (baseline variant : ℚ) : Except PyError Saving := do
  let saved := baseline - variant
  let pct ← if 0 < baseline then (do let share ← pyDiv saved baseline; pure (share * 100))
    else pure 0
  return ⟨baseline, variant, saved, pct⟩

/-- The "Memory Amplification" table: each run's peak heap and RSS over a
data size. -/
structure Amplification where
  heapRatioBaseline : ℚ
  heapRatioVariant : ℚ
  rssRatioBaseline : ℚ
  rssRatioVariant : ℚ
  deriving DecidableEq

/-- `data_bytes = baseline['message_bytes']`; `if data_bytes > 0:` both runs'
peaks divided by `data_bytes`. -/
def amplification (baseline variant : Summary) : Except PyError (Option Amplification) :=
  let dataBytes := baseline.messageBytes
  if 0 < dataBytes then do
    let heapRatioBaseline ← pyDiv baseline.maxHeapAlloc dataBytes
    let heapRatioVariant ← pyDiv variant.maxHeapAlloc dataBytes
    let rssRatioBaseline ← pyDiv baseline.maxRss dataBytes
    let rssRatioVariant ← pyDiv variant.maxRss dataBytes
    return some ⟨heapRatioBaseline, heapRatioVariant, rssRatioBaseline, rssRatioVariant⟩
  else pure none

/-- The "MEMORY SAVINGS ANALYSIS" section, printed when both runs are
present. -/
structure SavingsSection where
  maxHeap : Saving
  avgHeap : Saving
  maxRss : Saving
  /-- `Max RSS (External)`, which only `compare-results.py` prints. -/
  externalMaxRss : Option Saving
  amplification : Option Amplification
  deriving DecidableEq

/-- What `print_comparison` prints, section by section. -/
structure ComparisonReport where
  testData : Option TestData
  heapRows : List MemRow
  rssRows : List MemRow
  /-- The `RSS (External ps aux)` table, which only `compare-results.py` prints. -/
  externalRows : List ExternalRow
  savings : Option SavingsSection
  deriving DecidableEq

end PulsarMemory.Compare
