import PulsarMemory.Python.Json
import Mathlib.Algebra.Order.Field.Rat

/-!
# `analyze_file`: one stats file

`analyze_file` in `analyze_results.py` loads a stats file, a JSON list of
samples in the order they were taken, and keeps the peaks of `heap_alloc` and
`rss`, the final sample's counters, and the amplification ratios
`peak / message_bytes`. It reads each field with `s[key]` and skips nothing:
a record without `heap_alloc` or `rss`, or a final record without one of the
counters, makes it raise, and `main` then leaves the whole file out.

`SampleRecord` is a record that carries the seven counters as integers,
whatever else it holds, and `summarizeRecords` is what `analyze_file`
computes on a list of them; `analyzeFile_records` proves the Python-shaped
function equal to it on every such list. `RawSample` is a well-formed record
of the spec's data model, one such record.
-/

namespace PulsarMemory.Results

open PulsarMemory.Python

/-- The dictionary `analyze_file` returns. The fields copied from a record
keep the value `json.load` produced. -/
structure AnalyzeResult where
  file : String
  messageCount : Json
  messageBytes : Json
  batchCount : Json
  maxHeap : Json
  maxRss : Json
  finalHeap : Json
  finalRss : Json
  heapRatio : ℚ
  rssRatio : ℚ
  numGc : Json
  gcPauseMs : ℚ

/-- One step of `max(s[key] for s in stats)`: read the record's field, then
keep it if it is strictly above the running maximum. -/
def maxStep (key : String) (current record : Json) : Except PyError Json := do
  let item ← record.getItem key
  if ← pyLt current item then pure item else pure current

/-- `max(s[key] for s in stats)` over the records `first :: rest`. -/
def maxOf (key : String) (first : Json) (rest : List Json) : Except PyError Json := do
  let start ← first.getItem key
  rest.foldlM (maxStep key) start

/-- `peak / message_bytes if message_bytes > 0 else 0`. -/
def memoryRatio (peak messageBytes : Json) : Except PyError ℚ := do
  if ← pyLt (.int 0) messageBytes then pyTrueDiv peak messageBytes else pure 0

/-- The body of `analyze_file` once `stats` has been iterated into the
records `first :: rest`: the two peaks, then the fields of the final record,
`stats[-1]`, in the order the source reads them. -/
def analyzeRecords (file : String) (first : Json) (rest : List Json) :
    Except PyError (Option AnalyzeResult) := do
  let maxHeap ← maxOf "heap_alloc" first rest
  let maxRss ← maxOf "rss" first rest
  let final := rest.getLastD first
  let messageBytes ← final.getItem "message_bytes"
  let messageCount ← final.getItem "message_count"
  let batchCount ← final.getItem "batch_count"
  let heapRatio ← memoryRatio maxHeap messageBytes
  let rssRatio ← memoryRatio maxRss messageBytes
  let finalHeap ← final.getItem "heap_alloc"
  let finalRss ← final.getItem "rss"
  let numGc ← final.getItem "num_gc"
  let pauseTotalNs ← final.getItem "pause_total_ns"
  let gcPauseMs ← pyTrueDiv pauseTotalNs (.int 1000000)
  return some {
    file := file, messageCount := messageCount, messageBytes := messageBytes
    batchCount := batchCount, maxHeap := maxHeap, maxRss := maxRss, finalHeap := finalHeap
    finalRss := finalRss, heapRatio := heapRatio, rssRatio := rssRatio, numGc := numGc
    gcPauseMs := gcPauseMs }

/-- `analyze_file(filepath)` for the file named `file`: `stats` is what
`json.load` returned, `none` when the file is not JSON (`JSONDecodeError`, a
`ValueError`). A `dict` or `str` iterates into strings, on which the first
`max` raises, so `stats[-1]` is only reached for a list. -/
def analyzeFile (file : String) (stats : Option Json) :
    Except PyError (Option AnalyzeResult) := do
  let stats ← match stats with
    | some stats => pure stats
    | none => throw .valueError
  if !stats.truthy then return none
  match ← stats.iter with
  | [] => throw .valueError
  | first :: rest => analyzeRecords file first rest

/-- On a non-empty list `analyze_file` is its body. -/
theorem analyzeFile_arr_cons (file : String) (first : Json) (rest : List Json) :
    analyzeFile file (some (.arr (first :: rest))) = analyzeRecords file first rest :=
  rfl

/-! ## Records that carry the counters -/

/-- A stats record with the seven counters `analyze_file` reads, as integers,
whatever its other keys and their order: each field reads as its counter. -/
structure SampleRecord where
  json : Json
  heapAlloc : Int
  rss : Int
  messageBytes : Int
  messageCount : Int
  batchCount : Int
  numGc : Int
  pauseTotalNs : Int
  heapAlloc_read : json.getItem "heap_alloc" = .ok (.int heapAlloc)
  rss_read : json.getItem "rss" = .ok (.int rss)
  messageBytes_read : json.getItem "message_bytes" = .ok (.int messageBytes)
  messageCount_read : json.getItem "message_count" = .ok (.int messageCount)
  batchCount_read : json.getItem "batch_count" = .ok (.int batchCount)
  numGc_read : json.getItem "num_gc" = .ok (.int numGc)
  pauseTotalNs_read : json.getItem "pause_total_ns" = .ok (.int pauseTotalNs)

/-- The seven counters of a record. -/
def SampleRecord.counters (record : SampleRecord) : List Int :=
  [record.heapAlloc, record.rss, record.messageBytes, record.messageCount, record.batchCount,
    record.numGc, record.pauseTotalNs]

/-- The amplification ratio the spec defines: peak over data volume, `0`
when no data was processed. -/
def ratioOf (peak messageBytes : Int) : ℚ :=
  if 0 < messageBytes then (peak : ℚ) / messageBytes else 0

/-- What `analyze_file` computes on the records `first :: rest`: the peaks
over all records, the counters of the last one. -/
def summarizeRecords (file : String) (first : SampleRecord) (rest : List SampleRecord) :
    AnalyzeResult :=
  let final := rest.getLastD first
  let maxHeap := rest.foldl (fun peak record => max peak record.heapAlloc) first.heapAlloc
  let maxRss := rest.foldl (fun peak record => max peak record.rss) first.rss
  { file := file
    messageCount := .int final.messageCount
    messageBytes := .int final.messageBytes
    batchCount := .int final.batchCount
    maxHeap := .int maxHeap
    maxRss := .int maxRss
    finalHeap := .int final.heapAlloc
    finalRss := .int final.rss
    heapRatio := ratioOf maxHeap final.messageBytes
    rssRatio := ratioOf maxRss final.messageBytes
    numGc := .int final.numGc
    gcPauseMs := (final.pauseTotalNs : ℚ) / 1000000 }

/-- `summarizeRecords` on a possibly empty list: an empty list gives no
result. -/
def summarizeRecordList (file : String) : List SampleRecord → Option AnalyzeResult
  | [] => none
  | first :: rest => some (summarizeRecords file first rest)

/-- The running maximum of a counter every record carries is the maximum so
far. -/
theorem foldlM_maxStep_records (key : String) (field : SampleRecord → Int)
    (reads : ∀ record : SampleRecord, record.json.getItem key = .ok (.int (field record)))
    (rest : List SampleRecord) (peak : Int) :
    (rest.map SampleRecord.json).foldlM (maxStep key) (.int peak) =
      .ok (.int (rest.foldl (fun peak record => max peak (field record)) peak)) := by
  induction rest generalizing peak with
  | nil => rfl
  | cons record rest inductionHypothesis =>
      have step : maxStep key (.int peak) record.json = .ok (.int (max peak (field record))) := by
        simp only [maxStep, reads, pyLt_int, except_ok_bind]
        by_cases below : peak < field record <;> simp [below] <;> omega
      simp only [List.map_cons, List.foldlM_cons, step, except_ok_bind, List.foldl_cons]
      exact inductionHypothesis _

/-- On such records, `max(s[key] for s in stats)` is the largest counter. -/
theorem maxOf_records (key : String) (field : SampleRecord → Int)
    (reads : ∀ record : SampleRecord, record.json.getItem key = .ok (.int (field record)))
    (first : SampleRecord) (rest : List SampleRecord) :
    maxOf key first.json (rest.map SampleRecord.json) =
      .ok (.int (rest.foldl (fun peak record => max peak (field record)) (field first))) := by
  simp only [maxOf, reads]
  exact foldlM_maxStep_records key field reads rest (field first)

@[simp] theorem memoryRatio_int (peak messageBytes : Int) :
    memoryRatio (.int peak) (.int messageBytes) = .ok (ratioOf peak messageBytes) := by
  by_cases positive : 0 < messageBytes
  · have nonzero : (messageBytes : ℚ) ≠ 0 := by exact_mod_cast positive.ne'
    simp [memoryRatio, ratioOf, positive, nonzero]
  · simp [memoryRatio, ratioOf, positive]

/-- `analyze_file` on records that carry the counters is `summarizeRecords`:
the Python-shaped function never raises there and returns `None` only for
the empty list. -/
theorem analyzeFile_records (file : String) (records : List SampleRecord) :
    analyzeFile file (some (.arr (records.map SampleRecord.json))) =
      .ok (summarizeRecordList file records) := by
  cases records with
  | nil => rfl
  | cons first rest =>
      have heap := maxOf_records "heap_alloc" _ SampleRecord.heapAlloc_read first rest
      have rss := maxOf_records "rss" _ SampleRecord.rss_read first rest
      simp [analyzeFile_arr_cons, analyzeRecords, heap, rss, List.getLastD_map,
        SampleRecord.messageBytes_read, SampleRecord.messageCount_read,
        SampleRecord.batchCount_read, SampleRecord.heapAlloc_read, SampleRecord.rss_read,
        SampleRecord.numGc_read, SampleRecord.pauseTotalNs_read, summarizeRecordList,
        summarizeRecords]

/-- A running maximum is the greatest key `max` finds. -/
theorem foldl_max_eq_maxBy {α : Type} (field : α → Int) (first : α) (rest : List α) :
    rest.foldl (fun peak item => max peak (field item)) (field first) =
      field (maxBy field first rest) := by
  induction rest generalizing first with
  | nil => rfl
  | cons item rest inductionHypothesis =>
      have larger : max (field first) (field item) =
          field (if field first < field item then item else first) := by
        split_ifs <;> omega
      rw [List.foldl_cons, larger, inductionHypothesis]
      rfl

/-- `summarizeRecords` sees the records only as a collection, and its last
one. -/
theorem summarizeRecords_eq_of_perm (file : String) {first first' : SampleRecord}
    {rest rest' : List SampleRecord} (reordered : (first' :: rest').Perm (first :: rest))
    (sameLast : rest'.getLastD first' = rest.getLastD first) :
    summarizeRecords file first' rest' = summarizeRecords file first rest := by
  simp only [summarizeRecords, sameLast, foldl_max_eq_maxBy,
    key_maxBy_eq_of_perm SampleRecord.heapAlloc reordered,
    key_maxBy_eq_of_perm SampleRecord.rss reordered]

/-! ## Well-formed samples -/

/-- A sample record of the spec's data model: seven non-negative counters. -/
structure RawSample where
  heapAlloc : Nat
  rss : Nat
  messageBytes : Nat
  messageCount : Nat
  batchCount : Nat
  numGc : Nat
  pauseTotalNs : Nat

/-- The object `json.load` produces for a sample. -/
def RawSample.toJson (sample : RawSample) : Json :=
  .obj [("heap_alloc", .int sample.heapAlloc), ("rss", .int sample.rss),
    ("message_bytes", .int sample.messageBytes), ("message_count", .int sample.messageCount),
    ("batch_count", .int sample.batchCount), ("num_gc", .int sample.numGc),
    ("pause_total_ns", .int sample.pauseTotalNs)]

/-- A sample's object carries its seven counters. -/
def RawSample.toRecord (sample : RawSample) : SampleRecord where
  json := sample.toJson
  heapAlloc := sample.heapAlloc
  rss := sample.rss
  messageBytes := sample.messageBytes
  messageCount := sample.messageCount
  batchCount := sample.batchCount
  numGc := sample.numGc
  pauseTotalNs := sample.pauseTotalNs
  heapAlloc_read := rfl
  rss_read := rfl
  messageBytes_read := rfl
  messageCount_read := rfl
  batchCount_read := rfl
  numGc_read := rfl
  pauseTotalNs_read := rfl

/-- What `analyze_file` computes on the samples `first :: rest`. -/
def summarize (file : String) (first : RawSample) (rest : List RawSample) : AnalyzeResult :=
  summarizeRecords file first.toRecord (rest.map RawSample.toRecord)

/-- `summarize` on a possibly empty list: an empty list gives no result. -/
def summarizeSamples (file : String) : List RawSample → Option AnalyzeResult
  | [] => none
  | first :: rest => some (summarize file first rest)

/-- `analyze_file` on well-formed samples is `summarize`. -/
theorem analyzeFile_samples (file : String) (samples : List RawSample) :
    analyzeFile file (some (.arr (samples.map RawSample.toJson))) =
      .ok (summarizeSamples file samples) := by
  have summarized := analyzeFile_records file (samples.map RawSample.toRecord)
  rw [List.map_map] at summarized
  cases samples <;> exact summarized

/-- `summarize` sees the samples only as a collection, and its last one. -/
theorem summarize_eq_of_perm (file : String) {first first' : RawSample}
    {rest rest' : List RawSample} (reordered : (first' :: rest').Perm (first :: rest))
    (sameLast : rest'.getLastD first' = rest.getLastD first) :
    summarize file first' rest' = summarize file first rest :=
  summarizeRecords_eq_of_perm file (reordered.map RawSample.toRecord)
    (by rw [List.getLastD_map, List.getLastD_map, sameLast])

/-- On well-formed samples, `analyze_file` does not depend on the order of the
samples before the last: the peaks are maxima over all of them, and every
other field is read from `stats[-1]`. -/
theorem analyzeFile_sample_order (file : String) (last : RawSample)
    {earlier earlier' : List RawSample} (reordered : earlier'.Perm earlier) :
    analyzeFile file (some (.arr ((earlier' ++ [last]).map RawSample.toJson))) =
      analyzeFile file (some (.arr ((earlier ++ [last]).map RawSample.toJson))) := by
  rw [analyzeFile_samples, analyzeFile_samples]
  rcases earlier with _ | ⟨first, earlier⟩ <;> rcases earlier' with _ | ⟨first', earlier'⟩
  · rfl
  · exact absurd reordered.length_eq (by simp)
  · exact absurd reordered.length_eq (by simp)
  · have joined : (first' :: (earlier' ++ [last])).Perm (first :: (earlier ++ [last])) :=
      reordered.append_right [last]
    rw [List.cons_append, List.cons_append, summarizeSamples, summarizeSamples,
      summarize_eq_of_perm file joined (by rw [List.getLastD_concat, List.getLastD_concat])]

/-- Two samples before the last, in either order. -/
theorem analyzeFile_samples_swapped :
    [⟨1024, 4096, 512, 1, 1, 0, 0⟩, ⟨2048, 8192, 768, 2, 1, 1, 400⟩].Perm
        [⟨2048, 8192, 768, 2, 1, 1, 400⟩, (⟨1024, 4096, 512, 1, 1, 0, 0⟩ : RawSample)] ∧
      analyzeFile "stats_busy.json" (some (.arr (([⟨1024, 4096, 512, 1, 1, 0, 0⟩,
          ⟨2048, 8192, 768, 2, 1, 1, 400⟩] ++ [⟨1536, 8192, 1024, 3, 2, 1, 900⟩] :
          List RawSample).map RawSample.toJson))) =
        analyzeFile "stats_busy.json" (some (.arr (([⟨2048, 8192, 768, 2, 1, 1, 400⟩,
          ⟨1024, 4096, 512, 1, 1, 0, 0⟩] ++ [⟨1536, 8192, 1024, 3, 2, 1, 900⟩] :
          List RawSample).map RawSample.toJson))) :=
  have reordered := List.Perm.swap (⟨2048, 8192, 768, 2, 1, 1, 400⟩ : RawSample)
    ⟨1024, 4096, 512, 1, 1, 0, 0⟩ []
  ⟨reordered, analyzeFile_sample_order "stats_busy.json" ⟨1536, 8192, 1024, 3, 2, 1, 900⟩ reordered⟩

/-! ## Malformed records -/

/-- `max(s[key] for s in stats)` raises as soon as one record has no `key`. -/
theorem maxOf_error_of_mem {key : String} {first record : Json} {rest : List Json}
    {missing : PyError} (member : record ∈ first :: rest) (absent : record.getItem key = .error missing) :
    ∃ error, maxOf key first rest = .error error := by
  unfold maxOf
  rcases List.mem_cons.mp member with rfl | later
  · exact ⟨missing, by rw [absent]; rfl⟩
  · cases started : first.getItem key with
    | error error => exact ⟨error, rfl⟩
    | ok start =>
        exact foldlM_error_of_mem later (fun _ => ⟨missing, by simp [maxStep, absent]⟩) start

/-- The fields of the final record `analyze_file` reads beyond the peaks. -/
def finalKeys : List String :=
  ["message_bytes", "message_count", "batch_count", "heap_alloc", "rss", "num_gc",
    "pause_total_ns"]

/-- A result that is not a success is an exception. -/
private theorem error_of_not_ok {result : Except PyError (Option AnalyzeResult)}
    (notOk : ∀ value, result ≠ .ok value) : ∃ error, result = .error error := by
  cases result with
  | error error => exact ⟨error, rfl⟩
  | ok value => exact absurd rfl (notOk value)

/-- What a successful `analyze_file` on a non-empty list has read: both peaks,
and every field of `finalKeys` on the final record. -/
theorem analyzeFile_ok_reads {file : String} {first : Json} {rest : List Json}
    {result : Option AnalyzeResult}
    (analyzed : analyzeFile file (some (.arr (first :: rest))) = .ok result) :
    (∃ peak, maxOf "heap_alloc" first rest = .ok peak) ∧
      (∃ peak, maxOf "rss" first rest = .ok peak) ∧
      ∀ key ∈ finalKeys, ∃ value, (rest.getLastD first).getItem key = .ok value := by
  simp only [analyzeFile_arr_cons, analyzeRecords, except_pure, except_bind_eq_ok] at analyzed
  obtain ⟨_, heap, _, rss, _, messageBytes, _, messageCount, _, batchCount, _, _, _, _, _,
    finalHeap, _, finalRss, _, numGc, _, pauseTotalNs, _⟩ := analyzed
  refine ⟨⟨_, heap⟩, ⟨_, rss⟩, ?_⟩
  simp only [finalKeys, List.mem_cons, List.mem_singleton, List.not_mem_nil, or_false]
  rintro key (rfl | rfl | rfl | rfl | rfl | rfl | rfl) <;> exact ⟨_, ‹_›⟩

/-- `analyze_file` raises on a list with a record that has no `heap_alloc`
or no `rss`, wherever the record stands. -/
theorem analyzeFile_error_of_missing_peak {file : String} {records : List Json} {record : Json}
    (member : record ∈ records)
    (absent : (∃ error, record.getItem "heap_alloc" = .error error) ∨
      ∃ error, record.getItem "rss" = .error error) :
    ∃ error, analyzeFile file (some (.arr records)) = .error error := by
  cases records with
  | nil => cases member
  | cons first rest =>
      apply error_of_not_ok
      intro value analyzed
      obtain ⟨⟨_, heap⟩, ⟨_, rss⟩, -⟩ := analyzeFile_ok_reads analyzed
      rcases absent with ⟨_, absent⟩ | ⟨_, absent⟩ <;>
        obtain ⟨_, raised⟩ := maxOf_error_of_mem member absent <;> simp [heap, rss] at raised

/-- `analyze_file` raises when the final record lacks a field it reads. -/
theorem analyzeFile_error_of_missing_final {file : String} {first : Json} {rest : List Json}
    {key : String} (read : key ∈ finalKeys) {missing : PyError}
    (absent : (rest.getLastD first).getItem key = .error missing) :
    ∃ error, analyzeFile file (some (.arr (first :: rest))) = .error error := by
  apply error_of_not_ok
  intro value analyzed
  obtain ⟨-, -, reads⟩ := analyzeFile_ok_reads analyzed
  obtain ⟨_, present⟩ := reads key read
  rw [absent] at present
  cases present

end PulsarMemory.Results
