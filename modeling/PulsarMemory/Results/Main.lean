import PulsarMemory.Results.AnalyzeFile
import PulsarMemory.Results.FormatBytes
import Mathlib.Data.List.Sort

/-!
# `main` of `analyze_results.py`

`main` globs the `stats_*.json` files of the results directory, runs
`analyze_file` on each inside a `try`, and prints one table row per result,
sorted by file name. With two results or more it then names the run of least
and of greatest `heap_ratio` and prints their quotient as the "potential
improvement". The quotient is not guarded: when the best ratio is `0`, which
`analyze_file` returns for every run with `message_bytes = 0`, the division
raises `ZeroDivisionError` and `main` ends there.

The glob is the caller's: `statFiles` lists the files it found, in its
order, each with what `json.load` makes of it. The table's padding and the
fixed closing text are layout and left out.
-/

namespace PulsarMemory.Results

open PulsarMemory.Python

/-! ## The per-file loop -/

/-- What the `for f in stat_files` loop has gathered: the exceptions it
printed as `Error analyzing f: e`, and `results`. -/
structure Collected where
  errors : List (String × PyError)
  results : List AnalyzeResult

/-- One iteration: a truthy result is appended, an exception is printed and
the loop goes on. -/
def collectStep (collected : Collected) (statFile : String × Option Json) : Collected :=
  match analyzeFile statFile.1 statFile.2 with
  | .ok (some result) => { collected with results := collected.results ++ [result] }
  | .ok none => collected
  | .error error => { collected with errors := collected.errors ++ [(statFile.1, error)] }

/-- The loop over all stat files, from `results = []`. -/
def collectResults (statFiles : List (String × Option Json)) : Collected :=
  statFiles.foldl collectStep ⟨[], []⟩

/-- The result one file contributes: its `analyze_file` result when there
is one and no exception. -/
def keptResult (statFile : String × Option Json) : Option AnalyzeResult :=
  match analyzeFile statFile.1 statFile.2 with
  | .ok result => result
  | .error _ => none

/-- The exception one file contributes, if any. -/
def raisedError (statFile : String × Option Json) : Option (String × PyError) :=
  match analyzeFile statFile.1 statFile.2 with
  | .ok _ => none
  | .error error => some (statFile.1, error)

/-- One iteration appends what the file contributes to each list. -/
theorem collectStep_eq (collected : Collected) (statFile : String × Option Json) :
    collectStep collected statFile =
      ⟨collected.errors ++ (raisedError statFile).toList,
        collected.results ++ (keptResult statFile).toList⟩ := by
  unfold collectStep keptResult raisedError
  split <;> simp_all

/-- The run lemma of the loop: every file is decided alone, in glob order. -/
theorem foldl_collectStep (statFiles : List (String × Option Json)) (collected : Collected) :
    statFiles.foldl collectStep collected =
      ⟨collected.errors ++ statFiles.filterMap raisedError,
        collected.results ++ statFiles.filterMap keptResult⟩ := by
  induction statFiles generalizing collected with
  | nil => simp
  | cons statFile statFiles inductionHypothesis =>
      rw [List.foldl_cons, inductionHypothesis, collectStep_eq, List.filterMap_cons,
        List.filterMap_cons]
      cases raisedError statFile <;> cases keptResult statFile <;> simp

/-- `main`'s loop keeps the result or the exception of each file, in glob
order. -/
theorem collectResults_eq (statFiles : List (String × Option Json)) :
    collectResults statFiles =
      ⟨statFiles.filterMap raisedError, statFiles.filterMap keptResult⟩ := by
  simpa using foldl_collectStep statFiles ⟨[], []⟩

/-! ## The table -/

/-- `f"{value:<12}"` on a copied field: an `int` in decimal (a `bool` as `1`
or `0`), a `str` as itself; `None`, a list or a dict raise `TypeError`. -/
def formatField : Json → Except PyError String
  | .int value => .ok (toString value)
  | .bool value => .ok (if value then "1" else "0")
  | .str value => .ok value
  | _ => .error .typeError

/-- `format_bytes(value)` on a copied field: `value < 1024` raises
`TypeError` unless the value is a number. -/
def formatBytesField (value : Json) : Except PyError String :=
  match value.number? with
  | some bytesVal => .ok (formatBytes bytesVal)
  | none => .error .typeError

/-- `file.replace('stats_', '').replace('.json', '')`. -/
def scenarioName (file : String) : String :=
  (file.replace "stats_" "").replace ".json" ""

/-- The cells of one table row. -/
structure ReportRow where
  scenario : String
  messages : String
  data : String
  peakHeap : String
  peakRss : String
  heapRatio : String
  rssRatio : String

/-- The row printed for one result, its cells formatted left to right. -/
def reportRow (result : AnalyzeResult) : Except PyError ReportRow := do
  let messages ← formatField result.messageCount
  let data ← formatBytesField result.messageBytes
  let peakHeap ← formatBytesField result.maxHeap
  let peakRss ← formatBytesField result.maxRss
  return {
    scenario := scenarioName result.file, messages := messages, data := data
    peakHeap := peakHeap, peakRss := peakRss
    heapRatio := formatFixed 2 result.heapRatio ++ "x"
    rssRatio := formatFixed 2 result.rssRatio ++ "x" }

/-- `sorted(results, key=lambda x: x['file'])`: a stable sort by file name. -/
def sortByFile (results : List AnalyzeResult) : List AnalyzeResult :=
  results.insertionSort fun left right => pyStrLt right.file left.file = false

/-- The table is in file-name order: no row's file name is below an earlier
row's, and every result appears once. -/
theorem sortByFile_sorted (results : List AnalyzeResult) :
    (sortByFile results).Sorted (fun left right => pyStrLt right.file left.file = false) ∧
      (sortByFile results).Perm results := by
  haveI : IsTotal AnalyzeResult (fun left right => pyStrLt right.file left.file = false) :=
    ⟨fun left right => by
      cases ordered : pyStrLt right.file left.file
      · exact .inl rfl
      · exact .inr (pyStrLt_asymm ordered)⟩
  haveI : IsTrans AnalyzeResult (fun left right => pyStrLt right.file left.file = false) :=
    ⟨fun _ _ _ first second => pyStrLt_false_trans first second⟩
  exact ⟨List.sorted_insertionSort _ _, List.perm_insertionSort _ _⟩

/-! ## The ranking -/

/-- The "ANALYSIS SUMMARY": the best and worst run by `heap_ratio` and the
improvement factor printed after them. -/
structure Ranking where
  best : AnalyzeResult
  worst : AnalyzeResult
  improvement : ℚ

/-- `if len(results) > 1:` `min` and `max` by `heap_ratio`, then
`worst['heap_ratio'] / best['heap_ratio']`, with no guard on the divisor. -/
def rankHeap (results : List AnalyzeResult) : Except PyError (Option Ranking) :=
  match results with
  | first :: second :: rest => do
      let best := minBy AnalyzeResult.heapRatio first (second :: rest)
      let worst := maxBy AnalyzeResult.heapRatio first (second :: rest)
      let improvement ← pyDiv worst.heapRatio best.heapRatio
      return some { best := best, worst := worst, improvement := improvement }
  | _ => pure none

/-- What a computed ranking is: none for fewer than two results, and
otherwise the first run of least and of greatest `heap_ratio`, a best ratio
that is not `0`, and their quotient. -/
theorem rankHeap_eq_ok {results : List AnalyzeResult} {ranking? : Option Ranking}
    (ranked : rankHeap results = .ok ranking?) :
    (ranking? = none ↔ results.length < 2) ∧
      ∀ ranking, ranking? = some ranking →
        results.argmin AnalyzeResult.heapRatio = some ranking.best ∧
        results.argmax AnalyzeResult.heapRatio = some ranking.worst ∧
        ranking.best.heapRatio ≠ 0 ∧
        ranking.improvement = ranking.worst.heapRatio / ranking.best.heapRatio := by
  rcases results with _ | ⟨first, _ | ⟨second, rest⟩⟩
  · cases ranked
    exact ⟨by simp, fun _ chosen => Option.noConfusion chosen⟩
  · cases ranked
    exact ⟨by simp, fun _ chosen => Option.noConfusion chosen⟩
  · obtain ⟨improvement, divided, printed⟩ := except_bind_eq_ok.mp ranked
    have nonzero : (minBy AnalyzeResult.heapRatio first (second :: rest)).heapRatio ≠ 0 := by
      intro zero
      rw [zero, pyDiv_zero] at divided
      cases divided
    rw [pyDiv_of_ne_zero nonzero] at divided
    cases divided
    cases printed
    refine ⟨by simp, fun ranking chosen => ?_⟩
    cases chosen
    exact ⟨argmin_eq_minBy _ _ _, argmax_eq_maxBy _ _ _, nonzero, rfl⟩

/-! ## `main` -/

/-- What a completed `main` prints. -/
structure AnalysisReport where
  errors : List (String × PyError)
  rows : List ReportRow
  ranking : Option Ranking

/-- `main()`, given whether the results directory exists and the stat files
the glob found. -/
def main (resultsDirExists : Bool) (statFiles : List (String × Option Json)) :
    Except MainExit AnalysisReport := do
  if !resultsDirExists then throw (.exit "No results directory found")
  if statFiles.isEmpty then throw (.exit "No stat files found")
  let collected := collectResults statFiles
  if collected.results.isEmpty then throw (.exit "No valid results")
  let rows ← ((sortByFile collected.results).mapM reportRow).mapError .raised
  let ranking ← (rankHeap collected.results).mapError .raised
  return { errors := collected.errors, rows := rows, ranking := ranking }

/-- `main` spelled out over the per-file contributions of its loop. -/
theorem main_eq (resultsDirExists : Bool) (statFiles : List (String × Option Json)) :
    main resultsDirExists statFiles =
      if resultsDirExists = false then .error (.exit "No results directory found")
      else if statFiles.isEmpty then .error (.exit "No stat files found")
      else if (statFiles.filterMap keptResult).isEmpty then .error (.exit "No valid results")
      else do
        let rows ← ((sortByFile (statFiles.filterMap keptResult)).mapM reportRow).mapError .raised
        let ranking ← (rankHeap (statFiles.filterMap keptResult)).mapError .raised
        return ⟨statFiles.filterMap raisedError, rows, ranking⟩ := by
  simp only [main, collectResults_eq, except_throw, except_error_bind, except_pure, except_ok_bind,
    Bool.not_eq_true']

/-- A completed `main` prints the exceptions of the files that raised. -/
theorem main_errors_of_ok {resultsDirExists : Bool} {statFiles : List (String × Option Json)}
    {report : AnalysisReport} (completed : main resultsDirExists statFiles = .ok report) :
    report.errors = statFiles.filterMap raisedError := by
  rw [main_eq] at completed
  split_ifs at completed
  obtain ⟨_, -, completed⟩ := except_bind_eq_ok.mp completed
  obtain ⟨_, -, printed⟩ := except_bind_eq_ok.mp completed
  cases printed
  rfl

/-! ## No record is skipped -/

/-- A record without `heap_alloc` does not drop out of the list: it makes
`analyze_file` raise, while the list without it has a result. -/
theorem analyzeFile_keeps_malformed_record :
    analyzeFile "stats_run.json"
        (some (.arr [RawSample.toJson ⟨4096, 8192, 1024, 1, 1, 0, 0⟩, .obj [("rss", .int 8192)]])) =
      .error (.keyError "heap_alloc") ∧
    analyzeFile "stats_run.json" (some (.arr [RawSample.toJson ⟨4096, 8192, 1024, 1, 1, 0, 0⟩])) =
      .ok (some (summarize "stats_run.json" ⟨4096, 8192, 1024, 1, 1, 0, 0⟩ [])) :=
  ⟨rfl, analyzeFile_samples "stats_run.json" [⟨4096, 8192, 1024, 1, 1, 0, 0⟩]⟩

/-- `analyze_file` skips no record. On records that carry the seven counters,
within float range, it returns their summary (`None` for none); a record
anywhere without `heap_alloc` or `rss`, or a final record without a field it
reads, makes it raise; and `main`'s loop keeps exactly the results of the
files that did not raise, in glob order, printing the others' exceptions. -/
theorem analyzeFile_skips_no_record :
    (∀ file (records : List SampleRecord),
      (∀ record ∈ records, ∀ counter ∈ record.counters, InFloatRange counter) →
      analyzeFile file (some (.arr (records.map SampleRecord.json))) =
        .ok (summarizeRecordList file records)) ∧
    (∀ file records record, record ∈ records →
      ((∃ error, record.getItem "heap_alloc" = .error error) ∨
        ∃ error, record.getItem "rss" = .error error) →
      ∃ error, analyzeFile file (some (.arr records)) = .error error) ∧
    (∀ file first rest key missing, key ∈ finalKeys →
      (rest.getLastD first).getItem key = .error missing →
      ∃ error, analyzeFile file (some (.arr (first :: rest))) = .error error) ∧
    (∀ statFile : String × Option Json,
      (∃ error, analyzeFile statFile.1 statFile.2 = .error error) → keptResult statFile = none) ∧
    (∀ statFiles, (collectResults statFiles).results = statFiles.filterMap keptResult ∧
      (collectResults statFiles).errors = statFiles.filterMap raisedError) := by
  refine ⟨fun file records _ => analyzeFile_records file records,
    fun _ _ _ member absent => analyzeFile_error_of_missing_peak member absent,
    fun _ _ _ _ _ read absent => analyzeFile_error_of_missing_final read absent, ?_, ?_⟩
  · rintro statFile ⟨error, raised⟩
    simp [keptResult, raised]
  · intro statFiles
    simp [collectResults_eq]

/-! ## Ranking -/

/-- Python's `min` and `max` by `heap_ratio` are Mathlib's `argmin` and
`argmax`, the first run of least and of greatest ratio; the factor is
computed exactly when the best ratio is not `0`, and is then at least 1 for a
positive best ratio. -/
theorem rankHeap_spec (first second : AnalyzeResult) (rest : List AnalyzeResult) :
    ∃ best worst,
      (first :: second :: rest).argmin AnalyzeResult.heapRatio = some best ∧
      (first :: second :: rest).argmax AnalyzeResult.heapRatio = some worst ∧
      rankHeap (first :: second :: rest) =
        (if best.heapRatio = 0 then .error .zeroDivisionError
          else .ok (some ⟨best, worst, worst.heapRatio / best.heapRatio⟩)) ∧
      (0 < best.heapRatio → 1 ≤ worst.heapRatio / best.heapRatio) := by
  have bestMin := argmin_eq_minBy AnalyzeResult.heapRatio first (second :: rest)
  have worstMax := argmax_eq_maxBy AnalyzeResult.heapRatio first (second :: rest)
  refine ⟨_, _, bestMin, worstMax, ?_, fun positive => ?_⟩
  · by_cases zero : (minBy AnalyzeResult.heapRatio first (second :: rest)).heapRatio = 0
    · simp [rankHeap, zero]
    · simp [rankHeap, zero]
  · have ordered := List.le_of_mem_argmax (List.argmin_mem bestMin) worstMax
    rwa [le_div_iff₀ positive, one_mul]

/-! ## A completed run -/

/-- What a completed `main` has printed: the exceptions of the files that
raised, one row per result kept, sorted by file name, and the ranking of the
kept results, present exactly when there are two of them or more. -/
structure CompletedReport (resultsDirExists : Bool) (statFiles : List (String × Option Json))
    (report : AnalysisReport) : Prop where
  dirExists : resultsDirExists = true
  kept_ne_nil : statFiles.filterMap keptResult ≠ []
  errors_eq : report.errors = statFiles.filterMap raisedError
  rows_sorted : ∃ sorted : List AnalyzeResult, sorted.Perm (statFiles.filterMap keptResult) ∧
    sorted.Sorted (fun left right => pyStrLt right.file left.file = false) ∧
    sorted.mapM reportRow = .ok report.rows
  ranking_none : report.ranking = none ↔ (statFiles.filterMap keptResult).length < 2
  ranking_some : ∀ ranking, report.ranking = some ranking →
    (statFiles.filterMap keptResult).argmin AnalyzeResult.heapRatio = some ranking.best ∧
    (statFiles.filterMap keptResult).argmax AnalyzeResult.heapRatio = some ranking.worst ∧
    ranking.best.heapRatio ≠ 0 ∧
    ranking.improvement = ranking.worst.heapRatio / ranking.best.heapRatio

/-- Every completed run of `main` is a `CompletedReport`. -/
theorem main_completed {resultsDirExists : Bool} {statFiles : List (String × Option Json)}
    {report : AnalysisReport} (completed : main resultsDirExists statFiles = .ok report) :
    CompletedReport resultsDirExists statFiles report := by
  simp only [main, except_throw, except_error_bind, except_pure, except_ok_bind,
    Bool.not_eq_true', ite_not] at completed
  split_ifs at completed with dirExists empty noResult
  obtain ⟨rows, formatted, completed⟩ := except_bind_eq_ok.mp completed
  obtain ⟨ranking, ranked, printed⟩ := except_bind_eq_ok.mp completed
  rw [except_mapError_eq_ok] at formatted ranked
  cases printed
  rw [collectResults_eq] at noResult formatted ranked ⊢
  obtain ⟨rankingNone, rankingSome⟩ := rankHeap_eq_ok ranked
  exact {
    dirExists := by simpa using dirExists
    kept_ne_nil := by simpa using noResult
    errors_eq := rfl
    rows_sorted := ⟨_, (sortByFile_sorted _).2, (sortByFile_sorted _).1, formatted⟩
    ranking_none := rankingNone
    ranking_some := rankingSome }

unseal Rat.add Rat.mul Rat.inv in
/-- Three files in glob order: a run, a file whose record has no
`heap_alloc`, and a run whose name sorts first. The exception is printed, the
two rows come in name order, and the ranking names the run of least ratio
best. -/
theorem main_completed_three_files :
    let statFiles : List (String × Option Json) :=
      [("stats_queue-100.json", some (.arr [RawSample.toJson ⟨1024, 4096, 1024, 1, 1, 1, 200⟩])),
        ("stats_broken.json", some (.arr [.obj [("rss", .int 8192)]])),
        ("stats_baseline.json", some (.arr [RawSample.toJson ⟨4096, 8192, 1024, 1, 1, 2, 500⟩]))]
    ∃ report, main true statFiles = .ok report ∧
      report.errors = [("stats_broken.json", .keyError "heap_alloc")] ∧
      report.rows.map ReportRow.heapRatio = ["4.00x", "1.00x"] ∧
      report.ranking.map (fun ranking => (ranking.best.file, ranking.worst.file, ranking.improvement)) =
        some ("stats_queue-100.json", "stats_baseline.json", 4) ∧
      CompletedReport true statFiles report :=
  ⟨_, rfl, rfl, rfl, rfl, main_completed rfl⟩

unseal Rat.add Rat.mul Rat.inv in
/-- With a run that processed no bytes, its ratio `0` is the best and `main`
raises `ZeroDivisionError` at the improvement factor instead of completing. -/
theorem main_raises_on_zero_best_ratio :
    main true [("stats_idle.json", some (.arr [RawSample.toJson ⟨4096, 8192, 0, 0, 0, 1, 500⟩])),
      ("stats_busy.json", some (.arr [RawSample.toJson ⟨2048, 4096, 1024, 1, 1, 2, 1000⟩]))] =
      .error (.raised .zeroDivisionError) := by
  rfl

end PulsarMemory.Results
