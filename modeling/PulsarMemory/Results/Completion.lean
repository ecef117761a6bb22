import PulsarMemory.Results.Main

/-!
# `main` on runs that processed data

The improvement factor is the one division of `main` without a guard: it
raises when the best `heap_ratio` is `0`, which is the ratio of every run
with no data processed or a heap that stayed empty. On runs of well-formed
samples that did process data, every ratio is positive, every row formats,
and `main` completes. The counters are taken within `InFloatRange`: past it
the script's `format_bytes` and ratios raise `OverflowError` or underflow to
`0.0`, which the exact model does not show.
-/

namespace PulsarMemory.Results

open PulsarMemory.Python

/-- The stat files of runs whose records are all well-formed samples, each
file named as its run. -/
def sampleFiles (runs : List (String × List RawSample)) : List (String × Option Json) :=
  runs.map fun run => (run.1, some (.arr (run.2.map RawSample.toJson)))

/-- `main` keeps the summary of a file of samples. -/
theorem keptResult_samples (file : String) (samples : List RawSample) :
    keptResult (file, some (.arr (samples.map RawSample.toJson))) = summarizeSamples file samples := by
  simp [keptResult, analyzeFile_samples]

/-- A file of samples raises nothing. -/
theorem raisedError_samples (file : String) (samples : List RawSample) :
    raisedError (file, some (.arr (samples.map RawSample.toJson))) = none := by
  simp [raisedError, analyzeFile_samples]

/-- The row of a summary is always printed: its copied fields are integers. -/
theorem reportRow_summarize (file : String) (first : RawSample) (rest : List RawSample) :
    ∃ row, reportRow (summarize file first rest) = .ok row := by
  simp [reportRow, summarize, summarizeRecords, formatField, formatBytesField, Json.number?]

/-- A run with a non-empty heap at some sample and data processed by its
last sample has a positive `heap_ratio`. -/
theorem heapRatio_pos {file : String} {first : RawSample} {rest : List RawSample}
    (heap : ∃ sample ∈ first :: rest, 0 < sample.heapAlloc)
    (processed : 0 < (rest.getLastD first).messageBytes) :
    0 < (summarize file first rest).heapRatio := by
  obtain ⟨sample, member, positive⟩ := heap
  have peak : (sample.heapAlloc : Int) ≤
      (maxBy SampleRecord.heapAlloc first.toRecord (rest.map RawSample.toRecord)).heapAlloc :=
    le_maxBy SampleRecord.heapAlloc (List.mem_map_of_mem RawSample.toRecord member)
  have bytes : (0 : Int) < ((rest.map RawSample.toRecord).getLastD first.toRecord).messageBytes := by
    rw [List.getLastD_map]
    exact Int.natCast_pos.mpr processed
  simp only [summarize, summarizeRecords, ratioOf, foldl_max_eq_maxBy, if_pos bytes]
  apply div_pos <;> exact_mod_cast (by omega)

/-- With every `heap_ratio` positive the ranking is computed: for two results
or more, with an improvement factor of at least 1. -/
theorem rankHeap_of_pos {results : List AnalyzeResult}
    (positive : ∀ result ∈ results, 0 < result.heapRatio) :
    ∃ ranking?, rankHeap results = .ok ranking? ∧ (ranking?.isSome ↔ 2 ≤ results.length) ∧
      ∀ ranking, ranking? = some ranking → 1 ≤ ranking.improvement := by
  rcases results with _ | ⟨first, _ | ⟨second, rest⟩⟩
  · exact ⟨none, rfl, by simp, fun _ => nofun⟩
  · exact ⟨none, rfl, by simp, fun _ => nofun⟩
  · have best := positive _ (minBy_mem AnalyzeResult.heapRatio first (second :: rest))
    have ordered := minBy_le AnalyzeResult.heapRatio (maxBy_mem AnalyzeResult.heapRatio first (second :: rest))
    refine ⟨some ⟨minBy AnalyzeResult.heapRatio first (second :: rest),
      maxBy AnalyzeResult.heapRatio first (second :: rest),
      (maxBy AnalyzeResult.heapRatio first (second :: rest)).heapRatio /
        (minBy AnalyzeResult.heapRatio first (second :: rest)).heapRatio⟩,
      by simp [rankHeap, pyDiv_of_ne_zero best.ne'], by simp, fun ranking chosen => ?_⟩
    rw [← Option.some.inj chosen]
    exact (le_div_iff₀ best).mpr (by rwa [one_mul])

/-- On runs of well-formed samples within float range that processed data,
with a heap that was not empty at some sample, `main` completes: it prints no error line, one row
per run, a ranking exactly when there are two runs or more, and an
improvement factor of at least 1. -/
theorem main_completes_on_processed_runs (runs : List (String × List RawSample)) (nonempty : runs ≠ [])
    (inRange : ∀ run ∈ runs, ∀ sample ∈ run.2, ∀ counter ∈ sample.toRecord.counters,
      InFloatRange counter)
    (processed : ∀ run ∈ runs, ∃ first rest, run.2 = first :: rest ∧
      (∃ sample ∈ first :: rest, 0 < sample.heapAlloc) ∧ 0 < (rest.getLastD first).messageBytes) :
    ∃ report, main true (sampleFiles runs) = .ok report ∧ report.errors = [] ∧
      report.rows.length = runs.length ∧ (report.ranking.isSome ↔ 2 ≤ runs.length) ∧
      ∀ ranking, report.ranking = some ranking → 1 ≤ ranking.improvement := by
  have kept : (sampleFiles runs).filterMap keptResult =
      runs.filterMap fun run => summarizeSamples run.1 run.2 := by
    simp only [sampleFiles, List.filterMap_map, Function.comp_def, keptResult_samples]
  have noErrors : (sampleFiles runs).filterMap raisedError = [] := by
    simp [sampleFiles, List.filterMap_map, Function.comp_def, raisedError_samples]
  have summarized : ∀ result ∈ runs.filterMap fun run => summarizeSamples run.1 run.2,
      ∃ file first rest, result = summarize file first rest ∧ 0 < result.heapRatio := by
    intro result member
    obtain ⟨run, listed, summarizedRun⟩ := List.mem_filterMap.mp member
    obtain ⟨first, rest, samples, heap, bytes⟩ := processed run listed
    rw [samples] at summarizedRun
    cases summarizedRun
    exact ⟨_, _, _, rfl, heapRatio_pos heap bytes⟩
  have count : (runs.filterMap fun run => summarizeSamples run.1 run.2).length = runs.length := by
    refine List.filterMap_length_eq_length.mpr fun run listed => ?_
    obtain ⟨first, rest, samples, -⟩ := processed run listed
    simp [samples, summarizeSamples]
  have formattable : ∀ result ∈ sortByFile (runs.filterMap fun run => summarizeSamples run.1 run.2),
      ∃ row, reportRow result = .ok row := fun result member => by
    obtain ⟨file, first, rest, rfl, -⟩ := summarized result ((sortByFile_sorted _).2.mem_iff.mp member)
    exact reportRow_summarize file first rest
  obtain ⟨rows, formatted, rowsLength⟩ := mapM_ok formattable
  obtain ⟨ranking, ranked, isSome, atLeastOne⟩ :=
    rankHeap_of_pos fun result member => by
      obtain ⟨_, _, _, -, positive⟩ := summarized result member
      exact positive
  have filesNonempty : (sampleFiles runs).isEmpty = false := by
    cases runs with
    | nil => exact absurd rfl nonempty
    | cons => rfl
  have resultsNonempty : (runs.filterMap fun run => summarizeSamples run.1 run.2).isEmpty = false := by
    cases results : runs.filterMap fun run => summarizeSamples run.1 run.2
    · rw [results, List.length_nil] at count
      exact absurd (List.length_eq_zero.mp count.symm) nonempty
    · rfl
  refine ⟨⟨[], rows, ranking⟩, ?_, rfl, ?_, by rw [isSome, count], atLeastOne⟩
  · rw [main_eq, kept, noErrors, formatted, ranked]
    simp [filesNonempty, resultsNonempty, Except.mapError]
  · rw [rowsLength, (sortByFile_sorted _).2.length_eq, count]

unseal Rat.add Rat.mul Rat.inv in
/-- Two runs that processed data. -/
theorem main_completes_two_runs :
    ∃ runs : List (String × List RawSample), runs ≠ [] ∧
      (∀ run ∈ runs, ∀ sample ∈ run.2, ∀ counter ∈ sample.toRecord.counters,
        InFloatRange counter) ∧
      (∀ run ∈ runs, ∃ first rest, run.2 = first :: rest ∧
        (∃ sample ∈ first :: rest, 0 < sample.heapAlloc) ∧ 0 < (rest.getLastD first).messageBytes) ∧
      ∃ report, main true (sampleFiles runs) = .ok report ∧ report.errors = [] ∧
        report.rows.length = runs.length ∧ (report.ranking.isSome ↔ 2 ≤ runs.length) ∧
        ∀ ranking, report.ranking = some ranking → 1 ≤ ranking.improvement :=
  let runs : List (String × List RawSample) :=
    [("stats_busy.json", [⟨2048, 4096, 1024, 1, 1, 2, 1000⟩]),
      ("stats_idle.json", [⟨4096, 8192, 2048, 2, 1, 1, 500⟩])]
  have nonempty : runs ≠ [] := List.cons_ne_nil _ _
  have inRange : ∀ run ∈ runs, ∀ sample ∈ run.2, ∀ counter ∈ sample.toRecord.counters,
      InFloatRange counter := by
    decide
  have processed : ∀ run ∈ runs, ∃ first rest, run.2 = first :: rest ∧
      (∃ sample ∈ first :: rest, 0 < sample.heapAlloc) ∧
        0 < (rest.getLastD first).messageBytes := by
    intro run listed
    simp only [runs, List.mem_cons, List.mem_singleton, List.not_mem_nil, or_false] at listed
    rcases listed with rfl | rfl <;>
      exact ⟨_, [], rfl, ⟨_, List.mem_cons_self _ _, by decide⟩, by decide⟩
  ⟨runs, nonempty, inRange, processed,
    main_completes_on_processed_runs runs nonempty inRange processed⟩

end PulsarMemory.Results
