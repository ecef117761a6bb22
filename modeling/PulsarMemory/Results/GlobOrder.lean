import PulsarMemory.Results.Main

/-!
# The order of the glob

`main` analyses the files in the order `results_dir.glob('stats_*.json')`
lists them, which is the directory's order and fixed by nothing. Nothing
printed depends on it but the order of the error lines and, among runs of
equal `heap_ratio`, which one is named best or worst:

- the table is sorted by file name, and names in one directory are distinct,
  so it is the same table for every order;
- the best and worst ratios and the improvement factor are a minimum, a
  maximum and their quotient, so they are the same, and so is whether the
  division raises.
-/

namespace PulsarMemory.Results

open PulsarMemory.Python

/-- A result `analyze_file` returns carries the name of the file it read. -/
theorem analyzeRecords_file {file : String} {first : Json} {rest : List Json}
    {result : AnalyzeResult} (analyzed : analyzeRecords file first rest = .ok (some result)) :
    result.file = file := by
  simp only [analyzeRecords, except_pure, except_bind_eq_ok] at analyzed
  repeat obtain ⟨_, _, analyzed⟩ := analyzed
  rfl

/-- So does every result of `analyze_file`. -/
theorem analyzeFile_file {file : String} {stats : Option Json} {result : AnalyzeResult}
    (analyzed : analyzeFile file stats = .ok (some result)) : result.file = file := by
  cases stats with
  | none => cases analyzed
  | some stats =>
      by_cases truthy : stats.truthy = true
      · cases iterated : stats.iter with
        | error error => simp [analyzeFile, truthy, iterated] at analyzed
        | ok items =>
            cases items with
            | nil => simp [analyzeFile, truthy, iterated] at analyzed
            | cons first rest =>
                simp only [analyzeFile, truthy, iterated, except_pure, except_ok_bind, Bool.not_true,
                  if_false] at analyzed
                exact analyzeRecords_file analyzed
      · simp [analyzeFile, truthy] at analyzed

/-- So does every result `main`'s loop keeps. -/
theorem keptResult_file {statFile : String × Option Json} {result : AnalyzeResult}
    (kept : keptResult statFile = some result) : result.file = statFile.1 := by
  unfold keptResult at kept
  split at kept
  next analyzed => exact analyzeFile_file (kept ▸ analyzed)
  next => cases kept

/-- Files of distinct names give results of distinct names. -/
theorem kept_files_nodup {statFiles : List (String × Option Json)}
    (distinct : (statFiles.map Prod.fst).Nodup) :
    ((statFiles.filterMap keptResult).map AnalyzeResult.file).Nodup := by
  induction statFiles with
  | nil => simp
  | cons statFile statFiles inductionHypothesis =>
      rw [List.map_cons, List.nodup_cons] at distinct
      rw [List.filterMap_cons]
      cases kept : keptResult statFile with
      | none => exact inductionHypothesis distinct.2
      | some result =>
          rw [List.map_cons, List.nodup_cons, keptResult_file kept]
          refine ⟨fun member => distinct.1 ?_, inductionHypothesis distinct.2⟩
          obtain ⟨later, laterMember, sameName⟩ := List.mem_map.mp member
          obtain ⟨laterFile, laterListed, laterKept⟩ := List.mem_filterMap.mp laterMember
          rw [← sameName, keptResult_file laterKept]
          exact List.mem_map_of_mem _ laterListed

/-- With distinct file names, the table does not depend on the order of the
results: sorting by name leaves no choice. -/
theorem sortByFile_eq_of_perm {results results' : List AnalyzeResult}
    (reordered : results'.Perm results) (distinct : (results.map AnalyzeResult.file).Nodup) :
    sortByFile results' = sortByFile results := by
  have strictly : ∀ {some : List AnalyzeResult}, some.Perm results →
      (sortByFile some).Sorted fun left right => pyStrLt left.file right.file = true := by
    intro some permuted
    obtain ⟨sorted, sortedPerm⟩ := sortByFile_sorted some
    have names : ((sortByFile some).map AnalyzeResult.file).Nodup :=
      ((sortedPerm.trans permuted).map AnalyzeResult.file).nodup_iff.mpr distinct
    rw [List.Nodup, List.pairwise_map] at names
    exact (sorted.and names).imp fun ⟨notAbove, different⟩ => pyStrLt_of_ne notAbove different
  haveI : IsAntisymm AnalyzeResult fun left right => pyStrLt left.file right.file = true :=
    ⟨fun _ _ below above => absurd above (by rw [pyStrLt_asymm below]; decide)⟩
  exact List.eq_of_perm_of_sorted
    (((sortByFile_sorted results').2.trans reordered).trans (sortByFile_sorted results).2.symm)
    (strictly reordered) (strictly (List.Perm.refl results))

/-- What the ranking prints beside the two names: the best and worst
`heap_ratio` and the improvement factor. -/
def Ranking.figures (ranking : Ranking) : ℚ × ℚ × ℚ :=
  (ranking.best.heapRatio, ranking.worst.heapRatio, ranking.improvement)

/-- The ranking's figures, and whether its division raises, do not depend on
the order of the results. -/
theorem rankHeap_figures_of_perm {results results' : List AnalyzeResult}
    (reordered : results'.Perm results) :
    (rankHeap results').map (Option.map Ranking.figures) =
      (rankHeap results).map (Option.map Ranking.figures) := by
  rcases results with _ | ⟨first, _ | ⟨second, rest⟩⟩
  · rw [List.perm_nil.mp reordered]
  · rw [List.perm_singleton.mp reordered]
  · rcases results' with _ | ⟨first', _ | ⟨second', rest'⟩⟩
    · exact absurd reordered.length_eq (by simp)
    · exact absurd reordered.length_eq (by simp)
    · have best := key_minBy_eq_of_perm AnalyzeResult.heapRatio reordered
      have worst := key_maxBy_eq_of_perm AnalyzeResult.heapRatio reordered
      simp only [rankHeap, best, worst]
      cases pyDiv (maxBy AnalyzeResult.heapRatio first (second :: rest)).heapRatio
        (minBy AnalyzeResult.heapRatio first (second :: rest)).heapRatio <;>
        simp [Except.map, Ranking.figures, best, worst]

private theorem isEmpty_eq_of_perm {α : Type} {items items' : List α} (reordered : items'.Perm items) :
    items'.isEmpty = items.isEmpty := by
  cases items <;> cases items' <;> simp_all [reordered.length_eq]

/-- What `main` prints beside its error lines, from the rows and the ranking
it computes. -/
private theorem report_figures (errors : List (String × PyError))
    (rows : Except PyError (List ReportRow)) (ranking : Except PyError (Option Ranking)) :
    (do
        let rows ← rows.mapError MainExit.raised
        let ranking ← ranking.mapError MainExit.raised
        return (⟨errors, rows, ranking⟩ : AnalysisReport)).map
      (fun report : AnalysisReport => (report.rows, report.ranking.map Ranking.figures)) =
    (do
        let rows ← rows
        let figures ← ranking.map (Option.map Ranking.figures)
        return (rows, figures)).mapError MainExit.raised := by
  cases rows <;> cases ranking <;> rfl

/-- Whatever order the glob lists the files of one directory in, `main` ends
the same way: with the same exit message, the same exception, or the same
table and ranking figures, its error lines a reordering of each other. -/
theorem main_glob_order (resultsDirExists : Bool) {statFiles statFiles' : List (String × Option Json)}
    (reordered : statFiles'.Perm statFiles) (distinct : (statFiles.map Prod.fst).Nodup) :
    (main resultsDirExists statFiles').map
        (fun report => (report.rows, report.ranking.map Ranking.figures)) =
      (main resultsDirExists statFiles).map
        (fun report => (report.rows, report.ranking.map Ranking.figures)) ∧
    ∀ report report', main resultsDirExists statFiles = .ok report →
      main resultsDirExists statFiles' = .ok report' → report'.errors.Perm report.errors := by
  have keptPerm := reordered.filterMap keptResult
  have table := sortByFile_eq_of_perm keptPerm (kept_files_nodup distinct)
  have figures := rankHeap_figures_of_perm keptPerm
  refine ⟨?_, fun report report' completed completed' => ?_⟩
  · rw [main_eq, main_eq, isEmpty_eq_of_perm reordered, isEmpty_eq_of_perm keptPerm, table]
    split_ifs
    all_goals try rfl
    rw [report_figures, report_figures, figures]
  · rw [main_errors_of_ok completed, main_errors_of_ok completed']
    exact reordered.filterMap raisedError

/-- Two runs, listed in either order. -/
theorem main_glob_order_two_runs :
    ∃ statFiles statFiles' : List (String × Option Json),
      statFiles'.Perm statFiles ∧ (statFiles.map Prod.fst).Nodup ∧ statFiles' ≠ statFiles ∧
      (main true statFiles').map (fun report => (report.rows, report.ranking.map Ranking.figures)) =
        (main true statFiles).map (fun report => (report.rows, report.ranking.map Ranking.figures)) ∧
      ∀ report report', main true statFiles = .ok report →
        main true statFiles' = .ok report' → report'.errors.Perm report.errors :=
  let busy := ("stats_busy.json", some (Json.arr [RawSample.toJson ⟨2048, 4096, 1024, 1, 1, 2, 1000⟩]))
  let idle := ("stats_idle.json", some (Json.arr [RawSample.toJson ⟨4096, 8192, 2048, 2, 1, 1, 500⟩]))
  have reordered : [idle, busy].Perm [busy, idle] := List.Perm.swap busy idle []
  have distinct : ([busy, idle].map Prod.fst).Nodup := by decide
  ⟨[busy, idle], [idle, busy], reordered, distinct,
    fun same => absurd (congrArg (List.map Prod.fst) same) (by decide),
    main_glob_order true reordered distinct⟩

end PulsarMemory.Results
