import PulsarMemory.Python.Builtins
import Mathlib.Algebra.Order.BigOperators.Group.List
import Mathlib.Algebra.Order.Field.Rat
import Mathlib.Tactic.Linarith

/-!
# External RSS measurement files

An external RSS file has one measurement a line, `timestamp,<unused>,rss_kb`,
after an optional header line. Two functions read it: `analyze_rss` in
`analyze-external-rss.py` and `load_external_rss` in `compare-results.py`.
Their parse loops are the same text, and `readRssValues` is that loop: one
step per line, appending the line's `rss_kb` to `rss_values` or skipping the
line. The two then reduce the list, each into its own dictionary.

The run lemma `readRssValues_eq_filterMap` says the loop keeps, in file order,
the value of every accepted line, each line decided on its own. The
reductions are the minimum, maximum and mean of that list, so they depend on
the list only as a multiset.
-/

namespace PulsarMemory.External

open PulsarMemory.Python

/-! ## The parse loop -/

/-- The body of the `for line in f` loop on one line: the `rss_kb` it appends,
or `none` for each `continue` (an empty line, a line starting with
`timestamp`, fewer than three fields, a third field `int()` rejects). -/
def rssOfLine (line : String) : Option Int :=
  let line := pyStrip line
  if line = "" ∨ pyStartsWith line "timestamp" = true then none
  else
    let parts := pySplit line ','
    if 3 ≤ parts.length then pyInt (parts.getD 2 "") else none

/-- One iteration of the loop: `rss_values` after reading `line`. -/
def rssStep (rssValues : List Int) (line : String) : List Int :=
  match rssOfLine line with
  | some rssKb => rssValues ++ [rssKb]
  | none => rssValues

/-- The parse loop of `analyze_rss` (and, word for word, of
`load_external_rss`) over the lines of the file, from `rss_values = []`. -/
def readRssValues (lines : List String) : List Int :=
  lines.foldl rssStep []

/-- A step appends exactly what the line contributes. -/
theorem rssStep_eq (rssValues : List Int) (line : String) :
    rssStep rssValues line = rssValues ++ (rssOfLine line).toList := by
  unfold rssStep
  cases rssOfLine line <;> simp

/-- The loop from any accumulator appends the contributions of all lines. -/
theorem foldl_rssStep (lines : List String) (rssValues : List Int) :
    lines.foldl rssStep rssValues = rssValues ++ lines.filterMap rssOfLine := by
  induction lines generalizing rssValues with
  | nil => simp
  | cons line lines inductionHypothesis =>
      rw [List.foldl_cons, inductionHypothesis, rssStep_eq, List.filterMap_cons]
      cases rssOfLine line <;> simp

/-- The run lemma: the values read are those of the accepted lines, in file
order, each line's contribution independent of every other line. -/
theorem readRssValues_eq_filterMap (lines : List String) :
    readRssValues lines = lines.filterMap rssOfLine := by
  simpa using foldl_rssStep lines []

/-- What makes a line accepted, in the words of the loop's tests. -/
theorem rssOfLine_eq_some_iff (line : String) (rssKb : Int) :
    rssOfLine line = some rssKb ↔
      pyStrip line ≠ "" ∧ pyStartsWith (pyStrip line) "timestamp" = false ∧
        3 ≤ (pySplit (pyStrip line) ',').length ∧
        pyInt ((pySplit (pyStrip line) ',').getD 2 "") = some rssKb := by
  unfold rssOfLine
  dsimp only
  split_ifs with header
  · rcases header with empty | startsHeader <;> simp_all
  all_goals simp_all

/-! ## The two reductions -/

/-- The dictionary `analyze_rss` returns. -/
structure RssResult where
  sampleCount : Nat
  minRssKb : Int
  maxRssKb : Int
  avgRssKb : ℚ
  minRssMb : ℚ
  maxRssMb : ℚ
  avgRssMb : ℚ
  deriving DecidableEq

/-- `analyze_rss(filename)` on the lines of an existing file: `none` when no
line is accepted. The mean divides by a length that is positive on this
branch. -/
def analyzeRss (lines : List String) : Option RssResult :=
  match readRssValues lines with
  | [] => none
  | first :: rest =>
      let rssValues := first :: rest
      let minRss := minBy id first rest
      let maxRss := maxBy id first rest
      let avgRss : ℚ := rssValues.sum / rssValues.length
      some {
        sampleCount := rssValues.length
        minRssKb := minRss
        maxRssKb := maxRss
        avgRssKb := avgRss
        minRssMb := minRss / 1024
        maxRssMb := maxRss / 1024
        avgRssMb := avgRss / 1024 }

/-- The dictionary `load_external_rss` returns, in MB. -/
structure ExternalRss where
  min : ℚ
  max : ℚ
  avg : ℚ
  deriving DecidableEq

/-- `load_external_rss(filename)`: `file` is the file's lines, `none` when
`os.path.exists` is false. -/
def loadExternalRss (file : Option (List String)) : Option ExternalRss :=
  match file with
  | none => none
  | some lines =>
      match readRssValues lines with
      | [] => none
      | first :: rest =>
          let rssValues := first :: rest
          some {
            min := ((minBy id first rest : Int) : ℚ) / 1024
            max := ((maxBy id first rest : Int) : ℚ) / 1024
            avg := (rssValues.sum : ℚ) / rssValues.length / 1024 }

/-- `analyze_rss` on a non-empty list of values, spelled out. -/
theorem analyzeRss_of_cons {lines : List String} {first : Int} {rest : List Int}
    (values : readRssValues lines = first :: rest) :
    analyzeRss lines = some {
      sampleCount := (first :: rest).length
      minRssKb := minBy id first rest
      maxRssKb := maxBy id first rest
      avgRssKb := ((first :: rest).sum : ℚ) / (first :: rest).length
      minRssMb := ((minBy id first rest : Int) : ℚ) / 1024
      maxRssMb := ((maxBy id first rest : Int) : ℚ) / 1024
      avgRssMb := ((first :: rest).sum : ℚ) / (first :: rest).length / 1024 } := by
  unfold analyzeRss
  rw [values]

/-- `analyze_rss` returns `None` exactly when no line is accepted. -/
theorem analyzeRss_eq_none_iff (lines : List String) :
    analyzeRss lines = none ↔ readRssValues lines = [] := by
  unfold analyzeRss
  split <;> simp_all

/-- `load_external_rss` on a non-empty list of values, spelled out. -/
theorem loadExternalRss_of_cons {lines : List String} {first : Int} {rest : List Int}
    (values : readRssValues lines = first :: rest) :
    loadExternalRss (some lines) = some {
      min := ((minBy id first rest : Int) : ℚ) / 1024
      max := ((maxBy id first rest : Int) : ℚ) / 1024
      avg := ((first :: rest).sum : ℚ) / (first :: rest).length / 1024 } := by
  simp only [loadExternalRss, values]

/-- So does `load_external_rss` on an existing file. -/
theorem loadExternalRss_eq_none_iff (lines : List String) :
    loadExternalRss (some lines) = none ↔ readRssValues lines = [] := by
  simp only [loadExternalRss]
  split <;> simp_all

/-! ## Bounds of the mean -/

/-- The mean of a non-empty list lies between any lower and upper bound of
its items. -/
theorem mean_mem_bounds {values : List Int} (nonempty : values ≠ []) {lower upper : Int}
    (aboveLower : ∀ value ∈ values, lower ≤ value) (belowUpper : ∀ value ∈ values, value ≤ upper) :
    (lower : ℚ) ≤ (values.sum : ℚ) / values.length ∧
      (values.sum : ℚ) / values.length ≤ upper := by
  have lengthPositive : (0 : ℚ) < values.length := by
    exact_mod_cast List.length_pos.mpr nonempty
  have sumAbove : values.length • lower ≤ values.sum := List.card_nsmul_le_sum _ _ aboveLower
  have sumBelow : values.sum ≤ values.length • upper := List.sum_le_card_nsmul _ _ belowUpper
  rw [nsmul_eq_mul] at sumAbove sumBelow
  constructor
  · rw [le_div_iff₀ lengthPositive]
    exact_mod_cast (by linarith : lower * (values.length : Int) ≤ values.sum)
  · rw [div_le_iff₀ lengthPositive]
    exact_mod_cast (by linarith : values.sum ≤ upper * (values.length : Int))

/-! ## What the loop accepts -/

/-- A line whose first field only begins with `timestamp` is skipped like the
header, though its first field is not `timestamp` and its third field is an
integer. -/
theorem readRssValues_skips_timestamp_prefix :
    (pySplit "timestamps,x,5" ',').headD "" ≠ "timestamp" ∧
      pyInt ((pySplit "timestamps,x,5" ',').getD 2 "") = some 5 ∧
      readRssValues ["timestamps,x,5"] = [] := by
  decide

/-- The values both functions reduce are, in file order, the third fields of
the lines that are non-empty after stripping, do not start with `timestamp`,
have three fields or more and whose third field `int()` accepts; each line is
decided alone, and the result is `None` exactly when no line is accepted. -/
theorem readRssValues_spec (lines : List String) :
    readRssValues lines = lines.filterMap rssOfLine ∧
      (∀ line rssKb, rssOfLine line = some rssKb ↔
        pyStrip line ≠ "" ∧ pyStartsWith (pyStrip line) "timestamp" = false ∧
          3 ≤ (pySplit (pyStrip line) ',').length ∧
          pyInt ((pySplit (pyStrip line) ',').getD 2 "") = some rssKb) ∧
      (∀ result, analyzeRss lines = some result →
        result.sampleCount = (lines.filterMap rssOfLine).length) ∧
      (analyzeRss lines = none ↔ lines.filterMap rssOfLine = []) ∧
      (loadExternalRss (some lines) = none ↔ lines.filterMap rssOfLine = []) := by
  rw [← readRssValues_eq_filterMap]
  refine ⟨rfl, rssOfLine_eq_some_iff, fun result analyzed => ?_, analyzeRss_eq_none_iff lines,
    loadExternalRss_eq_none_iff lines⟩
  cases values : readRssValues lines with
  | nil => simp [(analyzeRss_eq_none_iff lines).mpr values] at analyzed
  | cons first rest =>
      rw [analyzeRss_of_cons values, Option.some.injEq] at analyzed
      rw [← analyzed]

/-- `load_external_rss` returns `None` exactly when `analyze_rss` does, and
otherwise the three MB fields of `analyze_rss`'s result. -/
theorem loadExternalRss_eq_analyzeRss (lines : List String) :
    loadExternalRss (some lines) =
      (analyzeRss lines).map fun result => ⟨result.minRssMb, result.maxRssMb, result.avgRssMb⟩ := by
  cases values : readRssValues lines with
  | nil =>
      rw [(loadExternalRss_eq_none_iff lines).mpr values, (analyzeRss_eq_none_iff lines).mpr values]
      rfl
  | cons first rest => rw [loadExternalRss_of_cons values, analyzeRss_of_cons values]; rfl

/-- Reordering the values read changes nothing: minimum, maximum, sum and
count are all invariant. -/
theorem analyzeRss_eq_of_perm {lines lines' : List String}
    (reordered : (readRssValues lines').Perm (readRssValues lines)) :
    analyzeRss lines' = analyzeRss lines := by
  cases values : readRssValues lines with
  | nil =>
      rw [values] at reordered
      rw [(analyzeRss_eq_none_iff _).mpr values, (analyzeRss_eq_none_iff _).mpr reordered.eq_nil]
  | cons first rest =>
      rw [values] at reordered
      cases values' : readRssValues lines' with
      | nil => simp [values'] at reordered
      | cons first' rest' =>
          rw [values'] at reordered
          rw [analyzeRss_of_cons values, analyzeRss_of_cons values', minBy_id_eq_of_perm reordered,
            maxBy_id_eq_of_perm reordered, reordered.length_eq, reordered.sum_eq]

/-- The figures of a result are ordered `min ≤ avg ≤ max`, in KB and in MB. -/
theorem analyzeRss_ordered {lines : List String} {result : RssResult}
    (analyzed : analyzeRss lines = some result) :
    (result.minRssKb : ℚ) ≤ result.avgRssKb ∧ result.avgRssKb ≤ result.maxRssKb ∧
      result.minRssMb ≤ result.avgRssMb ∧ result.avgRssMb ≤ result.maxRssMb := by
  cases values : readRssValues lines with
  | nil => simp [(analyzeRss_eq_none_iff lines).mpr values] at analyzed
  | cons first rest =>
      have spelled := analyzeRss_of_cons values
      rw [analyzed, Option.some.injEq] at spelled
      obtain ⟨aboveMin, belowMax⟩ := mean_mem_bounds (List.cons_ne_nil first rest)
        (fun _ member => minBy_le id member) (fun _ member => le_maxBy id member)
      dsimp only [id] at aboveMin belowMax
      subst spelled
      refine ⟨aboveMin, belowMax, ?_, ?_⟩ <;> dsimp only <;> linarith

/-- The reduction `analyze_rss` performs on the values `lines` yield, read
with exact division. -/
structure RssReduction (lines : List String) (result : RssResult) : Prop where
  nonempty : readRssValues lines ≠ []
  sampleCount_eq : result.sampleCount = (readRssValues lines).length
  min_mem : result.minRssKb ∈ readRssValues lines
  min_le : ∀ value ∈ readRssValues lines, result.minRssKb ≤ value
  max_mem : result.maxRssKb ∈ readRssValues lines
  le_max : ∀ value ∈ readRssValues lines, value ≤ result.maxRssKb
  avg_eq : result.avgRssKb = ((readRssValues lines).sum : ℚ) / (readRssValues lines).length
  minMb_eq : result.minRssMb = result.minRssKb / 1024
  maxMb_eq : result.maxRssMb = result.maxRssKb / 1024
  avgMb_eq : result.avgRssMb = result.avgRssKb / 1024
  min_le_avg : (result.minRssKb : ℚ) ≤ result.avgRssKb
  avg_le_max : result.avgRssKb ≤ result.maxRssKb
  minMb_le_avgMb : result.minRssMb ≤ result.avgRssMb
  avgMb_le_maxMb : result.avgRssMb ≤ result.maxRssMb
  external_ordered : ∃ external, loadExternalRss (some lines) = some external ∧
    external.min ≤ external.avg ∧ external.avg ≤ external.max
  perm_values : ∀ lines', (readRssValues lines').Perm (readRssValues lines) →
    analyzeRss lines' = some result
  perm_lines : ∀ lines', lines'.Perm lines → analyzeRss lines' = some result

/-- Every result of `analyze_rss` is the count, minimum, maximum and mean of
the accepted values, in KB and divided by 1024 in MB, ordered
`min ≤ avg ≤ max`, and unchanged by any reordering of the values or lines. -/
theorem analyzeRss_reduction (lines : List String) (result : RssResult)
    (analyzed : analyzeRss lines = some result) : RssReduction lines result := by
  cases values : readRssValues lines with
  | nil => simp [(analyzeRss_eq_none_iff lines).mpr values] at analyzed
  | cons first rest =>
      have spelled := analyzeRss_of_cons values
      rw [analyzed, Option.some.injEq] at spelled
      obtain ⟨minLeAvg, avgLeMax, minMbLeAvgMb, avgMbLeMaxMb⟩ := analyzeRss_ordered analyzed
      have perm_values : ∀ lines', (readRssValues lines').Perm (readRssValues lines) →
          analyzeRss lines' = some result := fun _ reordered =>
        (analyzeRss_eq_of_perm reordered).trans analyzed
      subst spelled
      exact {
        nonempty := values ▸ List.cons_ne_nil first rest
        sampleCount_eq := by rw [values]
        min_mem := values ▸ minBy_mem id first rest
        min_le := fun _ member => minBy_le id (values ▸ member)
        max_mem := values ▸ maxBy_mem id first rest
        le_max := fun _ member => le_maxBy id (values ▸ member)
        avg_eq := by rw [values]
        minMb_eq := rfl
        maxMb_eq := rfl
        avgMb_eq := rfl
        min_le_avg := minLeAvg
        avg_le_max := avgLeMax
        minMb_le_avgMb := minMbLeAvgMb
        avgMb_le_maxMb := avgMbLeMaxMb
        external_ordered := ⟨_, loadExternalRss_of_cons values, minMbLeAvgMb, avgMbLeMaxMb⟩
        perm_values := perm_values
        perm_lines := fun lines' reordered => perm_values lines' (by
          rw [readRssValues_eq_filterMap, readRssValues_eq_filterMap]
          exact reordered.filterMap rssOfLine) }

unseal Rat.add Rat.mul Rat.inv in
/-- The spec's fixture: a header and samples of 1, 2 and 1.5 MB. -/
theorem analyzeRss_reduction_fixture :
    analyzeRss ["timestamp,pid,rss", "ts1,x,1024", "ts2,x,2048", "ts3,x,1536"] =
        some ⟨3, 1024, 2048, 1536, 1, 2, 3 / 2⟩ ∧
      RssReduction ["timestamp,pid,rss", "ts1,x,1024", "ts2,x,2048", "ts3,x,1536"]
        ⟨3, 1024, 2048, 1536, 1, 2, 3 / 2⟩ :=
  have analyzed : analyzeRss ["timestamp,pid,rss", "ts1,x,1024", "ts2,x,2048", "ts3,x,1536"] =
      some ⟨3, 1024, 2048, 1536, 1, 2, 3 / 2⟩ := by decide
  ⟨analyzed, analyzeRss_reduction _ _ analyzed⟩

end PulsarMemory.External
