import PulsarMemory.Compare.Savings

/-!
# `compare-results.py`

The payload-release comparison: the run without `ReleasePayload` is the
baseline, the run with it the variant. Beside the two stats files it reads
the two external RSS files with `load_external_rss`, prints their table, and
adds their `Max RSS (External)` saving to the savings section.
-/

namespace PulsarMemory.CompareResults

open PulsarMemory.Python PulsarMemory.Compare

/-- `print_comparison(no_release, with_release, ext_no_release,
ext_with_release)`: the two summaries and the two `load_external_rss`
results, `none` for a missing file. -/
def printComparison (noRelease withRelease : Option Summary)
    (extNoRelease extWithRelease : Option External.ExternalRss) :
    Except PyError ComparisonReport := do
  let savings ← match noRelease, withRelease with
    | some noS, some withS => do
        let maxHeap ← saving (toMb noS.maxHeapAlloc) (toMb withS.maxHeapAlloc)
        let avgHeap ← saving (toMb noS.avgHeapAlloc) (toMb withS.avgHeapAlloc)
        let maxRss ← saving (toMb noS.maxRss) (toMb withS.maxRss)
        let externalMaxRss ← match extNoRelease, extWithRelease with
          | some extNo, some extWith => do
              let externalSaving ← saving extNo.max extWith.max
              pure (some externalSaving)
          | _, _ => pure none
        let amplification ← amplification noS withS
        pure (some ⟨maxHeap, avgHeap, maxRss, externalMaxRss, amplification⟩)
    | _, _ => pure none
  return {
    testData := noRelease.map testData
    heapRows := (noRelease.map (heapRow "WITHOUT ReleasePayload")).toList ++
      (withRelease.map (heapRow "WITH ReleasePayload")).toList
    rssRows := (noRelease.map (rssRow "WITHOUT ReleasePayload")).toList ++
      (withRelease.map (rssRow "WITH ReleasePayload")).toList
    externalRows := (extNoRelease.map (externalRow "WITHOUT ReleasePayload")).toList ++
      (extWithRelease.map (externalRow "WITH ReleasePayload")).toList
    savings := savings }

/-- `main()`: the four files of the results directory are loaded, and
`sys.exit(1)` follows when neither stats file was found. -/
def main (resultsDir : String) (noRelease withRelease : Option Summary)
    (extNoRelease extWithRelease : Option (List String)) : Except MainExit ComparisonReport :=
  if noRelease.isNone && withRelease.isNone then
    .error (.exit ("No stats files found in " ++ resultsDir))
  else
    (printComparison noRelease withRelease (External.loadExternalRss extNoRelease)
      (External.loadExternalRss extWithRelease)).mapError .raised

end PulsarMemory.CompareResults
