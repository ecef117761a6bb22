import PulsarMemory.Compare.Savings

/-!
# `compare-queue.py`

The receive-queue comparison: the run with `ReceiverQueueSize` 1000 is the
baseline, the run with 100 the variant. There is no external RSS section.
-/

namespace PulsarMemory.CompareQueue

open PulsarMemory.Python PulsarMemory.Compare

/-- `print_comparison(queue_1000, queue_100)`, each argument the `summary`
of its stats file or `none` when the file is missing. -/
def printComparison (queue1000 queue100 : Option Summary) : Except PyError ComparisonReport := do
  let savings ← match queue1000, queue100 with
    | some s1000, some s100 => do
        let maxHeap ← saving (toMb s1000.maxHeapAlloc) (toMb s100.maxHeapAlloc)
        let avgHeap ← saving (toMb s1000.avgHeapAlloc) (toMb s100.avgHeapAlloc)
        let maxRss ← saving (toMb s1000.maxRss) (toMb s100.maxRss)
        let amplification ← amplification s1000 s100
        pure (some ⟨maxHeap, avgHeap, maxRss, none, amplification⟩)
    | _, _ => pure none
  return {
    testData := queue1000.map testData
    heapRows := (queue1000.map (heapRow "1000 (default)")).toList ++
      (queue100.map (heapRow "100")).toList
    rssRows := (queue1000.map (rssRow "1000 (default)")).toList ++
      (queue100.map (rssRow "100")).toList
    externalRows := []
    savings := savings }

/-- `main()`: `sys.exit(1)` when neither stats file was found. -/
def main (resultsDir : String) (queue1000 queue100 : Option Summary) :
    Except MainExit ComparisonReport :=
  if queue1000.isNone && queue100.isNone then
    .error (.exit ("No queue comparison stats found in " ++ resultsDir))
  else (printComparison queue1000 queue100).mapError .raised

end PulsarMemory.CompareQueue
