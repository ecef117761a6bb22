import PulsarMemory.Compare.Queue
import PulsarMemory.Compare.Results

/-!
# The savings section of both comparison scripts

`compare-queue.py` and `compare-results.py` each carry their own copy of
the savings and amplification lines. Both copies compute `savingsOf`: every
saving is the spec's formula on the MB values, no division is by zero, and
the amplification table divides both runs' peaks by the baseline's
`message_bytes`. A variant that moved a different amount of data is
therefore not reported at its own ratio, and a baseline without data gets
no table at all rather than ratios of `0`.

Whether a script completes depends on float range as well: an integer
field or external value beyond it raises `OverflowError` at its first
`/ 1024`. The scripts' `main`s are stated for summaries and external files
within `InFloatRange`, where no division raises.
-/

namespace PulsarMemory.Compare

open PulsarMemory.Python

end PulsarMemory.Compare
