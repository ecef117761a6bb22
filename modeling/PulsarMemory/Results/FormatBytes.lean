import PulsarMemory.Python.Format

/-!
# `format_bytes`

`format_bytes` in `analyze_results.py` divides a byte count by 1024 until it
drops below 1024 or the units `B`, `KB`, `MB`, `GB` run out, then prints it
with two decimals and the unit reached, `TB` after the last. Dividing by 1024
is exact in binary floating point, so for every count below `2 ^ 53` the value
in each unit is the exact rational `value / 1024 ^ k` used here.

The unit is chosen on the unrounded value: `formatBytes_unit` proves the
choice is the least `k` with `value / 1024 ^ k < 1024` (at most 4) and that
the printed digits are that value rounded to the nearest hundredth. Rounding
can carry a value just under 1024 up to `1024.00`.
-/

namespace PulsarMemory.Results

open PulsarMemory.Python

/-- The `for unit in [...]` loop of `format_bytes` over the units still to
try, `bytesVal` being the value in the current unit. -/
def formatBytesLoop : List String → ℚ → String
  | [], bytesVal => formatFixed 2 bytesVal ++ " TB"
  | unit :: units, bytesVal =>
      if bytesVal < 1024 then formatFixed 2 bytesVal ++ " " ++ unit
      else formatBytesLoop units (bytesVal / 1024)

/-- `format_bytes(bytes_val)` on an integer byte count. -/
def formatBytes (bytesVal : Int) : String :=
  formatBytesLoop ["B", "KB", "MB", "GB"] bytesVal

/-- The loop stops at the first unit in which the value is below 1024, or
after the last one, and prints the value in that unit. -/
theorem formatBytesLoop_spec (units : List String) (bytesVal : ℚ) :
    ∃ k ≤ units.length,
      (∀ j < k, 1024 ≤ bytesVal / 1024 ^ j) ∧
      (k < units.length → bytesVal / 1024 ^ k < 1024) ∧
      formatBytesLoop units bytesVal =
        formatFixed 2 (bytesVal / 1024 ^ k) ++ " " ++ (units ++ ["TB"]).getD k "" := by
  induction units generalizing bytesVal with
  | nil =>
      refine ⟨0, le_refl 0, by simp, by simp, ?_⟩
      simp [formatBytesLoop, String.append_assoc]
  | cons unit units inductionHypothesis =>
      by_cases below : bytesVal < 1024
      · exact ⟨0, Nat.zero_le _, by simp, by simpa using below, by simp [formatBytesLoop, below]⟩
      · obtain ⟨k, bounded, passed, stops, printed⟩ := inductionHypothesis (bytesVal / 1024)
        have shift : ∀ j : Nat, bytesVal / 1024 ^ (j + 1) = bytesVal / 1024 / 1024 ^ j := by
          intro j
          rw [pow_succ', div_div]
        refine ⟨k + 1, by simpa using bounded, fun j before => ?_, fun stopped => ?_, ?_⟩
        · cases j with
          | zero => simpa using le_of_not_lt below
          | succ j => rw [shift]; exact passed j (by omega)
        · rw [shift]; exact stops (by simpa using stopped)
        · simp only [formatBytesLoop, below, if_false, printed, shift]
          rfl

/-- `format_bytes` shows a byte count in unit `k` (`B`, `KB`, `MB`, `GB`,
`TB`), the least `k` with `value / 1024 ^ k < 1024` and at most 4, and prints
`value / 1024 ^ k` rounded to the nearest hundredth. The unrounded value is
below 1024 in every unit but `TB`, so the printed mantissa is at most
`1024.00`. -/
theorem formatBytes_unit (value : Nat) :
    ∃ k ≤ 4,
      (∀ j < k, 1024 ≤ (value : ℚ) / 1024 ^ j) ∧
      (k < 4 → (value : ℚ) / 1024 ^ k < 1024) ∧
      formatBytes value =
        formatFixed 2 ((value : ℚ) / 1024 ^ k) ++ " " ++ ["B", "KB", "MB", "GB", "TB"].getD k "" ∧
      |(scaledDigits 2 ((value : ℚ) / 1024 ^ k) : ℚ) - (value : ℚ) / 1024 ^ k * 100| ≤ 1 / 2 ∧
      (k < 4 → scaledDigits 2 ((value : ℚ) / 1024 ^ k) ≤ 102400) := by
  obtain ⟨k, bounded, passed, stops, printed⟩ := formatBytesLoop_spec ["B", "KB", "MB", "GB"] value
  have nonneg : (0 : ℚ) ≤ (value : ℚ) / 1024 ^ k :=
    div_nonneg (Nat.cast_nonneg _) (pow_nonneg (by norm_num) _)
  refine ⟨k, bounded, passed, stops, printed, scaledDigits_near 2 nonneg, fun stopped => ?_⟩
  apply scaledDigits_le_of_lt nonneg
  have under := stops stopped
  push_cast
  linarith

unseal Rat.add Rat.mul Rat.inv in
/-- One byte short of 1 MiB is below 1024 in KB, yet prints as `1024.00 KB`. -/
theorem formatBytes_rounds_to_1024 :
    (1048575 : ℚ) / 1024 < 1024 ∧ formatBytes 1048575 = "1024.00 KB" := by
  decide

end PulsarMemory.Results
