import Mathlib.Algebra.Order.Field.Rat
import Mathlib.Tactic.Linarith

/-!
# Fixed-point formatting

`f"{x:.2f}"` prints the binary value of `x` rounded to two decimals, a tie
going to the even last digit (CPython's correctly rounded `dtoa`, mode 3).
The scripts format byte counts, megabytes and ratios this way. Here `x` is the
exact rational the float stands for, and `scaledDigits` is the integer the
digits spell: `|x|` in units of `10 ^ -places`, rounded half to even.
-/

namespace PulsarMemory.Python

/-- The integer nearest `num / den`, a tie going to the even one: the
quotient, plus one when twice the remainder passes the divisor, or meets it
with an odd quotient. -/
def roundHalfEven (num den : Nat) : Nat :=
  let quotient := num / den
  let twice := 2 * (num % den)
  if den < twice ∨ (twice = den ∧ quotient % 2 = 1) then quotient + 1 else quotient

/-- `|x|` in units of `10 ^ -places`, rounded half to even. -/
def scaledDigits (places : Nat) (x : ℚ) : Nat :=
  let scaled := |x| * 10 ^ places
  roundHalfEven scaled.num.natAbs scaled.den

/-- `format(x, f'.{places}f')`: a minus sign for a negative `x`, the integer
part, and `places` decimals, zero-padded on the left. -/
def formatFixed (places : Nat) (x : ℚ) : String :=
  let digits := scaledDigits places x
  let sign := if x < 0 then "-" else ""
  let whole := toString (digits / 10 ^ places)
  let fraction := toString (digits % 10 ^ places)
  if places = 0 then sign ++ whole
  else sign ++ whole ++ "." ++ ⟨List.replicate (places - fraction.length) '0'⟩ ++ fraction

/-- Rounding moves `num / den` by at most one half: twice the rounded value
lies within one divisor of twice the quotient. -/
theorem roundHalfEven_near (num den : Nat) (positive : 0 < den) :
    den * (2 * roundHalfEven num den) ≤ 2 * num + den ∧
      2 * num ≤ den * (2 * roundHalfEven num den + 1) := by
  have split := Nat.div_add_mod num den
  have below := Nat.mod_lt num positive
  unfold roundHalfEven
  generalize num / den = quotient at split ⊢
  generalize num % den = remainder at split below ⊢
  subst split
  dsimp only
  split_ifs with rounded
  · have half : den ≤ 2 * remainder := by omega
    constructor <;> linarith
  · have half : 2 * remainder ≤ den := by omega
    constructor <;> linarith

/-- Rounding never passes a natural bound the value stays under. -/
theorem roundHalfEven_le_of_lt {num den bound : Nat}
    (under : num < bound * den) : roundHalfEven num den ≤ bound := by
  have quotientBelow : num / den < bound := Nat.div_lt_of_lt_mul (by linarith)
  unfold roundHalfEven
  dsimp only
  split_ifs <;> omega

/-- The numerator of a non-negative rational, as a natural, over its
denominator is the rational. -/
private theorem natAbs_num_div_den {q : ℚ} (nonneg : 0 ≤ q) :
    ((q.num.natAbs : Nat) : ℚ) = q * q.den := by
  rw [Nat.cast_natAbs, abs_of_nonneg (Rat.num_nonneg.mpr nonneg), Rat.mul_den_eq_num]

/-- The printed digits of a value under `bound` (in units of `10 ^ -places`)
spell at most `bound`; the rounding can reach `bound` itself. -/
theorem scaledDigits_le_of_lt {places bound : Nat} {x : ℚ} (nonneg : 0 ≤ x)
    (under : x * 10 ^ places < bound) : scaledDigits places x ≤ bound := by
  unfold scaledDigits
  set scaled := |x| * 10 ^ places with scaledDef
  have scaledNonneg : 0 ≤ scaled := mul_nonneg (abs_nonneg x) (pow_nonneg (by norm_num) _)
  have scaledUnder : scaled < bound := by rwa [scaledDef, abs_of_nonneg nonneg]
  apply roundHalfEven_le_of_lt
  have denPositive : (0 : ℚ) < scaled.den := by exact_mod_cast scaled.den_pos
  exact_mod_cast (show ((scaled.num.natAbs : Nat) : ℚ) < bound * scaled.den by
    rw [natAbs_num_div_den scaledNonneg]
    exact mul_lt_mul_of_pos_right scaledUnder denPositive)

/-- The printed digits are `|x|` in units of `10 ^ -places` to within one
half: `:.Nf` rounds to the nearest. -/
theorem scaledDigits_near (places : Nat) {x : ℚ} (nonneg : 0 ≤ x) :
    |(scaledDigits places x : ℚ) - x * 10 ^ places| ≤ 1 / 2 := by
  unfold scaledDigits
  set scaled := |x| * 10 ^ places with scaledDef
  have scaledEq : scaled = x * 10 ^ places := by rw [scaledDef, abs_of_nonneg nonneg]
  have scaledNonneg : 0 ≤ scaled := by rw [scaledEq]; positivity
  obtain ⟨below, above⟩ := roundHalfEven_near scaled.num.natAbs scaled.den scaled.den_pos
  have denPositive : (0 : ℚ) < scaled.den := by exact_mod_cast scaled.den_pos
  have belowCast := (Nat.cast_le (α := ℚ)).mpr below
  have aboveCast := (Nat.cast_le (α := ℚ)).mpr above
  push_cast at belowCast aboveCast
  rw [natAbs_num_div_den scaledNonneg] at belowCast aboveCast
  set digits := (roundHalfEven scaled.num.natAbs scaled.den : ℚ)
  have lower : 2 * digits ≤ 2 * scaled + 1 :=
    le_of_mul_le_mul_left (by linarith) denPositive
  have upper : 2 * scaled ≤ 2 * digits + 1 :=
    le_of_mul_le_mul_left (by linarith) denPositive
  rw [← scaledEq, abs_le]
  constructor <;> linarith

/-- The digits depend on `|x|` alone. -/
theorem scaledDigits_abs (places : Nat) (x : ℚ) : scaledDigits places |x| = scaledDigits places x := by
  simp only [scaledDigits, abs_abs]

/-- Rounding keeps order: a value of no greater magnitude never gets more
digits. -/
theorem scaledDigits_mono (places : Nat) {x y : ℚ} (le : |x| ≤ |y|) :
    scaledDigits places x ≤ scaledDigits places y := by
  rcases le.lt_or_eq with lt | eq
  · have nearX := scaledDigits_near places (abs_nonneg x)
    have nearY := scaledDigits_near places (abs_nonneg y)
    rw [scaledDigits_abs, abs_le] at nearX nearY
    have scaledLt : |x| * 10 ^ places < |y| * 10 ^ places :=
      mul_lt_mul_of_pos_right lt (pow_pos (by norm_num) _)
    have below : (scaledDigits places x : ℚ) < scaledDigits places y + 1 := by linarith
    exact Nat.lt_succ_iff.mp (by exact_mod_cast below)
  · rw [← scaledDigits_abs, eq, scaledDigits_abs]

/-- The signed number `formatFixed places x` spells, in units of
`10 ^ -places`: its sign and its digits. -/
def fixedDigits (places : Nat) (x : ℚ) : Int :=
  if x < 0 then -(scaledDigits places x : Int) else scaledDigits places x

/-- Printing with `places` decimals keeps the order of the values printed. -/
theorem fixedDigits_mono (places : Nat) {x y : ℚ} (le : x ≤ y) :
    fixedDigits places x ≤ fixedDigits places y := by
  unfold fixedDigits
  split_ifs with negativeX negativeY negativeY
  · have := scaledDigits_mono places (show |y| ≤ |x| by
      rw [abs_of_neg negativeX, abs_of_neg negativeY]; linarith)
    omega
  · omega
  · linarith
  · have := scaledDigits_mono places (show |x| ≤ |y| by
      rw [abs_of_nonneg (not_lt.mp negativeX), abs_of_nonneg (not_lt.mp negativeY)]; exact le)
    omega

end PulsarMemory.Python
