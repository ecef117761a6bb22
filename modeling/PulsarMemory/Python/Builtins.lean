import Mathlib.Data.Rat.Defs
import Mathlib.Data.List.MinMax
import Mathlib.Data.List.Lex
import Mathlib.Algebra.Group.Nat.Basic

/-!
# The Python built-ins the scripts call

The four scripts are plain Python 3 over `str`, `int`, `list` and `dict`. This
module fixes what the built-ins they call do on the values they call them with:
`str.strip`, `str.split` on one character, `str.startswith`, `int(text)`,
`min` and `max` with and without a key, and true division. Strings are read as
their code points, as Python reads them, and `int(text)` as CPython 3.11 reads
a base-10 literal. True division raises `ZeroDivisionError` on a zero divisor
and is otherwise read as exact rational division, so every quotient below is
the real quotient the float rounds. That reading leaves out what floats add
beyond rounding: `int / int` raising `OverflowError` past float range, and
quotients underflowing to `0.0`. Neither happens on numbers of
`InFloatRange`, and every result that says a script completes assumes its
inputs there.
-/

namespace PulsarMemory.Python

/-- The exceptions the scripts can raise on the values modelled here. -/
inductive PyError where
  /-- `KeyError(key)`: a dictionary has no entry for `key`. -/
  | keyError (key : String)
  /-- `TypeError`: an operation met a value of a kind it does not accept. -/
  | typeError
  /-- `ValueError`: `max()` of an empty sequence, or a file that is not JSON. -/
  | valueError
  /-- `ZeroDivisionError`: a true division by zero. -/
  | zeroDivisionError
  /-- `OSError`, such as `FileNotFoundError`: `open` could not read a file. -/
  | osError
  deriving DecidableEq, Repr

/-- How a script's `main` ends without its report: `sys.exit(1)` after a
message, or an exception nothing catches. -/
inductive MainExit where
  | exit (message : String)
  | raised (error : PyError)

/-! A computation that may raise is an `Except PyError`; these lemmas run its
binds. -/

section Raising

variable {ε α β : Type}

@[simp] theorem except_pure (value : α) : (pure value : Except ε α) = .ok value := rfl

@[simp] theorem except_ok_bind (value : α) (rest : α → Except ε β) :
    (Except.ok value >>= rest) = rest value := rfl

@[simp] theorem except_error_bind (error : ε) (rest : α → Except ε β) :
    (Except.error error >>= rest) = .error error := rfl

@[simp] theorem except_throw (error : ε) : (throw error : Except ε α) = .error error := rfl

/-- A chain of binds succeeds exactly when each step does. -/
theorem except_bind_eq_ok {first : Except ε α} {rest : α → Except ε β} {value : β} :
    (first >>= rest) = .ok value ↔ ∃ middle, first = .ok middle ∧ rest middle = .ok value := by
  cases first <;> simp

/-- Mapping the exception leaves a success alone. -/
theorem except_mapError_eq_ok {ε' : Type} {f : ε → ε'} {x : Except ε α} {value : α} :
    x.mapError f = .ok value ↔ x = .ok value := by
  cases x <;> simp [Except.mapError]

/-- A `mapM` whose function succeeds on every item succeeds, with one value
per item. -/
theorem mapM_ok {f : α → Except ε β} {items : List α}
    (each : ∀ item ∈ items, ∃ value, f item = .ok value) :
    ∃ values, items.mapM f = .ok values ∧ values.length = items.length := by
  induction items with
  | nil => exact ⟨[], rfl, rfl⟩
  | cons item items inductionHypothesis =>
      obtain ⟨value, mapped⟩ := each item (List.mem_cons_self _ _)
      obtain ⟨values, mappedAll, length⟩ :=
        inductionHypothesis fun other member => each other (List.mem_cons_of_mem _ member)
      exact ⟨value :: values, by rw [List.mapM_cons, mapped, mappedAll]; rfl, by simp [length]⟩

/-- A fold through a step that raises on one of the items raises. -/
theorem foldlM_error_of_mem {step : β → α → Except ε β} {item : α} {items : List α}
    (member : item ∈ items) (raises : ∀ acc, ∃ error, step acc item = .error error) (init : β) :
    ∃ error, items.foldlM step init = .error error := by
  induction items generalizing init with
  | nil => cases member
  | cons head tail inductionHypothesis =>
      rw [List.foldlM_cons]
      rcases List.mem_cons.mp member with rfl | later
      · obtain ⟨error, fails⟩ := raises init
        exact ⟨error, by rw [fails]; rfl⟩
      · cases stepped : step init head with
        | error error => exact ⟨error, rfl⟩
        | ok acc => exact inductionHypothesis later acc

end Raising

/-! ## Strings -/

/-- The characters `str.isspace` accepts (`Py_UNICODE_ISSPACE`), which
`str.strip()` removes. -/
def isPySpace (c : Char) : Bool :=
  let n := c.toNat
  (9 ≤ n && n ≤ 13) || (28 ≤ n && n ≤ 32) || n == 0x85 || n == 0xA0 || n == 0x1680 ||
    (0x2000 ≤ n && n ≤ 0x200A) || n == 0x2028 || n == 0x2029 || n == 0x202F ||
    n == 0x205F || n == 0x3000

/-- `chars` without the characters `isSpace` marks at either end. -/
def stripChars (isSpace : Char → Bool) (chars : List Char) : List Char :=
  ((chars.dropWhile isSpace).reverse.dropWhile isSpace).reverse

/-- `s.strip()`: `s` without its leading and trailing whitespace. -/
def pyStrip (s : String) : String :=
  ⟨stripChars isPySpace s.data⟩

/-- `s.split(sep)` for a one-character separator: the pieces between
consecutive separators, empty pieces included. -/
def pySplit (s : String) (sep : Char) : List String :=
  (s.data.splitOn sep).map String.mk

/-- `s.startswith(pre)`: `pre` is a prefix of `s`, code point by code point. -/
def pyStartsWith (s pre : String) : Bool :=
  pre.data.isPrefixOf s.data

/-- `s < t` on code point lists: the first difference decides, and a proper
prefix comes first. -/
def codePointsLt : List Char → List Char → Bool
  | [], [] => false
  | [], _ :: _ => true
  | _ :: _, [] => false
  | c :: cs, d :: ds => if c.toNat = d.toNat then codePointsLt cs ds else c.toNat < d.toNat

/-- `s < t` on `str`. -/
def pyStrLt (s t : String) : Bool :=
  codePointsLt s.data t.data

/-- `codePointsLt` is the lexicographic order of the code points. -/
theorem codePointsLt_iff (left right : List Char) :
    codePointsLt left right = true ↔
      List.Lex (· < ·) (left.map Char.toNat) (right.map Char.toNat) := by
  induction left generalizing right with
  | nil => cases right <;> simp [codePointsLt, List.Lex.nil]
  | cons c cs inductionHypothesis =>
      cases right with
      | nil => simp [codePointsLt]
      | cons d ds =>
          simp only [codePointsLt, List.map_cons]
          split_ifs with same
          · rw [same, inductionHypothesis, List.Lex.cons_iff]
          · generalize c.toNat = m, d.toNat = n at same ⊢
            refine ⟨fun below => List.Lex.rel (of_decide_eq_true below), fun ordered => ?_⟩
            cases ordered with
            | cons => exact absurd rfl same
            | rel below => exact decide_eq_true below

/-- `str` comparison is asymmetric. -/
theorem pyStrLt_asymm {s t : String} (lt : pyStrLt s t = true) : pyStrLt t s = false := by
  rw [pyStrLt, codePointsLt_iff] at lt
  rw [← Bool.not_eq_true, pyStrLt, codePointsLt_iff]
  exact asymm lt

/-- "Not greater" is transitive: `sorted` can order by it. -/
theorem pyStrLt_false_trans {s t u : String} (first : pyStrLt t s = false)
    (second : pyStrLt u t = false) : pyStrLt u s = false := by
  simp only [← Bool.not_eq_true, pyStrLt, codePointsLt_iff] at first second ⊢
  intro below
  rcases trichotomous_of (List.Lex (fun m n : Nat => m < n)) (t.data.map Char.toNat)
      (s.data.map Char.toNat) with above | same | above
  · exact first above
  · exact second (same ▸ below)
  · exact second (trans_of (List.Lex (· < ·)) below above)

/-- Of two different strings, one is below the other. -/
theorem pyStrLt_of_ne {s t : String} (notAbove : pyStrLt t s = false) (distinct : s ≠ t) :
    pyStrLt s t = true := by
  rw [← Bool.not_eq_true, pyStrLt, codePointsLt_iff] at notAbove
  rw [pyStrLt, codePointsLt_iff]
  have injective : Function.Injective Char.toNat := fun c d same => by
    rw [← Char.ofNat_toNat c, same, Char.ofNat_toNat]
  rcases trichotomous_of (List.Lex (fun m n : Nat => m < n)) (s.data.map Char.toNat)
      (t.data.map Char.toNat) with below | same | above
  · exact below
  · exact absurd (String.ext (List.map_injective_iff.mpr injective same)) distinct
  · exact absurd above notAbove

/-- The value of an ASCII digit. -/
def digitValue (c : Char) : Nat :=
  c.toNat - '0'.toNat

/-- The code points of the Unicode decimal digits zero (category `Nd`, Unicode
14.0 as in Python 3.11). Each begins a run of the ten digits `0` to `9`, and
`int()` reads every one of them like the ASCII digit of the same value. -/
def decimalZeros : List Nat :=
  [0x30, 0x660, 0x6f0, 0x7c0, 0x966, 0x9e6, 0xa66, 0xae6, 0xb66, 0xbe6, 0xc66, 0xce6, 0xd66,
    0xde6, 0xe50, 0xed0, 0xf20, 0x1040, 0x1090, 0x17e0, 0x1810, 0x1946, 0x19d0, 0x1a80, 0x1a90,
    0x1b50, 0x1bb0, 0x1c40, 0x1c50, 0xa620, 0xa8d0, 0xa900, 0xa9d0, 0xa9f0, 0xaa50, 0xabf0,
    0xff10, 0x104a0, 0x10d30, 0x11066, 0x110f0, 0x11136, 0x111d0, 0x112f0, 0x11450, 0x114d0,
    0x11650, 0x116c0, 0x11730, 0x118e0, 0x11950, 0x11c50, 0x11d50, 0x11da0, 0x16a60, 0x16ac0,
    0x16b50, 0x1d7ce, 0x1d7d8, 0x1d7e2, 0x1d7ec, 0x1d7f6, 0x1e140, 0x1e2f0, 0x1e950, 0x1fbf0]

/-- The value `int()` gives a decimal digit, `none` for any other character. -/
def decimalValue? (c : Char) : Option Nat :=
  (decimalZeros.find? fun start => start ≤ c.toNat && c.toNat < start + 10).map (c.toNat - ·)

/-- The digits of an `int()` literal after its first digit, each one possibly
preceded by a single underscore; `acc` is the value read so far. -/
def digitsTail (acc : Nat) : List Char → Option Nat
  | [] => some acc
  | '_' :: c :: rest =>
      match decimalValue? c with
      | some digit => digitsTail (10 * acc + digit) rest
      | none => none
  | c :: rest =>
      match decimalValue? c with
      | some digit => digitsTail (10 * acc + digit) rest
      | none => none

/-- A non-empty run of decimal digits with single underscores between digits. -/
def digitsValue : List Char → Option Nat
  | c :: rest => (decimalValue? c).bind fun digit => digitsTail digit rest
  | [] => none

/-- The whitespace `int()` skips around a literal: that of `str.isspace`
except `\x1c` to `\x1f`, which `int()` keeps, and so rejects. -/
def isIntSpace (c : Char) : Bool :=
  isPySpace c && !(28 ≤ c.toNat && c.toNat ≤ 31)

/-- The most digits `int()` reads (`sys.get_int_max_str_digits()` in Python
3.11); a longer literal raises `ValueError`. -/
def intMaxStrDigits : Nat := 4300

/-- An unsigned literal: its value, when it has at most `intMaxStrDigits`
digits. -/
def literalValue (literal : List Char) : Option Nat :=
  if intMaxStrDigits < (literal.filter (· != '_')).length then none else digitsValue literal

/-- `int(text)` in base 10: whitespace around an optionally signed literal.
`none` is the `ValueError` it raises on any other text. -/
def pyInt (text : String) : Option Int :=
  match stripChars isIntSpace text.data with
  | '-' :: literal => (literalValue literal).map fun value => -(value : Int)
  | '+' :: literal => (literalValue literal).map fun value => (value : Int)
  | literal => (literalValue literal).map fun value => (value : Int)

/-- The ten digits `str(n)` prints: each is a digit that reads back as its
value, and none is whitespace, a comma or an underscore. -/
theorem digitChar_spec : ∀ k < 10, (Nat.digitChar k).isDigit = true ∧
    digitValue (Nat.digitChar k) = k ∧ isPySpace (Nat.digitChar k) = false ∧
    Nat.digitChar k ≠ ',' ∧ Nat.digitChar k ≠ '_' := by
  decide

/-- An ASCII digit is a decimal digit of its own value. -/
theorem decimalValue?_of_isDigit {c : Char} (digit : c.isDigit = true) :
    decimalValue? c = some (digitValue c) := by
  simp only [Char.isDigit, Bool.and_eq_true, decide_eq_true_eq] at digit
  have low : 48 ≤ c.toNat := digit.1
  have high : c.toNat ≤ 57 := digit.2
  have atZero : (48 ≤ c.toNat && c.toNat < 48 + 10) = true := by
    simp only [Bool.and_eq_true, decide_eq_true_eq]
    omega
  simp only [decimalValue?, decimalZeros, List.find?_cons, atZero, Option.map_some']
  rfl

/-- `str(n)` in base 10: a non-empty run of digits that reads back as `n`,
with at most `k` digits when `n < 10 ^ k` for a positive `k`. -/
theorem toDigitsCore_ten (fuel n : Nat) (ds : List Char) (enough : n < fuel) :
    ∃ digits, Nat.toDigitsCore 10 fuel n ds = digits ++ ds ∧ digits ≠ [] ∧
      (∀ c ∈ digits, ∃ k < 10, c = Nat.digitChar k) ∧
      digits.foldl (fun acc c => 10 * acc + digitValue c) 0 = n ∧
      ∀ k, 0 < k → n < 10 ^ k → digits.length ≤ k := by
  induction fuel generalizing n ds with
  | zero => omega
  | succ fuel inductionHypothesis =>
      have value := (digitChar_spec (n % 10) (Nat.mod_lt n (by decide))).2.1
      have step : Nat.toDigitsCore 10 (fuel + 1) n ds =
          if n / 10 = 0 then Nat.digitChar (n % 10) :: ds
          else Nat.toDigitsCore 10 fuel (n / 10) (Nat.digitChar (n % 10) :: ds) := rfl
      rw [step]
      split_ifs with last
      · refine ⟨[Nat.digitChar (n % 10)], rfl, List.cons_ne_nil _ _, ?_, ?_,
          fun k positive _ => by simpa using positive⟩
        · simpa using ⟨n % 10, Nat.mod_lt n (by decide), rfl⟩
        · simp only [List.foldl_cons, List.foldl_nil, value]
          omega
      · obtain ⟨digits, spelled, nonempty, allDigits, read, short⟩ :=
          inductionHypothesis (n / 10) (Nat.digitChar (n % 10) :: ds) (by omega)
        refine ⟨digits ++ [Nat.digitChar (n % 10)], by simp [spelled], by simp, ?_, ?_,
          fun k positive below => ?_⟩
        · simpa [or_imp, forall_and] using ⟨allDigits, n % 10, Nat.mod_lt n (by decide), rfl⟩
        · rw [List.foldl_append, read]
          simp only [List.foldl_cons, List.foldl_nil, value]
          omega
        · obtain _ | _ | k := k
          · omega
          · simp at below
            omega
          · rw [Nat.pow_succ] at below
            have higher : n / 10 < 10 ^ (k + 1) := by
              generalize 10 ^ (k + 1) = bound at below ⊢
              omega
            simpa using short (k + 1) (Nat.succ_pos k) higher

/-- A run of plain digits reads as its decimal value. -/
theorem digitsTail_of_isDigit (acc : Nat) (chars : List Char)
    (allDigits : ∀ c ∈ chars, c.isDigit = true) :
    digitsTail acc chars = some (chars.foldl (fun acc c => 10 * acc + digitValue c) acc) := by
  induction chars generalizing acc with
  | nil => rfl
  | cons c rest inductionHypothesis =>
      have digit := allDigits c (List.mem_cons_self _ _)
      have notUnderscore : c ≠ '_' := by
        rintro rfl
        exact absurd digit (by decide)
      rw [digitsTail.eq_3 _ _ _ (fun _ _ isUnderscore => absurd isUnderscore notUnderscore),
        decimalValue?_of_isDigit digit]
      exact inductionHypothesis _ (fun d member => allDigits d (List.mem_cons_of_mem _ member))

/-- Stripping leaves a run of characters alone when neither end is one it
strips. -/
theorem stripChars_eq_self {isSpace : Char → Bool} {chars : List Char}
    (first : ∀ c ∈ chars.head?, isSpace c = false)
    (last : ∀ c ∈ chars.getLast?, isSpace c = false) : stripChars isSpace chars = chars := by
  have keep : ∀ l : List Char, (∀ c ∈ l.head?, isSpace c = false) → l.dropWhile isSpace = l := by
    rintro (_ | ⟨c, rest⟩) notSpace
    · rfl
    · simp [List.dropWhile, notSpace c rfl]
  rw [stripChars, keep chars first, keep chars.reverse (by simpa [List.head?_reverse] using last),
    List.reverse_reverse]

/-- A character stripping removes, added at the end, changes nothing. -/
theorem stripChars_append_space {isSpace : Char → Bool} {c : Char} (space : isSpace c = true)
    (chars : List Char) : stripChars isSpace (chars ++ [c]) = stripChars isSpace chars := by
  rw [stripChars, stripChars, List.dropWhile_append]
  cases chars.dropWhile isSpace <;> simp [space]

/-- `strip()` leaves a string alone when neither end is whitespace. -/
theorem pyStrip_eq_self {s : String} (first : ∀ c ∈ s.data.head?, isPySpace c = false)
    (last : ∀ c ∈ s.data.getLast?, isPySpace c = false) : pyStrip s = s := by
  rw [pyStrip, stripChars_eq_self first last]

/-- A digit is not whitespace. -/
theorem isPySpace_of_isDigit {c : Char} (digit : c.isDigit = true) : isPySpace c = false := by
  simp only [Char.isDigit, Bool.and_eq_true, decide_eq_true_eq] at digit
  have low : 48 ≤ c.toNat := digit.1
  have high : c.toNat ≤ 57 := digit.2
  simp only [isPySpace, Bool.or_eq_false_iff, Bool.and_eq_false_imp, decide_eq_true_eq,
    decide_eq_false_iff_not, not_le, beq_eq_false_iff_ne, ne_eq]
  omega

/-- `str(n)` is a non-empty run of digits, none of them whitespace, a comma
or an underscore, that reads back as `n`; it has at most `intMaxStrDigits`
digits when `n < 10 ^ intMaxStrDigits`. -/
theorem toString_digits (n : Nat) : ∃ c rest, (toString n).data = c :: rest ∧
    (∀ d ∈ c :: rest, d.isDigit = true ∧ isPySpace d = false ∧ d ≠ ',' ∧ d ≠ '_') ∧
    (c :: rest).foldl (fun acc c => 10 * acc + digitValue c) 0 = n ∧
    (n < 10 ^ intMaxStrDigits → (c :: rest).length ≤ intMaxStrDigits) := by
  obtain ⟨digits, spelled, nonempty, allDigits, read, short⟩ :=
    toDigitsCore_ten (n + 1) n [] (by omega)
  obtain ⟨c, rest, rfl⟩ := List.exists_cons_of_ne_nil nonempty
  refine ⟨c, rest, by rw [← List.append_nil (c :: rest), ← spelled]; rfl, fun d member => ?_, read,
    short intMaxStrDigits (by decide)⟩
  obtain ⟨k, below, rfl⟩ := allDigits d member
  exact ⟨(digitChar_spec k below).1, (digitChar_spec k below).2.2⟩

/-- `int(str(n)) == n` for every `n` of at most `intMaxStrDigits` digits. -/
theorem pyInt_toString {n : Nat} (small : n < 10 ^ intMaxStrDigits) :
    pyInt (toString n) = some (n : Int) := by
  obtain ⟨c, rest, data, spec, read, short⟩ := toString_digits n
  have notSpace : ∀ d ∈ c :: rest, isIntSpace d = false := fun d member => by
    simp [isIntSpace, (spec d member).2.1]
  have stripped : stripChars isIntSpace (c :: rest) = c :: rest := stripChars_eq_self
    (fun d member => notSpace d (List.mem_of_mem_head? member))
    (fun d member => notSpace d (List.mem_of_mem_getLast? member))
  have kept : (c :: rest).filter (· != '_') = c :: rest :=
    List.filter_eq_self.mpr fun d member => by simp [(spec d member).2.2.2]
  have first := (spec c (List.mem_cons_self _ _)).1
  have restDigits : ∀ d ∈ rest, d.isDigit = true := fun d member =>
    (spec d (List.mem_cons_of_mem _ member)).1
  rw [pyInt, data, stripped]
  split
  next heq => exact absurd ((List.cons.inj heq).1 ▸ first) (by decide)
  next heq => exact absurd ((List.cons.inj heq).1 ▸ first) (by decide)
  next =>
    simp only [List.foldl_cons, Nat.mul_zero, Nat.zero_add] at read
    rw [literalValue, kept, if_neg (not_lt.mpr (short small))]
    simp [digitsValue, decimalValue?_of_isDigit first, digitsTail_of_isDigit _ _ restDigits, read]

/-! ## `min` and `max`

Python's `min` and `max` walk the items once and replace the running extreme
only on a strict improvement, so the first extreme item is returned. Called
without a key they compare the items themselves, which is `key = id`. -/

section Extremes

variable {α β : Type} [LinearOrder β] (key : α → β)

/-- `min([first, *rest], key=key)`. -/
def minBy (first : α) (rest : List α) : α :=
  rest.foldl (fun current item => if key item < key current then item else current) first

/-- `max([first, *rest], key=key)`. -/
def maxBy (first : α) (rest : List α) : α :=
  rest.foldl (fun current item => if key current < key item then item else current) first

private theorem foldl_argAux_some (better : α → α → Prop) [DecidableRel better]
    (start : α) (rest : List α) :
    rest.foldl (List.argAux better) (some start) =
      some (rest.foldl (fun current item => if better item current then item else current)
        start) := by
  induction rest generalizing start with
  | nil => rfl
  | cons item rest inductionHypothesis =>
      simp only [List.foldl_cons, List.argAux]
      split <;> exact inductionHypothesis _

/-- Python's `min` is Mathlib's `argmin`, the first item of minimal key. -/
theorem argmin_eq_minBy (first : α) (rest : List α) :
    (first :: rest).argmin key = some (minBy key first rest) :=
  foldl_argAux_some _ first rest

/-- Python's `max` is Mathlib's `argmax`, the first item of maximal key. -/
theorem argmax_eq_maxBy (first : α) (rest : List α) :
    (first :: rest).argmax key = some (maxBy key first rest) :=
  foldl_argAux_some _ first rest

/-- `min` returns one of the items. -/
theorem minBy_mem (first : α) (rest : List α) : minBy key first rest ∈ first :: rest :=
  List.argmin_mem (argmin_eq_minBy key first rest)

/-- `max` returns one of the items. -/
theorem maxBy_mem (first : α) (rest : List α) : maxBy key first rest ∈ first :: rest :=
  List.argmax_mem (argmax_eq_maxBy key first rest)

/-- No item is below what `min` returns. -/
theorem minBy_le {first : α} {rest : List α} {item : α} (member : item ∈ first :: rest) :
    key (minBy key first rest) ≤ key item :=
  List.le_of_mem_argmin member (argmin_eq_minBy key first rest)

/-- No item is above what `max` returns. -/
theorem le_maxBy {first : α} {rest : List α} {item : α} (member : item ∈ first :: rest) :
    key item ≤ key (maxBy key first rest) :=
  List.le_of_mem_argmax member (argmax_eq_maxBy key first rest)

/-- The least key `min` finds depends only on the items, not on their order. -/
theorem key_minBy_eq_of_perm {first first' : α} {rest rest' : List α}
    (reordered : (first :: rest).Perm (first' :: rest')) :
    key (minBy key first rest) = key (minBy key first' rest') :=
  le_antisymm
    (minBy_le key (reordered.mem_iff.mpr (minBy_mem key first' rest')))
    (minBy_le key (reordered.mem_iff.mp (minBy_mem key first rest)))

/-- The greatest key `max` finds depends only on the items. -/
theorem key_maxBy_eq_of_perm {first first' : α} {rest rest' : List α}
    (reordered : (first :: rest).Perm (first' :: rest')) :
    key (maxBy key first rest) = key (maxBy key first' rest') :=
  le_antisymm
    (le_maxBy key (reordered.mem_iff.mp (maxBy_mem key first rest)))
    (le_maxBy key (reordered.mem_iff.mpr (maxBy_mem key first' rest')))

end Extremes

/-- Without a key, `min` of a list is the one value that belongs to it and is
below all of its items, so it depends only on the items and not their order. -/
theorem minBy_id_eq_of_perm {first first' : Int} {rest rest' : List Int}
    (reordered : (first :: rest).Perm (first' :: rest')) :
    minBy id first rest = minBy id first' rest' :=
  le_antisymm
    (minBy_le id (reordered.mem_iff.mpr (minBy_mem id first' rest')))
    (minBy_le id (reordered.mem_iff.mp (minBy_mem id first rest)))

/-- Without a key, `max` of a list depends only on its items. -/
theorem maxBy_id_eq_of_perm {first first' : Int} {rest rest' : List Int}
    (reordered : (first :: rest).Perm (first' :: rest')) :
    maxBy id first rest = maxBy id first' rest' :=
  le_antisymm
    (le_maxBy id (reordered.mem_iff.mp (maxBy_mem id first rest)))
    (le_maxBy id (reordered.mem_iff.mpr (maxBy_mem id first' rest')))

/-! ## True division -/

/-- `a / b`: `ZeroDivisionError` on a zero divisor, otherwise the exact
quotient, which the script's float rounds. -/
def pyDiv (a b : ℚ) : Except PyError ℚ :=
  if b = 0 then .error .zeroDivisionError else .ok (a / b)

@[simp] theorem pyDiv_zero (a : ℚ) : pyDiv a 0 = .error .zeroDivisionError := by
  simp [pyDiv]

@[simp] theorem pyDiv_of_ne_zero {a b : ℚ} (nonzero : b ≠ 0) : pyDiv a b = .ok (a / b) := by
  simp [pyDiv, nonzero]

/-- `-2 ^ 53 < x < 2 ^ 53`, the range of the integers a binary64 float holds exactly.
On counters of this range no quotient the scripts take leaves float range or
underflows to `0.0`, and no integer is too long for `str`, so a script raises
nothing the exact model does not; beyond it `int / int` can raise
`OverflowError`. -/
def InFloatRange (x : ℚ) : Prop :=
  -2 ^ 53 < x ∧ x < 2 ^ 53

instance : DecidablePred InFloatRange := fun x =>
  inferInstanceAs (Decidable (-2 ^ 53 < x ∧ x < 2 ^ 53))

end PulsarMemory.Python
