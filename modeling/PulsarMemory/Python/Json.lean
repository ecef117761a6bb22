import PulsarMemory.Python.Builtins

/-!
# Decoded JSON values

`analyze_file` reads its stats file with `json.load` and then works on the
Python values that produces. `Json` is that value: `None`, a `bool`, an
`int`, a `str`, a `list` or a `dict`. The operations are the ones
`analyze_file` applies to it, each with the exception Python raises when the
value is of the wrong kind.

JSON numbers with a fraction or an exponent (Python floats) are not values
of the model. Comparisons are Python's: `==` never raises and compares lists
item by item and dicts as mappings; `<` compares numbers, strings, and lists
item by item, and raises `TypeError` on every other pair.
-/

namespace PulsarMemory.Python

/-- A value produced by `json.load`. An object keeps its entries in file
order, duplicated keys included. -/
inductive Json where
  | null
  | bool (value : Bool)
  | int (value : Int)
  | str (value : String)
  | arr (items : List Json)
  | obj (fields : List (String × Json))

namespace Json

/-- Python truthiness: `None`, `False`, `0`, `""`, `[]` and `{}` are false. -/
def truthy : Json → Bool
  | .null => false
  | .bool value => value
  | .int value => value != 0
  | .str value => !value.isEmpty
  | .arr items => !items.isEmpty
  | .obj fields => !fields.isEmpty

/-- The value of a number in arithmetic and comparisons. A `bool` is an `int`
in Python, `True` counting as `1`. -/
def number? : Json → Option Int
  | .int value => some value
  | .bool value => some (if value then 1 else 0)
  | _ => none

/-- `value[key]`: the entry of a `dict` (the last one when `key` repeats, as
`json.load` keeps the last), `KeyError` when there is none, and `TypeError`
on any other kind of value. -/
def getItem (value : Json) (key : String) : Except PyError Json :=
  match value with
  | .obj fields =>
      match fields.reverse.lookup key with
      | some entry => .ok entry
      | none => .error (.keyError key)
  | _ => .error .typeError

/-- `for item in value`: the items of a `list`, the distinct keys of a `dict`
and the characters of a `str`; other values raise `TypeError`. -/
def iter : Json → Except PyError (List Json)
  | .arr items => .ok items
  | .obj fields => .ok ((fields.map Prod.fst).eraseDups.map .str)
  | .str value => .ok (value.data.map fun c => .str (String.singleton c))
  | _ => .error .typeError

end Json

/-- The last entry of `key` in a dict's entries: the value `json.load` keeps. -/
def lastEntry (fields : List (String × Json)) (key : String) : Option Json :=
  fields.reverse.lookup key

mutual

/-- `a == b`: numbers by value, strings by content, lists item by item, and
dicts as mappings, with the same keys and equal values; values of other
kinds are unequal. It never raises. -/
def pyEq : Json → Json → Bool
  | .null, .null => true
  | .str s, .str t => s == t
  | .arr items, .arr items' => pyEqList items items'
  | .obj fields, .obj fields' =>
      (fields.map Prod.fst).eraseDups.length == (fields'.map Prod.fst).eraseDups.length &&
        pyEqFields fields fields'
  | a, b =>
      match a.number?, b.number? with
      | some m, some n => m == n
      | _, _ => false

/-- Two lists are equal when they have the same length and equal items. -/
def pyEqList : List Json → List Json → Bool
  | [], [] => true
  | item :: items, item' :: items' => pyEq item item' && pyEqList items items'
  | _, _ => false

/-- Every key of the first dict is in the second, with an equal value. An
entry whose key comes again later is not the dict's value and is passed
over. -/
def pyEqFields : List (String × Json) → List (String × Json) → Bool
  | [], _ => true
  | (key, value) :: rest, fields' =>
      (rest.any (·.1 == key) ||
        match lastEntry fields' key with
        | some value' => pyEq value value'
        | none => false) &&
      pyEqFields rest fields'

end

mutual

/-- `a < b`: numbers compare by value, strings code point by code point and
lists item by item; every other pair raises `TypeError`. -/
def pyLt : Json → Json → Except PyError Bool
  | .str s, .str t => .ok (pyStrLt s t)
  | .arr items, .arr items' => pyLtList items items'
  | a, b =>
      match a.number?, b.number? with
      | some m, some n => .ok (decide (m < n))
      | _, _ => .error .typeError

/-- List comparison: the first pair of items that are not equal decides, and
a list that runs out first is the smaller. -/
def pyLtList : List Json → List Json → Except PyError Bool
  | item :: items, item' :: items' =>
      if pyEq item item' then pyLtList items items' else pyLt item item'
  | items, items' => .ok (decide (items.length < items'.length))

end

/-- `a / b` on decoded values: the quotient of two numbers, `TypeError` when
either is not a number. -/
def pyTrueDiv (a b : Json) : Except PyError ℚ :=
  match a.number?, b.number? with
  | some m, some n => pyDiv m n
  | _, _ => .error .typeError

@[simp] theorem pyLt_int (m n : Int) : pyLt (.int m) (.int n) = .ok (decide (m < n)) := rfl

/-- Two lists of integers compare lexicographically. -/
theorem pyLt_ints (values values' : List Int) :
    pyLt (.arr (values.map .int)) (.arr (values'.map .int)) =
      .ok (decide (List.Lex (· < ·) values values')) := by
  show pyLtList _ _ = _
  induction values generalizing values' with
  | nil => cases values' <;> simp [pyLtList, List.Lex.nil]
  | cons value values inductionHypothesis =>
      cases values' with
      | nil => simp [pyLtList]
      | cons value' values' =>
          by_cases same : value = value'
          · subst same
            simp [pyLtList, pyEq, Json.number?, inductionHypothesis, List.Lex.cons_iff]
          · have decided : List.Lex (· < ·) (value :: values) (value' :: values') ↔ value < value' :=
              ⟨fun | .cons _ => absurd rfl same | .rel less => less, .rel⟩
            simp [pyLtList, pyEq, Json.number?, same, decided]


@[simp] theorem pyTrueDiv_int (m n : Int) : pyTrueDiv (.int m) (.int n) = pyDiv m n := rfl

end PulsarMemory.Python
