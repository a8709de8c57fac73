import Mathlib.Data.List.Basic
import Mathlib.Data.String.Basic

/-!
The Python builtins the skills lean on: exceptions and their text, whitespace, `strip` and `int`.
-/

namespace Moxxy

/-- An exception raised while the bridge runs, by the driver or by Python itself. -/
inductive PyException where
  /--
  What a driver call raises: playwright's `Error` and `TimeoutError`, or an exception of
  playwright's own Python side, such as the `RecursionError` of converting a tree nested deeper
  than the recursion limit. The bridge only ever prints its text.
  -/
  | playwright (message : String)
  /-- `KeyError`, carrying the repr of the missing key. -/
  | keyError (key : String)
  /-- `AttributeError`, as reading `.get` or `.new_context` off the wrong object raises. -/
  | attributeError (message : String)
  /-- `TypeError`, as iterating over a value that is not a sequence raises. -/
  | typeError (message : String)
  /-- `RuntimeError`, as a dictionary changed during iteration raises. -/
  | runtimeError (message : String)
  /-- `ValueError`, as `int()` raises on a text that is not a number. -/
  | valueError (message : String)
  /-- `OverflowError`, as `int()` raises on an infinite float. -/
  | overflowError (message : String)
  /-- `IndexError`, as indexing past the end of a list or a string raises. -/
  | indexError (message : String)
  /-- `RecursionError`, as `json.loads` raises on a text nested too deep. -/
  | recursionError (message : String)
  deriving DecidableEq, Repr

/-- `str(e)`, which every `f"...{e}"` of the source prints. -/
def PyException.str : PyException → String
  | .playwright message => message
  | .keyError key => key
  | .attributeError message => message
  | .typeError message => message
  | .runtimeError message => message
  | .valueError message => message
  | .overflowError message => message
  | .indexError message => message
  | .recursionError message => message

/-- The characters `str.isspace` accepts, which are also those `\s`, `strip()` and `int()` skip. -/
def isSpace (c : Char) : Bool :=
  let n := c.toNat
  (0x09 ≤ n && n ≤ 0x0D) || (0x1C ≤ n && n ≤ 0x20) || n == 0x85 || n == 0xA0 || n == 0x1680 ||
    (0x2000 ≤ n && n ≤ 0x200A) || n == 0x2028 || n == 0x2029 || n == 0x202F || n == 0x205F ||
    n == 0x3000

/-- `s.strip()`: the text without whitespace at either end. -/
def pyStrip (s : String) : String :=
  ⟨((s.toList.dropWhile isSpace).reverse.dropWhile isSpace).reverse⟩

/--
`s.lower()` on a tag name. `HTMLParser` hands over names it has lower-cased already, and on those
both Python's case mapping and this one, which maps only `A`-`Z`, change nothing.
-/
def pyLower (s : String) : String := ⟨s.data.map Char.toLower⟩

/-- `s.startswith(prefix)`. -/
def pyStartsWith (s pre : String) : Bool := pre.data.isPrefixOf s.data

/-- `sub in s` on texts: `sub` starts at some position of `s`, the end included. -/
def pyContains (s sub : String) : Bool :=
  (List.range (s.length + 1)).any fun i => sub.data.isPrefixOf (s.data.drop i)

/--
The code points of the digit zero of every script, in Unicode 14.0 (the database of CPython 3.11):
each is followed by the nine other digits of its script.
-/
def decimalZeros : List Nat :=
  [0x30, 0x660, 0x6F0, 0x7C0, 0x966, 0x9E6, 0xA66, 0xAE6, 0xB66, 0xBE6, 0xC66, 0xCE6, 0xD66,
    0xDE6, 0xE50, 0xED0, 0xF20, 0x1040, 0x1090, 0x17E0, 0x1810, 0x1946, 0x19D0, 0x1A80, 0x1A90,
    0x1B50, 0x1BB0, 0x1C40, 0x1C50, 0xA620, 0xA8D0, 0xA900, 0xA9D0, 0xA9F0, 0xAA50, 0xABF0, 0xFF10,
    0x104A0, 0x10D30, 0x11066, 0x110F0, 0x11136, 0x111D0, 0x112F0, 0x11450, 0x114D0, 0x11650,
    0x116C0, 0x11730, 0x118E0, 0x11950, 0x11C50, 0x11D50, 0x11DA0, 0x16A60, 0x16AC0, 0x16B50,
    0x1D7CE, 0x1D7D8, 0x1D7E2, 0x1D7EC, 0x1D7F6, 0x1E140, 0x1E2F0, 0x1E950, 0x1FBF0]

/-- The decimal value `int()` reads a character as: the digits of every script count. -/
def decimalValue (c : Char) : Option Nat :=
  (decimalZeros.find? fun base => base ≤ c.toNat && c.toNat < base + 10).map (c.toNat - ·)

/-- `sys.get_int_max_str_digits()` at its default: `int()` refuses a text with more digits. -/
def maxStrDigits : Nat := 4300

/-- Two underscores in a row, which `int()` refuses. -/
def doubledUnderscore (cs : List Char) : Bool :=
  (cs.zip cs.tail).any fun pair => pair.1 == '_' && pair.2 == '_'

/-- The value of a run of decimal digits with single underscores between them. -/
def digitsValue (cs : List Char) : Option Nat :=
  -- Python refuses an empty run, a leading or trailing underscore, two underscores together, and
  -- more digits than the limit.
  if cs.isEmpty || cs.head? == some '_' || cs.getLast? == some '_' || doubledUnderscore cs ||
      cs.any (fun c => (decimalValue c).isNone && c != '_') ||
      maxStrDigits < (cs.filter (· != '_')).length then none
  else some ((cs.filterMap decimalValue).foldl (fun n d => 10 * n + d) 0)

/-- `int(s)` for a string, with `none` where Python raises ValueError. -/
def pyInt (s : String) : Option Int :=
  match (pyStrip s).toList with
  | '-' :: rest => (digitsValue rest).map fun n => -(n : Int)
  | '+' :: rest => (digitsValue rest).map fun n => (n : Int)
  | cs => (digitsValue cs).map fun n => (n : Int)

/-- Interpolating a string into an f-string inserts it as it is. -/
@[simp] theorem toString_string (s : String) : toString s = s := rfl

/-- A string is empty exactly when it has no characters, which is Python's falsy string. -/
theorem isEmpty_eq_data (s : String) : s.isEmpty = s.data.isEmpty := by
  -- Both sides test the same thing: that the string is `""`.
  rw [Bool.eq_iff_iff, String.isEmpty_iff, List.isEmpty_iff, String.ext_iff]

/-- Joining with a separator puts it in front of every item after the first. -/
theorem intercalate_cons_eq {α : Type} (sep a : List α) (l : List (List α)) :
    List.intercalate sep (a :: l) = a ++ (l.map (sep ++ ·)).flatten := by
  -- The separator goes between the first item and the join of the rest.
  induction l generalizing a with
  | nil => simp [List.intercalate]
  | cons b l ih =>
    have rest := ih b
    simp only [List.intercalate, List.intersperse_cons₂, List.flatten_cons] at rest ⊢
    simp [rest]

/-- The accumulating loop of `String.intercalate` appends the separator and each remaining item. -/
private theorem intercalate_go_data (acc s : String) (l : List String) :
    (String.intercalate.go acc s l).data =
      acc.data ++ (l.map (fun b => s.data ++ b.data)).flatten := by
  induction l generalizing acc with
  | nil => simp [String.intercalate.go]
  | cons b l ih => simp [String.intercalate.go, ih]

/-- `sep.join(lines)` is the characters of the lines with the separator between them. -/
theorem intercalate_data (s : String) (l : List String) :
    (s.intercalate l).data = List.intercalate s.data (l.map String.data) := by
  -- Both sides put the separator in front of every line after the first.
  cases l with
  | nil => rfl
  | cons a l =>
    simp only [String.intercalate, intercalate_go_data, List.map_cons, intercalate_cons_eq,
      List.map_map]
    rfl

example : pyInt " 12 " = some 12 := by decide
example : pyInt "-1_0" = some (-10) := by decide
example : pyInt "1__0" = none := by decide
example : pyInt "abc" = none := by decide
example : pyInt "\u0663\u0661" = some 31 := by decide

end Moxxy
