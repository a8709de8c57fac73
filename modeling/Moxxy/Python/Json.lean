import Mathlib.Data.List.Dedup
import Moxxy.Python.Float

/-!
The values `json.loads` returns, and what Python does with one when the bridge reads its
arguments: truth, indexing, `len`, `int()`, `str()` and `dict.get`.
-/

namespace Moxxy

/--
A value as `json.loads` returns it: `None`, a bool, an int (a number literal with neither fraction
nor exponent), a float, a string, a list or a dict. A dict keeps its members in the order of the
text; as in Python's dict, a repeated key reads as its last value.
-/
inductive Json where
  | null
  | bool (value : Bool)
  | int (value : Int)
  | float (value : PyFloat)
  | string (value : String)
  | array (items : List Json)
  | object (members : List (String × Json))
  deriving Repr

namespace Json

mutual

/-- Equality of two values, decided constructor by constructor. -/
def decEq : (a b : Json) → Decidable (a = b)
  | .null, .null => isTrue rfl
  | .bool x, .bool y => decidable_of_iff (x = y) ⟨congrArg _, bool.inj⟩
  | .int x, .int y => decidable_of_iff (x = y) ⟨congrArg _, int.inj⟩
  | .float x, .float y => decidable_of_iff (x = y) ⟨congrArg _, float.inj⟩
  | .string x, .string y => decidable_of_iff (x = y) ⟨congrArg _, string.inj⟩
  | .array xs, .array ys =>
    match decEqItems xs ys with
    | isTrue same => isTrue (congrArg _ same)
    | isFalse differ => isFalse fun same => differ (array.inj same)
  | .object xs, .object ys =>
    match decEqMembers xs ys with
    | isTrue same => isTrue (congrArg _ same)
    | isFalse differ => isFalse fun same => differ (object.inj same)
  | .null, .bool _ | .null, .int _ | .null, .float _ | .null, .string _ | .null, .array _
  | .null, .object _ | .bool _, .null | .bool _, .int _ | .bool _, .float _ | .bool _, .string _
  | .bool _, .array _ | .bool _, .object _ | .int _, .null | .int _, .bool _ | .int _, .float _
  | .int _, .string _ | .int _, .array _ | .int _, .object _ | .float _, .null | .float _, .bool _
  | .float _, .int _ | .float _, .string _ | .float _, .array _ | .float _, .object _
  | .string _, .null | .string _, .bool _ | .string _, .int _ | .string _, .float _
  | .string _, .array _ | .string _, .object _ | .array _, .null | .array _, .bool _
  | .array _, .int _ | .array _, .float _ | .array _, .string _ | .array _, .object _
  | .object _, .null | .object _, .bool _ | .object _, .int _ | .object _, .float _
  | .object _, .string _ | .object _, .array _ => isFalse fun same => Json.noConfusion same

/-- Equality of two lists of values. -/
def decEqItems : (xs ys : List Json) → Decidable (xs = ys)
  | [], [] => isTrue rfl
  | x :: xs, y :: ys =>
    match decEq x y, decEqItems xs ys with
    | isTrue head, isTrue tail => isTrue (head ▸ tail ▸ rfl)
    | isFalse differ, _ => isFalse fun same => differ (List.cons.inj same).1
    | _, isFalse differ => isFalse fun same => differ (List.cons.inj same).2
  | [], _ :: _ | _ :: _, [] => isFalse List.noConfusion

/-- Equality of two lists of dict members. -/
def decEqMembers : (xs ys : List (String × Json)) → Decidable (xs = ys)
  | [], [] => isTrue rfl
  | (k, x) :: xs, (l, y) :: ys =>
    match decEq x y, decEqMembers xs ys with
    | isTrue head, isTrue tail =>
      if keys : k = l then isTrue (keys ▸ head ▸ tail ▸ rfl)
      else isFalse fun same => keys (Prod.mk.inj (List.cons.inj same).1).1
    | isFalse differ, _ => isFalse fun same => differ (Prod.mk.inj (List.cons.inj same).1).2
    | _, isFalse differ => isFalse fun same => differ (List.cons.inj same).2
  | [], _ :: _ | _ :: _, [] => isFalse List.noConfusion

end

instance : DecidableEq Json := decEq

/-- `type(value).__name__`. -/
def typeName : Json → String
  | .null => "NoneType"
  | .bool _ => "bool"
  | .int _ => "int"
  | .float _ => "float"
  | .string _ => "str"
  | .array _ => "list"
  | .object _ => "dict"

/-- `bool(value)`: `None`, false, zero, and the empty string, list and dict are false. -/
def truthy : Json → Bool
  | .null => false
  | .bool value => value
  | .int value => value != 0
  | .float value => value.truthy
  | .string value => !value.isEmpty
  | .array items => !items.isEmpty
  | .object members => !members.isEmpty

/--
`value[index]`: an item of a list, a one-character string of a string, and for a dict the key
`index`, which no dict from JSON holds, its keys being strings.
-/
def getItem (value : Json) (index : Nat) : Except PyException Json :=
  match value with
  | .array items =>
    match items.get? index with
    | some item => .ok item
    | none => .error (.indexError "list index out of range")
  | .string text =>
    match text.toList.get? index with
    | some c => .ok (.string (String.singleton c))
    | none => .error (.indexError "string index out of range")
  | .object _ => .error (.keyError (toString index))
  | other => .error (.typeError s!"'{other.typeName}' object is not subscriptable")

/-- `len(value)`: of a list, a string (in characters) or a dict (in distinct keys). -/
def pyLen : Json → Except PyException Nat
  | .array items => .ok items.length
  | .string text => .ok text.length
  | .object members => .ok (members.map Prod.fst).dedup.length
  | other => .error (.typeError s!"object of type '{other.typeName}' has no len()")

/-- A value that `value[0]` reads from is true: a non-empty list or string. -/
theorem truthy_of_getItem {value item : Json} (first : value.getItem 0 = .ok item) :
    value.truthy = true := by
  cases value with
  | array items => cases items <;> simp_all [getItem, truthy]
  | string text =>
    obtain ⟨chars⟩ := text
    cases chars <;> simp_all [getItem, truthy, isEmpty_eq_data]
  | _ => simp [getItem] at first

/-- A value that `value[0]` reads from has an item at every index below its length. -/
theorem getItem_of_lt {value item : Json} {n i : Nat} (first : value.getItem 0 = .ok item)
    (len : value.pyLen = .ok n) (within : i < n) : ∃ other, value.getItem i = .ok other := by
  cases value <;> simp only [getItem, pyLen, Except.ok.injEq, reduceCtorEq] at first len
  case array items =>
    subst len
    exact ⟨items[i], by simp [getItem, within]⟩
  case string text =>
    subst len
    exact ⟨.string (String.singleton text.data[i]),
      by simp [getItem, List.getElem?_eq_getElem (show i < text.data.length from within)]⟩

/--
`data.get(key, default)`: a dict's last value for the key, or the default; no other value has a
`get`.
-/
def get (data : Json) (key : String) (default : Json) : Except PyException Json :=
  match data with
  | .object members => .ok ((members.reverse.lookup key).getD default)
  | other =>
    let name := other.typeName
    .error (.attributeError s!"'{name}' object has no attribute 'get'")

end Json

/--
What `int(value)` does to a value from a request, with `str(value)` where the bridge goes on to
print it: the number, the ValueError that `except ValueError` catches, or another exception.
-/
inductive IntRead where
  | value (number : Int) (shown : String)
  | invalid (shown : String)
  | raises (exception : PyException)

namespace Json

/--
`int(value)`: a bool is 0 or 1, a float is truncated, a string is parsed; `None`, a list and a dict
are refused with a TypeError. With it, `str(value)` of the values it takes.
-/
def readInt : Json → IntRead
  | .bool value => .value (if value then 1 else 0) (if value then "True" else "False")
  | .int value => .value value (toString value)
  | .float value =>
    match value.toInt with
    | .ok number => .value number value.repr
    | .error (.valueError _) => .invalid value.repr
    | .error raised => .raises raised
  | .string text =>
    match pyInt text with
    | some number => .value number text
    | none => .invalid text
  | other =>
    let name := other.typeName
    .raises (.typeError
      s!"int() argument must be a string, a bytes-like object or a real number, not '{name}'")

/--
What playwright answers a call that sends `value` as a text (to fill, to type, or to evaluate):
the call's reply `α` for a string, and nothing for any other value, which playwright's check of
the call's parameters refuses with an error.
-/
@[reducible] def Accepts : Json → Type → Type
  | .string _, α => α
  | _, _ => Empty

/-- The reply to a call playwright accepted. -/
def accepted {α : Type} : (value : Json) → value.Accepts α → α
  | .string _, reply => reply
  | .null, reply | .bool _, reply | .int _, reply | .float _, reply | .array _, reply
  | .object _, reply => nomatch reply

/-- The text of a call playwright accepted, which was a string. -/
def acceptedText {α : Type} : (value : Json) → value.Accepts α → String
  | .string text, _ => text
  | .null, reply | .bool _, reply | .int _, reply | .float _, reply | .array _, reply
  | .object _, reply => nomatch reply

end Json

example : (Json.array [.string "1"]).getItem 0 = .ok (.string "1") := rfl
example : (Json.string "12").getItem 1 = .ok (.string "2") := rfl
example : (Json.object [("a", .int 1)]).getItem 0 = .error (.keyError "0") := rfl
example : (Json.int 5).getItem 0 = .error (.typeError "'int' object is not subscriptable") := rfl
example :
    Json.array [.int 1, .object [("a", .null)]] ≠ .array [.int 1, .object [("a", .int 0)]] := by
  decide

end Moxxy
