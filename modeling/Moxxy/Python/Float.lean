import Moxxy.Python.Builtins

/-!
Python's floats as `json.loads` makes them: binary64 words, and the three things the bridge does
with one, `int()`, truth and `str()`.
-/

namespace Moxxy

/-- A Python float: the IEEE 754 binary64 word CPython stores. -/
structure PyFloat where
  bits : UInt64
  deriving DecidableEq, Repr

/-- What a binary64 word stands for: `± significand · 2 ^ exponent`, an infinity, or NaN. -/
inductive FloatValue where
  | finite (negative : Bool) (significand : Nat) (exponent : Int)
  | infinite (negative : Bool)
  | nan

namespace PyFloat

/-- The sign bit. -/
def negative (x : PyFloat) : Bool := x.bits.toNat / 2 ^ 63 == 1

/-- The eleven exponent bits. -/
def exponentField (x : PyFloat) : Nat := x.bits.toNat / 2 ^ 52 % 2 ^ 11

/-- The fifty-two fraction bits. -/
def fraction (x : PyFloat) : Nat := x.bits.toNat % 2 ^ 52

/--
The value of the word: subnormal for exponent field 0, normal up to 2046, and for 2047 an infinity
or, whatever the payload, NaN.
-/
def value (x : PyFloat) : FloatValue :=
  if x.exponentField = 2047 then
    if x.fraction = 0 then .infinite x.negative else .nan
  else if x.exponentField = 0 then .finite x.negative x.fraction (-1074)
  else .finite x.negative (2 ^ 52 + x.fraction) (x.exponentField - 1075)

/-- `bool(x)`: false for the two zeros only. -/
def truthy (x : PyFloat) : Bool :=
  match x.value with
  | .finite _ significand _ => significand != 0
  | _ => true

/-- `int(x)`: the value truncated toward zero; an infinity and NaN have none. -/
def toInt (x : PyFloat) : Except PyException Int :=
  match x.value with
  | .finite negative significand exponent =>
    let magnitude : Nat :=
      if 0 ≤ exponent then significand * 2 ^ exponent.toNat
      else significand / 2 ^ (-exponent).toNat
    .ok (if negative then -(magnitude : Int) else magnitude)
  | .infinite _ => .error (.overflowError "cannot convert float infinity to integer")
  | .nan => .error (.valueError "cannot convert float NaN to integer")

end PyFloat

/-- The number of decimal digits of `n`. -/
def decimalLength (n : Nat) : Nat := (toString n).length

/--
A finite positive double `significand · 2 ^ exponent` in integers: its value and the reach of its
rounding interval, all in units of `2 ^ (exponent - 2)` over the denominator `scale`. The interval
reaches half the gap to each neighbour, and below a power of two the gap is half as wide.
-/
structure Interval where
  value : Nat
  below : Nat
  above : Nat
  scale : Nat
  /-- Whether the ends belong to it: a tie rounds to the even significand. -/
  closed : Bool

/-- The rounding interval of `significand · 2 ^ exponent`. -/
def Interval.of (significand : Nat) (exponent : Int) : Interval :=
  let narrow := significand = 2 ^ 52 ∧ -1074 < exponent
  let unit := exponent - 2
  let grow := 2 ^ unit.toNat
  ⟨4 * significand * grow, (if narrow then 1 else 2) * grow, 2 * grow, 2 ^ (-unit).toNat,
    significand % 2 == 0⟩

/--
The decimal `digits · 10 ^ power` reads back as the double: it lies in the rounding interval,
compared in integers scaled by `10 ^ |power|`.
-/
def Interval.holds (i : Interval) (digits : Nat) (power : Int) : Bool :=
  let candidate := digits * 10 ^ power.toNat * i.scale
  let low := (i.value - i.below) * 10 ^ (-power).toNat
  let high := (i.value + i.above) * 10 ^ (-power).toNat
  if i.closed then low ≤ candidate && candidate ≤ high else low < candidate && candidate < high

/-- The distance from `digits · 10 ^ power` to the double, in the same scaled integers. -/
def Interval.distance (i : Interval) (digits : Nat) (power : Int) : Nat :=
  let candidate := digits * 10 ^ power.toNat * i.scale
  let value := i.value * 10 ^ (-power).toNat
  if candidate ≤ value then value - candidate else candidate - value

/-- The largest `digits` with `digits · 10 ^ power` at most the double. -/
def Interval.floor (i : Interval) (power : Int) : Nat :=
  i.value * 10 ^ (-power).toNat / (10 ^ power.toNat * i.scale)

/--
The decimal exponent of the double's leading digit, `⌊log₁₀ (significand · 2 ^ exponent)⌋`, read
off the digits of the value scaled by `10 ^ 400`, past the smallest subnormal.
-/
def leadingPower (significand : Nat) (exponent : Int) : Int :=
  if 0 ≤ exponent then decimalLength (significand * 2 ^ exponent.toNat) - 1
  else (decimalLength (significand * 10 ^ 400 / 2 ^ (-exponent).toNat) : Int) - 1 - 400

/--
The decimal of `precision` significant digits that reads back as the double, if there is one: of
the two neighbours of the double on that grid, those in the rounding interval, the nearer first
and the even one on a tie.
-/
def roundTripAt (significand : Nat) (exponent : Int) (precision : Nat) : Option (Nat × Int) :=
  let i := Interval.of significand exponent
  let power := leadingPower significand exponent + 1 - precision
  let down := i.floor power
  let up := down + 1
  match i.holds down power, i.holds up power with
  | true, true =>
    let d := i.distance down power
    let u := i.distance up power
    if d < u || (d == u && down % 2 == 0) then some (down, power) else some (up, power)
  | true, false => some (down, power)
  | false, true => some (up, power)
  | false, false => none

/--
The shortest decimal that reads back as the double, and the nearest of those: the first precision,
up to the seventeen digits that always suffice, at which one does.
-/
def shortestDecimal (significand : Nat) (exponent : Int) : Nat × Int :=
  ((List.range 17).findSome? fun precision => roundTripAt significand exponent (precision + 1)).getD
    (significand, exponent)

/-- The digits of `n` without its trailing zeros. -/
def stripZeros (n : Nat) : String :=
  ⟨((toString n).toList.reverse.dropWhile (· == '0')).reverse⟩

/-- `n` zeros. -/
def zeros (n : Nat) : String := ⟨List.replicate n '0'⟩

/-- `"%+.02d"`: the exponent with its sign and at least two digits. -/
def exponentText (e : Int) : String :=
  let digits := toString e.natAbs
  (if e < 0 then "-" else "+") ++ (if digits.length < 2 then "0" ++ digits else digits)

/--
`repr` of the digits `digits` with the decimal point `point` places after the first of them, as
CPython's `format_float_short` lays it out for `'r'`: an exponent below `1e-4` and from `1e16`,
and otherwise positional, with `.0` on an integral value.
-/
def layoutDigits (digits : String) (point : Int) : String :=
  if point ≤ -4 || 16 < point then
    let mantissa := match digits.toList with
      | first :: rest@(_ :: _) => String.singleton first ++ "." ++ ⟨rest⟩
      | cs => ⟨cs⟩
    mantissa ++ "e" ++ exponentText (point - 1)
  else if point ≤ 0 then "0." ++ zeros (-point).toNat ++ digits
  else if point < digits.length then
    ⟨digits.toList.take point.toNat⟩ ++ "." ++ ⟨digits.toList.drop point.toNat⟩
  else digits ++ zeros (point.toNat - digits.length) ++ ".0"

namespace PyFloat

/-- `str(x)`, which for a float is `repr(x)`: the shortest decimal that reads back as `x`. -/
def repr (x : PyFloat) : String :=
  match x.value with
  | .nan => "nan"
  | .infinite negative => if negative then "-inf" else "inf"
  | .finite negative significand exponent =>
    let sign := if negative then "-" else ""
    if significand = 0 then sign ++ "0.0"
    else
      let (digits, power) := shortestDecimal significand exponent
      sign ++ layoutDigits (stripZeros digits) (decimalLength digits + power)

end PyFloat

end Moxxy
