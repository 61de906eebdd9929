import Mathlib.Algebra.Group.Nat.Defs
import Mathlib.Data.Int.Notation
import Mathlib.Data.Nat.Notation

/-!
# Floats

The floats of a dynamic language are binary floating-point numbers with 53 bits. Sums,
differences and products are those of the format. Beyond it the language has a quotient
of integers that is rounded once, a remainder with the sign of its divisor, and powers
whose special cases it decides itself before it asks the mathematics library. What has
no value raises.

A float is shown by the shortest decimal that is read back as the same float (`shown`).
-/

set_option autoImplicit false

namespace AgentServe.Lib

open Float.Model (UnpackedFloat)
open Float.Model.UnpackedFloat (Sign)
open Float.Model.Format (binary64)

/-- What an operation on numbers raises. -/
inductive ArithmeticError where
  | zeroDivision
  | overflow
  | unsupported
  | tooManyDigits
deriving DecidableEq, Repr

namespace Floats

def unpacked (x : Float) : UnpackedFloat := x.toModel.unpack

def packed (f : UnpackedFloat) : Float := .ofModel (.pack f)

/-- The sign of a float. What is no number has none. -/
def signOf (x : Float) : Sign :=
  match unpacked x with
  | .infinity s | .zero s | .finite s _ _ _ => s
  | .notANumber => .positive

/-- The zero with the sign of a float. -/
def zeroLike (x : Float) : Float := packed (.zero (signOf x))

/-- The float has an integral value. -/
def isWhole (x : Float) : Bool :=
  match unpacked x with
  | .zero _ => true
  | .finite _ m e _ => 0 ≤ e || m % 2 ^ (-e).toNat == 0
  | _ => false

/-- The float has an odd integral value. -/
def isOdd (x : Float) : Bool :=
  match unpacked x with
  | .finite _ m e _ => e ≤ 0 && m % 2 ^ (-e).toNat == 0 && m / 2 ^ (-e).toNat % 2 == 1
  | _ => false

/-! ## Integers -/

/-- The float that is closest to an integer. -/
def ofInt (n : ℤ) : Except ArithmeticError Float :=
  let x := Float.ofInt n
  if x.isInf then .error .overflow else .ok x

/-- An integer with all of its bits. -/
def exactly (n : ℤ) : UnpackedFloat :=
  if nonzero : n = 0 then .zero .positive
  else .finite (if n < 0 then .negative else .positive) n.natAbs 0 (Int.natAbs_pos.mpr nonzero)

/-- `m / n`, for integers. -/
def quotient (m n : ℤ) : Except ArithmeticError Float :=
  if n = 0 then .error .zeroDivision
  else
    let x := packed (.div binary64 (exactly m) (exactly n))
    if x.isInf then .error .overflow else .ok x

/-! ## Operators -/

/-- `x / y`. -/
def div (x y : Float) : Except ArithmeticError Float :=
  if y == 0 then .error .zeroDivision else .ok (x / y)

/-- The exact remainder, with the sign of the dividend. -/
def fmod (x y : Float) : Float :=
  match unpacked x, unpacked y with
  | .finite s m e _, .finite _ n f _ =>
    let low := min e f
    let rest := (m <<< (e - low).toNat) % (n <<< (f - low).toNat)
    packed (if rest = 0 then .zero s else .round binary64 s rest low)
  | .zero _, .finite _ _ _ _ | .zero _, .infinity _ | .finite _ _ _ _, .infinity _ => x
  | _, _ => packed .notANumber

/-- `x % y`. -/
def mod (x y : Float) : Except ArithmeticError Float :=
  if y == 0 then .error .zeroDivision
  else
    let rest := fmod x y
    if rest == 0 then .ok (zeroLike y)
    else if decide (y < 0) != decide (rest < 0) then .ok (rest + y)
    else .ok rest

/-- `x ** y`, unless a negative float is raised to a fraction. -/
def pow (x y : Float) : Except ArithmeticError Float :=
  if y == 0 then .ok 1
  else if x.isNaN then .ok x
  else if y.isNaN then .ok (if x == 1 then 1 else y)
  else if y.isInf then
    if x.abs == 1 then .ok 1
    else if decide (0 < y) == decide (1 < x.abs) then .ok y.abs
    else .ok 0
  else if x.isInf then
    if 0 < y then .ok (if isOdd y then x else x.abs)
    else .ok (if isOdd y then zeroLike x else 0)
  else if x == 0 then
    if y < 0 then .error .zeroDivision
    else .ok (if isOdd y then x else 0)
  else
    let negate := decide (x < 0) && isOdd y
    if x.abs == 1 then .ok (if negate then -1 else 1)
    else
      let power := Float.pow x.abs y
      if power.isInf then .error .overflow else .ok (if negate then -power else power)

/-! ## Decimals -/

/-- The number of decimal digits. -/
def digitCount (n : ℕ) : ℕ := (Nat.toDigits 10 n).length

/-- The place of the decimal point of a fraction `num / den`: its first digit is the one after
that place. -/
def pointOf (num den : ℕ) : ℤ :=
  if den ≤ num then digitCount (num / den)
  else 1 - digitCount ((den + num - 1) / num - 1)

/-- A decimal with so many digits next to a fraction that is read as a float, if there is one. Of
two of them it is the closer one. -/
def decimal? (x : Float) (num den : ℕ) (count : ℕ) : Option (ℕ × ℤ) :=
  let scale := count - pointOf num den
  let top := num * 10 ^ scale.toNat
  let bottom := den * 10 ^ (-scale).toNat
  let below := top / bottom
  let order := compare (2 * (top % bottom)) bottom
  let candidates :=
    if order = .lt ∨ order = .eq ∧ below % 2 = 0 then [below, below + 1] else [below + 1, below]
  (candidates.find? fun n => packed (.ofScientific binary64 n (-scale)) == x).map
    fun n => (n, -scale)

/-- The shortest decimal that is read as a positive float. -/
def shortest (x : Float) (num den : ℕ) : ℕ × ℤ :=
  ((List.range 17).findSome? fun i => decimal? x num den (i + 1)).getD (0, 0)

def padded (count : ℕ) : List Char := List.replicate count '0'

/-- An exponent has a sign and two digits or more. -/
def exponentText (e : ℤ) : String :=
  (if e < 0 then "e-" else "e+") ++ (if e.natAbs < 10 then "0" else "") ++ toString e.natAbs

/-- A decimal `0.digits * 10 ^ point`, in full if it is neither very small nor very large. -/
def decimalText (digits : List Char) (point : ℤ) : String :=
  if point ≤ -4 ∨ 16 < point then
    let fraction := digits.drop 1
    String.ofList (digits.take 1 ++ if fraction = [] then [] else '.' :: fraction) ++
      exponentText (point - 1)
  else if point ≤ 0 then
    String.ofList ("0.".toList ++ padded (-point).toNat ++ digits)
  else
    let whole := digits.take point.toNat ++ padded (point.toNat - digits.length)
    let fraction := digits.drop point.toNat
    String.ofList (whole ++ '.' :: if fraction = [] then ['0'] else fraction)

/-- The text of a float, without its sign. -/
def magnitudeText (m : ℕ) (e : ℤ) : String :=
  let num := m * 2 ^ e.toNat
  let den := 2 ^ (-e).toNat
  let (n, scale) := shortest (packed (.round binary64 .positive m e)) num den
  let digits := (Nat.toDigits 10 n)
  let significant := (digits.reverse.dropWhile (· == '0')).reverse
  decimalText significant (digits.length + scale)

/-- `str(x)`. -/
def shown (x : Float) : String :=
  match unpacked x with
  | .notANumber => "nan"
  | .infinity .positive => "inf"
  | .infinity .negative => "-inf"
  | .zero .positive => "0.0"
  | .zero .negative => "-0.0"
  | .finite .positive m e _ => magnitudeText m e
  | .finite .negative m e _ => "-" ++ magnitudeText m e

example : (0.1 + 0.2 : Float) ≠ 0.3 ∧ shown (0.1 + 0.2) = "0.30000000000000004" := by
  decide +kernel

end Floats

end AgentServe.Lib
