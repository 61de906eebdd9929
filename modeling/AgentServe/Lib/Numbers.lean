import AgentServe.Lib.Floats
import AgentServe.Lib.Python

/-!
# Numbers of a dynamic language

A number is a Boolean, an integer, a float or a complex number. An operator takes its
operands to the first of the last three kinds that holds them both, so Booleans count
as integers. Only a power may leave the kinds of its operands: an integer to a negative
power is a float, and a negative number to the power of a fraction is complex.

So a result is real exactly if the operands are, and the operator does not raise a
negative number to a fraction (`isReal_of_apply`).

The arithmetic of complex numbers is a parameter, and nothing is assumed of it. Pairs of
floats with powers in polar form are one such arithmetic.
-/

set_option autoImplicit false

namespace AgentServe.Lib

/-- The arithmetic of complex numbers. -/
structure ComplexArithmetic where
  Value : Type
  ofFloat : Float → Value
  add : Value → Value → Except ArithmeticError Value
  sub : Value → Value → Except ArithmeticError Value
  mul : Value → Value → Except ArithmeticError Value
  div : Value → Value → Except ArithmeticError Value
  pow : Value → Value → Except ArithmeticError Value
  neg : Value → Value
  shown : Value → String

namespace ComplexArithmetic

/-- A quotient is reduced by the larger part of the divisor. -/
def dividedPair (z w : Float × Float) : Except ArithmeticError (Float × Float) :=
  if w.1 == 0 && w.2 == 0 then .error .zeroDivision
  else if w.2.abs ≤ w.1.abs then
    let ratio := w.2 / w.1
    let scale := w.1 + w.2 * ratio
    .ok ((z.1 + z.2 * ratio) / scale, (z.2 - z.1 * ratio) / scale)
  else
    let ratio := w.1 / w.2
    let scale := w.1 * ratio + w.2
    .ok ((z.1 * ratio + z.2) / scale, (z.2 * ratio - z.1) / scale)

/-- A power is taken of the length and of the angle. -/
def raisedPair (z w : Float × Float) : Except ArithmeticError (Float × Float) :=
  if w.1 == 0 && w.2 == 0 then .ok (1, 0)
  else if z.1 == 0 && z.2 == 0 then
    if w.2 != 0 || w.1 < 0 then .error .zeroDivision else .ok (0, 0)
  else
    let length := (z.1 * z.1 + z.2 * z.2).sqrt
    let angle := z.2.atan2 z.1
    let size := length.pow w.1 * (-angle * w.2).exp
    let turn := angle * w.1 + w.2 * length.log
    .ok (size * turn.cos, size * turn.sin)

/-- The text of a part of a complex number. A whole number has no decimals. -/
def partText (x : Float) : String := ((Floats.shown x).dropSuffix ".0").copy

/-- Complex numbers as pairs of floats. -/
def pairs : ComplexArithmetic where
  Value := Float × Float
  ofFloat x := (x, 0)
  add z w := .ok (z.1 + w.1, z.2 + w.2)
  sub z w := .ok (z.1 - w.1, z.2 - w.2)
  mul z w := .ok (z.1 * w.1 - z.2 * w.2, z.1 * w.2 + z.2 * w.1)
  div := dividedPair
  pow := raisedPair
  neg z := (-z.1, -z.2)
  shown z :=
    let sign := if z.2 < 0 then "" else "+"
    "(" ++ partText z.1 ++ sign ++ partText z.2 ++ "j)"

end ComplexArithmetic

/-- A number, over a type of complex numbers. -/
inductive Number (ζ : Type) where
  | bool (b : Bool)
  | int (n : ℤ)
  | float (x : Float)
  | complex (z : ζ)

/-- The operators with two operands. -/
inductive Operator where
  | add
  | sub
  | mul
  | div
  | mod
  | pow
deriving DecidableEq, Repr

/-- The operators with one operand. -/
inductive SignOperator where
  | pos
  | neg
deriving DecidableEq, Repr

namespace Number

variable {ζ : Type}

/-- The number is not complex. -/
def isReal : Number ζ → Bool
  | .complex _ => false
  | _ => true

/-- The integer that a number is. Booleans are integers. -/
def asInt? : Number ζ → Option ℤ
  | .bool b => some b.toNat
  | .int n => some n
  | _ => none

/-- The number is finite and below zero. -/
def isNegative : Number ζ → Bool
  | .bool _ => false
  | .int n => n < 0
  | .float x => x.isFinite && decide (x < 0)
  | .complex _ => false

/-- The number is finite and has no integral value. -/
def isFraction : Number ζ → Bool
  | .float x => x.isFinite && !Floats.isWhole x
  | _ => false

/-- The power of two numbers is not real. -/
def leavesReals (op : Operator) (x y : Number ζ) : Bool :=
  op == .pow && x.isNegative && y.isFraction

/-! ## Operators -/

/-- The float that a real number becomes. -/
def toFloat : Number ζ → Except ArithmeticError Float
  | .bool b => Floats.ofInt b.toNat
  | .int n => Floats.ofInt n
  | .float x => .ok x
  | .complex _ => .error .unsupported

/-- An operator between integers. -/
def applyInt : Operator → ℤ → ℤ → Except ArithmeticError (Number ζ)
  | .add, m, n => .ok (.int (m + n))
  | .sub, m, n => .ok (.int (m - n))
  | .mul, m, n => .ok (.int (m * n))
  | .div, m, n => (Floats.quotient m n).map .float
  | .mod, m, n => if n = 0 then .error .zeroDivision else .ok (.int (m.fmod n))
  | .pow, m, n =>
    if 0 ≤ n then .ok (.int (m ^ n.toNat))
    else do
      let x ← Floats.ofInt m
      let y ← Floats.ofInt n
      let power ← Floats.pow x y
      return .float power

/-- An operator between floats, where it does not leave them. -/
def applyFloat : Operator → Float → Float → Except ArithmeticError Float
  | .add, x, y => .ok (x + y)
  | .sub, x, y => .ok (x - y)
  | .mul, x, y => .ok (x * y)
  | .div, x, y => Floats.div x y
  | .mod, x, y => Floats.mod x y
  | .pow, x, y => Floats.pow x y

section Complex

variable (c : ComplexArithmetic)

def toComplex (x : Number c.Value) : Except ArithmeticError c.Value :=
  match x with
  | .complex z => .ok z
  | _ => x.toFloat.map c.ofFloat

/-- An operator between complex numbers. They have no remainders. -/
def applyComplex : Operator → c.Value → c.Value → Except ArithmeticError c.Value
  | .add, z, w => c.add z w
  | .sub, z, w => c.sub z w
  | .mul, z, w => c.mul z w
  | .div, z, w => c.div z w
  | .mod, _, _ => .error .unsupported
  | .pow, z, w => c.pow z w

/-- An operator between two numbers. -/
def apply (op : Operator) (x y : Number c.Value) : Except ArithmeticError (Number c.Value) :=
  match x.asInt?, y.asInt? with
  | some m, some n => applyInt op m n
  | _, _ =>
    if x.isReal ∧ y.isReal then do
      let v ← x.toFloat
      let w ← y.toFloat
      if leavesReals op x y then
        let power ← c.pow (c.ofFloat v) (c.ofFloat w)
        return .complex power
      else
        let result ← applyFloat op v w
        return .float result
    else if op = .mod then .error .unsupported
    else do
      let z ← x.toComplex
      let w ← y.toComplex
      let result ← applyComplex c op z w
      return .complex result

def applySign : SignOperator → Number c.Value → Number c.Value
  | .pos, .bool b => .int b.toNat
  | .pos, x => x
  | .neg, .bool b => .int (-b.toNat)
  | .neg, .int n => .int (-n)
  | .neg, .float x => .float (-x)
  | .neg, .complex z => .complex (c.neg z)

/-- The most digits that an integer is shown with. -/
def maxStrDigits : ℕ := 4300

/-- `str(x)`. -/
def shown : Number c.Value → Except ArithmeticError String
  | .bool b => .ok (if b then "True" else "False")
  | .int n =>
    if Floats.digitCount n.natAbs ≤ maxStrDigits then .ok (toString n) else .error .tooManyDigits
  | .float x => .ok (Floats.shown x)
  | .complex z => .ok (c.shown z)

end Complex

/-! ## Results -/

variable {c : ComplexArithmetic}

/-- What is an integer is real, and no fraction. -/
theorem isReal_of_asInt? {x : Number ζ} {n : ℤ} (integer : x.asInt? = some n) :
    x.isReal = true ∧ x.isFraction = false := by
  cases x with
  | bool b => exact ⟨rfl, rfl⟩
  | int m => exact ⟨rfl, rfl⟩
  | _ => cases integer

/-- An operator between integers has a real result. -/
theorem isReal_of_applyInt {op : Operator} {m n : ℤ} {z : Number ζ}
    (applied : applyInt op m n = .ok z) : z.isReal = true := by
  cases op with
  | div =>
      simp only [applyInt] at applied
      cases quotient : Floats.quotient m n with
      | error e =>
          rw [quotient] at applied
          cases applied
      | ok x =>
          rw [quotient] at applied
          cases applied
          rfl
  | mod =>
      simp only [applyInt] at applied
      split at applied
      · cases applied
      · cases applied
        rfl
  | pow =>
      simp only [applyInt] at applied
      split at applied
      · cases applied
        rfl
      · obtain ⟨_, _, applied⟩ := bind_eq_ok_iff.mp applied
        obtain ⟨_, _, applied⟩ := bind_eq_ok_iff.mp applied
        obtain ⟨_, _, applied⟩ := bind_eq_ok_iff.mp applied
        cases applied
        rfl
  | _ =>
      cases applied
      rfl

/-- **Results.** A result is real exactly if its operands are, and no negative number is raised to a
fraction. -/
theorem isReal_of_apply {op : Operator} {x y z : Number c.Value}
    (applied : apply c op x y = .ok z) :
    z.isReal = true ↔ x.isReal = true ∧ y.isReal = true ∧ leavesReals op x y = false := by
  unfold apply at applied
  split at applied
  · rename_i m n first second
    obtain ⟨real, _⟩ := isReal_of_asInt? first
    obtain ⟨also_real, whole⟩ := isReal_of_asInt? second
    exact iff_of_true (isReal_of_applyInt applied) ⟨real, also_real, by simp [leavesReals, whole]⟩
  · split at applied
    · rename_i both
      obtain ⟨v, _, applied⟩ := bind_eq_ok_iff.mp applied
      obtain ⟨w, _, applied⟩ := bind_eq_ok_iff.mp applied
      split at applied
      · rename_i leaves
        obtain ⟨power, _, returned⟩ := bind_eq_ok_iff.mp applied
        cases returned
        exact iff_of_false nofun fun real => by simp [leaves] at real
      · rename_i stays
        obtain ⟨result, _, returned⟩ := bind_eq_ok_iff.mp applied
        cases returned
        exact iff_of_true rfl ⟨both.1, both.2, by simpa using stays⟩
    · rename_i complex
      split at applied
      · cases applied
      · obtain ⟨_, _, applied⟩ := bind_eq_ok_iff.mp applied
        obtain ⟨_, _, applied⟩ := bind_eq_ok_iff.mp applied
        obtain ⟨_, _, returned⟩ := bind_eq_ok_iff.mp applied
        cases returned
        exact iff_of_false nofun fun real => complex ⟨real.1, real.2.1⟩

theorem isReal_applySign (op : SignOperator) (x : Number c.Value) :
    (applySign c op x).isReal = x.isReal := by
  cases op <;> cases x <;> rfl

end Number

end AgentServe.Lib
