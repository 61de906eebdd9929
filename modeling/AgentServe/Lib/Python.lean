import AgentServe.Lib.Dict
import Mathlib.Algebra.Order.Ring.Rat
import Mathlib.Tactic.Common

/-!
# Values and exceptions of a dynamic language

A decoded document is a value whose shape is not known. Every operation on it may
raise: an item is looked up in what is no mapping, a method is called that the type
does not have. An operation has a result or an exception here, and a computation
stops at the first exception.

A handler of exceptions catches all of them but the cancellation of the task
(`guarded`), so a guarded computation returns unless it was cancelled
(`guarded_eq_ok`). What a chain of lookups must have met to return is read off from
its result (`item_eq_ok_iff`, `first_eq_ok_iff`, `strip_eq_ok_iff`, `get_eq_ok_iff`).

The texts of a value are of any type that can be compared. Those of most documents are strings
of characters, which are stripped and decoded here and are otherwise opaque.
-/

set_option autoImplicit false

namespace AgentServe.Lib

universe u v

/-! ## Exceptions -/

/-- What a computation raises. All but the last are exceptions that a handler of exceptions
catches. -/
inductive PyError where
  | keyError
  | indexError
  | typeError
  | attributeError
  | valueError
  | overflowError
  | other
  | cancelled
deriving DecidableEq, Repr

section Computations

variable {ε ε' : Type u} {α β : Type v}

/-- A sequence returns exactly if both of its parts do. -/
theorem bind_eq_ok_iff {x : Except ε α} {f : α → Except ε β} {b : β} :
    x >>= f = .ok b ↔ ∃ a, x = .ok a ∧ f a = .ok b := by
  cases x with
  | error raised =>
      constructor
      · exact nofun
      · rintro ⟨_, returned, _⟩
        cases returned
  | ok a =>
      constructor
      · exact fun same => ⟨a, rfl, same⟩
      · rintro ⟨_, returned, rest⟩
        cases returned
        exact rest

/-- A translation of exceptions leaves what is returned. -/
theorem mapError_eq_ok_iff {x : Except ε α} {f : ε → ε'} {a : α} :
    x.mapError f = .ok a ↔ x = .ok a := by
  cases x with
  | error raised =>
      constructor
      · exact nofun
      · exact nofun
  | ok b =>
      constructor
      · exact fun same => congrArg Except.ok (Except.ok.inj same)
      · exact fun same => congrArg Except.ok (Except.ok.inj same)

/-- A sequence raises what one of its parts raises. -/
theorem bind_eq_error_iff {x : Except ε α} {f : α → Except ε β} {e : ε} :
    x >>= f = .error e ↔ x = .error e ∨ ∃ a, x = .ok a ∧ f a = .error e := by
  cases x with
  | error raised =>
      constructor
      · exact fun same => .inl (congrArg Except.error (Except.error.inj same))
      · rintro (same | ⟨_, returned, _⟩)
        · exact congrArg Except.error (Except.error.inj same)
        · cases returned
  | ok a =>
      constructor
      · exact fun same => .inr ⟨a, rfl, same⟩
      · rintro (raised | ⟨_, returned, rest⟩)
        · cases raised
        · cases returned
          exact rest

end Computations

variable {α : Type u}

/-- Run a computation, and return a default if it raises an exception. -/
def guarded (default : α) : Except PyError α → Except PyError α
  | .ok a => .ok a
  | .error .cancelled => .error .cancelled
  | .error _ => .ok default

/-- A guarded computation returns unless it was cancelled. -/
theorem guarded_eq_ok {default : α} {x : Except PyError α} (alive : x ≠ .error .cancelled) :
    guarded default x = .ok (x.toOption.getD default) := by
  cases x with
  | ok a => rfl
  | error e =>
      cases e with
      | cancelled => exact absurd rfl alive
      | _ => rfl

/-! ## Values -/

/-- A floating-point number. -/
inductive PyFloat where
  | finite (q : ℚ)
  | inf
  | negInf
  | nan
deriving DecidableEq

namespace PyFloat

/-- `x <= y`. Nothing is below or above what is no number. -/
def le : PyFloat → PyFloat → Bool
  | .nan, _ => false
  | _, .nan => false
  | .negInf, _ => true
  | _, .inf => true
  | .finite p, .finite q => p ≤ q
  | .finite _, .negInf => false
  | .inf, _ => false

def neg : PyFloat → PyFloat
  | .finite q => .finite (-q)
  | .inf => .negInf
  | .negInf => .inf
  | .nan => .nan

/-- `x + y`. Sums of finite numbers are exact. -/
def add : PyFloat → PyFloat → PyFloat
  | .finite p, .finite q => .finite (p + q)
  | .nan, _ => .nan
  | _, .nan => .nan
  | .inf, .negInf => .nan
  | .negInf, .inf => .nan
  | .inf, _ => .inf
  | _, .inf => .inf
  | .negInf, _ => .negInf
  | _, .negInf => .negInf

/-- What is not below a number is not below a smaller one. -/
theorem le_of_le {p q : ℚ} (order : p ≤ q) {x : PyFloat} (above : (finite q).le x = true) :
    (finite p).le x = true := by
  cases x with
  | finite r =>
      have later : q ≤ r := of_decide_eq_true above
      exact decide_eq_true (order.trans later)
  | _ => exact above

end PyFloat

/-- A value of a decoded document, over a type of texts. -/
inductive PyData (τ : Type) where
  | none
  | bool (b : Bool)
  | int (n : ℤ)
  | float (x : PyFloat)
  | str (s : τ)
  | list (items : List (PyData τ))
  | dict (items : List (τ × PyData τ))

namespace PyData

variable {τ : Type}

section Lookup

variable [BEq τ]

/-- `v[key]`, for a key that is a string. -/
def item (v : PyData τ) (key : τ) : Except PyError (PyData τ) :=
  match v with
  | .dict items => (items.lookup key).elim (.error .keyError) .ok
  | _ => .error .typeError

/-- `v.get(key, default)`. -/
def get (v : PyData τ) (key : τ) (default : PyData τ) : Except PyError (PyData τ) :=
  match v with
  | .dict items => .ok ((items.lookup key).getD default)
  | _ => .error .attributeError

theorem item_eq_ok_iff {v w : PyData τ} {key : τ} :
    v.item key = .ok w ↔ ∃ items, v = .dict items ∧ items.lookup key = some w := by
  cases v with
  | dict items =>
      simp only [item, PyData.dict.injEq, exists_eq_left']
      cases items.lookup key <;> simp
  | _ => simp [item]

theorem get_eq_ok_iff {v w default : PyData τ} {key : τ} :
    v.get key default = .ok w ↔
      ∃ items, v = .dict items ∧ (items.lookup key).getD default = w := by
  cases v <;> simp [get]

end Lookup

/-- The number that a comparison reads. Booleans are numbers. -/
def number : PyData τ → Except PyError PyFloat
  | .bool b => .ok (.finite b.toNat)
  | .int n => .ok (.finite n)
  | .float x => .ok x
  | _ => .error .typeError

/-- `type(v).__name__`. -/
def typeName : PyData τ → String
  | .none => "NoneType"
  | .bool _ => "bool"
  | .int _ => "int"
  | .float _ => "float"
  | .str _ => "str"
  | .list _ => "list"
  | .dict _ => "dict"

end PyData

/-- A value whose texts are made of characters. -/
abbrev PyValue := PyData String

namespace PyData

/-- `v[0]`. The keys of a mapping are strings. -/
def first : PyValue → Except PyError PyValue
  | .list [] => .error .indexError
  | .list (v :: _) => .ok v
  | .str s => (s.toList.head?).elim (.error .indexError) fun c => .ok (.str (String.singleton c))
  | .dict _ => .error .keyError
  | _ => .error .typeError

/-- The characters that count as blank. -/
def isBlank (c : Char) : Bool :=
  (9 ≤ c.toNat && c.toNat ≤ 13) || (28 ≤ c.toNat && c.toNat ≤ 32) ||
    (0x2000 ≤ c.toNat && c.toNat ≤ 0x200a) ||
    [0x85, 0xa0, 0x1680, 0x2028, 0x2029, 0x202f, 0x205f, 0x3000].contains c.toNat

/-- A text without the blanks at its ends. -/
def stripped (s : String) : String :=
  String.ofList ((((s.toList.dropWhile isBlank).reverse).dropWhile isBlank).reverse)

/-- The integer that a value is. Booleans are integers. -/
def asInt? : PyValue → Option ℤ
  | .bool b => some b.toNat
  | .int n => some n
  | _ => .none

/-- Integers from here on are too large for a float. -/
@[irreducible] def floatLimit : ℕ := 2 ^ 1024 - 2 ^ 970

/-- The float that an operator with a float makes of the other side. -/
def toFloat (v : PyValue) : Except PyError PyFloat :=
  match v with
  | .float x => .ok x
  | _ =>
    match v.asInt? with
    | some n => if n.natAbs < floatLimit then .ok (.finite n) else .error .overflowError
    | .none => .error .typeError

/-- `v + w`, where one side is a number. -/
def add (v w : PyValue) : Except PyError PyValue :=
  match v.asInt?, w.asInt? with
  | some n, some m => .ok (.int (n + m))
  | _, _ => do
    let y ← w.toFloat
    let x ← v.toFloat
    return .float (x.add y)

def sum (values : List PyValue) : Except PyError PyValue := values.foldlM add (.int 0)

/-- What an iteration over a value yields. -/
def iterate : PyValue → Except PyError (List PyValue)
  | .list items => .ok items
  | .str s => .ok (s.toList.map fun c => .str (String.singleton c))
  | .dict items => .ok (items.map fun e => .str e.1)
  | _ => .error .typeError

/-- `x, y = v`. -/
def unpack (v : PyValue) : Except PyError (PyValue × PyValue) := do
  let items ← v.iterate
  match items with
  | [x, y] => return (x, y)
  | _ => throw .valueError

/-- `v.items()`. -/
def items : PyValue → Except PyError (Dict String PyValue)
  | .dict items => .ok (.ofItems items)
  | _ => .error .attributeError

/-- `v.strip()`. -/
def strip : PyValue → Except PyError String
  | .str s => .ok (stripped s)
  | _ => .error .attributeError

/-- `hash(v)` does not raise. -/
def hashable : PyValue → Bool
  | .list _ => false
  | .dict _ => false
  | _ => true

/-- A lookup may raise an exception, but is not cancelled. -/
theorem item_ne_cancelled (v : PyValue) (key : String) : v.item key ≠ .error .cancelled := by
  cases v with
  | dict items =>
      simp only [PyData.item]
      cases items.lookup key <;> exact nofun
  | _ => exact nofun

theorem first_ne_cancelled (v : PyValue) : v.first ≠ .error .cancelled := by
  cases v with
  | list items => cases items <;> exact nofun
  | str s =>
      simp only [first]
      cases s.toList.head? <;> exact nofun
  | _ => exact nofun

theorem get_ne_cancelled (v : PyValue) (key : String) (default : PyValue) :
    v.get key default ≠ .error .cancelled := by
  cases v <;> exact nofun

theorem strip_ne_cancelled (v : PyValue) : v.strip ≠ .error .cancelled := by
  cases v <;> exact nofun

theorem number_ne_cancelled (v : PyValue) : v.number ≠ .error .cancelled := by
  cases v <;> exact nofun

theorem toFloat_ne_cancelled (v : PyValue) : v.toFloat ≠ .error .cancelled := by
  unfold toFloat
  split
  · exact nofun
  · split
    · split <;> exact nofun
    · exact nofun

theorem iterate_ne_cancelled (v : PyValue) : v.iterate ≠ .error .cancelled := by
  cases v <;> exact nofun

theorem unpack_ne_cancelled (v : PyValue) : v.unpack ≠ .error .cancelled := by
  intro cancelled
  rcases bind_eq_error_iff.mp cancelled with here | ⟨items, _, here⟩
  · exact iterate_ne_cancelled v here
  · split at here <;> cases here

theorem items_ne_cancelled (v : PyValue) : v.items ≠ .error .cancelled := by
  cases v <;> exact nofun

/-- Only a list has a first item that is no string. -/
theorem first_eq_ok_iff {v w : PyValue} (noString : ∀ s, w ≠ .str s) :
    v.first = .ok w ↔ ∃ rest, v = .list (w :: rest) := by
  cases v with
  | list items =>
      cases items with
      | nil => simp [first]
      | cons head tail => simp [first]
  | str s =>
      simp only [first, reduceCtorEq, exists_false, iff_false]
      cases s.toList.head? with
      | none => exact nofun
      | some c => exact fun same => noString _ (Except.ok.inj same).symm
  | _ => simp [first]

theorem strip_eq_ok_iff {v : PyValue} {text : String} :
    v.strip = .ok text ↔ ∃ s, v = .str s ∧ stripped s = text := by
  cases v <;> simp [strip]

/-! ### Sums -/

/-- A sum that has become a float stays one. -/
theorem add_float {x : PyFloat} {v w : PyValue} (added : (PyData.float x).add v = .ok w) :
    ∃ y, w = .float y := by
  unfold add at added
  simp only [asInt?] at added
  obtain ⟨y, _, added⟩ := bind_eq_ok_iff.mp added
  obtain ⟨_, _, returned⟩ := bind_eq_ok_iff.mp added
  exact ⟨_, (Except.ok.inj returned).symm⟩

theorem add_int_of_asInt? {n m : ℤ} {v : PyValue} (integer : v.asInt? = some m) :
    (PyData.int n).add v = .ok (.int (n + m)) := by
  have own : (PyData.int n).asInt? = some n := rfl
  simp only [add, own, integer]

/-- Adding what is no integer does not give an integer. -/
theorem add_int_of_none {n : ℤ} {v w : PyValue} (other : v.asInt? = .none)
    (added : (PyData.int n).add v = .ok w) : ∃ y, w = .float y := by
  simp only [add, other] at added
  obtain ⟨y, _, added⟩ := bind_eq_ok_iff.mp added
  obtain ⟨_, _, returned⟩ := bind_eq_ok_iff.mp added
  exact ⟨_, (Except.ok.inj returned).symm⟩

theorem foldlM_add_float {x : PyFloat} {values : List PyValue} {w : PyValue}
    (summed : values.foldlM add (.float x) = .ok w) : ∃ y, w = .float y := by
  induction values generalizing x with
  | nil => exact ⟨x, (Except.ok.inj summed).symm⟩
  | cons v rest ih =>
      rw [List.foldlM_cons] at summed
      obtain ⟨u, added, later⟩ := bind_eq_ok_iff.mp summed
      obtain ⟨y, rfl⟩ := add_float added
      exact ih later

theorem foldlM_add_int_iff {n total : ℤ} {values : List PyValue} :
    values.foldlM add (.int n) = .ok (.int total) ↔
      (∀ v ∈ values, v.asInt?.isSome = true) ∧
        total = n + (values.map fun v => v.asInt?.getD 0).sum := by
  induction values generalizing n with
  | nil =>
      rw [List.foldlM_nil]
      constructor
      · intro same
        cases same
        exact ⟨nofun, (add_zero _).symm⟩
      · rintro ⟨_, rfl⟩
        exact congrArg (fun k => Except.ok (PyData.int k)) (add_zero n).symm
  | cons v rest ih =>
      rw [List.foldlM_cons]
      cases integer : v.asInt? with
      | some m =>
          rw [add_int_of_asInt? integer]
          refine (ih (n := n + m)).trans ?_
          simp [integer, add_assoc]
      | none =>
          refine iff_of_false ?_ fun all => ?_
          intro summed
          obtain ⟨u, added, later⟩ := bind_eq_ok_iff.mp summed
          obtain ⟨y, rfl⟩ := add_int_of_none integer added
          obtain ⟨z, same⟩ := foldlM_add_float later
          cases same
          have isInt := all.1 v List.mem_cons_self
          rw [integer] at isInt
          cases isInt

/-- **Sums of integers.** A sum is an integer exactly if all values are. -/
theorem sum_eq_int_iff {total : ℤ} {values : List PyValue} :
    sum values = .ok (.int total) ↔
      (∀ v ∈ values, v.asInt?.isSome = true) ∧
        total = (values.map fun v => v.asInt?.getD 0).sum := by
  rw [sum, foldlM_add_int_iff, zero_add]

end PyData

end AgentServe.Lib
