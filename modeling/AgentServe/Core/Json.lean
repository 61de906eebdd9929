import AgentServe.Lib.Dict
import Mathlib.Data.Rat.Defs

/-!
# JSON values

The values of a decoded JSON document, with the operations the gateway applies
to them. An operation that raises in the program has no result here.

A decoded document may hold what cannot be encoded again: numbers that are not
finite, and strings with unpaired surrogates. They are one value here
(`unrenderable`), since the gateway treats a reply that holds one of them as
failed, whatever else it does with it.
-/

set_option autoImplicit false

namespace AgentServe

open Lib

inductive Json where
  | null
  | bool (b : Bool)
  | number (q : ℚ)
  | str (s : String)
  | unrenderable
  | arr (items : List Json)
  | obj (fields : List (String × Json))

namespace Json

/-- The member of an object, or the default. Values other than objects have no members. -/
def get (j : Json) (key : String) (default : Json) : Option Json :=
  match j with
  | .obj fields => some ((fields.lookup key).getD default)
  | _ => none

/-- A member that is not null is the same whatever the default. -/
theorem get_of_ne_null {j value : Json} {key : String} (found : j.get key .null = some value)
    (present : value ≠ .null) (default : Json) : j.get key default = some value := by
  cases j with
  | obj fields =>
      simp only [get, Option.some.injEq] at found ⊢
      cases member : fields.lookup key with
      | none =>
          rw [member] at found
          exact absurd found.symm present
      | some other =>
          rw [member] at found
          exact found
  | _ => cases found

/-- Assign a member of an object. -/
def set (j : Json) (key : String) (value : Json) : Option Json :=
  match j with
  | .obj fields => some (.obj (Dict.setItems key value fields))
  | _ => none

/-- The truth value. -/
def truthy : Json → Bool
  | .null => false
  | .bool b => b
  | .number q => q != 0
  | .str s => s != ""
  | .unrenderable => true
  | .arr items => !items.isEmpty
  | .obj fields => !fields.isEmpty

/-- Integers from here on overflow when a counter converts them. -/
def floatLimit : ℚ := 2 ^ 1024 - 2 ^ 970

/-- What a counter that is incremented by a value grows by. A counter refuses values that are
not numbers, and negative ones. -/
def increment : Json → Option ℚ
  | .bool b => some (if b then 1 else 0)
  | .number q => if 0 ≤ q ∧ q < floatLimit then some q else none
  | _ => none

mutual

/-- The value can be encoded. -/
def renderable : Json → Bool
  | .unrenderable => false
  | .arr items => renderableItems items
  | .obj fields => renderableFields fields
  | _ => true

def renderableItems : List Json → Bool
  | [] => true
  | j :: rest => j.renderable && renderableItems rest

def renderableFields : List (String × Json) → Bool
  | [] => true
  | (_, j) :: rest => j.renderable && renderableFields rest

end

/-! ## Members that are not null -/

def isNull : Json → Bool
  | .null => true
  | _ => false

/-- The value of a member, unless it is missing or null. -/
def nonNull (fields : List (String × Json)) (name : String) : Option Json :=
  (fields.lookup name).filter fun j => !j.isNull

/-- The members that have a value, in order. -/
def present (members : List (String × Option Json)) : List (String × Json) :=
  members.filterMap fun e => e.2.map fun j => (e.1, j)

theorem lookup_cons_of_ne {α : Type} {name key : String} (differ : name ≠ key) (value : α)
    (rest : List (String × α)) : ((key, value) :: rest).lookup name = rest.lookup name := by
  have test : (name == key) = false := by simpa using differ
  rw [List.lookup_cons, test]

theorem lookup_present_of_notMem {members : List (String × Option Json)} {name : String}
    (absent : name ∉ members.map Prod.fst) : (present members).lookup name = none := by
  rw [List.lookup_eq_none_iff]
  intro e member
  obtain ⟨⟨key, value⟩, inside, same⟩ := List.mem_filterMap.mp member
  obtain ⟨j, _, rfl⟩ := Option.map_eq_some_iff.mp same
  have differ : name ≠ key := fun equal => absent (List.mem_map.mpr ⟨_, inside, equal.symm⟩)
  simpa using differ

/-- Leaving members out does not change what the others are. -/
theorem lookup_present {members : List (String × Option Json)}
    (nodup : (members.map Prod.fst).Nodup) (name : String) :
    (present members).lookup name = (members.lookup name).join := by
  induction members with
  | nil => rfl
  | cons e rest ih =>
      obtain ⟨key, value⟩ := e
      simp only [List.map_cons, List.nodup_cons] at nodup
      by_cases same : name = key
      · subst same
        rw [List.lookup_cons_self]
        cases value with
        | none =>
            have absent : (present rest).lookup name = none := lookup_present_of_notMem nodup.1
            exact absent
        | some j => exact List.lookup_cons_self
      · rw [lookup_cons_of_ne same, ← ih nodup.2]
        cases value with
        | none => rfl
        | some j => exact lookup_cons_of_ne same j _

/-- Removing members by name does not change what the others are. -/
theorem lookup_filter (keep : String → Bool) (fields : List (String × Json)) (name : String) :
    (fields.filter fun e => keep e.1).lookup name =
      if keep name then fields.lookup name else none := by
  induction fields with
  | nil => simp
  | cons e rest ih =>
      obtain ⟨key, value⟩ := e
      by_cases same : name = key
      · subst same
        cases kept : keep name with
        | false =>
            rw [List.filter_cons_of_neg (by simpa using kept), ih, kept]
            rfl
        | true =>
            rw [List.filter_cons_of_pos (by simpa using kept), if_pos rfl, List.lookup_cons_self,
              List.lookup_cons_self]
      · rw [lookup_cons_of_ne same, ← ih]
        cases kept : keep key with
        | false => rw [List.filter_cons_of_neg (by simpa using kept)]
        | true => rw [List.filter_cons_of_pos (by simpa using kept), lookup_cons_of_ne same]

theorem lookup_setItems (key : String) (value : Json) (fields : List (String × Json))
    (name : String) :
    (Dict.setItems key value fields).lookup name =
      if name = key then some value else fields.lookup name := by
  induction fields with
  | nil =>
      by_cases same : name = key
      · subst same
        simp [Dict.setItems]
      · rw [if_neg same]
        exact lookup_cons_of_ne same value []
  | cons e rest ih =>
      obtain ⟨first, old⟩ := e
      by_cases here : first = key
      · subst here
        by_cases same : name = first
        · subst same
          simp [Dict.setItems]
        · simp only [Dict.setItems, if_true, if_neg same, lookup_cons_of_ne same]
      · by_cases same : name = first
        · subst same
          simp [Dict.setItems, here]
        · simp only [Dict.setItems, if_neg here, lookup_cons_of_ne same, ih]

end Json

end AgentServe
