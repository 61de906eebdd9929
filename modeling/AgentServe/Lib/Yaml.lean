import AgentServe.Lib.Python

/-!
# Documents with arbitrary keys

A document of this kind is a value whose mappings may have any value as a key. The
members that matter are named by texts: looking one up skips all other keys, and
assigning one keeps the place of a member that is there and appends a new one.

Assigning a member changes no other member (`member_set_self`, `member_set_of_ne`)
and adds no key that is not a text (`textKeys_set`).
-/

set_option autoImplicit false

namespace AgentServe.Lib

/-- A value of a document. -/
inductive YamlValue where
  | null
  | bool (b : Bool)
  | int (n : ℤ)
  | float (x : PyFloat)
  | str (s : String)
  | binary (bytes : List UInt8)
  | timestamp (text : String)
  | list (items : List YamlValue)
  | set (items : List YamlValue)
  | mapping (entries : List (YamlValue × YamlValue))

namespace YamlValue

/-- The value as a condition. -/
def truthy : YamlValue → Bool
  | .null => false
  | .bool b => b
  | .int n => n ≠ 0
  | .float x => x ≠ .finite 0
  | .str s => s ≠ ""
  | .binary bytes => !bytes.isEmpty
  | .timestamp _ => true
  | .list items => !items.isEmpty
  | .set items => !items.isEmpty
  | .mapping entries => !entries.isEmpty

def text? : YamlValue → Option String
  | .str s => some s
  | _ => none

/-- The items of what is read as a list. -/
def elements? : YamlValue → Option (List YamlValue)
  | .list items => some items
  | .set items => some items
  | _ => none

/-- The entries of a mapping. -/
abbrev Entries := List (YamlValue × YamlValue)

/-- The member with a name. -/
def member : Entries → String → Option YamlValue
  | [], _ => none
  | entry :: rest, key => if entry.1.text? = some key then some entry.2 else member rest key

/-- The value, or an empty mapping in place of one that is no condition. -/
def orEmpty (value : YamlValue) : YamlValue := if value.truthy then value else .mapping []

/-- Assign a member. -/
def setMember : Entries → String → YamlValue → Entries
  | [], key, value => [(.str key, value)]
  | entry :: rest, key, value =>
    if entry.1.text? = some key then (entry.1, value) :: rest
    else entry :: setMember rest key value

/-- All keys are texts. -/
def TextKeys (entries : Entries) : Prop := ∀ entry ∈ entries, entry.1.text?.isSome = true

instance (entries : Entries) : Decidable (TextKeys entries) :=
  inferInstanceAs (Decidable (∀ entry ∈ entries, _))

variable (entries : Entries) {key other : String} (value : YamlValue)

theorem member_set_self (key : String) : member (setMember entries key value) key = some value := by
  induction entries with
  | nil => exact if_pos rfl
  | cons entry rest ih =>
      by_cases here : entry.1.text? = some key
      · simp [setMember, member, here]
      · simp [setMember, member, here, ih]

theorem member_set_of_ne (differ : key ≠ other) :
    member (setMember entries key value) other = member entries other := by
  induction entries with
  | nil => exact if_neg (fun same => differ (Option.some.inj same))
  | cons entry rest ih =>
      by_cases here : entry.1.text? = some key
      · have elsewhere : ¬ entry.1.text? = some other := fun there =>
          differ (Option.some.inj (here.symm.trans there))
        simp [setMember, member, here, differ]
      · simp [setMember, member, here, ih]

theorem textKeys_set (key : String) :
    TextKeys (setMember entries key value) ↔ TextKeys entries := by
  induction entries with
  | nil => simp [setMember, TextKeys, text?]
  | cons entry rest ih =>
      simp only [TextKeys, setMember] at ih ⊢
      split
      · simp only [List.forall_mem_cons]
      · simp only [List.forall_mem_cons, ih]

end YamlValue

end AgentServe.Lib
