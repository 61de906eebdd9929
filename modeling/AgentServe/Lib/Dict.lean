import Mathlib.Algebra.BigOperators.Group.List.Basic
import Mathlib.Data.List.Nodup
import Mathlib.Data.List.Count
import Mathlib.Data.List.Perm.Basic

/-!
# Insertion-ordered dictionaries

A dictionary is a list of key and value pairs in which every key occurs once.
Assigning to a key that is present keeps its place, and assigning to a new key
puts it at the end, so iteration follows the order of first insertion.

The distinctness of the keys is a field of the structure. It turns membership
of a pair into a lookup (`mem_items_iff`), and it makes counting additive under
every operation (`count_set_of_get?_none`, `count_set_of_get?_some`,
`count_erase_of_get?_some`). Two dictionaries whose counted keys agree have the
same count, whatever their values and orders are (`count_eq_of_keys`). Sums over
the entries change by the entry that comes or goes (`sum_set_of_get?_none`,
`sum_erase_of_get?_some`).
-/

set_option autoImplicit false

namespace AgentServe.Lib

universe u v w

/-- A dictionary: pairs in insertion order, with distinct keys. -/
structure Dict (κ : Type u) (ν : Type v) where
  items : List (κ × ν)
  nodup : (items.map Prod.fst).Nodup

namespace Dict

variable {κ : Type u} {ν : Type v}

/-- The dictionary without entries. -/
def empty : Dict κ ν := ⟨[], List.nodup_nil⟩

/-- The keys, in insertion order. -/
def keys (d : Dict κ ν) : List κ := d.items.map Prod.fst

/-- The values, in insertion order. -/
def values (d : Dict κ ν) : List ν := d.items.map Prod.snd

/-- How many entries satisfy a test on key and value. -/
def count (p : κ → ν → Bool) (d : Dict κ ν) : ℕ := d.items.countP fun e => p e.1 e.2

theorem nodup_keys (d : Dict κ ν) : d.keys.Nodup := d.nodup

theorem ext_items {d e : Dict κ ν} (same : d.items = e.items) : d = e := by
  cases d
  cases e
  cases same
  rfl

/-- The entry of a key is the first one with it. -/
theorem notMem_of_items_eq {d : Dict κ ν} {front back : List (κ × ν)} {k : κ} {u : ν}
    (split : d.items = front ++ (k, u) :: back) : k ∉ front.map Prod.fst := by
  intro inside
  have distinct := d.nodup
  rw [split, List.map_append, List.nodup_append'] at distinct
  exact distinct.2.2 inside (by simp)

/-- Keep the entries that satisfy a test. -/
def filter (p : κ → ν → Bool) (d : Dict κ ν) : Dict κ ν where
  items := d.items.filter fun e => p e.1 e.2
  nodup := d.nodup.sublist (List.filter_sublist.map Prod.fst)

/-- Change every value. -/
def map {ω : Type w} (f : κ → ν → ω) (d : Dict κ ν) : Dict κ ω where
  items := d.items.map fun e => (e.1, f e.1 e.2)
  nodup := by
    rw [List.map_map]
    exact d.nodup

section Lookup

variable [DecidableEq κ]

/-- The value at a key. -/
def get? (d : Dict κ ν) (k : κ) : Option ν :=
  (d.items.find? fun e => e.1 = k).map Prod.snd

@[simp] theorem get?_empty (k : κ) : (empty : Dict κ ν).get? k = none := rfl

private theorem find?_key_of_mem {l : List (κ × ν)} (nodup : (l.map Prod.fst).Nodup) {k : κ}
    {v : ν} (member : (k, v) ∈ l) : (l.find? fun e => e.1 = k) = some (k, v) := by
  induction l with
  | nil => cases member
  | cons head tail ih =>
      simp only [List.map_cons, List.nodup_cons] at nodup
      rcases List.mem_cons.mp member with here | later
      · subst here
        simp
      · have distinct : head.1 ≠ k := fun same =>
          nodup.1 (List.mem_map.mpr ⟨(k, v), later, same.symm⟩)
        rw [List.find?_cons_of_neg (by simpa using distinct)]
        exact ih nodup.2 later

/-- **Membership is lookup.** -/
theorem mem_items_iff {d : Dict κ ν} {k : κ} {v : ν} :
    (k, v) ∈ d.items ↔ d.get? k = some v := by
  constructor
  · intro member
    rw [get?, find?_key_of_mem d.nodup member]
    rfl
  · intro found
    obtain ⟨e, searched, value⟩ := Option.map_eq_some_iff.mp found
    have key : e.1 = k := by simpa using List.find?_some searched
    have whole : e = (k, v) := Prod.ext key value
    exact whole ▸ List.mem_of_find?_eq_some searched

theorem mem_keys_iff {d : Dict κ ν} {k : κ} : k ∈ d.keys ↔ ∃ v, d.get? k = some v := by
  constructor
  · intro member
    obtain ⟨e, inside, key⟩ := List.mem_map.mp member
    subst key
    exact ⟨e.2, mem_items_iff.mp inside⟩
  · rintro ⟨v, found⟩
    exact List.mem_map.mpr ⟨(k, v), mem_items_iff.mpr found, rfl⟩

theorem get?_eq_none_iff {d : Dict κ ν} {k : κ} : d.get? k = none ↔ k ∉ d.keys := by
  rw [mem_keys_iff, Option.eq_none_iff_forall_ne_some, not_exists]

/-- A dictionary in which every lookup fails is empty. -/
theorem eq_empty_of_get? {d : Dict κ ν} (missing : ∀ k, d.get? k = none) : d = empty := by
  apply ext_items
  apply List.eq_nil_iff_forall_not_mem.mpr
  intro e member
  have found := mem_items_iff.mp (show (e.1, e.2) ∈ d.items from member)
  simp [missing] at found

theorem get?_map {ω : Type w} (f : κ → ν → ω) (d : Dict κ ν) (k : κ) :
    (d.map f).get? k = (d.get? k).map (f k) := by
  ext u
  rw [← mem_items_iff, Option.map_eq_some_iff]
  constructor
  · intro member
    obtain ⟨⟨j, v⟩, inside, same⟩ := List.mem_map.mp member
    obtain ⟨rfl, rfl⟩ := Prod.mk.inj same
    exact ⟨v, mem_items_iff.mp inside, rfl⟩
  · rintro ⟨v, found, rfl⟩
    exact List.mem_map.mpr ⟨(k, v), mem_items_iff.mpr found, rfl⟩

theorem get?_filter (d : Dict κ ν) (p : κ → ν → Bool) (k : κ) :
    (d.filter p).get? k = (d.get? k).filter (p k) := by
  ext v
  rw [← mem_items_iff, Option.filter_eq_some_iff, ← mem_items_iff]
  exact List.mem_filter

/-! ## Assignment -/

/-- Assign in place, or at the end when the key is new. -/
def setItems (k : κ) (v : ν) : List (κ × ν) → List (κ × ν)
  | [] => [(k, v)]
  | e :: rest => if e.1 = k then (k, v) :: rest else e :: setItems k v rest

private theorem keys_setItems (k : κ) (v : ν) (l : List (κ × ν)) :
    (setItems k v l).map Prod.fst =
      if k ∈ l.map Prod.fst then l.map Prod.fst else l.map Prod.fst ++ [k] := by
  induction l with
  | nil => rfl
  | cons e rest ih =>
      by_cases same : e.1 = k
      · simp [setItems, same]
      · have differ : k ≠ e.1 := fun equal => same equal.symm
        simp only [setItems, same, if_false, List.map_cons, List.mem_cons, differ, false_or, ih]
        split <;> rfl

/-- Assign a value to a key. -/
def set (d : Dict κ ν) (k : κ) (v : ν) : Dict κ ν where
  items := setItems k v d.items
  nodup := by
    rw [keys_setItems]
    split
    · exact d.nodup
    · rename_i absent
      exact List.nodup_append'.mpr ⟨d.nodup, List.nodup_singleton k, by simpa using absent⟩

private theorem find?_setItems (k : κ) (v : ν) (j : κ) (l : List (κ × ν)) :
    ((setItems k v l).find? fun e => e.1 = j).map Prod.snd =
      if j = k then some v else (l.find? fun e => e.1 = j).map Prod.snd := by
  induction l with
  | nil =>
      by_cases same : j = k
      · simp [setItems, same]
      · have differ : k ≠ j := fun equal => same equal.symm
        simp [setItems, same, differ]
  | cons e rest ih =>
      by_cases here : e.1 = k
      · by_cases same : j = k
        · simp [setItems, here, same]
        · have differ : k ≠ j := fun equal => same equal.symm
          simp [setItems, here, same, differ]
      · by_cases same : e.1 = j
        · have differ : j ≠ k := fun equal => here (same.trans equal)
          simp [setItems, same, differ]
        · simpa [setItems, here, List.find?_cons, same] using ih

/-- A member is taken out before another one is assigned, or afterwards. -/
theorem eraseP_setItems {j k : κ} (differ : k ≠ j) (v : ν) (l : List (κ × ν)) :
    (setItems k v l).eraseP (fun e => e.1 = j) = setItems k v (l.eraseP fun e => e.1 = j) := by
  induction l with
  | nil => simp [setItems, differ]
  | cons e rest ih =>
      by_cases here : e.1 = k
      · simp [setItems, here, differ]
      · by_cases same : e.1 = j
        · simp [setItems, same, differ.symm]
        · simp [setItems, here, same, ih]

private theorem setItems_of_notMem {k : κ} (v : ν) {l : List (κ × ν)}
    (absent : k ∉ l.map Prod.fst) : setItems k v l = l ++ [(k, v)] := by
  induction l with
  | nil => rfl
  | cons e rest ih =>
      simp only [List.map_cons, List.mem_cons, not_or] at absent
      have differ : e.1 ≠ k := fun same => absent.1 same.symm
      simp only [setItems, differ, if_false, ih absent.2, List.cons_append]

/-- The dictionary of a list of pairs. Of several pairs with one key, the last one counts. -/
def ofItems (l : List (κ × ν)) : Dict κ ν := l.foldl (fun d e => d.set e.1 e.2) empty

theorem items_foldl_set {l : List (κ × ν)} {d : Dict κ ν}
    (distinct : ((d.items ++ l).map Prod.fst).Nodup) :
    (l.foldl (fun d e => d.set e.1 e.2) d).items = d.items ++ l := by
  induction l generalizing d with
  | nil => exact (List.append_nil _).symm
  | cons e rest ih =>
      have absent : e.1 ∉ d.items.map Prod.fst := by
        rw [List.map_append, List.nodup_append'] at distinct
        exact fun inside => distinct.2.2 inside (List.mem_map_of_mem List.mem_cons_self)
      have placed : (d.set e.1 e.2).items = d.items ++ [e] := setItems_of_notMem e.2 absent
      have still : (((d.set e.1 e.2).items ++ rest).map Prod.fst).Nodup := by
        rwa [placed, List.append_assoc, List.singleton_append]
      rw [List.foldl_cons, ih still, placed, List.append_assoc, List.singleton_append]

/-- The dictionary of a dictionary's pairs is the dictionary. -/
theorem ofItems_items (d : Dict κ ν) : ofItems d.items = d :=
  ext_items (items_foldl_set (d := empty) d.nodup)

/-- A new key goes to the end, and a key that is present keeps its place. -/
theorem keys_set (d : Dict κ ν) (k : κ) (v : ν) :
    (d.set k v).keys = if k ∈ d.keys then d.keys else d.keys ++ [k] :=
  keys_setItems k v d.items

/-- Assigning to a key that is present changes its entry in place. -/
theorem items_set_of_items_eq {d : Dict κ ν} {front back : List (κ × ν)} {k : κ} {u : ν}
    (split : d.items = front ++ (k, u) :: back) (v : ν) :
    (d.set k v).items = front ++ (k, v) :: back := by
  have absent := notMem_of_items_eq split
  have placed : setItems k v (front ++ (k, u) :: back) = front ++ (k, v) :: back := by
    clear split
    induction front with
    | nil => simp [setItems]
    | cons e rest ih =>
        simp only [List.map_cons, List.mem_cons, not_or] at absent
        have differ : e.1 ≠ k := fun same => absent.1 same.symm
        simp only [List.cons_append, setItems, differ, if_false, ih absent.2]
  rw [← placed, ← split]
  rfl

theorem get?_set (d : Dict κ ν) (k : κ) (v : ν) (j : κ) :
    (d.set k v).get? j = if j = k then some v else d.get? j :=
  find?_setItems k v j d.items

@[simp] theorem get?_set_self (d : Dict κ ν) (k : κ) (v : ν) : (d.set k v).get? k = some v := by
  rw [get?_set, if_pos rfl]

theorem get?_set_of_ne (d : Dict κ ν) {k j : κ} (v : ν) (differ : j ≠ k) :
    (d.set k v).get? j = d.get? j := by
  rw [get?_set, if_neg differ]

/-- Assigning to distinct keys: what is assigned to a key is found there, and otherwise what was
there before. -/
theorem get?_foldl_set {l : List (κ × ν)} (distinct : (l.map Prod.fst).Nodup) (d : Dict κ ν)
    (k : κ) :
    (l.foldl (fun d e => d.set e.1 e.2) d).get? k =
      ((l.find? fun e => e.1 = k).map Prod.snd).or (d.get? k) := by
  induction l generalizing d with
  | nil => rfl
  | cons e rest ih =>
      obtain ⟨fresh, others⟩ := List.nodup_cons.mp distinct
      rw [List.foldl_cons, ih others, get?_set]
      by_cases here : e.1 = k
      · subst here
        have missing : (rest.find? fun e' => e'.1 = e.1) = none := by
          apply List.find?_eq_none.mpr
          intro e' member
          have differ : e'.1 ≠ e.1 := fun same => fresh (same ▸ List.mem_map_of_mem member)
          simpa using differ
        rw [missing, if_pos rfl, List.find?_cons_of_pos (by simp)]
        rfl
      · rw [if_neg fun same => here same.symm, List.find?_cons_of_neg (by simpa using here)]

/-- Of two assignments to a key, the second one counts. -/
theorem set_set (d : Dict κ ν) (k : κ) (u v : ν) : (d.set k u).set k v = d.set k v := by
  apply ext_items
  have twice : ∀ l : List (κ × ν), setItems k v (setItems k u l) = setItems k v l := by
    intro l
    induction l with
    | nil => simp [setItems]
    | cons e rest ih =>
        by_cases same : e.1 = k
        · simp [setItems, same]
        · simp [setItems, same, ih]
  exact twice d.items

theorem map_set {ω : Type w} (f : κ → ν → ω) (d : Dict κ ν) (k : κ) (v : ν) :
    (d.set k v).map f = (d.map f).set k (f k v) := by
  apply ext_items
  have each : ∀ l : List (κ × ν), (setItems k v l).map (fun e => (e.1, f e.1 e.2)) =
      setItems k (f k v) (l.map fun e => (e.1, f e.1 e.2)) := by
    intro l
    induction l with
    | nil => rfl
    | cons e rest ih =>
        by_cases same : e.1 = k
        · simp [setItems, same]
        · simp [setItems, same, ih]
  exact each d.items

/-- Assigning to a new key appends its entry. -/
theorem items_set_of_get?_none {d : Dict κ ν} {k : κ} (absent : d.get? k = none) (v : ν) :
    (d.set k v).items = d.items ++ [(k, v)] :=
  setItems_of_notMem v (get?_eq_none_iff.mp absent)

/-- Change the value at a key, when there is one. -/
def modify (d : Dict κ ν) (k : κ) (f : ν → ν) : Dict κ ν :=
  match d.get? k with
  | none => d
  | some v => d.set k (f v)

theorem get?_modify (d : Dict κ ν) (k : κ) (f : ν → ν) (j : κ) :
    (d.modify k f).get? j = if j = k then (d.get? j).map f else d.get? j := by
  unfold modify
  cases found : d.get? k with
  | none =>
      by_cases same : j = k
      · subst same
        simp [found]
      · simp [same]
  | some v =>
      by_cases same : j = k
      · subst same
        simp [found]
      · simp [get?_set_of_ne d (f v) same, same]

/-! ## Removal -/

/-- Remove a key. -/
def erase (d : Dict κ ν) (k : κ) : Dict κ ν := d.filter fun j _ => j ≠ k

theorem get?_erase (d : Dict κ ν) (k j : κ) :
    (d.erase k).get? j = if j = k then none else d.get? j := by
  rw [erase, get?_filter]
  by_cases same : j = k
  · simp [same]
  · cases d.get? j <;> simp [same, Option.filter]

@[simp] theorem get?_erase_self (d : Dict κ ν) (k : κ) : (d.erase k).get? k = none := by
  rw [get?_erase, if_pos rfl]

theorem get?_erase_of_ne (d : Dict κ ν) {k j : κ} (differ : j ≠ k) :
    (d.erase k).get? j = d.get? j := by
  rw [get?_erase, if_neg differ]

/-- A removal keeps the order of the others. -/
theorem items_erase_sublist (d : Dict κ ν) (k : κ) : (d.erase k).items.Sublist d.items :=
  List.filter_sublist

theorem keys_erase_sublist (d : Dict κ ν) (k : κ) : (d.erase k).keys.Sublist d.keys :=
  (items_erase_sublist d k).map Prod.fst

/-- What is found after a removal was there before. -/
theorem get?_of_get?_erase {d : Dict κ ν} {k j : κ} {v : ν}
    (found : (d.erase k).get? j = some v) : d.get? j = some v := by
  rw [get?_erase] at found
  split at found
  · cases found
  · exact found

/-! ## Counting -/

private theorem countP_setItems_of_notMem (p : κ → ν → Bool) {k : κ} (v : ν)
    {l : List (κ × ν)} (absent : k ∉ l.map Prod.fst) :
    (setItems k v l).countP (fun e => p e.1 e.2) =
      l.countP (fun e => p e.1 e.2) + (p k v).toNat := by
  induction l with
  | nil => cases test : p k v <;> simp [setItems, test]
  | cons e rest ih =>
      simp only [List.map_cons, List.mem_cons, not_or] at absent
      have differ : e.1 ≠ k := fun same => absent.1 same.symm
      simp only [setItems, differ, if_false, List.countP_cons, ih absent.2]
      omega

private theorem countP_setItems_of_mem (p : κ → ν → Bool) {k : κ} (u v : ν)
    {l : List (κ × ν)} (nodup : (l.map Prod.fst).Nodup) (member : (k, u) ∈ l) :
    (setItems k v l).countP (fun e => p e.1 e.2) + (p k u).toNat =
      l.countP (fun e => p e.1 e.2) + (p k v).toNat := by
  induction l with
  | nil => cases member
  | cons e rest ih =>
      simp only [List.map_cons, List.nodup_cons] at nodup
      rcases List.mem_cons.mp member with here | later
      · subst here
        simp only [setItems, if_true, List.countP_cons]
        cases p k u <;> cases p k v <;> simp
      · have differ : e.1 ≠ k := fun same =>
          nodup.1 (List.mem_map.mpr ⟨(k, u), later, same.symm⟩)
        simp only [setItems, differ, if_false, List.countP_cons]
        have rest := ih nodup.2 later
        omega

/-- A new key adds its own contribution. -/
theorem count_set_of_get?_none (p : κ → ν → Bool) {d : Dict κ ν} {k : κ} (v : ν)
    (absent : d.get? k = none) : (d.set k v).count p = d.count p + (p k v).toNat :=
  countP_setItems_of_notMem p v (get?_eq_none_iff.mp absent)

/-- Assigning to a present key exchanges its contribution. -/
theorem count_set_of_get?_some (p : κ → ν → Bool) {d : Dict κ ν} {k : κ} {u : ν} (v : ν)
    (present : d.get? k = some u) :
    (d.set k v).count p + (p k u).toNat = d.count p + (p k v).toNat :=
  countP_setItems_of_mem p u v d.nodup (mem_items_iff.mpr present)

/-- Assigning to a key exchanges its contribution, which is nothing when the key is new. -/
theorem count_set (p : κ → ν → Bool) (d : Dict κ ν) (k : κ) (v : ν) :
    (d.set k v).count p + ((d.get? k).any (p k)).toNat = d.count p + (p k v).toNat := by
  cases found : d.get? k with
  | none => exact count_set_of_get?_none p v found
  | some u => exact count_set_of_get?_some p v found

private theorem perm_cons_filter_of_mem {k : κ} {u : ν} {l : List (κ × ν)}
    (nodup : (l.map Prod.fst).Nodup) (member : (k, u) ∈ l) :
    l.Perm ((k, u) :: l.filter fun e => e.1 ≠ k) := by
  induction l with
  | nil => cases member
  | cons e rest ih =>
      simp only [List.map_cons, List.nodup_cons] at nodup
      rcases List.mem_cons.mp member with here | later
      · subst here
        have others : (rest.filter fun e => e.1 ≠ k) = rest := by
          apply List.filter_eq_self.mpr
          intro other inside
          have differ : other.1 ≠ k := fun same =>
            nodup.1 (List.mem_map.mpr ⟨other, inside, same⟩)
          simpa using differ
        rw [List.filter_cons_of_neg (by simp), others]
      · have differ : e.1 ≠ k := fun same =>
          nodup.1 (List.mem_map.mpr ⟨(k, u), later, same.symm⟩)
        rw [List.filter_cons_of_pos (by simpa using differ)]
        exact ((ih nodup.2 later).cons e).trans (.swap ..)

/-- The entries are the entry of a present key and those that removing the key leaves. -/
theorem perm_cons_erase {d : Dict κ ν} {k : κ} {u : ν} (present : d.get? k = some u) :
    d.items.Perm ((k, u) :: (d.erase k).items) :=
  perm_cons_filter_of_mem d.nodup (mem_items_iff.mpr present)

/-- Removing a present key removes its contribution. -/
theorem count_erase_of_get?_some (p : κ → ν → Bool) {d : Dict κ ν} {k : κ} {u : ν}
    (present : d.get? k = some u) :
    (d.erase k).count p + (p k u).toNat = d.count p := by
  rw [count, count, (perm_cons_erase present).countP_eq, List.countP_cons]
  cases p k u <;> rfl

theorem mem_keys_filter_iff {p : κ → ν → Bool} {d : Dict κ ν} {k : κ} :
    k ∈ (d.filter p).keys ↔ ∃ v, d.get? k = some v ∧ p k v = true := by
  rw [mem_keys_iff]
  simp only [get?_filter, Option.filter_eq_some_iff]

/-- **Counting by keys.** Two dictionaries in which the same keys pass their tests have the
same count. -/
theorem count_eq_of_keys {ω : Type w} {p : κ → ν → Bool} {q : κ → ω → Bool} {d : Dict κ ν}
    {e : Dict κ ω}
    (same : ∀ k, (∃ v, d.get? k = some v ∧ p k v = true) ↔
      ∃ v, e.get? k = some v ∧ q k v = true) :
    d.count p = e.count q := by
  have perm : (d.filter p).keys.Perm (e.filter q).keys :=
    (List.perm_ext_iff_of_nodup (d.filter p).nodup (e.filter q).nodup).mpr fun k =>
      mem_keys_filter_iff.trans ((same k).trans mem_keys_filter_iff.symm)
  have lengths := perm.length_eq
  simp only [keys, filter, List.length_map] at lengths
  rw [count, count, List.countP_eq_length_filter, List.countP_eq_length_filter, lengths]

/-- No entry passes a test that fails at every lookup. -/
theorem count_eq_zero {p : κ → ν → Bool} {d : Dict κ ν}
    (fails : ∀ k v, d.get? k = some v → p k v = false) : d.count p = 0 := by
  apply List.countP_eq_zero.mpr
  intro e member
  simp [fails e.1 e.2 (mem_items_iff.mp member)]

/-- A test that is stronger on the entries of a dictionary counts no more of them. -/
theorem count_le_of_get? {p q : κ → ν → Bool} {d : Dict κ ν}
    (stronger : ∀ k v, d.get? k = some v → p k v = true → q k v = true) :
    d.count p ≤ d.count q :=
  List.countP_mono_left fun e member => stronger e.1 e.2 (mem_items_iff.mp member)

omit [DecidableEq κ] in
/-- What passes a test passes a second one or fails it. -/
theorem count_and_add_count_and_not (p q : κ → ν → Bool) (d : Dict κ ν) :
    d.count (fun k v => p k v && q k v) + d.count (fun k v => p k v && !q k v) = d.count p := by
  simp only [count]
  induction d.items with
  | nil => rfl
  | cons e rest ih =>
      simp only [List.countP_cons]
      cases p e.1 e.2 <;> cases q e.1 e.2 <;> simp <;> omega

theorem count_pos {p : κ → ν → Bool} {d : Dict κ ν} {k : κ} {v : ν} (found : d.get? k = some v)
    (passes : p k v = true) : 0 < d.count p :=
  List.countP_pos_iff.mpr ⟨(k, v), mem_items_iff.mpr found, passes⟩

/-- When one test is stronger than another on the entries, the two count the same exactly if they
agree on the entries. -/
theorem count_eq_count_iff_of_stronger {p q : κ → ν → Bool} {d : Dict κ ν}
    (stronger : ∀ k v, d.get? k = some v → p k v = true → q k v = true) :
    d.count p = d.count q ↔ ∀ k v, d.get? k = some v → q k v = true → p k v = true := by
  have parts := count_and_add_count_and_not q p d
  have both : d.count (fun k v => q k v && p k v) = d.count p := by
    apply count_eq_of_keys
    intro k
    apply exists_congr
    intro v
    apply and_congr_right
    intro found
    simpa using stronger k v found
  constructor
  · intro same k v found passes
    by_contra fails
    have extra : 0 < d.count fun k v => q k v && !p k v := count_pos found (by simp [passes, fails])
    omega
  · intro agree
    have none_extra : d.count (fun k v => q k v && !p k v) = 0 := by
      apply count_eq_zero
      intro k v found
      cases passes : q k v with
      | false => rfl
      | true => simp [agree k v found passes]
    omega

/-- What is counted is there. -/
theorem exists_of_count_pos {p : κ → ν → Bool} {d : Dict κ ν} (counted : 0 < d.count p) :
    ∃ k v, d.get? k = some v ∧ p k v = true := by
  obtain ⟨⟨k, v⟩, member, passes⟩ := List.countP_pos_iff.mp counted
  exact ⟨k, v, mem_items_iff.mp member, passes⟩

/-! ## Sums -/

section Sum

variable {M : Type w} [AddCommMonoid M]

omit [DecidableEq κ] in
/-- What the entries amount to, together. -/
def sum (f : κ → ν → M) (d : Dict κ ν) : M := (d.items.map fun e => f e.1 e.2).sum

/-- A new entry adds its own amount. -/
theorem sum_set_of_get?_none (f : κ → ν → M) {d : Dict κ ν} {k : κ} (v : ν)
    (absent : d.get? k = none) : (d.set k v).sum f = d.sum f + f k v := by
  simp [sum, set, setItems_of_notMem v (get?_eq_none_iff.mp absent)]

/-- An entry that is removed takes its amount with it. -/
theorem sum_erase_of_get?_some (f : κ → ν → M) {d : Dict κ ν} {k : κ} {u : ν}
    (present : d.get? k = some u) : (d.erase k).sum f + f k u = d.sum f := by
  have whole := ((perm_cons_erase present).map fun e => f e.1 e.2).sum_eq
  rw [List.map_cons, List.sum_cons, add_comm] at whole
  exact whole.symm

end Sum

end Lookup

end Dict

end AgentServe.Lib
