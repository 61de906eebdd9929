import AgentServe.Config.Models
import AgentServe.Lib.Dict

/-!
# The backend registry

The registry holds the configured backends by identifier, in the order of the
configuration, each with its present status. A backend is in the pool of its
tier when its status is healthy (`mem_getHealthyBackends`). Changing a status
touches one backend and nothing but its status (`getBackend_markStatus`), so the
backends are at all times those of the configuration (`Grounded.markStatus`).

A registry carries the fact that every backend is filed under its own
identifier.
-/

set_option autoImplicit false

namespace AgentServe

open Lib

/-- The backends by identifier. -/
structure BackendRegistry where
  backends : Dict String BackendInfo
  filed : ∀ id b, backends.get? id = some b → b.id = id

namespace BackendRegistry

/-- The record of a configured backend, before any probe. -/
def ofConfig (b : BackendConfig) : BackendInfo where
  id := b.id
  tier := b.tier
  baseUrl := b.baseUrl
  gpu := b.gpu
  maxInflight := b.maxInflight
  model := b.model

/-- The registry without backends. -/
def empty : BackendRegistry := ⟨.empty, by simp⟩

/-- File a backend under its identifier. A later backend of the same identifier replaces an
earlier one. -/
def file (r : BackendRegistry) (b : BackendInfo) : BackendRegistry where
  backends := r.backends.set b.id b
  filed := by
    intro id found at_id
    rw [Dict.get?_set] at at_id
    split at at_id
    · rename_i same
      cases at_id
      exact same.symm
    · exact r.filed id found at_id

/-- The registry of a configuration. -/
def new (config : GatewayConfig) : BackendRegistry :=
  (config.backends.map ofConfig).foldl file empty

def allBackends (r : BackendRegistry) : List BackendInfo := r.backends.values

def getBackend (r : BackendRegistry) (id : String) : Option BackendInfo := r.backends.get? id

/-- The status of a backend. -/
def status? (r : BackendRegistry) (id : String) : Option BackendStatus :=
  (r.getBackend id).map BackendInfo.status

/-- The pool of a tier: its healthy backends. -/
def getHealthyBackends (r : BackendRegistry) (tier : Tier) : List BackendInfo :=
  r.allBackends.filter fun b => b.tier == tier && b.status == .healthy

/-- Change the status of a backend. An unknown identifier is ignored. -/
def markStatus (r : BackendRegistry) (id : String) (status : BackendStatus) : BackendRegistry where
  backends := r.backends.modify id fun b => { b with status }
  filed := by
    intro j found at_j
    rw [Dict.get?_modify] at at_j
    split at at_j
    · obtain ⟨b, before, rfl⟩ := Option.map_eq_some_iff.mp at_j
      exact r.filed j b before
    · exact r.filed j found at_j

theorem getBackend_id {r : BackendRegistry} {id : String} {b : BackendInfo}
    (found : r.getBackend id = some b) : b.id = id :=
  r.filed id b found

theorem mem_allBackends {r : BackendRegistry} {b : BackendInfo} :
    b ∈ r.allBackends ↔ r.getBackend b.id = some b := by
  constructor
  · intro member
    obtain ⟨⟨id, value⟩, inside, rfl⟩ := List.mem_map.mp member
    have found : r.getBackend id = some value := Dict.mem_items_iff.mp inside
    rw [getBackend_id found]
    exact found
  · intro found
    exact List.mem_map.mpr ⟨(b.id, b), Dict.mem_items_iff.mpr found, rfl⟩

/-- **The pool is the healthy part of the registry.** -/
theorem mem_getHealthyBackends {r : BackendRegistry} {tier : Tier} {b : BackendInfo} :
    b ∈ r.getHealthyBackends tier ↔
      r.getBackend b.id = some b ∧ b.tier = tier ∧ b.status = .healthy := by
  rw [getHealthyBackends, List.mem_filter, mem_allBackends]
  simp

/-- The backends have distinct identifiers. -/
theorem nodup_allBackends (r : BackendRegistry) : (r.allBackends.map BackendInfo.id).Nodup := by
  have keyed : r.allBackends.map BackendInfo.id = r.backends.keys := by
    apply (List.map_map ..).trans
    apply List.map_congr_left
    intro e member
    exact r.filed e.1 e.2 (Dict.mem_items_iff.mp member)
  exact keyed ▸ r.backends.nodup

/-- The backends of a pool have distinct identifiers. -/
theorem nodup_getHealthyBackends (r : BackendRegistry) (tier : Tier) :
    ((r.getHealthyBackends tier).map BackendInfo.id).Nodup :=
  r.nodup_allBackends.sublist (List.filter_sublist.map BackendInfo.id)

/-- Searching the list of backends is looking up. -/
theorem find?_allBackends (r : BackendRegistry) (id : String) :
    (r.allBackends.find? fun b => b.id = id) = r.getBackend id := by
  cases found : r.allBackends.find? fun b => b.id = id with
  | none =>
      cases present : r.getBackend id with
      | none => rfl
      | some b =>
          have named : b.id = id := getBackend_id present
          have member : b ∈ r.allBackends := mem_allBackends.mpr (named ▸ present)
          exact absurd named (by simpa using List.find?_eq_none.mp found b member)
  | some b =>
      have named : b.id = id := by simpa using List.find?_some found
      exact (named ▸ mem_allBackends.mp (List.mem_of_find?_eq_some found)).symm

theorem getBackend_markStatus (r : BackendRegistry) (id : String) (status : BackendStatus)
    (j : String) :
    (r.markStatus id status).getBackend j =
      if j = id then (r.getBackend j).map fun b => { b with status } else r.getBackend j :=
  Dict.get?_modify _ _ _ _

/-- Marking a status shows at its backend, if that is known, and nowhere else. -/
theorem status?_markStatus (r : BackendRegistry) (id : String) (status : BackendStatus)
    (j : String) :
    (r.markStatus id status).status? j =
      if j = id then (r.status? j).map fun _ => status else r.status? j := by
  rw [status?, getBackend_markStatus]
  split
  · rw [status?, Option.map_map, Option.map_map]
    rfl
  · rfl

theorem getBackend_file (r : BackendRegistry) (b : BackendInfo) (j : String) :
    (r.file b).getBackend j = if j = b.id then some b else r.getBackend j :=
  Dict.get?_set _ _ _ _

/-- What holds of the backends of a registry, and of those filed in it, holds of all of them. -/
theorem forall_foldl_file {P : BackendInfo → Prop} {l : List BackendInfo} {r : BackendRegistry}
    (all : ∀ b ∈ l, P b) (start : ∀ id b, r.getBackend id = some b → P b) {id : String}
    {b : BackendInfo} (found : (l.foldl file r).getBackend id = some b) : P b := by
  induction l generalizing r with
  | nil => exact start id b found
  | cons head tail ih =>
      apply ih (fun c member => all c (List.mem_cons_of_mem _ member)) _ found
      intro j c at_j
      rw [getBackend_file] at at_j
      split at at_j
      · cases at_j
        exact all head List.mem_cons_self
      · exact start j c at_j

/-- What holds of every configured backend holds of every backend of the registry. -/
theorem forall_new {config : GatewayConfig} {P : BackendInfo → Prop}
    (configured : ∀ b ∈ config.backends, P (ofConfig b)) {id : String} {b : BackendInfo}
    (found : (new config).getBackend id = some b) : P b := by
  apply forall_foldl_file _ _ found
  · intro c member
    obtain ⟨d, inside, rfl⟩ := List.mem_map.mp member
    exact configured d inside
  · intro j c none
    cases none

/-- Before any probe every backend is healthy. -/
theorem status_new {config : GatewayConfig} {id : String} {b : BackendInfo}
    (found : (new config).getBackend id = some b) : b.status = .healthy :=
  forall_new (P := fun b => b.status = .healthy) (fun _ _ => rfl) found

/-! ## The backends behind the statuses -/

/-- A registry has the backends it started with, whatever their statuses are now. -/
def Grounded (start r : BackendRegistry) : Prop :=
  ∀ id b, r.getBackend id = some b → start.getBackend id = some { b with status := .healthy }

theorem Grounded.markStatus {start r : BackendRegistry} (grounded : Grounded start r)
    (id : String) (status : BackendStatus) : Grounded start (r.markStatus id status) := by
  intro j b found
  rw [getBackend_markStatus] at found
  split at found
  · obtain ⟨c, before, rfl⟩ := Option.map_eq_some_iff.mp found
    exact grounded j c before
  · exact grounded j b found

theorem grounded_new (config : GatewayConfig) : Grounded (new config) (new config) := by
  intro id b found
  rw [found, ← status_new found]

/-! ## Membership in the pool -/

/-- A backend is in the pool of its tier. -/
def InPool (r : BackendRegistry) (id : String) : Prop :=
  ∃ b, r.getBackend id = some b ∧ b ∈ r.getHealthyBackends b.tier

/-- A known backend is in the pool exactly when its status is healthy. -/
theorem inPool_iff_status {r : BackendRegistry} {id : String} {b : BackendInfo}
    (found : r.getBackend id = some b) : r.InPool id ↔ b.status = .healthy := by
  constructor
  · rintro ⟨c, at_id, member⟩
    obtain rfl : b = c := Option.some.inj (found.symm.trans at_id)
    exact (mem_getHealthyBackends.mp member).2.2
  · intro healthy
    have named : r.getBackend b.id = some b := by
      rw [getBackend_id found]
      exact found
    exact ⟨b, found, mem_getHealthyBackends.mpr ⟨named, rfl, healthy⟩⟩

instance (r : BackendRegistry) (id : String) : Decidable (r.InPool id) :=
  match found : r.getBackend id with
  | none => isFalse fun ⟨_, at_id, _⟩ => by simp [found] at at_id
  | some _ => decidable_of_iff _ (inPool_iff_status found).symm

end BackendRegistry

end AgentServe
