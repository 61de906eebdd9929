import AgentServe.Affinity.Scheduler
import AgentServe.Lib.Run

/-!
# Histories of the sticky table

Three operations write the table: turns, invalidations and migrations. A run of
them at given times leaves a history of operations with their answers, where the
answer of a migration is what it logs.

Every binding of the table is explained by the history (`explained_final`): the
session has a last answered turn, it was not invalidated since, and the binding
is the backend of that turn as moved by the migrations logged since. A hit
answers with the backend of a binding, so it is explained too
(`hit_is_last_turn_or_migration`). It need not be the backend of the last turn:
a migration moves a session without a turn (`migration_makes_a_hit`).
-/

set_option autoImplicit false

namespace AgentServe

open Lib

/-- The operations on the table. A migration reads the registry as it is at the time. -/
inductive Operation where
  | select (session : SessionContext) (tier : Tier) (candidates : List BackendInfo)
  | invalidate (sessionId : String)
  | backendDown (registry : BackendRegistry) (backendId : String) (tier : Tier)

inductive Answer where
  | selected (outcome : Except GatewayException (BackendInfo × Bool))
  | invalidated
  | migrated (log : List Migration)
deriving DecidableEq

/-- An operation at a time, with its answer. -/
abbrev Record := (Time × Operation) × Answer

namespace AffinityScheduler

/-- Carry out an operation, with one reading of the clock. -/
def step (s : AffinityScheduler) (e : Time × Operation) : AffinityScheduler × Answer :=
  match e.2 with
  | .select session tier candidates =>
    let (next, outcome) := s.selectBackend session tier candidates e.1 e.1
    (next, .selected outcome)
  | .invalidate sessionId => (s.invalidate sessionId, .invalidated)
  | .backendDown registry backendId tier =>
    let (next, log) := s.onBackendDown registry backendId tier
    (next, .migrated log)

theorem ttl_step (s : AffinityScheduler) (e : Time × Operation) : (s.step e).1.ttl = s.ttl := by
  obtain ⟨now, operation⟩ := e
  cases operation with
  | select session tier candidates => exact ttl_selectBackend ..
  | invalidate sessionId => rfl
  | backendDown registry backendId tier => rfl

end AffinityScheduler

/-! ## Reading a history -/

namespace Record

/-- The backend a session was answered with, if the record is an answered turn of it. -/
def turnOf (sid : String) : Record → Option BackendInfo
  | ((_, .select session _ _), .selected (.ok (b, _))) =>
    if session.sessionId = sid then some b else none
  | _ => none

/-- The record is an invalidation of the session. -/
def Invalidates (sid : String) : Record → Prop
  | ((_, .invalidate sessionId), _) => sessionId = sid
  | _ => False

/-- The backend a session bound to `backendId` is bound to after the record, by what was
logged about it. -/
def moved (sid backendId : String) : Record → String
  | (_, .migrated log) =>
    ((log.find? fun m => m.sessionId = sid).bind Migration.target).getD backendId
  | _ => backendId

/-- A record that neither answers nor invalidates a session. -/
def Silent (sid : String) (r : Record) : Prop := r.turnOf sid = none ∧ ¬ r.Invalidates sid

end Record

/-- A binding of a session to a backend is explained by a history: the session has a last
answered turn, it was not invalidated since, and the backend is that of the turn, moved along
the migrations since. -/
def Explained (sid : String) (h : List Record) (backendId : String) : Prop :=
  ∃ front turn since b, h = front ++ turn :: since ∧ turn.turnOf sid = some b ∧
    (∀ r ∈ since, r.Silent sid) ∧ since.foldl (Record.moved sid) b.id = backendId

/-- An answered turn explains its backend. -/
theorem explained_turn {sid : String} {h : List Record} {r : Record} {b : BackendInfo}
    (answered : r.turnOf sid = some b) : Explained sid (h ++ [r]) b.id :=
  ⟨h, r, [], b, rfl, answered, by simp, rfl⟩

/-- A record that is silent about the session moves what it explains. -/
theorem Explained.concat {sid backendId : String} {h : List Record}
    (explained : Explained sid h backendId) {r : Record} (silent : r.Silent sid) :
    Explained sid (h ++ [r]) (r.moved sid backendId) := by
  obtain ⟨front, turn, since, b, rfl, answered, quiet, rfl⟩ := explained
  refine ⟨front, turn, since ++ [r], b, by simp, answered, ?_, by rw [List.foldl_concat]⟩
  intro r' member
  rcases List.mem_append.mp member with earlier | last
  · exact quiet r' earlier
  · exact List.mem_singleton.mp last ▸ silent

namespace AffinityScheduler

/-- What a migration logs about a session is what it does to its binding. -/
theorem find?_onBackendDown_log {s : AffinityScheduler} {registry : BackendRegistry}
    {backendId : String} {tier : Tier} {sid : String} :
    ((s.onBackendDown registry backendId tier).2.find? fun m => m.sessionId = sid) =
      if sid ∈ s.affected backendId tier then
        some ⟨sid, backendId,
          (selectByHrw sid (survivors registry backendId tier)).map BackendInfo.id, tier⟩
      else none := by
  simp only [onBackendDown]
  induction s.affected backendId tier with
  | nil => rfl
  | cons head tail ih =>
      by_cases same : head = sid
      · subst same
        simp
      · have differ : sid ≠ head := fun equal => same equal.symm
        simp [same, differ, ih]

/-- The bindings of the table are explained by the history. -/
def AllExplained (h : List Record) (s : AffinityScheduler) : Prop :=
  ∀ sid entry, s.sticky.get? sid = some entry → Explained sid h entry.backendId

/-- Step lemma: every operation keeps the bindings explained. -/
theorem explained_step {h : List Record} {s : AffinityScheduler} (explained : AllExplained h s)
    (e : Time × Operation) : AllExplained (h ++ [(e, (s.step e).2)]) (s.step e).1 := by
  obtain ⟨now, operation⟩ := e
  intro sid entry found
  cases operation with
  | select session tier candidates =>
      simp only [step] at found ⊢
      cases answered : (s.selectBackend session tier candidates now now).2 with
      | error e =>
          obtain rfl := candidates_of_error answered
          exact (explained sid entry found).concat ⟨rfl, id⟩
      | ok answer =>
          obtain ⟨b, hit⟩ := answer
          by_cases own : sid = session.sessionId
          · subst own
            obtain ⟨entry', bound, named, _⟩ := bound_after_answer answered
            obtain rfl : entry = entry' := Option.some.inj (found.symm.trans bound)
            rw [named]
            exact explained_turn (if_pos rfl)
          · rw [get?_selectBackend_of_ne own] at found
            have other : ¬ session.sessionId = sid := fun same => own same.symm
            exact (explained sid entry found).concat ⟨if_neg other, id⟩
  | invalidate sessionId =>
      simp only [step, get?_invalidate] at found
      split at found
      · cases found
      · rename_i other
        exact (explained sid entry found).concat ⟨rfl, fun same => other same.symm⟩
  | backendDown registry backendId tier =>
      simp only [step, get?_onBackendDown] at found ⊢
      obtain ⟨before, at_sid, moves⟩ := Option.bind_eq_some_iff.mp found
      have after := (explained sid before at_sid).concat
        (r := ((now, .backendDown registry backendId tier),
          .migrated (s.onBackendDown registry backendId tier).2)) ⟨rfl, id⟩
      convert after using 1
      simp only [Record.moved, find?_onBackendDown_log]
      split at moves
      · rename_i hit
        obtain ⟨b, chosen, rfl⟩ := Option.map_eq_some_iff.mp moves
        rw [if_pos (mem_affected_iff.mpr ⟨before, at_sid, hit⟩), chosen]
        rfl
      · rename_i spared
        have absent : sid ∉ s.affected backendId tier := by
          intro member
          obtain ⟨entry', same, hit⟩ := mem_affected_iff.mp member
          obtain rfl : before = entry' := Option.some.inj (at_sid.symm.trans same)
          exact spared hit
        cases moves
        rw [if_neg absent]
        rfl

/-- Run lemma: from an empty table, the history explains every binding. -/
theorem explained_final (ttl : ℤ) (operations : List (Time × Operation)) :
    AllExplained (history step (.new ttl) operations) (final step (.new ttl) operations) :=
  history_invariant (P := AllExplained) (fun _ _ e explained => explained_step explained e)
    (fun _ _ found => by simp [new] at found) operations

/-- **What a hit means.** A turn that hits answers with the backend of the session's last
answered turn, moved along the migrations logged since, and the session was not invalidated
since. -/
theorem hit_is_last_turn_or_migration (ttl : ℤ) (operations : List (Time × Operation))
    (now : Time) (session : SessionContext) (tier : Tier) (candidates : List BackendInfo)
    (b : BackendInfo)
    (hit : ((final step (.new ttl) operations).step (now, .select session tier candidates)).2 =
      .selected (.ok (b, true))) :
    ∃ front turn since last,
      history step (.new ttl) operations = front ++ turn :: since ∧
        turn.turnOf session.sessionId = some last ∧
        (∀ r ∈ since, r.Silent session.sessionId) ∧
        since.foldl (Record.moved session.sessionId) last.id = b.id := by
  have found := selectBackend_eq_hit_iff.mp (Answer.selected.inj hit)
  obtain ⟨entry, at_sid, _, search⟩ := pinned_eq_some_iff.mp found
  have named : b.id = entry.backendId := by simpa using List.find?_some search
  rw [named]
  exact explained_final ttl operations session.sessionId entry at_sid

/-! ## A hit after a migration -/

def migratedSession : SessionContext := { sessionId := "migrate-0", agentId := "a" }

/-- The shipped backends, with one of the two small ones down. -/
def registryAfterOutage : BackendRegistry :=
  (BackendRegistry.new shippedConfig).markStatus "small-0" .down

/-- A turn on the backend that then goes down, and its outage. -/
def turnAndOutage : List (Time × Operation) := [
  (0, .select migratedSession .small
    (((BackendRegistry.new shippedConfig).getHealthyBackends .small).take 1)),
  (1, .backendDown registryAfterOutage "small-0" .small)]

def survivingBackend : BackendInfo :=
  { id := "small-1", tier := .small, baseUrl := "http://vllm-small-1:8003", gpu := 0,
    maxInflight := 64, model := "Qwen/Qwen2.5-7B-Instruct" }

/-- The turn after the outage is a hit on the survivor. -/
theorem hit_on_survivor :
    ((final step (.new 1800) turnAndOutage).step
      (2, .select migratedSession .small (registryAfterOutage.getHealthyBackends .small))).2 =
      .selected (.ok (survivingBackend, true)) := by
  decide +kernel

/-- A hit need not be on the backend of the session's last answered turn. -/
theorem migration_makes_a_hit :
    ¬ ∀ (ttl : ℤ) (operations : List (Time × Operation)) (now : Time)
      (session : SessionContext) (tier : Tier) (candidates : List BackendInfo)
      (b : BackendInfo),
      ((operations.map Prod.fst) ++ [now]).Pairwise (· ≤ ·) →
      ((final step (.new ttl) operations).step (now, .select session tier candidates)).2 =
        .selected (.ok (b, true)) →
      ∃ last, ((history step (.new ttl) operations).filterMap
          (Record.turnOf session.sessionId)).getLast? = some last ∧ last.id = b.id := by
  intro always
  obtain ⟨last, answered, named⟩ := always 1800 turnAndOutage 2 migratedSession .small
    (registryAfterOutage.getHealthyBackends .small) survivingBackend (by decide +kernel)
    hit_on_survivor
  have before : (((history step (.new 1800) turnAndOutage).filterMap
      (Record.turnOf "migrate-0")).getLast?).map BackendInfo.id = some "small-0" := by
    decide +kernel
  rw [show "migrate-0" = migratedSession.sessionId from rfl, answered] at before
  exact absurd (before.symm.trans (congrArg some named)) (by decide)

/-- The explanation of the hit after the outage. -/
theorem hit_is_last_turn_or_migration_after_outage :
    ∃ front turn since last,
      history step (.new 1800) turnAndOutage = front ++ turn :: since ∧
        turn.turnOf migratedSession.sessionId = some last ∧
        (∀ r ∈ since, r.Silent migratedSession.sessionId) ∧
        since.foldl (Record.moved migratedSession.sessionId) last.id = survivingBackend.id :=
  hit_is_last_turn_or_migration 1800 turnAndOutage 2 migratedSession .small
    (registryAfterOutage.getHealthyBackends .small) survivingBackend hit_on_survivor

end AffinityScheduler

end AgentServe
