import AgentServe.Affinity.Scheduler
import AgentServe.Lib.Run

/-!
# Stickiness across tiers

The table has one binding for each session, whatever tiers the session's turns
are for. After a turn the session is bound to the backend it was answered with
(`bound_after_answer`). Turns of other sessions and turns without candidates
leave the binding as it is (`get?_serve_of_idle`), and every other turn of the session
rebinds it to a backend of its own tier (`bound_elsewhere`).

So a session that was given a backend for a tier finds it again on its next turn
for the tier exactly when no turn in between was answered and the binding has
not expired (`sticky_across_tiers_iff`). One answered turn on another tier is
enough to lose it (`other_tier_unpins`).
-/

set_option autoImplicit false

namespace AgentServe

open Lib

/-- A call of the scheduler for a turn of a session. -/
structure Turn where
  now : Time
  session : SessionContext
  tier : Tier
  candidates : List BackendInfo

namespace Turn

def sessionId (turn : Turn) : String := turn.session.sessionId

/-- A turn that cannot change the binding of a session: it is of another session, or it has no
candidates. -/
def Idle (sid : String) (turn : Turn) : Prop := turn.sessionId = sid → turn.candidates = []

/-- The candidates of every turn are backends of the tier of the turn. -/
def OnTiers (tierOf : String → Tier) (turns : List Turn) : Prop :=
  ∀ turn ∈ turns, ∀ b ∈ turn.candidates, tierOf b.id = turn.tier

/-- Less than a duration passes between consecutive turns of a session. -/
def GapsBelow (ttl : ℤ) (sid : String) (turns : List Turn) : Prop :=
  ((turns.filter fun turn => turn.sessionId = sid).map Turn.now).IsChain
    fun a b : Time => b - a < ttl

instance (tierOf : String → Tier) (turns : List Turn) : Decidable (OnTiers tierOf turns) :=
  inferInstanceAs (Decidable (∀ turn ∈ turns, ∀ b ∈ turn.candidates, tierOf b.id = turn.tier))

instance (ttl : ℤ) (sid : String) (turns : List Turn) : Decidable (GapsBelow ttl sid turns) :=
  inferInstanceAs (Decidable (List.IsChain _ _))

end Turn

namespace AffinityScheduler

/-- Serve a turn, with one reading of the clock. -/
def serve (s : AffinityScheduler) (turn : Turn) :
    AffinityScheduler × Except GatewayException (BackendInfo × Bool) :=
  s.selectBackend turn.session turn.tier turn.candidates turn.now turn.now

/-- A session is bound to a backend that is not of the tier. -/
def BoundElsewhere (tierOf : String → Tier) (s : AffinityScheduler) (sid : String)
    (tier : Tier) : Prop :=
  ∃ entry, s.sticky.get? sid = some entry ∧ tierOf entry.backendId ≠ tier

theorem ttl_serve (s : AffinityScheduler) (turn : Turn) : (s.serve turn).1.ttl = s.ttl :=
  ttl_selectBackend ..

theorem ttl_final (s : AffinityScheduler) (turns : List Turn) :
    (final serve s turns).ttl = s.ttl := by
  induction turns generalizing s with
  | nil => rfl
  | cons turn rest ih => exact (ih _).trans (ttl_serve s turn)

/-- An idle turn leaves the binding of the session as it is. -/
theorem get?_serve_of_idle {s : AffinityScheduler} {turn : Turn} {sid : String}
    (idle : turn.Idle sid) : (s.serve turn).1.sticky.get? sid = s.sticky.get? sid := by
  by_cases own : turn.sessionId = sid
  · rw [serve, idle own, selectBackend_nil]
  · exact get?_selectBackend_of_ne (fun same => own same.symm) ..

theorem get?_final_of_idle (s : AffinityScheduler) {turns : List Turn} {sid : String}
    (idle : ∀ turn ∈ turns, turn.Idle sid) :
    (final serve s turns).sticky.get? sid = s.sticky.get? sid := by
  induction turns generalizing s with
  | nil => rfl
  | cons turn rest ih =>
      exact (ih _ fun t member => idle t (List.mem_cons_of_mem _ member)).trans
        (get?_serve_of_idle (idle turn List.mem_cons_self))

/-- A turn of the session on another tier that has candidates binds the session there. -/
theorem bound_elsewhere {tierOf : String → Tier} {s : AffinityScheduler} {turn : Turn}
    {tier : Tier} (other : turn.tier ≠ tier)
    (typed : ∀ b ∈ turn.candidates, tierOf b.id = turn.tier) (served : turn.candidates ≠ []) :
    (s.serve turn).1.BoundElsewhere tierOf turn.sessionId tier := by
  cases answered : (s.serve turn).2 with
  | error e => exact absurd (candidates_of_error answered) served
  | ok answer =>
      obtain ⟨entry, at_sid, named, _⟩ := bound_after_answer answered
      refine ⟨entry, at_sid, ?_⟩
      rw [named, typed answer.1 (mem_of_selectBackend answered)]
      exact other

/-- Step lemma: a session bound elsewhere stays so until its next turn on the tier. -/
theorem BoundElsewhere.serve {tierOf : String → Tier} {s : AffinityScheduler} {turn : Turn}
    {sid : String} {tier : Tier} (elsewhere : s.BoundElsewhere tierOf sid tier)
    (other : turn.sessionId = sid → turn.tier ≠ tier)
    (typed : ∀ b ∈ turn.candidates, tierOf b.id = turn.tier) :
    (s.serve turn).1.BoundElsewhere tierOf sid tier := by
  by_cases idle : turn.Idle sid
  · obtain ⟨entry, at_sid, away⟩ := elsewhere
    exact ⟨entry, (get?_serve_of_idle idle).trans at_sid, away⟩
  · obtain ⟨own, served⟩ := Classical.not_imp.mp idle
    exact own ▸ bound_elsewhere (other own) typed served

/-- Run lemma: one turn on another tier that has candidates is enough. -/
theorem boundElsewhere_final {tierOf : String → Tier} {sid : String} {tier : Tier}
    {turns : List Turn} (other : ∀ turn ∈ turns, turn.sessionId = sid → turn.tier ≠ tier)
    (typed : Turn.OnTiers tierOf turns) (s : AffinityScheduler)
    (away : s.BoundElsewhere tierOf sid tier ∨ ∃ turn ∈ turns, ¬ turn.Idle sid) :
    (final AffinityScheduler.serve s turns).BoundElsewhere tierOf sid tier := by
  induction turns generalizing s with
  | nil =>
      rcases away with already | ⟨_, inside, _⟩
      · exact already
      · cases inside
  | cons turn rest ih =>
      have typed_here := typed turn List.mem_cons_self
      have other_here := other turn List.mem_cons_self
      refine ih (fun t member => other t (List.mem_cons_of_mem _ member))
        (fun t member => typed t (List.mem_cons_of_mem _ member)) _ ?_
      rcases away with already | ⟨t, inside, busy⟩
      · exact .inl (already.serve other_here typed_here)
      · rcases List.mem_cons.mp inside with rfl | later
        · obtain ⟨own, served⟩ := Classical.not_imp.mp busy
          exact .inl (own ▸ bound_elsewhere (other_here own) typed_here served)
        · exact .inr ⟨t, later, busy⟩

/-- A session bound elsewhere misses on the tier. -/
theorem BoundElsewhere.pinned_eq_none {tierOf : String → Tier} {s : AffinityScheduler}
    {sid : String} {tier : Tier} (elsewhere : s.BoundElsewhere tierOf sid tier)
    {candidates : List BackendInfo} (typed : ∀ b ∈ candidates, tierOf b.id = tier)
    (now : Time) : s.pinned sid candidates now = none := by
  obtain ⟨entry, at_sid, away⟩ := elsewhere
  apply Option.eq_none_iff_forall_ne_some.mpr
  intro b found
  obtain ⟨entry', same, _, search⟩ := pinned_eq_some_iff.mp found
  obtain rfl : entry = entry' := Option.some.inj (at_sid.symm.trans same)
  have named : b.id = entry.backendId := by simpa using List.find?_some search
  exact away (named ▸ typed b (List.mem_of_find?_eq_some search))

/-- A bound session hits exactly before the expiry, if its backend is a candidate. -/
theorem Bound.hit_iff {s : AffinityScheduler} {sid backendId : String} {expiresAt : Time}
    (bound : s.Bound sid backendId expiresAt) {candidates : List BackendInfo}
    (candidate : ∃ c ∈ candidates, c.id = backendId) (now : Time) :
    (∃ b, s.pinned sid candidates now = some b ∧ b.id = backendId) ↔ now < expiresAt := by
  obtain ⟨entry, at_sid, rfl, rfl⟩ := bound
  constructor
  · rintro ⟨b, found, _⟩
    obtain ⟨entry', same, live, _⟩ := pinned_eq_some_iff.mp found
    obtain rfl : entry = entry' := Option.some.inj (at_sid.symm.trans same)
    exact live
  · intro live
    obtain ⟨c, member, named⟩ := candidate
    have listed : (candidates.find? fun b => b.id = entry.backendId).isSome :=
      List.find?_isSome.mpr ⟨c, member, by simpa using named⟩
    obtain ⟨b, search⟩ := Option.isSome_iff_exists.mp listed
    refine ⟨b, pinned_eq_some_iff.mpr ⟨entry, at_sid, live, search⟩, ?_⟩
    simpa using List.find?_some search

/-- **When a binding survives the other tiers.** A session that was given a backend for a tier
is answered with it, as a hit, on its next turn for the tier exactly when every turn of the
session in between was without candidates, and the binding has not expired since it was
given. -/
theorem sticky_across_tiers_iff (tierOf : String → Tier) (s : AffinityScheduler)
    (first between : List Turn) (given next : Turn) (b : BackendInfo) (hit : Bool)
    (typed : Turn.OnTiers tierOf (first ++ given :: between ++ [next]))
    (answered : ((final serve s first).serve given).2 = .ok (b, hit))
    (same_session : next.sessionId = given.sessionId) (same_tier : next.tier = given.tier)
    (next_on_tier : ∀ turn ∈ between, turn.sessionId = given.sessionId →
      turn.tier ≠ given.tier)
    (candidate : ∃ c ∈ next.candidates, c.id = b.id) :
    (∃ c, ((final serve s (first ++ given :: between)).serve next).2 = .ok (c, true) ∧
        c.id = b.id) ↔
      (∀ turn ∈ between, turn.sessionId = given.sessionId → turn.candidates = []) ∧
        next.now < given.now + s.ttl := by
  have bound := bound_after_answer answered
  rw [ttl_final] at bound
  have typed_between : Turn.OnTiers tierOf between := fun turn member =>
    typed turn (by simp [member])
  have typed_next : ∀ c ∈ next.candidates, tierOf c.id = given.tier := fun c member =>
    same_tier ▸ typed next (by simp) c member
  have split : final serve s (first ++ given :: between) =
      final serve ((final serve s first).serve given).1 between := final_append ..
  have hits : (∃ c, ((final serve s (first ++ given :: between)).serve next).2 =
      .ok (c, true) ∧ c.id = b.id) ↔
      ∃ c, (final serve ((final serve s first).serve given).1 between).pinned given.sessionId
        next.candidates next.now = some c ∧ c.id = b.id := by
    rw [split, ← same_session]
    exact exists_congr fun c => and_congr_left fun _ => selectBackend_eq_hit_iff
  rw [hits]
  by_cases idle : ∀ turn ∈ between, turn.Idle given.sessionId
  · obtain ⟨entry, at_sid, named, expiry⟩ := bound
    have still : (final serve ((final serve s first).serve given).1 between).Bound
        given.sessionId b.id (given.now + s.ttl) :=
      ⟨entry, (get?_final_of_idle _ idle).trans at_sid, named, expiry⟩
    rw [still.hit_iff candidate]
    exact (and_iff_right idle).symm
  · have away := boundElsewhere_final next_on_tier typed_between
      ((final serve s first).serve given).1 (.inr (by simpa using idle))
    rw [away.pinned_eq_none typed_next]
    constructor
    · rintro ⟨c, found, _⟩
      cases found
    · rintro ⟨quiet, _⟩
      exact absurd quiet idle

/-! ## A session that changes tier once -/

def smallBackend : BackendInfo :=
  { id := "small-0", tier := .small, baseUrl := "http://vllm-small-0:8002", gpu := 0,
    maxInflight := 64 }

def bigBackend : BackendInfo :=
  { id := "big-0", tier := .big, baseUrl := "http://vllm-big:8001", gpu := 1, maxInflight := 32 }

/-- A turn of the session at a time, with one candidate. -/
def turnOn (now : Time) (b : BackendInfo) : Turn :=
  ⟨now, { sessionId := "s", agentId := "a" }, b.tier, [b]⟩

/-- The tiers of the two backends. -/
def tierOfId (id : String) : Tier := if id = "big-0" then .big else .small

/-- One answered turn on another tier takes the binding away, well within its lifetime. -/
theorem other_tier_unpins :
    ¬ ∀ (tierOf : String → Tier) (ttl : ℤ) (first between : List Turn) (given next : Turn)
      (b : BackendInfo) (hit : Bool),
      Turn.OnTiers tierOf (first ++ given :: between ++ [next]) →
      ((final serve (.new ttl) first).serve given).2 = .ok (b, hit) →
      next.sessionId = given.sessionId → next.tier = given.tier →
      (∀ turn ∈ between, turn.sessionId = given.sessionId → turn.tier ≠ given.tier) →
      Turn.GapsBelow ttl given.sessionId (given :: between ++ [next]) →
      (∃ c ∈ next.candidates, c.id = b.id) →
      ∃ c, ((final serve (.new ttl) (first ++ given :: between)).serve next).2 =
        .ok (c, true) ∧ c.id = b.id := by
  intro always
  have kept := always tierOfId 1800 [] [turnOn 1 bigBackend] (turnOn 0 smallBackend)
    (turnOn 2 smallBackend) smallBackend false (by decide) rfl rfl rfl (by decide)
    (by decide +kernel) (by decide)
  have missed : ((final serve (.new 1800) [turnOn 0 smallBackend, turnOn 1 bigBackend]).serve
      (turnOn 2 smallBackend)).2 = .ok (smallBackend, false) := by
    decide +kernel
  obtain ⟨c, answer, _⟩ := kept
  have same := missed.symm.trans answer
  cases same

/-- The condition for a session that stays on one tier. -/
theorem sticky_across_tiers_iff_on_one_tier :
    (∃ c, ((final serve (.new 1800) ([] ++ turnOn 0 smallBackend :: [])).serve
        (turnOn 1 smallBackend)).2 = .ok (c, true) ∧ c.id = smallBackend.id) ↔
      (∀ turn ∈ ([] : List Turn), turn.sessionId = (turnOn 0 smallBackend).sessionId →
          turn.candidates = []) ∧
        (turnOn 1 smallBackend).now < (turnOn 0 smallBackend).now + (new 1800).ttl :=
  sticky_across_tiers_iff tierOfId (.new 1800) [] [] (turnOn 0 smallBackend)
    (turnOn 1 smallBackend) smallBackend false (by decide) rfl rfl rfl (by decide) (by decide)

end AffinityScheduler

end AgentServe
