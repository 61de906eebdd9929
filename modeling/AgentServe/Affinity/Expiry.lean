import AgentServe.Affinity.Operations
import Mathlib.Tactic.Linarith

/-!
# Lazy expiry and the sliding window

Expired bindings stay in the table until their session's next turn, and every
operation meets them. Tables with the same live bindings answer every turn alike
and keep having the same live bindings as the clock advances (`SameLive.step`).
So purging the expired bindings before any of the operations changes no answer
(`history_purging`).

Without migrations the table is a summary of the history: a session is bound to
the backend of its last answered turn for one lifetime since that turn
(`summarizes_final`). So a turn hits exactly when that backend is a candidate and
the lifetime has not passed (`turn_continues_iff`).

The two, with the counters of the answers, are `lazy_expiry_unobservable`.
-/

set_option autoImplicit false

namespace AgentServe

open Lib

namespace AffinityScheduler

/-! ## Purging -/

/-- Two tables have the same live bindings. -/
structure SameLive (now : Time) (s t : AffinityScheduler) : Prop where
  ttl : s.ttl = t.ttl
  bindings : ∀ sid entry, entry.Live now →
    (s.sticky.get? sid = some entry ↔ t.sticky.get? sid = some entry)

theorem SameLive.refl (now : Time) (s : AffinityScheduler) : SameLive now s s :=
  ⟨rfl, fun _ _ _ => Iff.rfl⟩

/-- Later there are fewer live bindings. -/
theorem SameLive.mono {now later : Time} (ordered : now ≤ later) {s t : AffinityScheduler}
    (same : SameLive now s t) : SameLive later s t :=
  ⟨same.ttl, fun sid entry live => same.bindings sid entry (lt_of_le_of_lt ordered live)⟩

/-- Purging keeps the live bindings. -/
theorem SameLive.purge {now : Time} {s t : AffinityScheduler} (same : SameLive now s t) :
    SameLive now (s.purge now) t := by
  refine ⟨same.ttl, ?_⟩
  intro sid entry live
  rw [get?_purge, Option.filter_eq_some_iff, ← same.bindings sid entry live]
  exact and_iff_left (decide_eq_true live)

/-- Only the live bindings decide whether a turn hits. -/
theorem SameLive.pinned {now : Time} {s t : AffinityScheduler} (same : SameLive now s t)
    (sid : String) (candidates : List BackendInfo) :
    s.pinned sid candidates now = t.pinned sid candidates now := by
  ext b
  rw [pinned_eq_some_iff, pinned_eq_some_iff]
  constructor
  · rintro ⟨entry, at_sid, live, search⟩
    exact ⟨entry, (same.bindings sid entry live).mp at_sid, live, search⟩
  · rintro ⟨entry, at_sid, live, search⟩
    exact ⟨entry, (same.bindings sid entry live).mpr at_sid, live, search⟩

/-- Turns on tables with the same live bindings answer alike and keep them the same. -/
theorem SameLive.selectBackend {now : Time} {s t : AffinityScheduler} (same : SameLive now s t)
    (session : SessionContext) (tier : Tier) (candidates : List BackendInfo) :
    (s.selectBackend session tier candidates now now).2 =
        (t.selectBackend session tier candidates now now).2 ∧
      SameLive now (s.selectBackend session tier candidates now now).1
        (t.selectBackend session tier candidates now now).1 := by
  have pins := same.pinned session.sessionId candidates
  rcases selectBackend_cases s session tier candidates now now with
    ⟨none, outcome⟩ | ⟨b, found, outcome⟩ | ⟨b, missing, chosen, outcome⟩
  · subst none
    rw [selectBackend_nil, selectBackend_nil]
    exact ⟨rfl, same⟩
  · rw [outcome, selectBackend_hit (pins ▸ found)]
    refine ⟨rfl, same.ttl, ?_⟩
    intro sid entry live
    rw [get?_slide, get?_slide, same.ttl]
    split
    · rename_i own
      subst own
      -- The session is bound by the same live binding on both sides.
      obtain ⟨old, at_sid, alive, _⟩ := pinned_eq_some_iff.mp found
      rw [at_sid, (same.bindings _ old alive).mp at_sid]
    · exact same.bindings sid entry live
  · rw [outcome, selectBackend_miss (pins ▸ missing) chosen]
    refine ⟨rfl, same.ttl, ?_⟩
    intro sid entry live
    rw [get?_bind, get?_bind, same.ttl]
    split
    · rfl
    · exact same.bindings sid entry live

/-- A migration keeps the expiry of a binding. -/
theorem expiresAt_migrated {left : List BackendInfo} {sid : String} {old entry : StickyEntry}
    (moves : migrated left sid old = some entry) : entry.expiresAt = old.expiresAt := by
  obtain ⟨b, _, rfl⟩ := Option.map_eq_some_iff.mp moves
  rfl

/-- A migration keeps the live bindings the same. -/
theorem SameLive.onBackendDown {now : Time} {s t : AffinityScheduler} (same : SameLive now s t)
    (registry : BackendRegistry) (backendId : String) (tier : Tier) :
    SameLive now (s.onBackendDown registry backendId tier).1
      (t.onBackendDown registry backendId tier).1 := by
  refine ⟨same.ttl, ?_⟩
  intro sid entry live
  rw [get?_onBackendDown, get?_onBackendDown, Option.bind_eq_some_iff, Option.bind_eq_some_iff]
  apply exists_congr
  intro old
  apply and_congr_left
  intro moves
  have expiry : old.expiresAt = entry.expiresAt := by
    split at moves
    · exact (expiresAt_migrated moves).symm
    · cases moves
      rfl
  apply same.bindings sid old
  rw [StickyEntry.Live, expiry]
  exact live

end AffinityScheduler

def Operation.isMigration : Operation → Bool
  | .backendDown _ _ _ => true
  | _ => false

/-- The candidates of a turn have distinct names. -/
def Operation.DistinctCandidates : Operation → Prop
  | .select _ _ candidates => (candidates.map BackendInfo.id).Nodup
  | _ => True

/-- What a turn answered, if the answer is that of a turn. -/
def Answer.outcome? : Answer → Option (Except GatewayException (BackendInfo × Bool))
  | .selected outcome => some outcome
  | _ => none

namespace AffinityScheduler

/-- Step lemma: every operation answers turns alike and keeps the live bindings the same. -/
theorem SameLive.step {s t : AffinityScheduler} {e : Time × Operation}
    (same : SameLive e.1 s t) :
    (s.step e).2.outcome? = (t.step e).2.outcome? ∧ SameLive e.1 (s.step e).1 (t.step e).1 := by
  obtain ⟨now, operation⟩ := e
  cases operation with
  | select session tier candidates =>
      obtain ⟨answers, after⟩ := same.selectBackend session tier candidates
      exact ⟨congrArg some answers, after⟩
  | invalidate sessionId =>
      refine ⟨rfl, same.ttl, ?_⟩
      intro sid entry live
      simp only [AffinityScheduler.step, get?_invalidate]
      split
      · rfl
      · exact same.bindings sid entry live
  | backendDown registry backendId tier =>
      exact ⟨rfl, same.onBackendDown registry backendId tier⟩

/-- Carry out an operation after purging the expired bindings, if the mark says so. -/
def stepPurging (s : AffinityScheduler) (m : Bool × (Time × Operation)) :
    AffinityScheduler × Answer :=
  (if m.1 then s.purge m.2.1 else s).step m.2

/-- **Purging is unobservable.** Runs from tables with the same live bindings, one of them with
any purges before its operations, answer all turns alike. -/
theorem history_purging {now : Time} {s t : AffinityScheduler} (same : SameLive now s t)
    {marked : List (Bool × (Time × Operation))} (later : ∀ m ∈ marked, now ≤ m.2.1)
    (ordered : (marked.map fun m => m.2.1).Pairwise (· ≤ ·)) :
    (history stepPurging s marked).map (fun r => r.2.outcome?) =
      (history step t (marked.map Prod.snd)).map fun r => r.2.outcome? := by
  induction marked generalizing now s t with
  | nil => rfl
  | cons m rest ih =>
      obtain ⟨mark, e⟩ := m
      have here : SameLive e.1 s t := same.mono (later (mark, e) List.mem_cons_self)
      have purged : SameLive e.1 (if mark then s.purge e.1 else s) t := by
        cases mark
        · exact here
        · exact here.purge
      obtain ⟨answers, after⟩ := purged.step
      obtain ⟨first, others⟩ := List.pairwise_cons.mp ordered
      have remaining := ih after
        (fun m member => first m.2.1 (List.mem_map.mpr ⟨m, member, rfl⟩)) others
      exact congrArg₂ List.cons answers remaining

/-! ## The table as a summary of the history -/

/-- The last answered turn of a session after a record, with its time. An invalidation forgets
it. -/
def lastTurnAfter (sid : String) (last : Option (Time × BackendInfo)) :
    Record → Option (Time × BackendInfo)
  | ((now, .select session _ _), .selected (.ok (b, _))) =>
    if session.sessionId = sid then some (now, b) else last
  | ((_, .invalidate sessionId), _) => if sessionId = sid then none else last
  | _ => last

/-- The last answered turn of a session that was not invalidated since. -/
def lastTurn (sid : String) (h : List Record) : Option (Time × BackendInfo) :=
  h.foldl (lastTurnAfter sid) none

theorem lastTurn_concat (sid : String) (h : List Record) (r : Record) :
    lastTurn sid (h ++ [r]) = lastTurnAfter sid (lastTurn sid h) r :=
  List.foldl_concat ..

/-- The table without migrations: every session is bound to the backend of its last answered
turn, for one lifetime since that turn. -/
structure Summarizes (ttl : ℤ) (h : List Record) (s : AffinityScheduler) : Prop where
  ttl_eq : s.ttl = ttl
  bindings : ∀ sid, (s.sticky.get? sid).map (fun entry => (entry.backendId, entry.expiresAt)) =
    (lastTurn sid h).map fun last => (last.2.id, last.1 + (ttl : Time))

/-- Step lemma: turns and invalidations keep the table a summary. -/
theorem summarizes_step {ttl : ℤ} {h : List Record} {s : AffinityScheduler}
    {e : Time × Operation} (kind : e.2.isMigration = false) (summary : Summarizes ttl h s) :
    Summarizes ttl (h ++ [(e, (s.step e).2)]) (s.step e).1 := by
  obtain ⟨now, operation⟩ := e
  refine ⟨(ttl_step s _).trans summary.ttl_eq, ?_⟩
  intro sid
  rw [lastTurn_concat]
  cases operation with
  | select session tier candidates =>
      simp only [step]
      cases answered : (s.selectBackend session tier candidates now now).2 with
      | error e =>
          obtain rfl := candidates_of_error answered
          exact summary.bindings sid
      | ok answer =>
          obtain ⟨b, hit⟩ := answer
          simp only [lastTurnAfter]
          split
          · rename_i own
            obtain ⟨entry, at_sid, named, expiry⟩ := bound_after_answer answered
            rw [← own, at_sid, ← summary.ttl_eq]
            simp [named, expiry]
          · rename_i other
            rw [get?_selectBackend_of_ne fun same => other same.symm]
            exact summary.bindings sid
  | invalidate sessionId =>
      simp only [step, lastTurnAfter, get?_invalidate, eq_comm (a := sid)]
      split
      · rfl
      · exact summary.bindings sid
  | backendDown registry backendId tier => cases kind

/-- Run lemma: without migrations the table is a summary of the history. -/
theorem summarizes_final (ttl : ℤ) {operations : List (Time × Operation)}
    (kind : ∀ e ∈ operations, e.2.isMigration = false) :
    Summarizes ttl (history step (.new ttl) operations) (final step (.new ttl) operations) :=
  history_invariant_of_forall (P := Summarizes ttl) (C := fun e => e.2.isMigration = false)
    (fun _ _ _ kind summary => summarizes_step kind summary) ⟨rfl, fun _ => rfl⟩ kind

/-- The session's last answered turn was answered with this candidate, within a lifetime. -/
def Continues (ttl : ℤ) (h : List Record) (now : Time) (sid : String)
    (candidates : List BackendInfo) (b : BackendInfo) : Prop :=
  ∃ since last, lastTurn sid h = some (since, last) ∧ last.id = b.id ∧ now - since < ttl ∧
    b ∈ candidates

/-- Searching candidates of distinct names by name. -/
theorem find?_candidate_iff {candidates : List BackendInfo}
    (distinct : (candidates.map BackendInfo.id).Nodup) {id : String} {b : BackendInfo} :
    candidates.find? (fun c => c.id = id) = some b ↔ b ∈ candidates ∧ b.id = id := by
  constructor
  · intro search
    exact ⟨List.mem_of_find?_eq_some search, by simpa using List.find?_some search⟩
  · rintro ⟨member, named⟩
    obtain ⟨c, search⟩ := Option.isSome_iff_exists.mp
      (List.find?_isSome.mpr ⟨b, member, by simpa using named⟩ :
        (candidates.find? fun c => c.id = id).isSome)
    have same : c.id = b.id := by simpa [named] using List.find?_some search
    rw [search, List.inj_on_of_nodup_map distinct (List.mem_of_find?_eq_some search) member same]

/-- **When a turn continues the last one.** -/
theorem turn_continues_iff {ttl : ℤ} {h : List Record} {s : AffinityScheduler}
    (summary : Summarizes ttl h s) {candidates : List BackendInfo}
    (distinct : (candidates.map BackendInfo.id).Nodup) (now : Time) (sid : String)
    (b : BackendInfo) :
    s.pinned sid candidates now = some b ↔ Continues ttl h now sid candidates b := by
  rw [pinned_eq_some_iff]
  have shown := summary.bindings sid
  constructor
  · rintro ⟨entry, at_sid, live, search⟩
    obtain ⟨member, named⟩ := (find?_candidate_iff distinct).mp search
    rw [at_sid] at shown
    obtain ⟨⟨since, last⟩, turn, equal⟩ := Option.map_eq_some_iff.mp shown.symm
    obtain ⟨backend, expiry⟩ := Prod.mk.inj equal
    refine ⟨since, last, turn, backend.trans named.symm, ?_, member⟩
    have later : now < since + ttl := expiry ▸ live
    linarith
  · rintro ⟨since, last, turn, named, recent, member⟩
    rw [turn] at shown
    obtain ⟨entry, at_sid, equal⟩ := Option.map_eq_some_iff.mp shown
    obtain ⟨backend, expiry⟩ := Prod.mk.inj equal
    refine ⟨entry, at_sid, ?_, (find?_candidate_iff distinct).mpr ⟨member, ?_⟩⟩
    · rw [StickyEntry.Live, expiry]
      linarith
    · exact (backend.trans named).symm

/-! ## The counters as counts of answers -/

/-- An answered turn on a tier, a hit or a miss as the flag says. -/
def answeredTurn (flag : Bool) (tier : Tier) : Record → Bool
  | ((_, .select _ t _), .selected (.ok (_, hit))) => t == tier && hit == flag
  | _ => false

/-- The counters of a run are counts of its answers. -/
structure Counts (h : List Record) (s : AffinityScheduler) : Prop where
  hits : ∀ tier, s.hits tier = h.countP (answeredTurn true tier)
  misses : ∀ tier, s.misses tier = h.countP (answeredTurn false tier)

theorem counts_step {h : List Record} {s : AffinityScheduler} (counts : Counts h s)
    (e : Time × Operation) : Counts (h ++ [(e, (s.step e).2)]) (s.step e).1 := by
  obtain ⟨now, operation⟩ := e
  cases operation with
  | select session tier candidates =>
      rcases selectBackend_cases s session tier candidates now now with
        ⟨_, outcome⟩ | ⟨b, _, outcome⟩ | ⟨b, _, _, outcome⟩
      all_goals
        constructor
        all_goals
          intro t
          simp only [step, outcome, List.countP_append, List.countP_singleton, answeredTurn,
            slide, bind, inc, eq_comm (a := t), ← counts.hits, ← counts.misses]
          by_cases same : tier = t <;> simp [same]
  | invalidate sessionId =>
      constructor
      · intro t
        simp [step, invalidate, answeredTurn, counts.hits]
      · intro t
        simp [step, invalidate, answeredTurn, counts.misses]
  | backendDown registry backendId tier =>
      constructor
      · intro t
        simp [step, onBackendDown, answeredTurn, counts.hits]
      · intro t
        simp [step, onBackendDown, answeredTurn, counts.misses]

theorem counts_final (ttl : ℤ) (operations : List (Time × Operation)) :
    Counts (history step (.new ttl) operations) (final step (.new ttl) operations) :=
  history_invariant (P := Counts) (fun _ _ e counts => counts_step counts e)
    ⟨fun _ => rfl, fun _ => rfl⟩ operations

/-! ## The whole -/

/-- The laws of expiry for a run with marks for purges. -/
structure ExpiryLaws (ttl : ℤ) (marked : List (Bool × (Time × Operation))) : Prop where
  /-- Purging the expired bindings before marked operations changes no answer of a turn. -/
  purging :
    (history stepPurging (.new ttl) marked).map (fun r => r.2.outcome?) =
      (history step (.new ttl) (marked.map Prod.snd)).map fun r => r.2.outcome?
  /-- Before any migration, a turn with candidates hits exactly if it continues the session's
  last answered turn, and is otherwise a miss on the winner among its candidates. -/
  window : ∀ first now session tier candidates rest,
    marked.map Prod.snd = first ++ (now, .select session tier candidates) :: rest →
    (∀ e ∈ first, e.2.isMigration = false) → candidates ≠ [] →
    (∀ b, ((final step (.new ttl) first).step (now, .select session tier candidates)).2 =
        .selected (.ok (b, true)) ↔
      Continues ttl (history step (.new ttl) first) now session.sessionId candidates b) ∧
    ((∀ b, ¬ Continues ttl (history step (.new ttl) first) now session.sessionId
        candidates b) →
      ∃ b, selectByHrw session.sessionId candidates = some b ∧
        ((final step (.new ttl) first).step (now, .select session tier candidates)).2 =
          .selected (.ok (b, false)))
  /-- A turn without candidates raises and changes nothing. -/
  unavailable : ∀ first now session tier rest,
    marked.map Prod.snd = first ++ (now, .select session tier []) :: rest →
    (final step (.new ttl) first).step (now, .select session tier []) =
      (final step (.new ttl) first, .selected (.error (.backendUnavailable tier)))
  /-- The counters are the numbers of hits and misses answered. -/
  counters : Counts (history step (.new ttl) (marked.map Prod.snd))
    (final step (.new ttl) (marked.map Prod.snd))

/-- **Lazy expiry is unobservable and the sliding window is exact**, in every run at
non-decreasing times with candidates of distinct names. -/
theorem lazy_expiry_unobservable (ttl : ℤ) (marked : List (Bool × (Time × Operation)))
    (ordered : (marked.map fun m => m.2.1).Pairwise (· ≤ ·))
    (distinct : ∀ m ∈ marked, m.2.2.DistinctCandidates) : ExpiryLaws ttl marked := by
  refine ⟨?_, ?_, fun _ _ _ _ _ _ => rfl, counts_final ttl _⟩
  · cases marked with
    | nil => rfl
    | cons m rest =>
        have head := (List.pairwise_cons.mp ordered).1
        refine history_purging (.refl m.2.1 _) ?_ ordered
        intro m' member
        rcases List.mem_cons.mp member with rfl | later
        · exact le_refl _
        · exact head m'.2.1 (List.mem_map.mpr ⟨m', later, rfl⟩)
  · intro first now session tier candidates rest split kind some_candidate
    obtain ⟨m, member, here⟩ : ∃ m ∈ marked, m.2 = (now, .select session tier candidates) :=
      List.mem_map.mp (by rw [split]; simp)
    have names : (candidates.map BackendInfo.id).Nodup := by
      simpa [here, Operation.DistinctCandidates] using distinct m member
    have continues := turn_continues_iff (summarizes_final ttl kind) names now
      session.sessionId
    constructor
    · intro b
      rw [← continues]
      constructor
      · intro hit
        exact selectBackend_eq_hit_iff.mp (Answer.selected.inj hit)
      · intro found
        exact congrArg Answer.selected (selectBackend_eq_hit_iff.mpr found)
    · intro fresh
      have missing : (final step (.new ttl) first).pinned session.sessionId candidates now =
          none := Option.eq_none_iff_forall_ne_some.mpr fun b found =>
        fresh b ((continues b).mp found)
      cases chosen : selectByHrw session.sessionId candidates with
      | none => exact absurd (selectByHrw_eq_none_iff.mp chosen) some_candidate
      | some b =>
          refine ⟨b, rfl, ?_⟩
          simp only [step, selectBackend_miss missing chosen]

/-- The laws for two turns of a session, the second at the expiry of the first. -/
theorem lazy_expiry_unobservable_at_expiry :
    ExpiryLaws 1800 [
      (false, (0, .select migratedSession .small [survivingBackend])),
      (true, (1800, .select migratedSession .small [survivingBackend]))] :=
  lazy_expiry_unobservable 1800 _ (by decide +kernel) (by simp [Operation.DistinctCandidates])

end AffinityScheduler

end AgentServe
