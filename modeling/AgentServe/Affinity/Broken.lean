import AgentServe.Affinity.Expiry

/-!
# Bindings counted as broken

When a backend goes down, the counter of broken bindings of its tier goes up by
the number of sessions bound to it on that tier. A session that went idle keeps
its entry past the expiry, so it is counted too, and a line about it is logged.

Every entry expires one lifetime after the last answered turn of its session, also
when migrations have moved it since (`dated_final`). So the counter goes up by the
number of live bindings, and only sessions with a live binding are reported,
exactly if every session bound to the backend on the tier had a turn within the
last lifetime and no session bound to it on another tier had (`broken_iff_recent`).
-/

set_option autoImplicit false

namespace AgentServe

open Lib

namespace AffinityScheduler

/-- Every entry expires one lifetime after the last answered turn of its session. -/
structure Dated (ttl : ℤ) (h : List Record) (s : AffinityScheduler) : Prop where
  ttl_eq : s.ttl = ttl
  expiry : ∀ sid entry, s.sticky.get? sid = some entry →
    ∃ since last, lastTurn sid h = some (since, last) ∧ entry.expiresAt = since + (ttl : Time)

/-- Step lemma: entries are written and slid by answered turns, and migrations keep their
expiry. -/
theorem dated_step {ttl : ℤ} {h : List Record} {s : AffinityScheduler} (dated : Dated ttl h s)
    (e : Time × Operation) : Dated ttl (h ++ [(e, (s.step e).2)]) (s.step e).1 := by
  obtain ⟨now, operation⟩ := e
  refine ⟨(ttl_step s _).trans dated.ttl_eq, ?_⟩
  intro sid entry found
  rw [lastTurn_concat]
  cases operation with
  | select session tier candidates =>
      simp only [step] at found ⊢
      cases answered : (s.selectBackend session tier candidates now now).2 with
      | error e =>
          obtain rfl := candidates_of_error answered
          exact dated.expiry sid entry found
      | ok answer =>
          obtain ⟨b, hit⟩ := answer
          simp only [lastTurnAfter]
          split
          · rename_i own
            obtain ⟨bound, at_sid, _, expiry⟩ := bound_after_answer answered
            rw [own] at at_sid
            obtain rfl : entry = bound := Option.some.inj (found.symm.trans at_sid)
            exact ⟨now, b, rfl, by rw [expiry, dated.ttl_eq]⟩
          · rename_i other
            rw [get?_selectBackend_of_ne fun same => other same.symm] at found
            exact dated.expiry sid entry found
  | invalidate sessionId =>
      simp only [step, get?_invalidate] at found
      simp only [lastTurnAfter, eq_comm (b := sid)]
      split at found
      · cases found
      · rename_i other
        rw [if_neg other]
        exact dated.expiry sid entry found
  | backendDown registry backendId tier =>
      simp only [step, get?_onBackendDown] at found
      obtain ⟨before, at_sid, moves⟩ := Option.bind_eq_some_iff.mp found
      have kept : entry.expiresAt = before.expiresAt := by
        split at moves
        · exact expiresAt_migrated moves
        · cases moves
          rfl
      rw [kept]
      exact dated.expiry sid before at_sid

/-- Run lemma: the history dates every entry. -/
theorem dated_final (ttl : ℤ) (operations : List (Time × Operation)) :
    Dated ttl (history step (.new ttl) operations) (final step (.new ttl) operations) :=
  history_invariant (P := Dated ttl) (fun _ _ e dated => dated_step dated e)
    ⟨rfl, fun _ _ found => by simp [new] at found⟩ operations

/-! ## What a migration reports -/

/-- The sessions whose binding to a backend is live. -/
def liveBindings (s : AffinityScheduler) (backendId : String) (now : Time) : ℕ :=
  s.sticky.count fun _ entry => entry.backendId == backendId && decide (entry.Live now)

/-- A migration counts the live bindings to its backend, and logs nothing about a session whose
binding has expired. -/
structure CountsLive (s : AffinityScheduler) (now : Time) (registry : BackendRegistry)
    (backendId : String) (tier : Tier) : Prop where
  counted : (s.onBackendDown registry backendId tier).1.broken tier =
    s.broken tier + s.liveBindings backendId now
  reported : ∀ m ∈ (s.onBackendDown registry backendId tier).2,
    ∃ entry, s.sticky.get? m.sessionId = some entry ∧ entry.Live now

/-- The sessions bound to a backend on a tier had an answered turn within the last lifetime, and
those bound to it on another tier had not. -/
structure Recent (ttl : ℤ) (h : List Record) (s : AffinityScheduler) (now : Time)
    (backendId : String) (tier : Tier) : Prop where
  onTier : ∀ sid entry, s.sticky.get? sid = some entry → entry.backendId = backendId →
    entry.tier = tier → ∀ since last, lastTurn sid h = some (since, last) → now - since < ttl
  elsewhere : ∀ sid entry, s.sticky.get? sid = some entry → entry.backendId = backendId →
    entry.tier ≠ tier → ∀ since last, lastTurn sid h = some (since, last) → ttl ≤ now - since

/-- The counter goes up by the number of entries of the backend and the tier. -/
theorem broken_onBackendDown (s : AffinityScheduler) (registry : BackendRegistry)
    (backendId : String) (tier : Tier) :
    (s.onBackendDown registry backendId tier).1.broken tier =
      s.broken tier + s.sticky.count fun _ entry => isAffected backendId tier entry := by
  simp [onBackendDown, affected, Dict.keys, Dict.filter, Dict.count, List.countP_eq_length_filter]

/-- The sessions reported are those with an entry of the backend and the tier. -/
theorem mem_onBackendDown_log {s : AffinityScheduler} {registry : BackendRegistry}
    {backendId : String} {tier : Tier} {sid : String} :
    (∃ m ∈ (s.onBackendDown registry backendId tier).2, m.sessionId = sid) ↔
      sid ∈ s.affected backendId tier := by
  simp [onBackendDown]

/-- An entry is live exactly if the last turn of its session is within a lifetime. -/
theorem Dated.live_iff {ttl : ℤ} {h : List Record} {s : AffinityScheduler}
    (dated : Dated ttl h s) {sid : String} {entry : StickyEntry}
    (found : s.sticky.get? sid = some entry) (now : Time) :
    entry.Live now ↔ ∀ since last, lastTurn sid h = some (since, last) → now - since < ttl := by
  obtain ⟨since, last, turn, expiry⟩ := dated.expiry sid entry found
  rw [StickyEntry.Live, expiry]
  constructor
  · intro live since' last' turn'
    obtain ⟨rfl, rfl⟩ := Prod.mk.inj (Option.some.inj (turn.symm.trans turn'))
    linarith
  · intro recent
    have within := recent since last turn
    linarith

/-- An entry is not live exactly if the last turn of its session is a lifetime ago. -/
theorem Dated.not_live_iff {ttl : ℤ} {h : List Record} {s : AffinityScheduler}
    (dated : Dated ttl h s) {sid : String} {entry : StickyEntry}
    (found : s.sticky.get? sid = some entry) (now : Time) :
    ¬ entry.Live now ↔ ∀ since last, lastTurn sid h = some (since, last) → ttl ≤ now - since := by
  obtain ⟨since, last, turn, expiry⟩ := dated.expiry sid entry found
  rw [StickyEntry.Live, expiry, not_lt]
  constructor
  · intro idle since' last' turn'
    obtain ⟨rfl, rfl⟩ := Prod.mk.inj (Option.some.inj (turn.symm.trans turn'))
    linarith
  · intro idle
    have past := idle since last turn
    linarith

/-- A migration counts and reports the live bindings alone exactly if the live entries of the
backend are those of the tier. -/
theorem countsLive_iff_live (s : AffinityScheduler) (now : Time) (registry : BackendRegistry)
    (backendId : String) (tier : Tier) :
    CountsLive s now registry backendId tier ↔
      ∀ sid entry, s.sticky.get? sid = some entry → entry.backendId = backendId →
        (entry.tier = tier ↔ entry.Live now) := by
  constructor
  · rintro ⟨counted, reported⟩
    have on_tier : ∀ sid entry, s.sticky.get? sid = some entry →
        isAffected backendId tier entry = true → entry.Live now := by
      intro sid entry found hit
      have broken := mem_affected_iff.mpr ⟨entry, found, hit⟩
      obtain ⟨m, member, rfl⟩ := mem_onBackendDown_log.mpr broken
      obtain ⟨entry', found', live⟩ := reported m member
      obtain rfl : entry = entry' := Option.some.inj (found.symm.trans found')
      exact live
    rw [broken_onBackendDown] at counted
    have agree := (Dict.count_eq_count_iff_of_stronger (d := s.sticky)
      (p := fun _ entry => isAffected backendId tier entry)
      (q := fun _ entry => entry.backendId == backendId && decide (entry.Live now))
      (fun sid entry found hit => by
        simp [(isAffected_iff.mp hit).1, on_tier sid entry found hit])).mp
      (Nat.add_left_cancel counted)
    intro sid entry found bound
    constructor
    · intro same
      exact on_tier sid entry found (isAffected_iff.mpr ⟨bound, same⟩)
    · intro live
      have hit := agree sid entry found (by simp [bound, live])
      exact (isAffected_iff.mp hit).2
  · intro right
    refine ⟨?_, ?_⟩
    · rw [broken_onBackendDown]
      apply congrArg (s.broken tier + ·)
      apply (Dict.count_eq_count_iff_of_stronger ?_).mpr
      · intro sid entry found live
        obtain ⟨bound, alive⟩ : entry.backendId = backendId ∧ entry.Live now := by simpa using live
        exact isAffected_iff.mpr ⟨bound, (right sid entry found bound).mpr alive⟩
      · intro sid entry found hit
        obtain ⟨bound, same⟩ := isAffected_iff.mp hit
        simp [bound, (right sid entry found bound).mp same]
    · intro m member
      obtain ⟨entry, found, hit⟩ := mem_affected_iff.mp (mem_onBackendDown_log.mp ⟨m, member, rfl⟩)
      obtain ⟨bound, same⟩ := isAffected_iff.mp hit
      exact ⟨entry, found, (right _ entry found bound).mp same⟩

/-- **One migration.** It counts and reports the live bindings alone exactly if the sessions bound
to the backend are recent on the tier and idle elsewhere. -/
theorem Dated.countsLive_iff {ttl : ℤ} {h : List Record} {s : AffinityScheduler}
    (dated : Dated ttl h s) (now : Time) (registry : BackendRegistry) (backendId : String)
    (tier : Tier) :
    CountsLive s now registry backendId tier ↔ Recent ttl h s now backendId tier := by
  rw [countsLive_iff_live]
  constructor
  · intro right
    refine ⟨?_, ?_⟩
    · intro sid entry found bound same
      exact (dated.live_iff found now).mp ((right sid entry found bound).mp same)
    · intro sid entry found bound differ
      exact (dated.not_live_iff found now).mp (mt (right sid entry found bound).mpr differ)
  · rintro ⟨on_tier, elsewhere⟩ sid entry found bound
    constructor
    · intro same
      exact (dated.live_iff found now).mpr (on_tier sid entry found bound same)
    · intro live
      by_contra differ
      exact (dated.not_live_iff found now).mpr (elsewhere sid entry found bound differ) live

/-- **Broken bindings.** In every run, every migration counts and reports the live bindings alone,
exactly if at every migration the sessions bound to its backend had a turn within the last
lifetime when they are bound on its tier, and had none when they are bound on another one. -/
theorem broken_iff_recent (ttl : ℤ) (operations : List (Time × Operation)) :
    (∀ first now registry backendId tier rest,
      operations = first ++ (now, .backendDown registry backendId tier) :: rest →
      CountsLive (final step (.new ttl) first) now registry backendId tier) ↔
    ∀ first now registry backendId tier rest,
      operations = first ++ (now, .backendDown registry backendId tier) :: rest →
      Recent ttl (history step (.new ttl) first) (final step (.new ttl) first) now backendId
        tier := by
  constructor
  · intro counts first now registry backendId tier rest split
    exact ((dated_final ttl first).countsLive_iff now registry backendId tier).mp
      (counts first now registry backendId tier rest split)
  · intro recent first now registry backendId tier rest split
    exact ((dated_final ttl first).countsLive_iff now registry backendId tier).mpr
      (recent first now registry backendId tier rest split)

/-- One turn of a session, at time zero. -/
def oneTurn : List (Time × Operation) := [(0, .select migratedSession .small [survivingBackend])]

/-- A session whose binding expired at 1800 is counted and reported as broken at 2000. -/
theorem expired_binding_counted :
    ((final step (.new 1800) oneTurn).onBackendDown registryAfterOutage "small-1"
        .small).1.broken .small = 1 ∧
      (final step (.new 1800) oneTurn).liveBindings "small-1" 2000 = 0 ∧
      ¬ CountsLive (final step (.new 1800) oneTurn) 2000 registryAfterOutage "small-1" .small := by
  have counted : ((final step (.new 1800) oneTurn).onBackendDown registryAfterOutage "small-1"
      .small).1.broken .small = 1 := by
    decide +kernel
  have none_live : (final step (.new 1800) oneTurn).liveBindings "small-1" 2000 = 0 := by
    decide +kernel
  refine ⟨counted, none_live, ?_⟩
  intro right
  have added := right.counted
  rw [counted, none_live] at added
  exact absurd added (by decide +kernel)

end AffinityScheduler

end AgentServe
