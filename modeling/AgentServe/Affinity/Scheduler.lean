import AgentServe.Backends.Registry
import AgentServe.Lib.Sha256
import Mathlib.Data.List.MinMax
import Mathlib.Data.Rat.Cast.Order

/-!
# The affinity scheduler

The scheduler keeps a table of sticky bindings, one for each session. A turn of
a session reuses the binding while it is live and its backend is a candidate,
and otherwise binds the session to the candidate of highest rendezvous weight.
When a backend goes down, the sessions bound to it are rebound to the survivors
of its tier.

A turn has exactly three outcomes (`selectBackend_cases`), and the table after
each operation is described entry by entry (`get?_slide`, `get?_bind`,
`get?_invalidate`, `get?_onBackendDown`). The counters of hits and misses follow
the answers (`hits_selectBackend`, `misses_selectBackend`).

Expired entries stay in the table until the session's next turn. Purging them is
a transition of its own here (`purge`), which the program never makes.

Times are exact, and so are their sums with the time to live. The program adds
floats, which may round an expiry by a last digit.
-/

set_option autoImplicit false

namespace AgentServe

open Lib

/-! ## Rendezvous weights -/

/-- The weight of a backend for a session: the digest of the two names joined by a colon. -/
def hrwScore (sessionId backendId : String) : ℕ :=
  Sha256.digest ((sessionId ++ ":" ++ backendId).toList.flatMap String.utf8EncodeChar)

/-- The first candidate of highest weight. There is none only among no candidates. -/
def selectByHrw (sessionId : String) (candidates : List BackendInfo) : Option BackendInfo :=
  candidates.argmax fun b => hrwScore sessionId b.id

theorem selectByHrw_eq_none_iff {sessionId : String} {candidates : List BackendInfo} :
    selectByHrw sessionId candidates = none ↔ candidates = [] :=
  List.argmax_eq_none

theorem mem_of_selectByHrw {sessionId : String} {candidates : List BackendInfo}
    {b : BackendInfo} (chosen : selectByHrw sessionId candidates = some b) : b ∈ candidates :=
  List.argmax_mem chosen

/-! ## The sticky table -/

/-- A binding of a session to a backend, for the tier it was made on. -/
structure StickyEntry where
  backendId : String
  tier : Tier
  expiresAt : Time
deriving DecidableEq, Repr

/-- A binding made at a clock reading. -/
def StickyEntry.new (backendId : String) (tier : Tier) (ttl : ℤ) (now : Time) : StickyEntry :=
  ⟨backendId, tier, now + ttl⟩

/-- A binding is live before its expiry. -/
def StickyEntry.Live (now : Time) (entry : StickyEntry) : Prop := now < entry.expiresAt

instance (now : Time) : DecidablePred (StickyEntry.Live now) := fun entry =>
  inferInstanceAs (Decidable (now < entry.expiresAt))

/-- A line of the log about a session whose binding was broken: the backend it was bound to,
and the backend it is bound to now, if any. -/
structure Migration where
  sessionId : String
  source : String
  target : Option String
  tier : Tier
deriving DecidableEq, Repr

structure AffinityScheduler where
  ttl : ℤ
  sticky : Dict String StickyEntry
  hits : Tier → ℕ
  misses : Tier → ℕ
  broken : Tier → ℕ

namespace AffinityScheduler

/-- The scheduler at start-up, with an empty table and counters at zero. -/
def new (ttl : ℤ) : AffinityScheduler :=
  ⟨ttl, .empty, fun _ => 0, fun _ => 0, fun _ => 0⟩

/-- One more on the counter of a tier. -/
def inc (counter : Tier → ℕ) (tier : Tier) : Tier → ℕ :=
  fun t => if t = tier then counter t + 1 else counter t

/-! ## Turns -/

/-- The candidate a session is bound to, if the binding is live. -/
def pinned (s : AffinityScheduler) (sessionId : String) (candidates : List BackendInfo)
    (now : Time) : Option BackendInfo :=
  match s.sticky.get? sessionId with
  | none => none
  | some entry =>
    if entry.Live now then candidates.find? fun b => b.id = entry.backendId else none

/-- Move the expiry of a binding that was hit. -/
def slide (s : AffinityScheduler) (sessionId : String) (tier : Tier) (now : Time) :
    AffinityScheduler :=
  { s with
    sticky := s.sticky.modify sessionId fun entry => { entry with expiresAt := now + s.ttl }
    hits := inc s.hits tier }

/-- Replace the binding of a session that missed. -/
def bind (s : AffinityScheduler) (sessionId : String) (tier : Tier) (chosen : BackendInfo)
    (now : Time) : AffinityScheduler :=
  { s with
    sticky := s.sticky.set sessionId (.new chosen.id tier s.ttl now)
    misses := inc s.misses tier }

/-- A turn of a session. The clock is read for the check of the binding, and once more when a
new binding is made. -/
def selectBackend (s : AffinityScheduler) (session : SessionContext) (tier : Tier)
    (candidates : List BackendInfo) (now made : Time) :
    AffinityScheduler × Except GatewayException (BackendInfo × Bool) :=
  if candidates.isEmpty then (s, .error (.backendUnavailable tier))
  else
    match s.pinned session.sessionId candidates now with
    | some b => (s.slide session.sessionId tier now, .ok (b, true))
    | none =>
      match selectByHrw session.sessionId candidates with
      | some chosen => (s.bind session.sessionId tier chosen made, .ok (chosen, false))
      -- The maximum of no candidates, which the guard excludes.
      | none => (s, .error (.backendUnavailable tier))

/-- Drop the binding of a session. -/
def invalidate (s : AffinityScheduler) (sessionId : String) : AffinityScheduler :=
  { s with sticky := s.sticky.erase sessionId }

/-! ## A backend that went down -/

/-- The bindings to a backend, made on a tier. -/
def isAffected (backendId : String) (tier : Tier) (entry : StickyEntry) : Bool :=
  entry.backendId == backendId && entry.tier == tier

/-- Rebind one session to a survivor, or evict it when there is none. -/
def migrateOne (survivors : List BackendInfo) (table : Dict String StickyEntry)
    (sessionId : String) : Dict String StickyEntry :=
  match selectByHrw sessionId survivors with
  | some b => table.modify sessionId fun entry => { entry with backendId := b.id }
  | none => table.erase sessionId

/-- The backends a session can move to when one goes down. -/
def survivors (registry : BackendRegistry) (backendId : String) (tier : Tier) :
    List BackendInfo :=
  (registry.getHealthyBackends tier).filter fun b => b.id ≠ backendId

/-- The sessions bound to a backend on a tier. -/
def affected (s : AffinityScheduler) (backendId : String) (tier : Tier) : List String :=
  (s.sticky.filter fun _ entry => isAffected backendId tier entry).keys

/-- Migrate every session bound to a backend, with the lines logged about them. -/
def onBackendDown (s : AffinityScheduler) (registry : BackendRegistry) (backendId : String)
    (tier : Tier) : AffinityScheduler × List Migration :=
  let left := survivors registry backendId tier
  let sids := s.affected backendId tier
  ({ s with
      sticky := sids.foldl (migrateOne left) s.sticky
      broken := fun t => if t = tier then s.broken t + sids.length else s.broken t },
    sids.map fun sid => ⟨sid, backendId, (selectByHrw sid left).map BackendInfo.id, tier⟩)

/-- Drop the expired bindings. -/
def purge (s : AffinityScheduler) (now : Time) : AffinityScheduler :=
  { s with sticky := s.sticky.filter fun _ entry => entry.Live now }

/-! ## What a turn does -/

section Turn

variable {s : AffinityScheduler} {session : SessionContext} {tier : Tier}
  {candidates : List BackendInfo} {now made : Time}

/-- A hit is a candidate that a live binding names. -/
theorem pinned_eq_some_iff {sessionId : String} {b : BackendInfo} :
    s.pinned sessionId candidates now = some b ↔
      ∃ entry, s.sticky.get? sessionId = some entry ∧ entry.Live now ∧
        candidates.find? (fun c => c.id = entry.backendId) = some b := by
  unfold pinned
  cases s.sticky.get? sessionId with
  | none => simp
  | some entry =>
      by_cases live : entry.Live now
      · simp [live]
      · simp [live]

theorem pinned_mem {sessionId : String} {b : BackendInfo}
    (found : s.pinned sessionId candidates now = some b) : b ∈ candidates := by
  obtain ⟨_, _, _, search⟩ := pinned_eq_some_iff.mp found
  exact List.mem_of_find?_eq_some search

/-- Without candidates a turn raises and changes nothing. -/
@[simp] theorem selectBackend_nil :
    s.selectBackend session tier [] now made = (s, .error (.backendUnavailable tier)) := rfl

theorem selectBackend_hit {b : BackendInfo}
    (found : s.pinned session.sessionId candidates now = some b) :
    s.selectBackend session tier candidates now made =
      (s.slide session.sessionId tier now, .ok (b, true)) := by
  have some_candidate : candidates.isEmpty = false :=
    List.isEmpty_eq_false_iff_exists_mem.mpr ⟨b, pinned_mem found⟩
  simp only [selectBackend, some_candidate, Bool.false_eq_true, if_false, found]

theorem selectBackend_miss {b : BackendInfo}
    (missing : s.pinned session.sessionId candidates now = none)
    (chosen : selectByHrw session.sessionId candidates = some b) :
    s.selectBackend session tier candidates now made =
      (s.bind session.sessionId tier b made, .ok (b, false)) := by
  have some_candidate : candidates.isEmpty = false :=
    List.isEmpty_eq_false_iff_exists_mem.mpr ⟨b, mem_of_selectByHrw chosen⟩
  simp only [selectBackend, some_candidate, Bool.false_eq_true, if_false, missing, chosen]

/-- **The three outcomes of a turn.** Without candidates it raises. Otherwise it is a hit that
slides the binding, or a miss that makes a new one. -/
theorem selectBackend_cases (s : AffinityScheduler) (session : SessionContext) (tier : Tier)
    (candidates : List BackendInfo) (now made : Time) :
    (candidates = [] ∧ s.selectBackend session tier candidates now made =
        (s, .error (.backendUnavailable tier))) ∨
      (∃ b, s.pinned session.sessionId candidates now = some b ∧
        s.selectBackend session tier candidates now made =
          (s.slide session.sessionId tier now, .ok (b, true))) ∨
      ∃ b, s.pinned session.sessionId candidates now = none ∧
        selectByHrw session.sessionId candidates = some b ∧
        s.selectBackend session tier candidates now made =
          (s.bind session.sessionId tier b made, .ok (b, false)) := by
  cases found : s.pinned session.sessionId candidates now with
  | some b => exact .inr (.inl ⟨b, rfl, selectBackend_hit found⟩)
  | none =>
      cases chosen : selectByHrw session.sessionId candidates with
      | some b => exact .inr (.inr ⟨b, rfl, rfl, selectBackend_miss found chosen⟩)
      | none =>
          obtain rfl := selectByHrw_eq_none_iff.mp chosen
          exact .inl ⟨rfl, rfl⟩

/-- A turn answers with one of its candidates. -/
theorem mem_of_selectBackend {b : BackendInfo} {hit : Bool}
    (answered : (s.selectBackend session tier candidates now made).2 = .ok (b, hit)) :
    b ∈ candidates := by
  rcases selectBackend_cases s session tier candidates now made with
    ⟨_, outcome⟩ | ⟨c, found, outcome⟩ | ⟨c, _, chosen, outcome⟩
  · rw [outcome] at answered
    cases answered
  · rw [outcome] at answered
    cases answered
    exact pinned_mem found
  · rw [outcome] at answered
    cases answered
    exact mem_of_selectByHrw chosen

/-- A turn is a hit exactly when its session is bound to a candidate. -/
theorem selectBackend_eq_hit_iff {b : BackendInfo} :
    (s.selectBackend session tier candidates now made).2 = .ok (b, true) ↔
      s.pinned session.sessionId candidates now = some b := by
  rcases selectBackend_cases s session tier candidates now made with
    ⟨none, outcome⟩ | ⟨c, found, outcome⟩ | ⟨c, missing, _, outcome⟩
  · rw [outcome, pinned_eq_some_iff]
    simp [none]
  · rw [outcome, found]
    simp
  · rw [outcome, missing]
    simp

end Turn

/-! ## The table after an operation -/

theorem get?_slide (s : AffinityScheduler) (sessionId : String) (tier : Tier) (now : Time)
    (sid : String) :
    (s.slide sessionId tier now).sticky.get? sid =
      if sid = sessionId then
        (s.sticky.get? sid).map fun entry => { entry with expiresAt := now + s.ttl }
      else s.sticky.get? sid :=
  Dict.get?_modify _ _ _ _

theorem get?_bind (s : AffinityScheduler) (sessionId : String) (tier : Tier)
    (chosen : BackendInfo) (now : Time) (sid : String) :
    (s.bind sessionId tier chosen now).sticky.get? sid =
      if sid = sessionId then some (.new chosen.id tier s.ttl now) else s.sticky.get? sid :=
  Dict.get?_set _ _ _ _

theorem get?_invalidate (s : AffinityScheduler) (sessionId sid : String) :
    (s.invalidate sessionId).sticky.get? sid =
      if sid = sessionId then none else s.sticky.get? sid :=
  Dict.get?_erase _ _ _

theorem get?_purge (s : AffinityScheduler) (now : Time) (sid : String) :
    (s.purge now).sticky.get? sid =
      (s.sticky.get? sid).filter fun entry => entry.Live now :=
  Dict.get?_filter _ _ _

theorem isAffected_iff {backendId : String} {tier : Tier} {entry : StickyEntry} :
    isAffected backendId tier entry = true ↔ entry.backendId = backendId ∧ entry.tier = tier := by
  simp [isAffected]

theorem mem_affected_iff {s : AffinityScheduler} {backendId : String} {tier : Tier}
    {sid : String} :
    sid ∈ s.affected backendId tier ↔
      ∃ entry, s.sticky.get? sid = some entry ∧ isAffected backendId tier entry = true :=
  Dict.mem_keys_filter_iff

/-- The binding of an affected session after the migration. -/
def migrated (left : List BackendInfo) (sid : String) (entry : StickyEntry) :
    Option StickyEntry :=
  (selectByHrw sid left).map fun b => { entry with backendId := b.id }

theorem get?_migrateOne (left : List BackendInfo) (table : Dict String StickyEntry)
    (sessionId sid : String) :
    (migrateOne left table sessionId).get? sid =
      if sid = sessionId then (table.get? sid).bind (migrated left sid) else table.get? sid := by
  unfold migrateOne migrated
  cases chosen : selectByHrw sessionId left with
  | none =>
      rw [Dict.get?_erase]
      split
      · rename_i same
        subst same
        simp [chosen]
      · rfl
  | some b =>
      rw [Dict.get?_modify]
      split
      · rename_i same
        subst same
        cases table.get? sid <;> simp [chosen]
      · rfl

/-- Migrating a list of distinct sessions touches each of them once and no other. -/
theorem get?_foldl_migrateOne (left : List BackendInfo) (sids : List String)
    (distinct : sids.Nodup) (table : Dict String StickyEntry) (sid : String) :
    (sids.foldl (migrateOne left) table).get? sid =
      if sid ∈ sids then (table.get? sid).bind (migrated left sid) else table.get? sid := by
  induction sids generalizing table with
  | nil => simp
  | cons head tail ih =>
      obtain ⟨fresh, others⟩ := List.nodup_cons.mp distinct
      rw [List.foldl_cons, ih others, get?_migrateOne]
      by_cases first : sid = head
      · subst first
        simp [fresh]
      · simp [first]

/-- **The table after a backend went down.** The bindings to it move to survivors or are
evicted, and no other binding changes. -/
theorem get?_onBackendDown (s : AffinityScheduler) (registry : BackendRegistry)
    (backendId : String) (tier : Tier) (sid : String) :
    (s.onBackendDown registry backendId tier).1.sticky.get? sid =
      (s.sticky.get? sid).bind fun entry =>
        if isAffected backendId tier entry then
          migrated (survivors registry backendId tier) sid entry
        else some entry := by
  have distinct : (s.affected backendId tier).Nodup := Dict.nodup_keys _
  simp only [onBackendDown]
  rw [get?_foldl_migrateOne _ _ distinct]
  by_cases member : sid ∈ s.affected backendId tier
  · obtain ⟨entry, found, hit⟩ := mem_affected_iff.mp member
    simp [member, found, hit]
  · rw [if_neg member]
    cases found : s.sticky.get? sid with
    | none => rfl
    | some entry =>
        have spared : ¬ isAffected backendId tier entry = true := fun hit =>
          member (mem_affected_iff.mpr ⟨entry, found, hit⟩)
        simp [spared]

/-! ## Turns and the table -/

/-- A session is bound to a backend until a time. -/
def Bound (s : AffinityScheduler) (sid backendId : String) (expiresAt : Time) : Prop :=
  ∃ entry, s.sticky.get? sid = some entry ∧ entry.backendId = backendId ∧
    entry.expiresAt = expiresAt

/-- **An answer is a binding.** After a turn its session is bound to the backend of the answer,
for one lifetime from now. -/
theorem bound_after_answer {s : AffinityScheduler} {session : SessionContext} {tier : Tier}
    {candidates : List BackendInfo} {now : Time} {b : BackendInfo} {hit : Bool}
    (answered : (s.selectBackend session tier candidates now now).2 = .ok (b, hit)) :
    (s.selectBackend session tier candidates now now).1.Bound session.sessionId b.id
      (now + s.ttl) := by
  rcases selectBackend_cases s session tier candidates now now with
    ⟨_, outcome⟩ | ⟨c, found, outcome⟩ | ⟨c, _, _, outcome⟩
  · rw [outcome] at answered
    cases answered
  · rw [outcome] at answered ⊢
    cases answered
    obtain ⟨entry, at_sid, _, search⟩ := pinned_eq_some_iff.mp found
    have named : b.id = entry.backendId := by simpa using List.find?_some search
    refine ⟨{ entry with expiresAt := now + s.ttl }, ?_, named.symm, rfl⟩
    rw [get?_slide, if_pos rfl, at_sid]
    rfl
  · rw [outcome] at answered ⊢
    cases answered
    refine ⟨.new b.id tier s.ttl now, ?_, rfl, rfl⟩
    rw [get?_bind, if_pos rfl]

/-- A turn leaves the bindings of the other sessions as they are. -/
theorem get?_selectBackend_of_ne {session : SessionContext} {sid : String}
    (other : sid ≠ session.sessionId) (s : AffinityScheduler) (tier : Tier)
    (candidates : List BackendInfo) (now made : Time) :
    (s.selectBackend session tier candidates now made).1.sticky.get? sid =
      s.sticky.get? sid := by
  rcases selectBackend_cases s session tier candidates now made with
    ⟨_, outcome⟩ | ⟨b, _, outcome⟩ | ⟨b, _, _, outcome⟩
  · rw [outcome]
  · rw [outcome, get?_slide, if_neg other]
  · rw [outcome, get?_bind, if_neg other]

/-- A turn that raises had no candidates. -/
theorem candidates_of_error {s : AffinityScheduler} {session : SessionContext} {tier : Tier}
    {candidates : List BackendInfo} {now made : Time} {e : GatewayException}
    (raised : (s.selectBackend session tier candidates now made).2 = .error e) :
    candidates = [] := by
  rcases selectBackend_cases s session tier candidates now made with
    ⟨none, _⟩ | ⟨b, _, outcome⟩ | ⟨b, _, _, outcome⟩
  · exact none
  · rw [outcome] at raised
    cases raised
  · rw [outcome] at raised
    cases raised

/-! ## The counters -/

theorem ttl_selectBackend (s : AffinityScheduler) (session : SessionContext) (tier : Tier)
    (candidates : List BackendInfo) (now made : Time) :
    (s.selectBackend session tier candidates now made).1.ttl = s.ttl := by
  rcases selectBackend_cases s session tier candidates now made with
    ⟨_, outcome⟩ | ⟨b, _, outcome⟩ | ⟨b, _, _, outcome⟩ <;> rw [outcome] <;> rfl

/-- A turn on a tier counts as a hit of the tier exactly when its answer is one. -/
theorem hits_selectBackend (s : AffinityScheduler) (session : SessionContext) (tier : Tier)
    (candidates : List BackendInfo) (now made : Time) :
    (s.selectBackend session tier candidates now made).1.hits =
      match (s.selectBackend session tier candidates now made).2 with
      | .ok (_, true) => inc s.hits tier
      | _ => s.hits := by
  rcases selectBackend_cases s session tier candidates now made with
    ⟨_, outcome⟩ | ⟨b, _, outcome⟩ | ⟨b, _, _, outcome⟩ <;> rw [outcome] <;> rfl

theorem misses_selectBackend (s : AffinityScheduler) (session : SessionContext) (tier : Tier)
    (candidates : List BackendInfo) (now made : Time) :
    (s.selectBackend session tier candidates now made).1.misses =
      match (s.selectBackend session tier candidates now made).2 with
      | .ok (_, false) => inc s.misses tier
      | _ => s.misses := by
  rcases selectBackend_cases s session tier candidates now made with
    ⟨_, outcome⟩ | ⟨b, _, outcome⟩ | ⟨b, _, _, outcome⟩ <;> rw [outcome] <;> rfl

end AffinityScheduler

end AgentServe
