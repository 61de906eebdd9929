import AgentServe.Admission.QueueRuns
import AgentServe.Lib.ArrivalOrder

/-!
# First come, first served

A queue serves its callers in the order in which they called `acquire`. The
waiters of its semaphore stand in that order, and a slot goes to the first pending
one, so a caller that arrived later never gets a slot before one that is still
waiting (`no_overtaking`). This holds across timeouts and cancellations: whoever is
thrown out gives up its place, and nobody moves back.

A waiting caller is served after at most as many releases as callers are waiting
in front of it, plus one, unless it is interrupted (`served_within`). Arrivals
during its wait do not prolong it.
-/

set_option autoImplicit false

namespace AgentServe

open Lib

/-- The call of `acquire` has returned. -/
def Caller.isServed : Caller → Bool
  | .holding _ => true
  | .released => true
  | _ => false

namespace QueueEvent

variable {ι : Type}

/-- The caller whose step an event is. -/
def caller : QueueEvent ι → ι
  | .acquire k _ _ => k
  | .interrupt k _ => k
  | .resume k _ => k
  | .release k => k

/-- The caller that an event lets in. -/
def arrival : QueueEvent ι → Option ι
  | .acquire k _ _ => some k
  | _ => none

def isRelease : QueueEvent ι → Bool
  | .release _ => true
  | _ => false

/-- The event throws a caller out. -/
def Interrupts (k : ι) : QueueEvent ι → Prop
  | .interrupt j _ => j = k
  | _ => False

end QueueEvent

namespace QueueSystem

variable {ι : Type}

/-- The callers in the order of their calls. -/
def arrivals (events : List (QueueEvent ι)) : List ι := events.filterMap QueueEvent.arrival

/-- How many slots are given back. -/
def releases (events : List (QueueEvent ι)) : ℕ := events.countP QueueEvent.isRelease

theorem releases_concat (past : List (QueueEvent ι)) (e : QueueEvent ι) :
    releases (past ++ [e]) = releases past + e.isRelease.toNat := by
  rw [releases, List.countP_append, ← releases, List.countP_singleton]
  cases e.isRelease <;> rfl

variable [DecidableEq ι]

/-- The caller waits for a slot that it has not been granted. -/
def Waits (s : QueueSystem ι) (k : ι) : Prop :=
  s.queue.semaphore.waiters.get? k = some .pending

/-- The caller has a slot, or had one: it was granted one, holds one, or gave it back. -/
def Served (s : QueueSystem ι) (k : ι) : Prop :=
  s.queue.semaphore.waiters.get? k = some .granted ∨ (s.callers.get? k).any Caller.isServed = true

/-- The callers that wait in front of a caller. -/
def ahead (s : QueueSystem ι) (k : ι) : ℕ := s.queue.semaphore.ahead k

/-- The order of a queue: the semaphore keeps the places of the callers, and whoever has had a
slot arrived before everybody who waits. -/
structure FirstCome (s : QueueSystem ι) : Prop where
  places : s.queue.semaphore.waiters.keys.Sublist s.callers.keys
  orderly : s.queue.semaphore.Orderly
  undisturbed : ∀ k, s.Waits k → ∃ start, s.callers.get? k = some (.inside start none)
  unserved : ∀ a b, [a, b].Sublist s.callers.keys → s.Waits a →
    (s.callers.get? b).any Caller.isServed = false

theorem firstCome_new (queue : BackpressureQueue ι)
    (empty : queue.semaphore.waiters = .empty) : FirstCome (new queue) where
  places := by
    rw [new, empty]
    exact List.Sublist.refl _
  orderly := by
    unfold Semaphore.Orderly
    rw [new, empty]
    exact List.Pairwise.nil
  undisturbed := by
    intro k waits
    rw [Waits, new, empty] at waits
    cases waits
  unserved := by
    intro a b order
    cases order

/-- A caller that comes last stands behind all others. -/
theorem pair_sublist_concat {α : Type} {l : List α} {a b c : α}
    (order : [a, b].Sublist (l ++ [c])) : [a, b].Sublist l ∨ b = c := by
  obtain ⟨first, last, split, front, back⟩ := List.sublist_append_iff.mp order
  rcases List.sublist_singleton.mp back with rfl | rfl
  · rw [List.append_nil] at split
    exact .inl (split ▸ front)
  · right
    have ends := congrArg List.getLast? split
    simpa using ends

/-- What a step does to the semaphore and to the caller it is about. -/
inductive Attends (s : QueueSystem ι) (k : ι) :
    QueueEvent ι → Caller → Semaphore ι → Prop where
  /-- The waiters stay as they are. A slot that is taken at once was there for nobody else. -/
  | passes {e : QueueEvent ι} {c : Caller} {m : Semaphore ι}
      (waiters : m.waiters = s.queue.semaphore.waiters) (event : e.isRelease = false)
      (itself : ¬ s.Waits k)
      (first : c.isServed = true → ∀ a, ¬ s.Waits a) : Attends s k e c m
  | arrives {start finish : Time} (fresh : s.callers.get? k = none)
      (absent : s.queue.semaphore.waiters.get? k = none) :
      Attends s k (.acquire k start finish) (.inside start none) (s.queue.semaphore.enqueue k)
  | cancels {i : Interrupt} {start : Time} {thrown : Option Interrupt} :
      Attends s k (.interrupt k i) (.inside start thrown) (s.queue.semaphore.cancel k)
  | leaves {finish : Time} {c : Caller} {m n : Semaphore ι} (itself : ¬ s.Waits k)
      (granted : c.isServed = true → s.queue.semaphore.waiters.get? k = some .granted)
      (erased : m.waiters = s.queue.semaphore.waiters.erase k) (wakes : m.Wakes n) :
      Attends s k (.resume k finish) c n
  | givesBack {wait : Time} (holds : s.callers.get? k = some (.holding wait)) :
      Attends s k (.release k) .released s.queue.semaphore.release

theorem attends_of_acquire {s : QueueSystem ι} {k : ι} (fresh : s.callers.get? k = none)
    (absent : s.queue.semaphore.waiters.get? k = none) (start finish : Time) :
    Attends s k (.acquire k start finish) (s.queue.acquire k start finish).2
      (s.queue.acquire k start finish).1.semaphore := by
  have itself : ¬ s.Waits k := by
    intro waits
    rw [Waits, absent] at waits
    cases waits
  unfold BackpressureQueue.acquire
  split
  · exact .passes rfl rfl itself nofun
  split
  · exact .passes rfl rfl itself nofun
  split
  · rename_i taken took
    obtain ⟨_, same⟩ := Semaphore.tryAcquire_eq_some took
    refine .passes (by rw [same]; rfl) rfl itself ?_
    intro _ a waits
    have locked : s.queue.semaphore.locked = true := by
      have alive : (FutureState.pending != .cancelled) = true := rfl
      have member := List.mem_map_of_mem (f := Prod.snd) (Dict.mem_items_iff.mpr waits)
      rw [Semaphore.locked, Bool.or_eq_true]
      exact .inr (List.any_eq_true.mpr ⟨_, member, alive⟩)
    rw [Semaphore.tryAcquire, if_pos locked] at took
    cases took
  · exact .arrives fresh absent

theorem attends_of_resume {s : QueueSystem ι} {k : ι} {start finish : Time}
    {interrupted : Option Interrupt} {q : BackpressureQueue ι} {c : Caller}
    (resumed : s.queue.resume k start interrupted finish = some (q, c)) :
    Attends s k (.resume k finish) c q.semaphore := by
  unfold BackpressureQueue.resume at resumed
  split at resumed
  · rename_i next kept woke
    cases resumed
    obtain ⟨f, found, settled, keeps, _⟩ := Semaphore.resume_spec woke
    obtain ⟨m, erased, wakes⟩ := Semaphore.resume_wakes woke
    refine .leaves ?_ ?_ erased wakes
    · intro waits
      rw [Waits, found] at waits
      exact settled (Option.some.inj waits)
    · intro served
      have kept_slot : kept = true := by
        cases kept with
        | true => rfl
        | false => cases served
      rw [found, (keeps.mp kept_slot).1]
  · split at resumed
    · rename_i early
      cases resumed
      refine .passes rfl rfl ?_ nofun
      intro waits
      rw [Waits, early.2] at waits
      cases waits
    · cases resumed

/-- **The shape of a step, seen by the semaphore.** -/
theorem attends_of_step {built : BackpressureQueue ι} {s t : QueueSystem ι} {e : QueueEvent ι}
    (accounted : Accounted built s) (stepped : s.step e = some t) :
    ∃ c, t.callers = s.callers.set e.caller c ∧
      Attends s e.caller e c t.queue.semaphore := by
  cases does_of_step stepped with
  | @acquire k start finish fresh =>
      have absent := accounted.waiting k (by rw [fresh]; rfl)
      exact ⟨_, rfl, attends_of_acquire fresh absent start finish⟩
  | @interrupt k i start before inside => exact ⟨_, rfl, .cancels⟩
  | @resume k finish start interrupted queue c inside resumed =>
      exact ⟨c, rfl, attends_of_resume resumed⟩
  | @release k wait holds => exact ⟨_, rfl, .givesBack holds⟩

/-- Only its own arrival makes a caller wait, and its own steps end the wait. -/
theorem FirstCome.waits {s : QueueSystem ι} (firstCome : FirstCome s) {k : ι} {e : QueueEvent ι}
    {c : Caller} {m : Semaphore ι} (attends : Attends s k e c m) {a : ι}
    (waits : m.waiters.get? a = some .pending) :
    (s.Waits a ∧ a ≠ k) ∨
      (a = k ∧ s.callers.get? k = none ∧ ∃ start, c = .inside start none) := by
  have apart : ¬ s.Waits k → s.Waits a → s.Waits a ∧ a ≠ k := fun itself before =>
    ⟨before, fun own => itself (own ▸ before)⟩
  cases attends with
  | passes waiters event itself first =>
      rw [waiters] at waits
      exact .inl (apart itself waits)
  | @arrives start finish fresh absent =>
      rw [Semaphore.get?_enqueue] at waits
      split at waits
      · rename_i own
        exact .inr ⟨own, fresh, start, rfl⟩
      · rename_i differ
        exact .inl ⟨waits, differ⟩
  | cancels =>
      rw [Semaphore.get?_cancel] at waits
      split at waits
      · obtain ⟨f, _, state⟩ := Option.map_eq_some_iff.mp waits
        split at state
        · cases state
        · rename_i differ
          exact absurd state differ
      · rename_i differ
        exact .inl ⟨waits, differ⟩
  | leaves itself granted erased wakes =>
      have found := Semaphore.pending_of_wakes wakes waits
      rw [erased] at found
      exact .inl (apart itself (Dict.get?_of_get?_erase found))
  | givesBack holds =>
      have before : s.Waits a := Semaphore.pending_of_wakes (Semaphore.release_wakes _) waits
      refine .inl (apart ?_ before)
      intro own
      obtain ⟨start, inside⟩ := firstCome.undisturbed k own
      rw [holds] at inside
      cases inside

/-! ## No overtaking -/

theorem keys_set_sublist (s : QueueSystem ι) (k : ι) (c : Caller) :
    s.callers.keys.Sublist (s.callers.set k c).keys := by
  rw [Dict.keys_set]
  split
  · exact List.Sublist.refl _
  · exact List.sublist_append_left _ _

/-- The places in the semaphore stay those of the calls. -/
theorem FirstCome.places_step {s : QueueSystem ι} (firstCome : FirstCome s) {k : ι}
    {e : QueueEvent ι} {c : Caller} {m : Semaphore ι} (attends : Attends s k e c m) :
    m.waiters.keys.Sublist (s.callers.set k c).keys := by
  have grown := firstCome.places.trans (keys_set_sublist s k c)
  cases attends with
  | passes waiters event itself first =>
      rw [waiters]
      exact grown
  | arrives fresh absent =>
      have waiters : (s.queue.semaphore.enqueue k).waiters.keys =
          s.queue.semaphore.waiters.keys ++ [k] := by
        rw [Semaphore.enqueue, Dict.keys_set, if_neg (Dict.get?_eq_none_iff.mp absent)]
      rw [waiters, Dict.keys_set, if_neg (Dict.get?_eq_none_iff.mp fresh)]
      exact firstCome.places.append (List.Sublist.refl _)
  | cancels =>
      rw [Semaphore.keys_cancel]
      exact grown
  | leaves itself granted erased wakes =>
      rw [Semaphore.keys_of_wakes wakes, erased]
      exact (Dict.keys_erase_sublist _ _).trans grown
  | givesBack holds =>
      rw [Semaphore.keys_of_wakes (Semaphore.release_wakes _)]
      exact grown

theorem Attends.orderly {s : QueueSystem ι} {k : ι} {e : QueueEvent ι} {c : Caller}
    {m : Semaphore ι} (attends : Attends s k e c m) (orderly : s.queue.semaphore.Orderly) :
    m.Orderly := by
  cases attends with
  | passes waiters event itself first =>
      unfold Semaphore.Orderly
      rw [waiters]
      exact orderly
  | arrives fresh absent => exact orderly.enqueue absent
  | cancels => exact orderly.cancel k
  | @leaves _ _ middle _ itself granted erased wakes =>
      have remaining : middle.Orderly := by
        apply orderly.of_sublist
        rw [erased]
        exact Dict.items_erase_sublist _ _
      exact remaining.wakes wakes
  | givesBack holds =>
      have before : Semaphore.Orderly ⟨s.queue.semaphore.value + 1, s.queue.semaphore.waiters⟩ :=
        orderly
      exact before.wakes (Semaphore.release_wakes _)

/-- Nobody is served behind a caller that goes on waiting. -/
theorem FirstCome.unserved_step {s : QueueSystem ι} (firstCome : FirstCome s) {k : ι}
    {e : QueueEvent ι} {c : Caller} {m : Semaphore ι} (attends : Attends s k e c m) {a : ι}
    (waits : s.Waits a) (order : [a, k].Sublist (s.callers.set k c).keys) :
    c.isServed = false := by
  by_contra now
  rw [Bool.not_eq_false] at now
  have old : ∀ d, s.callers.get? k = some d → (s.callers.set k c).keys = s.callers.keys := by
    intro d present
    have member : k ∈ s.callers.keys := Dict.mem_keys_iff.mpr ⟨d, present⟩
    rw [Dict.keys_set, if_pos member]
  cases attends with
  | passes waiters event itself first => exact first now a waits
  | arrives fresh absent => cases now
  | cancels => cases now
  | leaves itself granted erased wakes =>
      have grant := granted now
      have second : k ∈ s.queue.semaphore.waiters.keys := Dict.mem_keys_iff.mpr ⟨_, grant⟩
      have first : a ∈ s.queue.semaphore.waiters.keys := Dict.mem_keys_iff.mpr ⟨_, waits⟩
      obtain ⟨d, present⟩ := Dict.mem_keys_iff.mp (firstCome.places.subset second)
      rw [old d present] at order
      have places :=
        pair_sublist_of_sublist firstCome.places s.callers.nodup_keys order first second
      exact firstCome.orderly.not_granted places waits grant
  | givesBack holds =>
      rw [old _ holds] at order
      have unserved := firstCome.unserved a k order waits
      rw [holds] at unserved
      cases unserved

/-- Step lemma: the order is kept. -/
theorem firstCome_step {built : BackpressureQueue ι} {s t : QueueSystem ι} {e : QueueEvent ι}
    (accounted : Accounted built s) (firstCome : FirstCome s) (stepped : s.step e = some t) :
    FirstCome t := by
  obtain ⟨c, callers, attends⟩ := attends_of_step accounted stepped
  generalize e.caller = k at callers attends
  refine ⟨?_, attends.orderly firstCome.orderly, ?_, ?_⟩
  · rw [callers]
    exact firstCome.places_step attends
  · intro a waits
    rw [callers]
    rcases firstCome.waits attends waits with ⟨before, differ⟩ | ⟨rfl, _, start, rfl⟩
    · rw [Dict.get?_set_of_ne _ _ differ]
      exact firstCome.undisturbed a before
    · exact ⟨start, Dict.get?_set_self _ _ _⟩
  · intro a b order waits
    rw [callers] at order ⊢
    have keys := Dict.keys_set s.callers k c
    rcases firstCome.waits attends waits with ⟨before, differ⟩ | ⟨rfl, fresh, _⟩
    · by_cases own : b = k
      · subst own
        rw [Dict.get?_set_self]
        exact firstCome.unserved_step attends before order
      · rw [Dict.get?_set_of_ne _ _ own]
        refine firstCome.unserved a b ?_ before
        rw [keys] at order
        split at order
        · exact order
        · exact (pair_sublist_concat order).resolve_right own
    · -- The caller that has just arrived is the last one.
      exfalso
      have absent := Dict.get?_eq_none_iff.mp fresh
      have distinct := (s.callers.set a c).nodup_keys
      rw [keys, if_neg absent] at order distinct
      rcases pair_sublist_concat order with early | rfl
      · exact absent (early.subset (by simp))
      · exact absurd (distinct.sublist order) (by simp)

/-- Run lemma: the queue is served in order at every point of every run. -/
theorem firstCome_run {maxInflight : ℕ} {maxQueue : ℤ} (room : 0 ≤ maxQueue) {timeout : ℚ}
    {tier : String} {events : List (QueueEvent ι)} {s : QueueSystem ι}
    (ran : run step (new (.new maxInflight maxQueue timeout tier)) events = some s) :
    FirstCome s := by
  have both : Accounted (.new maxInflight maxQueue timeout tier) s ∧ FirstCome s :=
    invariant_of_step (P := fun s => Accounted _ s ∧ FirstCome s)
      (fun _ _ _ holds stepped =>
        ⟨accounted_step holds.1 stepped, firstCome_step holds.1 holds.2 stepped⟩)
      ⟨accounted_new maxInflight room timeout tier, firstCome_new _ rfl⟩ ran
  exact both.2

/-- The callers of a system are those that have arrived, in their order. -/
theorem keys_callers_run {queue : BackpressureQueue ι} {events : List (QueueEvent ι)}
    {s : QueueSystem ι} (ran : run step (new queue) events = some s) :
    s.callers.keys = arrivals events := by
  apply past_invariant (P := fun past s => s.callers.keys = arrivals past) _ rfl ran
  intro past s e t same stepped
  have more : arrivals (past ++ [e]) = s.callers.keys ++ e.arrival.toList := by
    rw [arrivals, List.filterMap_append, ← arrivals, ← same]
    cases e <;> rfl
  have stays : ∀ k c d, s.callers.get? k = some d →
      (s.callers.set k c).keys = s.callers.keys := by
    intro k c d present
    rw [Dict.keys_set, if_pos (Dict.mem_keys_iff.mpr ⟨d, present⟩)]
  rw [more]
  cases does_of_step stepped with
  | acquire fresh =>
      rw [Dict.keys_set, if_neg (Dict.get?_eq_none_iff.mp fresh)]
      rfl
  | interrupt inside => exact (stays _ _ _ inside).trans (List.append_nil _).symm
  | resume inside resumed => exact (stays _ _ _ inside).trans (List.append_nil _).symm
  | release holds => exact (stays _ _ _ holds).trans (List.append_nil _).symm

/-- **No overtaking.** In every interleaving of arrivals, grants, timeouts, cancellations and
releases, a caller that arrived after one that still waits has not been served. -/
theorem no_overtaking (maxInflight : ℕ) (maxQueue : ℤ) (room : 0 ≤ maxQueue) (timeout : ℚ)
    (tier : String) (events : List (QueueEvent ι)) (s : QueueSystem ι)
    (ran : run step (new (.new maxInflight maxQueue timeout tier)) events = some s) (a b : ι)
    (order : [a, b].Sublist (arrivals events)) (waits : s.Waits a) : ¬ s.Served b := by
  have firstCome := firstCome_run room ran
  rw [← keys_callers_run ran] at order
  rintro (granted | served)
  · have first : a ∈ s.queue.semaphore.waiters.keys := Dict.mem_keys_iff.mpr ⟨_, waits⟩
    have second : b ∈ s.queue.semaphore.waiters.keys := Dict.mem_keys_iff.mpr ⟨_, granted⟩
    have places :=
      pair_sublist_of_sublist firstCome.places s.callers.nodup_keys order first second
    exact firstCome.orderly.not_granted places waits granted
  · have unserved := firstCome.unserved a b order waits
    rw [served] at unserved
    cases unserved

/-- Two callers that wait for the only slot. -/
def twoWait : List (QueueEvent ℕ) := [.acquire 0 0 0, .acquire 1 0 0, .acquire 2 0 0]

/-- While the first of the two waits, the second has not been served. -/
theorem no_overtaking_twoWait :
    ∃ s, run step (new (.new 1 2 30 "small")) twoWait = some s ∧ ¬ s.Served 2 :=
  ⟨_, rfl, no_overtaking 1 2 (by decide) 30 "small" twoWait _ rfl 1 2 (by decide) rfl⟩

/-! ## Bounded waiting -/

/-- Step lemma: while a caller waits, nobody comes in front of it, and a release takes one of
those in front away. -/
theorem ahead_step {built : BackpressureQueue ι} {s t : QueueSystem ι} {e : QueueEvent ι}
    (accounted : Accounted built s) (stepped : s.step e = some t) {a : ι} (before : s.Waits a)
    (after : t.Waits a) : t.ahead a + e.isRelease.toNat ≤ s.ahead a := by
  obtain ⟨c, callers, attends⟩ := attends_of_step accounted stepped
  unfold Waits at before after
  unfold ahead
  generalize t.queue.semaphore = m at attends after ⊢
  generalize e.caller = k at attends
  cases attends with
  | passes waiters event itself first =>
      rw [event, Semaphore.ahead_congr (congrArg Dict.items waiters)]
      exact Nat.le_refl _
  | arrives fresh absent => exact Nat.le_of_eq (Semaphore.ahead_enqueue absent before)
  | cancels => exact Semaphore.ahead_cancel_le _ _ _
  | @leaves _ _ middle _ itself granted erased wakes =>
      have differ : a ≠ k := fun own => itself (own ▸ before)
      have left := Semaphore.ahead_erase_le erased differ before
      exact (Semaphore.ahead_wakes_le wakes a).trans left
  | givesBack holds => exact Nat.le_of_eq (Semaphore.ahead_release after)

/-- Run lemma: the releases of a wait come out of those in front. -/
theorem ahead_run {built : BackpressureQueue ι} {s t : QueueSystem ι}
    (accounted : Accounted built s) (firstCome : FirstCome s) {events : List (QueueEvent ι)}
    (ran : run step s events = some t) {a : ι} (before : s.Waits a) (after : t.Waits a) :
    t.ahead a + releases events ≤ s.ahead a := by
  have arrived : s.callers.get? a ≠ none := by
    obtain ⟨start, inside⟩ := firstCome.undisturbed a before
    rw [inside]
    exact nofun
  have whole : (Accounted built t ∧ FirstCome t ∧ t.callers.get? a ≠ none) ∧
      (t.Waits a → t.ahead a + releases events ≤ s.ahead a) := by
    apply past_invariant (P := fun past m =>
      (Accounted built m ∧ FirstCome m ∧ m.callers.get? a ≠ none) ∧
        (m.Waits a → m.ahead a + releases past ≤ s.ahead a)) _ _ ran
    · rintro past m e n ⟨⟨kept, order, known⟩, ih⟩ stepped
      obtain ⟨c, callers, attends⟩ := attends_of_step kept stepped
      refine ⟨⟨accounted_step kept stepped, firstCome_step kept order stepped, ?_⟩, ?_⟩
      · rw [callers, Dict.get?_set]
        split
        · exact nofun
        · exact known
      · intro waits
        rcases order.waits attends waits with ⟨earlier, _⟩ | ⟨own, fresh, _⟩
        · have once := ahead_step kept stepped earlier waits
          have so_far := ih earlier
          rw [releases_concat]
          omega
        · rw [← own] at fresh
          exact absurd fresh known
    · exact ⟨⟨accounted, firstCome, arrived⟩, fun _ => Nat.le_refl _⟩
  exact whole.2 after

/-- The caller has a slot or waits for one, and nothing has thrown it out. -/
def OnItsWay (s : QueueSystem ι) (k : ι) : Prop :=
  ((∃ start, s.callers.get? k = some (.inside start none)) ∧
    (s.Waits k ∨ s.queue.semaphore.waiters.get? k = some .granted)) ∨
  (s.callers.get? k).any Caller.isServed = true

/-- The steps of others leave a caller on its way. -/
theorem Attends.alive {s : QueueSystem ι} {k : ι} {e : QueueEvent ι} {c : Caller}
    {m : Semaphore ι} (attends : Attends s k e c m) {a : ι} (differ : a ≠ k)
    (alive : s.Waits a ∨ s.queue.semaphore.waiters.get? a = some .granted) :
    m.waiters.get? a = some .pending ∨ m.waiters.get? a = some .granted := by
  cases attends with
  | passes waiters event itself first =>
      rw [waiters]
      exact alive
  | arrives fresh absent =>
      rw [Semaphore.get?_enqueue, if_neg differ]
      exact alive
  | cancels =>
      rw [Semaphore.get?_cancel, if_neg differ]
      exact alive
  | leaves itself granted erased wakes =>
      apply Semaphore.alive_of_wakes wakes
      rw [erased, Dict.get?_erase_of_ne _ differ]
      exact alive
  | givesBack holds => exact Semaphore.alive_of_wakes (Semaphore.release_wakes _) alive

/-- A caller that runs again without an interruption has its slot. -/
theorem served_of_resume {s : QueueSystem ι} {k : ι} {start finish : Time}
    {q : BackpressureQueue ι} {c : Caller}
    (resumed : s.queue.resume k start none finish = some (q, c))
    (alive : s.Waits k ∨ s.queue.semaphore.waiters.get? k = some .granted) :
    c.isServed = true := by
  unfold BackpressureQueue.resume at resumed
  split at resumed
  · rename_i next kept woke
    cases resumed
    obtain ⟨f, found, settled, keeps, _⟩ := Semaphore.resume_spec woke
    have granted : f = .granted := by
      rcases alive with waits | granted
      · rw [Waits, found] at waits
        exact absurd (Option.some.inj waits) settled
      · exact Option.some.inj (found.symm.trans granted)
    rw [keeps.mpr ⟨granted, rfl⟩]
    rfl
  · simp at resumed

/-- Step lemma: a caller that is not interrupted stays on its way. -/
theorem onItsWay_step {built : BackpressureQueue ι} {s t : QueueSystem ι} {e : QueueEvent ι}
    (accounted : Accounted built s) (stepped : s.step e = some t) {a : ι}
    (undisturbed : ¬ e.Interrupts a) (way : s.OnItsWay a) : t.OnItsWay a := by
  obtain ⟨c, callers, attends⟩ := attends_of_step accounted stepped
  by_cases own : a = e.caller
  · cases does_of_step stepped with
    | @acquire k start finish fresh =>
        obtain rfl : a = k := own
        rcases way with ⟨⟨since, inside⟩, _⟩ | served
        · rw [fresh] at inside
          cases inside
        · rw [fresh] at served
          cases served
    | interrupt inside => exact absurd own.symm undisturbed
    | @resume k finish start interrupted queue c inside resumed =>
        obtain rfl : a = k := own
        rcases way with ⟨⟨since, clean⟩, alive⟩ | served
        · rw [inside] at clean
          cases clean
          refine .inr ?_
          rw [Dict.get?_set_self]
          exact served_of_resume resumed alive
        · rw [inside] at served
          cases served
    | @release k wait holds =>
        obtain rfl : a = k := own
        refine .inr ?_
        rw [Dict.get?_set_self]
        rfl
  · have same : t.callers.get? a = s.callers.get? a := by
      rw [callers, Dict.get?_set_of_ne _ _ own]
    rcases way with ⟨inside, alive⟩ | served
    · left
      rw [same]
      exact ⟨inside, attends.alive own alive⟩
    · right
      rw [same]
      exact served

/-- **Bounded waiting.** From any point of any run, a waiting caller that is not interrupted has
been served once more slots were given back than callers waited in front of it. Arrivals in the
meantime do not count. -/
theorem served_within (maxInflight : ℕ) (maxQueue : ℤ) (room : 0 ≤ maxQueue) (timeout : ℚ)
    (tier : String) (past : List (QueueEvent ι)) (s : QueueSystem ι)
    (ran : run step (new (.new maxInflight maxQueue timeout tier)) past = some s) (a : ι)
    (waits : s.Waits a) (events : List (QueueEvent ι)) (t : QueueSystem ι)
    (later : run step s events = some t) (undisturbed : ∀ e ∈ events, ¬ e.Interrupts a)
    (enough : s.ahead a < releases events) : t.Served a := by
  have accounted := accounted_run room ran
  have firstCome := firstCome_run room ran
  have way : Accounted (.new maxInflight maxQueue timeout tier) t ∧ t.OnItsWay a := by
    apply invariant_of_everyStep (P := fun m => Accounted _ m ∧ m.OnItsWay a)
      (C := fun _ e => ¬ e.Interrupts a) _
      ⟨accounted, .inl ⟨firstCome.undisturbed a waits, .inl waits⟩⟩
      ((everyStep_iff_forall_mem later).mpr undisturbed) later
    rintro m e n ⟨kept, onWay⟩ quiet stepped
    exact ⟨accounted_step kept stepped, onItsWay_step kept stepped quiet onWay⟩
  rcases way.2 with ⟨_, still | granted⟩ | served
  · have bound := ahead_run accounted firstCome later waits still
    omega
  · exact .inl granted
  · exact .inr served

/-- One release serves the first of two that wait. -/
theorem served_within_twoWait :
    ∃ s t, run step (new (.new 1 2 30 "small")) twoWait = some s ∧
      run step s [.release 0] = some t ∧ t.Served 1 :=
  ⟨_, _, rfl, rfl, served_within 1 2 (by decide) 30 "small" twoWait _ rfl 1 (by exact rfl)
    [.release 0] _ rfl
    (by simp [QueueEvent.Interrupts]) (by decide)⟩

end QueueSystem

end AgentServe
