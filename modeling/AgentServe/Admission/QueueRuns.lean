import AgentServe.Admission.Queue
import AgentServe.Lib.Run

/-!
# The accounts of the backpressure queue

Any number of callers use one queue. Each calls `acquire` once, may be
interrupted while it is suspended, and gives its slot back once if it got one.
The steps of different callers interleave freely.

At every point between the steps the queue counts the callers inside, and every
slot is free, granted to a caller that has not woken up, or held by a caller that
has (`accounted_run`). So the queue never counts more callers than it admits, a
caller that was rejected or cancelled left nothing behind, and a queue that all
callers have left is as it was built (`queue_accounting`).
-/

set_option autoImplicit false

namespace AgentServe

open Lib

/-- A queue with its callers. -/
structure QueueSystem (ι : Type) where
  queue : BackpressureQueue ι
  callers : Dict ι Caller

/-- The steps of the callers. -/
inductive QueueEvent (ι : Type) where
  | acquire (k : ι) (start finish : Time)
  | interrupt (k : ι) (i : Interrupt)
  | resume (k : ι) (finish : Time)
  | release (k : ι)

namespace QueueSystem

variable {ι : Type}

def new (queue : BackpressureQueue ι) : QueueSystem ι := ⟨queue, .empty⟩

/-- The callers inside `acquire`, past the check for room. -/
def inside (s : QueueSystem ι) : ℕ := s.callers.count fun _ c => c.isInside

/-- The callers that returned from `acquire` and have not given their slot back. -/
def holding (s : QueueSystem ι) : ℕ := s.callers.count fun _ c => c.isHolding

variable [DecidableEq ι]

/-- The callers inside that have been granted a slot. -/
def granted (s : QueueSystem ι) : ℕ :=
  s.callers.count fun k c => c.isInside && s.queue.semaphore.waiters.get? k == some .granted

/-- One step. A caller is interrupted and resumes while it is inside, and gives back the slot
it holds. -/
def step (s : QueueSystem ι) : QueueEvent ι → Option (QueueSystem ι)
  | .acquire k start finish =>
    if s.callers.get? k = none then
      let (queue, c) := s.queue.acquire k start finish
      some ⟨queue, s.callers.set k c⟩
    else none
  | .interrupt k i =>
    match s.callers.get? k with
    | some (.inside start before) =>
      some ⟨s.queue.interrupt k, s.callers.set k (.inside start (i.after before))⟩
    | _ => none
  | .resume k finish =>
    match s.callers.get? k with
    | some (.inside start interrupted) =>
      (s.queue.resume k start interrupted finish).map fun (queue, c) =>
        ⟨queue, s.callers.set k c⟩
    | _ => none
  | .release k =>
    match s.callers.get? k with
    | some (.holding _) => some ⟨s.queue.release, s.callers.set k .released⟩
    | _ => none

/-- The accounts of a queue against the queue it was built as. -/
structure Accounted (built : BackpressureQueue ι) (s : QueueSystem ι) : Prop where
  settings : BackpressureQueue.SameSettings built s.queue
  queued : s.queue.queued = s.inside
  queueDepth : s.queue.queueDepth = s.inside
  bounded : s.queue.queued ≤ built.maxQueue
  slots : s.queue.semaphore.slots + s.holding = built.semaphore.value
  waiting : ∀ k, (s.callers.get? k).any Caller.isInside = false →
    s.queue.semaphore.waiters.get? k = none

/-- What a step does: the cases of `step` in which it fires. -/
inductive Does (s : QueueSystem ι) : QueueEvent ι → QueueSystem ι → Prop where
  | acquire {k : ι} {start finish : Time} (fresh : s.callers.get? k = none) :
      Does s (.acquire k start finish) ⟨(s.queue.acquire k start finish).1,
        s.callers.set k (s.queue.acquire k start finish).2⟩
  | interrupt {k : ι} {i : Interrupt} {start : Time} {before : Option Interrupt}
      (inside : s.callers.get? k = some (.inside start before)) :
      Does s (.interrupt k i)
        ⟨s.queue.interrupt k, s.callers.set k (.inside start (i.after before))⟩
  | resume {k : ι} {finish start : Time} {interrupted : Option Interrupt}
      {queue : BackpressureQueue ι} {c : Caller}
      (inside : s.callers.get? k = some (.inside start interrupted))
      (resumed : s.queue.resume k start interrupted finish = some (queue, c)) :
      Does s (.resume k finish) ⟨queue, s.callers.set k c⟩
  | release {k : ι} {wait : Time} (holds : s.callers.get? k = some (.holding wait)) :
      Does s (.release k) ⟨s.queue.release, s.callers.set k .released⟩

theorem does_of_step {s t : QueueSystem ι} {e : QueueEvent ι} (stepped : s.step e = some t) :
    s.Does e t := by
  cases e with
  | acquire k start finish =>
      simp only [step] at stepped
      split at stepped
      · rename_i fresh
        cases stepped
        exact .acquire fresh
      · cases stepped
  | interrupt k i =>
      simp only [step] at stepped
      split at stepped
      · rename_i inside
        cases stepped
        exact .interrupt inside
      · cases stepped
  | resume k finish =>
      simp only [step] at stepped
      split at stepped
      · rename_i inside
        obtain ⟨⟨queue, c⟩, resumed, rfl⟩ := Option.map_eq_some_iff.mp stepped
        exact .resume inside resumed
      · cases stepped
  | release k =>
      simp only [step] at stepped
      split at stepped
      · rename_i holds
        cases stepped
        exact .release holds
      · cases stepped

/-- **The shape of a step.** One caller moves on, and enters only where there is room. -/
theorem step_moves {built : BackpressureQueue ι} {s t : QueueSystem ι} {e : QueueEvent ι}
    (accounted : Accounted built s) (stepped : s.step e = some t) :
    ∃ k c, t.callers = s.callers.set k c ∧
      BackpressureQueue.Moves k (s.callers.get? k) (some c) s.queue t.queue ∧
      (c.isInside = true → (s.callers.get? k).any Caller.isInside = true ∨
        s.queue.queued < s.queue.maxQueue) := by
  cases does_of_step stepped with
  | @acquire k _ _ fresh =>
      refine ⟨k, _, rfl, ?_, fun inside => .inr (BackpressureQueue.acquire_inside rfl inside)⟩
      rw [fresh]
      exact BackpressureQueue.acquire_moves (accounted.waiting k (by rw [fresh]; rfl)) rfl
  | @interrupt k _ _ _ inside =>
      refine ⟨k, _, rfl, ?_, fun _ => .inl (by rw [inside]; rfl)⟩
      rw [inside]
      exact BackpressureQueue.interrupt_moves ..
  | @resume k _ _ _ _ c inside resumed =>
      obtain ⟨moves, outside⟩ := BackpressureQueue.resume_moves resumed
      refine ⟨k, c, rfl, ?_, ?_⟩
      · rw [inside]
        exact moves
      · intro still
        rw [outside] at still
        cases still
  | @release k wait holds =>
      refine ⟨k, _, rfl, ?_, fun inside => by cases inside⟩
      rw [holds]
      exact BackpressureQueue.release_moves (accounted.waiting k (by rw [holds]; rfl)) wait

/-- Step lemma: the accounts stay right. -/
theorem accounted_step {built : BackpressureQueue ι} {s t : QueueSystem ι} {e : QueueEvent ι}
    (accounted : Accounted built s) (stepped : s.step e = some t) : Accounted built t := by
  obtain ⟨k, c, callers, moves, room⟩ := step_moves accounted stepped
  have inside : (s.callers.set k c).count (fun _ c => c.isInside) +
      ((s.callers.get? k).any Caller.isInside).toNat = s.inside + c.isInside.toNat :=
    Dict.count_set ..
  have holding : (s.callers.set k c).count (fun _ c => c.isHolding) +
      ((s.callers.get? k).any Caller.isHolding).toNat = s.holding + c.isHolding.toNat :=
    Dict.count_set ..
  have limit := accounted.settings.maxQueue
  have counts := accounted.queued
  have depths := accounted.queueDepth
  have slots := accounted.slots
  have bounded := accounted.bounded
  have queued := moves.queued
  have depth := moves.queueDepth
  have moved := moves.slots
  simp only [Option.any_some] at queued depth moved
  refine ⟨⟨moves.settings.maxQueue.trans limit, moves.settings.timeout.trans
    accounted.settings.timeout, moves.settings.tier.trans accounted.settings.tier⟩, ?_, ?_, ?_,
    ?_, ?_⟩
  · rw [QueueSystem.inside, callers]
    omega
  · rw [QueueSystem.inside, callers]
    omega
  · -- Only an arrival adds to the count, and it found room.
    cases now : c.isInside with
    | false =>
        simp only [now, Bool.toNat_false] at queued
        omega
    | true =>
        simp only [now, Bool.toNat_true] at queued
        rcases room now with already | free
        · simp only [already, Bool.toNat_true] at queued
          omega
        · omega
  · rw [QueueSystem.holding, callers]
    omega
  · intro j outside
    rw [callers, Dict.get?_set] at outside
    split at outside
    · rename_i same
      subst same
      exact moves.own outside
    · rename_i differ
      exact (moves.others j differ).mpr (accounted.waiting j outside)

/-- The accounts of a queue that nobody has used. -/
theorem accounted_new (maxInflight : ℕ) {maxQueue : ℤ} (room : 0 ≤ maxQueue) (timeout : ℚ)
    (tier : String) :
    Accounted (.new maxInflight maxQueue timeout tier)
      (new (.new maxInflight maxQueue timeout tier) : QueueSystem ι) where
  settings := ⟨rfl, rfl, rfl⟩
  queued := rfl
  queueDepth := rfl
  bounded := room
  slots := rfl
  waiting := fun _ _ => rfl

/-- Run lemma: the accounts are right at every point of every run. -/
theorem accounted_run {maxInflight : ℕ} {maxQueue : ℤ} (room : 0 ≤ maxQueue) {timeout : ℚ}
    {tier : String} {events : List (QueueEvent ι)} {s : QueueSystem ι}
    (ran : run step (new (.new maxInflight maxQueue timeout tier)) events = some s) :
    Accounted (.new maxInflight maxQueue timeout tier) s :=
  invariant_of_step (P := Accounted _) (fun _ _ _ accounted => accounted_step accounted)
    (accounted_new maxInflight room timeout tier) ran

/-- The slots granted in the semaphore are those granted to callers inside. -/
theorem Accounted.granted_eq {built : BackpressureQueue ι} {s : QueueSystem ι}
    (accounted : Accounted built s) : s.granted = s.queue.semaphore.granted := by
  apply Dict.count_eq_of_keys
  intro k
  constructor
  · rintro ⟨c, _, both⟩
    have grant : s.queue.semaphore.waiters.get? k = some .granted := by
      simpa using (Bool.and_eq_true_iff.mp both).2
    exact ⟨.granted, grant, rfl⟩
  · rintro ⟨f, found, grant⟩
    obtain rfl : f = .granted := by simpa using grant
    cases present : s.callers.get? k with
    | none =>
        have missing := accounted.waiting k (by rw [present]; rfl)
        rw [found] at missing
        cases missing
    | some c =>
        refine ⟨c, rfl, ?_⟩
        cases within : c.isInside with
        | false =>
            have missing := accounted.waiting k (by rw [present]; exact within)
            rw [found] at missing
            cases missing
        | true => simp [found]

/-- The laws of a queue with its callers, against the queue it was built as. -/
structure QueueLaws (maxInflight : ℕ) (maxQueue : ℤ) (timeout : ℚ) (tier : String)
    (s : QueueSystem ι) : Prop where
  /-- The count of the queue is within its bounds. -/
  bounds : 0 ≤ s.queue.queued ∧ s.queue.queued ≤ maxQueue
  /-- The count, like the gauge, is the number of callers inside. -/
  counts : s.queue.queued = s.inside ∧ s.queue.queueDepth = s.inside
  /-- Every slot is free, granted to a caller inside, or held. -/
  slots : s.queue.semaphore.value + (s.granted + s.holding) = maxInflight
  /-- A caller that was rejected or cancelled is not in the semaphore. -/
  rejected : ∀ k error, s.callers.get? k = some (.raised error) →
    s.queue.semaphore.waiters.get? k = none
  /-- When no caller is left the queue is as it was built. -/
  empty : (∀ k c, s.callers.get? k = some c → c.isInside = false ∧ c.isHolding = false) →
    s.queue = .new maxInflight maxQueue timeout tier

/-- **The accounts of the queue.** At every point of every interleaving of arrivals, grants,
timeouts, cancellations and releases. -/
theorem queue_accounting (maxInflight : ℕ) (maxQueue : ℤ) (room : 0 ≤ maxQueue) (timeout : ℚ)
    (tier : String) (events : List (QueueEvent ι)) (s : QueueSystem ι)
    (ran : run step (new (.new maxInflight maxQueue timeout tier)) events = some s) :
    QueueLaws maxInflight maxQueue timeout tier s := by
  have accounted := accounted_run room ran
  have slots := accounted.slots
  refine ⟨⟨?_, accounted.bounded⟩, ⟨accounted.queued, accounted.queueDepth⟩, ?_, ?_, ?_⟩
  · rw [accounted.queued]
    omega
  · rw [accounted.granted_eq]
    simp only [Semaphore.slots, BackpressureQueue.new, Semaphore.value_new] at slots
    omega
  · intro k error found
    exact accounted.waiting k (by rw [found]; rfl)
  · intro gone
    have nobody : ∀ k, (s.callers.get? k).any Caller.isInside = false := by
      intro k
      cases found : s.callers.get? k with
      | none => rfl
      | some c => exact (gone k c found).1
    have none_inside : s.inside = 0 := Dict.count_eq_zero fun k c found => (gone k c found).1
    have none_holding : s.holding = 0 := Dict.count_eq_zero fun k c found => (gone k c found).2
    have waiters : s.queue.semaphore.waiters = .empty :=
      Dict.eq_empty_of_get? fun k => accounted.waiting k (nobody k)
    have value : s.queue.semaphore.value = maxInflight := by
      rw [none_holding, Semaphore.slots, Semaphore.granted, waiters] at slots
      exact slots
    have queued : s.queue.queued = 0 := by rw [accounted.queued, none_inside]; rfl
    have depth : s.queue.queueDepth = 0 := by rw [accounted.queueDepth, none_inside]; rfl
    exact BackpressureQueue.eq_new accounted.settings value waiters queued depth

/-- A caller that holds the only slot, one that times out while the slot is given to it, and the
wake-up after that. -/
def timeoutAfterGrant : List (QueueEvent ℕ) := [
  .acquire 0 0 0, .acquire 1 0 0, .release 0, .interrupt 1 .timeout, .resume 1 30]

/-- The laws after a timeout that meets a grant. -/
theorem queue_accounting_after_timeout :
    ∃ s, run step (new (.new 1 1 30 "small")) timeoutAfterGrant = some s ∧
      QueueLaws 1 1 30 "small" s :=
  ⟨_, rfl, queue_accounting 1 1 (by decide) 30 "small" timeoutAfterGrant _ rfl⟩

end QueueSystem

end AgentServe
