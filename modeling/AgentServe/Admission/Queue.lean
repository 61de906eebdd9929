import AgentServe.Core.Models
import AgentServe.Lib.Semaphore
import Mathlib.Algebra.Order.Ring.Rat

/-!
# The backpressure queue

A caller enters the queue unless as many callers as it admits are inside. Inside
it waits for a slot of the semaphore, and it leaves with a slot, or thrown out by
its timeout or by a cancellation of its task. It holds the slot until it gives it
back.

An operation is one uninterrupted stretch of the program: from the call up to the
first await that suspends (`acquire`), from a wake-up to the return (`resume`),
and the arrival of an interruption (`interrupt`). Each moves one caller on, and
what it changes is the caller's share: the queue counts the callers inside, and
its slots are those that no caller holds (`Moves`, `acquire_moves`,
`resume_moves`).
-/

set_option autoImplicit false

namespace AgentServe

open Lib

/-- What can throw a waiting caller out: the timeout of its wait, or a cancellation of its
task. -/
inductive Interrupt where
  | timeout
  | cancel
deriving DecidableEq, Repr

/-- A second interruption of a wait. A cancellation is never turned into a timeout. -/
def Interrupt.after : Interrupt → Option Interrupt → Interrupt
  | _, some .cancel => .cancel
  | i, _ => i

/-- What a coroutine raises: an exception of the gateway, the lookup of a tier that has no
queue, or a cancellation. -/
inductive Raised where
  | exception (e : GatewayException)
  | keyError (tier : Tier)
  | cancelled
deriving DecidableEq, Repr

/-- A call of `acquire`: suspended since a time, returned with its waiting time, raised, or
returned with its slot given back later. -/
inductive Caller where
  | inside (start : Time) (interrupted : Option Interrupt)
  | holding (wait : Time)
  | raised (error : Raised)
  | released
deriving DecidableEq, Repr

namespace Caller

def isInside : Caller → Bool
  | .inside _ _ => true
  | _ => false

def isHolding : Caller → Bool
  | .holding _ => true
  | _ => false

@[simp] theorem isInside_inside (start : Time) (i : Option Interrupt) :
    (inside start i).isInside = true := rfl

@[simp] theorem isInside_holding (wait : Time) : (holding wait).isInside = false := rfl

@[simp] theorem isInside_raised (error : Raised) : (raised error).isInside = false := rfl

@[simp] theorem isInside_released : released.isInside = false := rfl

@[simp] theorem isHolding_inside (start : Time) (i : Option Interrupt) :
    (inside start i).isHolding = false := rfl

@[simp] theorem isHolding_holding (wait : Time) : (holding wait).isHolding = true := rfl

@[simp] theorem isHolding_raised (error : Raised) : (raised error).isHolding = false := rfl

@[simp] theorem isHolding_released : released.isHolding = false := rfl

end Caller

/-- The queue of a tier, with the gauge of its depth. -/
structure BackpressureQueue (ι : Type) where
  semaphore : Semaphore ι
  maxQueue : ℤ
  timeout : ℚ
  tier : String
  queued : ℤ := 0
  queueDepth : ℤ := 0

namespace BackpressureQueue

variable {ι : Type}

def new (maxInflight : ℕ) (maxQueue : ℤ) (timeout : ℚ) (tier : String) : BackpressureQueue ι where
  semaphore := .new maxInflight
  maxQueue := maxQueue
  timeout := timeout
  tier := tier

/-- The waiting time a rejected caller is told: the timeout without its fraction. -/
def retryAfter (q : BackpressureQueue ι) : ℤ := q.timeout.num.tdiv q.timeout.den

/-- The exception of a full queue. -/
def full (q : BackpressureQueue ι) : Raised := .exception (.queueFull q.retryAfter)

def enter (q : BackpressureQueue ι) : BackpressureQueue ι :=
  { q with queued := q.queued + 1, queueDepth := q.queueDepth + 1 }

def leave (q : BackpressureQueue ι) : BackpressureQueue ι :=
  { q with queued := q.queued - 1, queueDepth := q.queueDepth - 1 }

/-- What a wait that did not get its slot raises. -/
def thrown (q : BackpressureQueue ι) : Option Interrupt → Raised
  | some .timeout => q.full
  | _ => .cancelled

/-- The queue is set up as another one. -/
structure SameSettings (q r : BackpressureQueue ι) : Prop where
  maxQueue : r.maxQueue = q.maxQueue
  timeout : r.timeout = q.timeout
  tier : r.tier = q.tier

/-- A queue without waiters, with all its slots and nobody counted, is as it was built. -/
theorem eq_new {q : BackpressureQueue ι} {maxInflight : ℕ} {maxQueue : ℤ} {timeout : ℚ}
    {tier : String} (settings : SameSettings (.new maxInflight maxQueue timeout tier) q)
    (value : q.semaphore.value = maxInflight) (waiters : q.semaphore.waiters = .empty)
    (queued : q.queued = 0) (queueDepth : q.queueDepth = 0) :
    q = .new maxInflight maxQueue timeout tier := by
  obtain ⟨⟨_, _⟩, _, _, _, _, _⟩ := q
  obtain ⟨rfl, rfl, rfl⟩ := settings
  cases value
  cases waiters
  cases queued
  cases queueDepth
  rfl

variable [DecidableEq ι]

/-- The call of `acquire` up to its first suspension. The clock is read on entry, and once more
when the slot is free at once. A timeout that is not positive cancels the wait before it takes
a slot. -/
def acquire (q : BackpressureQueue ι) (k : ι) (start finish : Time) :
    BackpressureQueue ι × Caller :=
  if q.queued ≥ q.maxQueue then (q, .raised q.full)
  else if q.timeout ≤ 0 then (q.enter, .inside start (some .timeout))
  else
    match q.semaphore.tryAcquire with
    | some taken => ({ q.enter with semaphore := taken }.leave, .holding (finish - start))
    | none => ({ q.enter with semaphore := q.semaphore.enqueue k }, .inside start none)

/-- A waiting caller is thrown out at its next wake-up. -/
def interrupt (q : BackpressureQueue ι) (k : ι) : BackpressureQueue ι :=
  { q with semaphore := q.semaphore.cancel k }

/-- The rest of `acquire` after a wake-up. A caller that is not in the semaphore was cancelled
before it asked for a slot. -/
def resume (q : BackpressureQueue ι) (k : ι) (start : Time) (interrupted : Option Interrupt)
    (finish : Time) : Option (BackpressureQueue ι × Caller) :=
  match q.semaphore.resume k interrupted.isSome with
  | some (next, kept) =>
    some ({ q with semaphore := next }.leave,
      if kept then .holding (finish - start) else .raised (q.thrown interrupted))
  | none =>
    if interrupted.isSome ∧ q.semaphore.waiters.get? k = none then
      some (q.leave, .raised (q.thrown interrupted))
    else none

def release (q : BackpressureQueue ι) : BackpressureQueue ι :=
  { q with semaphore := q.semaphore.release }

/-! ## What an operation changes -/

/-- One caller moves on, and the counts of the queue change by its share. The other waiters
stay waiters, and the caller is one only while it is inside. -/
structure Moves (k : ι) (before after : Option Caller) (q r : BackpressureQueue ι) : Prop where
  settings : SameSettings q r
  queued : r.queued + (before.any Caller.isInside).toNat =
    q.queued + (after.any Caller.isInside).toNat
  queueDepth : r.queueDepth + (before.any Caller.isInside).toNat =
    q.queueDepth + (after.any Caller.isInside).toNat
  slots : r.semaphore.slots + (after.any Caller.isHolding).toNat =
    q.semaphore.slots + (before.any Caller.isHolding).toNat
  others : ∀ j, j ≠ k → (r.semaphore.waiters.get? j = none ↔ q.semaphore.waiters.get? j = none)
  own : after.any Caller.isInside = false → r.semaphore.waiters.get? k = none

/-- Entering needs room in the queue. -/
theorem acquire_inside {q r : BackpressureQueue ι} {k : ι} {start finish : Time}
    {c : Caller} (acquired : q.acquire k start finish = (r, c)) (inside : c.isInside = true) :
    q.queued < q.maxQueue := by
  unfold acquire at acquired
  split at acquired
  · cases acquired
    cases inside
  · omega

/-- No call gives a slot back. -/
theorem acquire_ne_released {q r : BackpressureQueue ι} {k : ι} {start finish : Time}
    {c : Caller} (acquired : q.acquire k start finish = (r, c)) : c ≠ .released := by
  unfold acquire at acquired
  repeat' split at acquired
  all_goals
    cases acquired
    simp

theorem resume_ne_released {q r : BackpressureQueue ι} {k : ι} {start finish : Time}
    {interrupted : Option Interrupt} {c : Caller}
    (resumed : q.resume k start interrupted finish = some (r, c)) : c ≠ .released := by
  unfold resume at resumed
  split at resumed
  · cases resumed
    split <;> simp
  · split at resumed
    · cases resumed
      simp
    · cases resumed

/-- **Arriving.** A new caller is rejected, takes a slot, or enters. -/
theorem acquire_moves {q r : BackpressureQueue ι} {k : ι} {start finish : Time} {c : Caller}
    (fresh : q.semaphore.waiters.get? k = none)
    (acquired : q.acquire k start finish = (r, c)) : Moves k none (some c) q r := by
  unfold acquire at acquired
  split at acquired
  · cases acquired
    exact ⟨⟨rfl, rfl, rfl⟩, rfl, rfl, rfl, fun _ _ => Iff.rfl, fun _ => fresh⟩
  split at acquired
  · cases acquired
    exact ⟨⟨rfl, rfl, rfl⟩, by simp [enter], by simp [enter],
      rfl, fun _ _ => Iff.rfl, fun outside => by cases outside⟩
  split at acquired
  · rename_i taken took
    cases acquired
    have slots := Semaphore.slots_tryAcquire took
    obtain ⟨_, rfl⟩ := Semaphore.tryAcquire_eq_some took
    exact ⟨⟨rfl, rfl, rfl⟩, by simp [enter, leave],
      by simp [enter, leave], by simpa [leave] using slots,
      fun _ _ => Iff.rfl, fun _ => fresh⟩
  · cases acquired
    refine ⟨⟨rfl, rfl, rfl⟩, by simp [enter], by simp [enter],
      Semaphore.slots_enqueue fresh, ?_, fun outside => by cases outside⟩
    intro j differ
    rw [Semaphore.get?_enqueue, if_neg differ]

/-- **Waking up.** A caller that was inside is out, and it took a slot with it exactly if it
holds one. -/
theorem resume_moves {q r : BackpressureQueue ι} {k : ι} {start finish : Time}
    {interrupted : Option Interrupt} {c : Caller}
    (resumed : q.resume k start interrupted finish = some (r, c)) :
    Moves k (some (.inside start interrupted)) (some c) q r ∧ c.isInside = false := by
  unfold resume at resumed
  split at resumed
  · rename_i next kept woke
    cases resumed
    obtain ⟨_, _, _, _, slots, m, erased, woken⟩ := Semaphore.resume_spec woke
    have inside : (if kept then Caller.holding (finish - start)
        else .raised (q.thrown interrupted)).isInside = false := by
      cases kept <;> rfl
    have holding : (if kept then Caller.holding (finish - start)
        else .raised (q.thrown interrupted)).isHolding = kept := by
      cases kept <;> rfl
    refine ⟨⟨⟨rfl, rfl, rfl⟩, by simp [leave, inside],
      by simp [leave, inside],
      by simpa [leave, holding] using slots, ?_, ?_⟩,
      inside⟩
    · intro j differ
      exact woken.get?_eq_none.trans (by rw [erased, Dict.get?_erase_of_ne _ differ])
    · intro _
      exact woken.get?_eq_none.mpr (by rw [erased, Dict.get?_erase_self])
  · split at resumed
    · rename_i early
      cases resumed
      exact ⟨⟨⟨rfl, rfl, rfl⟩, by simp [leave],
        by simp [leave], rfl, fun _ _ => Iff.rfl, fun _ => early.2⟩, rfl⟩
    · cases resumed

/-- An interruption changes nothing but the future of the caller. -/
theorem interrupt_moves (q : BackpressureQueue ι) (k : ι) (start : Time)
    (before after : Option Interrupt) :
    Moves k (some (.inside start before)) (some (.inside start after)) q (q.interrupt k) := by
  refine ⟨⟨rfl, rfl, rfl⟩, rfl, rfl, Semaphore.slots_cancel _ _, ?_,
    fun outside => by cases outside⟩
  intro j differ
  rw [interrupt, Semaphore.get?_cancel, if_neg differ]

/-- Giving a slot back. -/
theorem release_moves {q : BackpressureQueue ι} {k : ι}
    (gone : q.semaphore.waiters.get? k = none) (wait : Time) :
    Moves k (some (.holding wait)) (some .released) q q.release := by
  have woken := Semaphore.release_woken q.semaphore
  refine ⟨⟨rfl, rfl, rfl⟩, rfl, rfl, ?_, fun j _ => woken.get?_eq_none,
    fun _ => woken.get?_eq_none.mpr gone⟩
  simpa [release] using Semaphore.slots_release q.semaphore

end BackpressureQueue

end AgentServe
