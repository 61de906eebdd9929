import AgentServe.Admission.QueueRuns

/-!
# When the queue turns a caller away

A queue is full for its callers when every slot is held by one or granted to one
and as many callers as the queue admits wait without a slot (`Full`). An arrival
is turned away by the count of the callers inside alone. The count takes in a
caller that was granted a slot and has not resumed, and where the queue admits
nobody it turns every arrival away although all slots are free.

So the rejections are right exactly where the count leaves room, or where nobody
inside has been granted a slot and either a caller is pending or no slot is free
(`CountsRight`, `rejections_only_when_full_iff`). One direction rests on the order
in which the semaphore wakes its waiters: beside a pending waiter a slot is free
only until a granted one resumes (`prompt_step`).
-/

set_option autoImplicit false

namespace AgentServe

open Lib

namespace BackpressureQueue

variable {ι : Type} [DecidableEq ι] {q : BackpressureQueue ι} {k : ι}

theorem acquire_prompt (prompt : q.semaphore.Prompt)
    (absent : q.semaphore.waiters.get? k = none) (start finish : Time) :
    (q.acquire k start finish).1.semaphore.Prompt := by
  simp only [acquire]
  split
  · exact prompt
  split
  · exact prompt
  split
  · rename_i taken took
    exact Semaphore.tryAcquire_prompt took
  · rename_i full
    exact prompt.enqueue absent full

theorem resume_prompt {q' : BackpressureQueue ι} {c : Caller} {start finish : Time}
    {interrupted : Option Interrupt} (prompt : q.semaphore.Prompt)
    (resumed : q.resume k start interrupted finish = some (q', c)) : q'.semaphore.Prompt := by
  unfold resume at resumed
  split at resumed
  · rename_i next kept woke
    cases resumed
    exact Semaphore.resume_prompt woke
  · split at resumed
    · cases resumed
      exact prompt
    · cases resumed

end BackpressureQueue

namespace QueueSystem

variable {ι : Type} [DecidableEq ι]

/-- The callers inside that have not been granted a slot. -/
def waiting (s : QueueSystem ι) : ℕ :=
  s.callers.count fun k c => c.isInside && s.queue.semaphore.waiters.get? k != some .granted

/-- Every slot is held or granted, and as many callers as the queue admits wait without one. -/
structure Full (maxInflight : ℕ) (maxQueue : ℤ) (s : QueueSystem ι) : Prop where
  taken : s.holding + s.granted = maxInflight
  queued : (s.waiting : ℤ) = maxQueue

/-- The step is an arrival that raises. -/
def Rejects (s : QueueSystem ι) : QueueEvent ι → Prop
  | .acquire k start finish => ∃ error, (s.queue.acquire k start finish).2 = .raised error
  | _ => False

/-- The count of the callers inside leaves room, or it counts nobody who was granted a slot, and
then a caller is pending or no slot is free. -/
def CountsRight (s : QueueSystem ι) : QueueEvent ι → Prop
  | .acquire _ _ _ =>
    s.queue.queued < s.queue.maxQueue ∨
      s.granted = 0 ∧ ((∃ k, s.queue.semaphore.waiters.get? k = some .pending) ∨
        s.queue.semaphore.value = 0)
  | _ => True

/-- Step lemma: the semaphore stays prompt. -/
theorem prompt_step {built : BackpressureQueue ι} {s t : QueueSystem ι} {e : QueueEvent ι}
    (accounted : Accounted built s) (prompt : s.queue.semaphore.Prompt)
    (stepped : s.step e = some t) : t.queue.semaphore.Prompt := by
  cases does_of_step stepped with
  | @acquire k start finish fresh =>
      have absent := accounted.waiting k (by rw [fresh]; rfl)
      exact BackpressureQueue.acquire_prompt prompt absent start finish
  | interrupt inside => exact prompt.cancel _
  | resume inside resumed => exact BackpressureQueue.resume_prompt prompt resumed
  | release holds => exact Semaphore.release_prompt _

/-- The callers inside have been granted a slot or wait for one. -/
theorem granted_add_waiting (s : QueueSystem ι) : s.granted + s.waiting = s.inside :=
  Dict.count_and_add_count_and_not (fun _ (c : Caller) => c.isInside)
    (fun k _ => s.queue.semaphore.waiters.get? k == some .granted) s.callers

/-- An arrival raises exactly when the count of the queue has reached its bound. -/
theorem rejects_iff (s : QueueSystem ι) (k : ι) (start finish : Time) :
    s.Rejects (.acquire k start finish) ↔ s.queue.maxQueue ≤ s.queue.queued := by
  simp only [Rejects, BackpressureQueue.acquire]
  split
  · rename_i full
    exact ⟨fun _ => full, fun _ => ⟨_, rfl⟩⟩
  · rename_i room
    refine ⟨?_, fun full => absurd full room⟩
    rintro ⟨error, raised⟩
    repeat' split at raised
    all_goals cases raised

/-- **One arrival.** It is turned away only when the queue is full, exactly if the count of the
callers inside is right. -/
theorem full_of_rejects_iff {maxInflight : ℕ} {maxQueue : ℤ} {timeout : ℚ} {tier : String}
    {s : QueueSystem ι} (accounted : Accounted (.new maxInflight maxQueue timeout tier) s)
    (prompt : s.queue.semaphore.Prompt) (e : QueueEvent ι) :
    (s.Rejects e → s.Full maxInflight maxQueue) ↔ s.CountsRight e := by
  cases e with
  | acquire k start finish =>
      have slots : s.queue.semaphore.value + s.queue.semaphore.granted + s.holding = maxInflight :=
        accounted.slots
      have limit : s.queue.maxQueue = maxQueue := accounted.settings.maxQueue
      have bounded : s.queue.queued ≤ maxQueue := accounted.bounded
      have queued := accounted.queued
      have parts := granted_add_waiting s
      have granted := accounted.granted_eq
      rw [rejects_iff]
      constructor
      · intro only
        by_cases room : s.queue.queued < s.queue.maxQueue
        · exact .inl room
        · obtain ⟨taken, without⟩ := only (by omega)
          exact .inr ⟨by omega, .inr (by omega)⟩
      · rintro (room | ⟨none_granted, reason⟩) full
        · omega
        · have none_free : s.queue.semaphore.value = 0 := by
            rcases reason with ⟨k, pending⟩ | none_free
            · rcases prompt with none_free | nobody | ⟨j, grant⟩
              · exact none_free
              · exact absurd pending (nobody k)
              · have counted := Semaphore.granted_pos grant
                omega
            · exact none_free
          exact ⟨by omega, by omega⟩
  | interrupt k i => exact ⟨fun _ => trivial, fun _ rejected => rejected.elim⟩
  | resume k finish => exact ⟨fun _ => trivial, fun _ rejected => rejected.elim⟩
  | release k => exact ⟨fun _ => trivial, fun _ rejected => rejected.elim⟩

/-- **Rejections only when full.** In every interleaving of the callers, the arrivals that raise
raise only where every slot is taken and the queue is filled by callers without a slot, exactly if
the count of the callers inside is right at every arrival. -/
theorem rejections_only_when_full_iff (maxInflight : ℕ) (maxQueue : ℤ) (room : 0 ≤ maxQueue)
    (timeout : ℚ) (tier : String) (events : List (QueueEvent ι)) (final : QueueSystem ι)
    (ran : run step (new (.new maxInflight maxQueue timeout tier)) events = some final) :
    EveryStep step (new (.new maxInflight maxQueue timeout tier)) events
        (fun s e => s.Rejects e → s.Full maxInflight maxQueue) ↔
      EveryStep step (new (.new maxInflight maxQueue timeout tier)) events CountsRight :=
  everyStep_iff
    (I := fun s => Accounted (.new maxInflight maxQueue timeout tier) s ∧
      s.queue.semaphore.Prompt)
    (fun _ _ _ holds stepped =>
      ⟨accounted_step holds.1 stepped, prompt_step holds.1 holds.2 stepped⟩)
    (fun _ e _ holds _ => full_of_rejects_iff holds.1 holds.2 e)
    ⟨accounted_new maxInflight room timeout tier, Semaphore.prompt_new _⟩ ran

/-- A caller that holds the only slot, and one that waits for it. -/
def oneHoldsOneWaits : List (QueueEvent ℕ) := [.acquire 0 0 0, .acquire 1 0 0]

/-- With the slot taken and the queue filled, the next arrival is turned away and should be. -/
theorem rejections_only_when_full_iff_oneHoldsOneWaits :
    EveryStep step (new (.new 1 1 30 "small")) (oneHoldsOneWaits ++ [.acquire 2 1 1])
        (fun s e => s.Rejects e → s.Full 1 1) ↔
      EveryStep step (new (.new 1 1 30 "small")) (oneHoldsOneWaits ++ [.acquire 2 1 1])
        CountsRight :=
  rejections_only_when_full_iff 1 1 (by decide) 30 "small" _ _ rfl

/-- A queue that admits nobody turns the first arrival away beside a free slot. One that admits a
single caller turns an arrival away while the slot is on its way to that caller. -/
theorem rejected_beside_a_slot :
    (∃ s : QueueSystem ℕ, run step (new (.new 1 0 30 "small")) [] = some s ∧
      s.Rejects (.acquire 0 0 0) ∧ ¬ s.Full 1 0) ∧
    ∃ s : QueueSystem ℕ,
      run step (new (.new 1 1 30 "small")) (oneHoldsOneWaits ++ [.release 0]) = some s ∧
        s.Rejects (.acquire 2 1 1) ∧ ¬ s.Full 1 1 := by
  refine ⟨⟨_, rfl, ⟨_, rfl⟩, ?_⟩, _, rfl, ⟨_, rfl⟩, ?_⟩
  · intro full
    exact absurd full.taken (by decide)
  · intro full
    exact absurd full.queued (by decide)

end QueueSystem

end AgentServe
