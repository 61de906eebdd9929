import AgentServe.Gateway.Answers

/-!
# No request is stuck

A request waits for its slot, for its backend or for the server. Whatever it waits for, it
can be brought to its end by at most two events of its own, with nobody else's help: a
wait for a slot by an interruption, a wait for a backend by a cancellation, and a stream
that the server lets go of is closed (`can_end`). What it takes is that its ticket says
where it stands (`Poised`), and that a request inside `gate` is in the queue of a tier
(`Placed`).

Nor does it go on for ever by itself. Its stages only follow each other in one direction,
except that a stream comes back to its backend after every chunk. So it has at most two
events for each chunk and six more, not counting interruptions (`efforts_le`).
-/

set_option autoImplicit false

namespace AgentServe

open Lib

/-! ## Inside `gate` -/

/-- A caller that is interrupted wakes up and is thrown out. -/
theorem BackpressureQueue.resume_of_interrupt {ι : Type} [DecidableEq ι] (q : BackpressureQueue ι)
    (k : ι) (start finish : Time) (i : Interrupt) :
    ∃ r error, (q.interrupt k).resume k start (some i) finish = some (r, .raised error) := by
  have future : (q.semaphore.cancel k).waiters.get? k = (q.semaphore.waiters.get? k).map fun f =>
      if f = .pending then .cancelled else f := by
    rw [Semaphore.cancel, Dict.get?_modify, if_pos rfl]
  unfold interrupt resume Semaphore.resume
  simp only [future, Option.isSome_some]
  cases q.semaphore.waiters.get? k with
  | none => exact ⟨_, _, rfl⟩
  | some f => cases f <;> exact ⟨_, _, rfl⟩

namespace AdmissionSystem

variable {ρ : Type} [DecidableEq ρ]

/-- Every request inside `gate` is in the queue of a tier. -/
def Placed (s : AdmissionSystem ρ) : Prop :=
  ∀ k session tier start interrupted,
    s.tickets.get? k = some ⟨session, tier, .inside start interrupted⟩ →
      ∃ q, s.queue? tier = some q

/-- A step of one request places it, and no queue is taken away. -/
theorem placed_of_set {s t : AdmissionSystem ρ} {k : ρ} {x : Ticket} (placed : s.Placed)
    (tickets : t.tickets = s.tickets.set k x)
    (kept : ∀ tier q, s.queue? tier = some q → ∃ r, t.queue? tier = some r)
    (own : x.caller.isInside = true → ∃ q, t.queue? x.tier = some q) : t.Placed := by
  intro j session tier start interrupted found
  rw [tickets, Dict.get?_set] at found
  split at found
  · cases found
    exact own rfl
  · obtain ⟨q, before⟩ := placed j session tier start interrupted found
    exact kept tier q before

/-- Step lemma: requests inside `gate` stay in their queues. -/
theorem placed_step {s t : AdmissionSystem ρ} {e : AdmissionEvent ρ} (placed : s.Placed)
    (stepped : s.step e = some t) : t.Placed := by
  have set : ∀ {d : AdmissionController ρ} {at_tier : Tier} {r : BackpressureQueue ρ},
      d.queues = s.controller.queues.set at_tier r → ∀ tier q, s.queue? tier = some q →
        ∃ r, d.queues.get? tier = some r := by
    intro d at_tier r queues tier q found
    rw [queues, Dict.get?_set]
    split
    · exact ⟨_, rfl⟩
    · exact ⟨q, found⟩
  cases does_of_step stepped with
  | gate fresh gated =>
      rcases AdmissionController.gate_cases gated with
        ⟨queues, _, error, rfl⟩ | ⟨q, r, _, _, queues, _⟩
      · refine placed_of_set placed rfl (fun tier q found => ⟨q, ?_⟩) (fun inside => ?_)
        · exact (congrArg (fun d => Dict.get? d tier) queues).trans found
        · cases inside
      · refine placed_of_set placed rfl (set queues) (fun _ => ⟨r, ?_⟩)
        exact (congrArg (fun d => Dict.get? d _) queues).trans (Dict.get?_set_self ..)
  | @interrupt k i session tier start before inside =>
      have kept : ∀ tier' q, s.queue? tier' = some q →
          ∃ r, (s.controller.interrupt k tier).queues.get? tier' = some r := by
        intro tier' q found
        rw [AdmissionController.interrupt, Dict.get?_modify]
        split
        · exact ⟨_, congrArg (Option.map _) found⟩
        · exact ⟨q, found⟩
      obtain ⟨q, found⟩ := placed k session tier start before inside
      exact placed_of_set placed rfl kept fun _ => kept tier q found
  | resume inside woke =>
      obtain ⟨q, r, _, _, queues, _⟩ := AdmissionController.resume_spec woke
      refine placed_of_set placed rfl (set queues) (fun _ => ⟨r, ?_⟩)
      exact (congrArg (fun d => Dict.get? d _) queues).trans (Dict.get?_set_self ..)
  | @release k session tier wait holds =>
      refine placed_of_set placed rfl (fun tier' q found => ?_) (fun inside => by cases inside)
      rw [queue?, queue?_release]
      split
      · exact ⟨_, congrArg (Option.map _) found⟩
      · exact ⟨q, found⟩
  | debit => exact placed
  | markStatus => exact placed

/-- A request that is interrupted inside `gate` wakes up and is thrown out. -/
theorem resume_of_interrupt {s : AdmissionSystem ρ} {k : ρ} {session : SessionContext}
    {tier : Tier} {start : Time} {before : Option Interrupt} (placed : s.Placed)
    (inside : s.tickets.get? k = some ⟨session, tier, .inside start before⟩) (i : Interrupt)
    (finish : Time) :
    ∃ m t error, s.step (.interrupt k i) = some m ∧ m.step (.resume k finish) = some t ∧
      t.tickets.get? k = some ⟨session, tier, .raised error⟩ := by
  obtain ⟨q, queue⟩ := placed k session tier start before inside
  obtain ⟨r, error, woke⟩ := q.resume_of_interrupt k start finish (i.after before)
  obtain ⟨m, controller, ticket, interrupted⟩ : ∃ m : AdmissionSystem ρ,
      m.controller = s.controller.interrupt k tier ∧
      m.tickets.get? k = some ⟨session, tier, .inside start (some (i.after before))⟩ ∧
      s.step (.interrupt k i) = some m :=
    ⟨⟨_, s.tickets.set k ⟨session, tier, .inside start (some (i.after before))⟩⟩, rfl,
      Dict.get?_set_self .., by simp only [step, inside]; rfl⟩
  have at_queue : m.controller.queues.get? tier = some (q.interrupt k) := by
    rw [controller, AdmissionController.interrupt, Dict.get?_modify, if_pos rfl]
    exact congrArg (Option.map _) queue
  have resumed : m.controller.resume k session tier start (some (i.after before)) finish =
      some ((m.controller.setQueue tier r).recordHeld session tier (.raised error),
        .raised error) := by
    rw [AdmissionController.resume, at_queue, Option.bind_eq_bind, Option.bind_some, woke]
    rfl
  have woken : m.step (.resume k finish) = some
      ⟨(m.controller.setQueue tier r).recordHeld session tier (.raised error),
        m.tickets.set k ⟨session, tier, .raised error⟩⟩ := by
    simp only [step, ticket, resumed, Option.map_some]
  exact ⟨m, _, error, interrupted, woken, Dict.get?_set_self ..⟩

end AdmissionSystem

/-! ## Where a request stands -/

namespace Gateway

/-- Where a request stands, and what its ticket says. -/
inductive Poised (r : Request) (ticket : Option Ticket) : Prop where
  | ended (ended : r.isOver = true)
  | waiting {b : BackendInfo} {session : SessionContext} {tier : Tier} {start : Time}
      {interrupted : Option Interrupt} (stage : r.stage = .waiting) (bound : r.backend = some b)
      (inside : ticket = some ⟨session, tier, .inside start interrupted⟩)
  | holding {session : SessionContext} {tier : Tier} {wait : Time}
      (running : r.stage ≠ .waiting) (holds : ticket = some ⟨session, tier, .holding wait⟩)

theorem poised_settled {r : Request} {b : BackendInfo} {caller : Caller}
    {session : SessionContext} {tier : Tier} (bound : r.backend = some b)
    (kept : caller ≠ .released) : Poised (settled r b caller) (some ⟨session, tier, caller⟩) := by
  cases caller with
  | inside start interrupted => exact .waiting rfl bound rfl
  | raised error => cases error <;> exact .ended rfl
  | released => exact absurd rfl kept
  | holding wait =>
      obtain ⟨payload, stage, after, ways⟩ := afterGate_cases r b
      simp only [settled, after]
      rcases ways with ⟨rfl, _⟩ | ⟨rfl, _⟩ | ⟨rfl, _⟩
      · exact .ended rfl
      · exact .holding Stage.noConfusion rfl
      · exact .holding Stage.noConfusion rfl

variable {ρ : Type} [DecidableEq ρ]

/-- What holds of every reachable state: requests inside `gate` are in their queues, and tickets
say where requests stand. -/
structure Runnable (g : Gateway ρ) : Prop where
  linked : g.Linked
  placed : g.admission.Placed
  poised : ∀ k r, g.requests.get? k = some r → Poised r (g.admission.tickets.get? k)

/-- A move is not of a request that waits for its slot. -/
theorem StageMove.ne_waiting {ρ : Type} {k : ρ} {e : GatewayEvent ρ} {source target : Stage}
    (move : StageMove k e source target) : source ≠ .waiting ∧ target ≠ .waiting := by
  cases move <;> exact ⟨Stage.noConfusion, Stage.noConfusion⟩

omit [DecidableEq ρ] in
/-- A move keeps the slot of its request. -/
theorem poised_of_move {k : ρ} {e : GatewayEvent ρ} {r : Request} {stage : Stage}
    {delivered : List (List UInt8)} {ticket : Option Ticket} (poised : Poised r ticket)
    (move : StageMove k e r.stage stage) : Poised { r with stage, delivered } ticket := by
  cases poised with
  | ended ended =>
      rw [move.running] at ended
      cases ended
  | waiting at_stage => exact absurd at_stage move.ne_waiting.1
  | holding running holds => exact .holding move.ne_waiting.2 holds

/-- Step lemma: tickets go on saying where requests stand. -/
theorem poised_of_does {g h : Gateway ρ} {e : GatewayEvent ρ} (linked : g.Linked)
    (poised : ∀ k r, g.requests.get? k = some r → Poised r (g.admission.tickets.get? k))
    (does : g.Does e h) (k : ρ) (r : Request) (found : h.requests.get? k = some r) :
    Poised r (h.admission.tickets.get? k) := by
  by_cases own : ∃ sid, g.actor e = some (k, sid)
  · obtain ⟨sid, acts⟩ := own
    cases does with
    | refused fresh raised =>
        cases acts
        simp only [Dict.get?_set_self] at found
        cases found
        exact .ended rfl
    | arrived fresh selected gated tickets unreleased =>
        cases acts
        simp only [Dict.get?_set_self] at found
        cases found
        simp only [tickets, Dict.get?_set_self]
        exact poised_settled rfl unreleased
    | interrupted at_j waiting inside stepped tickets =>
        obtain rfl := eq_of_actor acts rfl at_j
        cases found.symm.trans at_j
        simp only [tickets, Dict.get?_set_self]
        cases poised k r at_j with
        | ended ended => simp [Request.isOver, waiting] at ended
        | waiting _ bound _ => exact .waiting waiting bound rfl
        | holding running => exact absurd waiting running
    | resumed at_j waiting bound inside woke tickets unreleased =>
        obtain rfl := eq_of_actor acts rfl at_j
        simp only [Dict.get?_set_self] at found
        cases found
        simp only [tickets, Dict.get?_set_self]
        exact poised_settled bound unreleased
    | moved at_j move =>
        obtain rfl := eq_of_actor acts move.actor at_j
        simp only [Dict.get?_set_self] at found
        cases found
        exact poised_of_move (poised _ _ at_j) move
    | ended at_j ends holds released tickets =>
        obtain rfl := eq_of_actor acts ends.actor at_j
        simp only [Dict.get?_set_self] at found
        cases found
        exact .ended rfl
    | status => cases acts
  · obtain ⟨requests, tickets, _⟩ :=
      frame_of_does linked does fun sid acts => own ⟨sid, acts⟩
    rw [tickets]
    exact poised k r (requests ▸ found)

/-- Step lemma: a step of the gateway keeps it runnable. -/
theorem runnable_step {g h : Gateway ρ} {e : GatewayEvent ρ} (runnable : g.Runnable)
    (stepped : g.step e = some h) : h.Runnable := by
  have does := does_of_step stepped
  refine ⟨linked_of_does runnable.linked does, ?_,
    poised_of_does runnable.linked runnable.poised does⟩
  rcases admission_of_does runnable.linked does with same | ⟨a, admitted, _⟩
  · rw [same]
    exact runnable.placed
  · exact AdmissionSystem.placed_step runnable.placed admitted

theorem runnable_new (config : GatewayConfig) : (new config : Gateway ρ).Runnable where
  linked := by
    intro k x ticket
    cases ticket
  placed := by
    intro k session tier start interrupted ticket
    cases ticket
  poised := by
    intro k r found
    cases found

theorem runnable_run {config : GatewayConfig} {events : List (GatewayEvent ρ)} {g : Gateway ρ}
    (ran : run step (new config) events = some g) : g.Runnable :=
  invariant_of_step (fun _ _ _ runnable stepped => runnable_step runnable stepped)
    (runnable_new config) ran

/-! ## Ends -/

/-- A request is over in a state. -/
def IsOver (g : Gateway ρ) (k : ρ) : Prop := ∃ r, g.requests.get? k = some r ∧ r.isOver = true

/-- A request can come to its end by so many events of its own. -/
def EndsWithin (g : Gateway ρ) (k : ρ) (n : ℕ) : Prop :=
  ∃ es : List (GatewayEvent ρ), es.length ≤ n ∧ (∀ e ∈ es, e.request? = some k) ∧
    ∃ h, run step g es = some h ∧ h.IsOver k

variable {g h : Gateway ρ} {k : ρ} {r : Request} {n : ℕ}

theorem EndsWithin.of_isOver (ended : g.IsOver k) : g.EndsWithin k n :=
  ⟨[], Nat.zero_le _, List.forall_mem_nil _, g, rfl, ended⟩

theorem EndsWithin.of_step {e : GatewayEvent ρ} (stepped : g.step e = some h)
    (own : e.request? = some k) (later : h.EndsWithin k n) : g.EndsWithin k (n + 1) := by
  obtain ⟨es, short, owns, t, ran, ended⟩ := later
  refine ⟨e :: es, Nat.succ_le_succ short, List.forall_mem_cons.mpr ⟨own, owns⟩, t, ?_, ended⟩
  rw [run_cons, stepped, Option.bind_some, ran]

/-- A request that holds a slot can end. -/
theorem finish_of_holding {session : SessionContext} {tier : Tier} {wait : Time} (exit : Exit)
    (holds : g.admission.tickets.get? k = some ⟨session, tier, .holding wait⟩) :
    ∃ h, g.finish k r exit = some h ∧ h.IsOver k := by
  have released : g.admission.step (.release k) = some ⟨g.admission.controller.release session tier,
      g.admission.tickets.set k ⟨session, tier, .released⟩⟩ := by
    simp only [AdmissionSystem.step, holds]
  have finished : (g.finish k r exit).isSome = true := by
    simp [finish, giveBack, holds, released]
  obtain ⟨h, ends⟩ := Option.isSome_iff_exists.mp finished
  exact ⟨h, ends, _, (finish_exact ends).1, rfl⟩

/-- A request that is forwarded can end. -/
theorem endsWithin_of_answering {session : SessionContext} {tier : Tier} {wait : Time}
    (found : g.requests.get? k = some r) (answering : r.stage.isAnswering = true)
    (settled : r.stage ≠ .yielded)
    (holds : g.admission.tickets.get? k = some ⟨session, tier, .holding wait⟩) :
    g.EndsWithin k 1 := by
  have one : ∀ (e : GatewayEvent ρ) (exit : Exit), e.request? = some k →
      g.step e = g.finish k r exit → g.EndsWithin k 1 := by
    intro e exit own stepped
    obtain ⟨h, finished, ended⟩ := finish_of_holding (r := r) exit holds
    exact .of_step (stepped.trans finished) own (.of_isOver ended)
  cases stage : r.stage with
  | awaiting =>
      refine one (.cancel k) .cancelled rfl ?_
      simp only [step, found, Option.bind_some, cancel, stage]
  | completing =>
      refine one (.cancel k) .cancelled rfl ?_
      simp only [step, found, Option.bind_some, cancel, stage]
  | doneYielded =>
      refine one (.advance k) .streamed rfl ?_
      simp only [step, found, Option.bind_some, advance, stage]
  | closing =>
      refine one (.aclose k) .dropped rfl ?_
      simp only [step, found, Option.bind_some, aclose, stage]
  | yielded => exact absurd stage settled
  | _ =>
      rw [stage] at answering
      cases answering

/-- A request that waits for its slot can be interrupted. -/
theorem endsWithin_of_waiting {b : BackendInfo} {session : SessionContext} {tier : Tier}
    {start : Time} {before : Option Interrupt} (placed : g.admission.Placed)
    (found : g.requests.get? k = some r) (stage : r.stage = .waiting) (bound : r.backend = some b)
    (inside : g.admission.tickets.get? k = some ⟨session, tier, .inside start before⟩) :
    g.EndsWithin k 2 := by
  obtain ⟨m, t, error, interrupted, woken, ticket⟩ :=
    AdmissionSystem.resume_of_interrupt placed inside .timeout start
  have first : g.step (.interrupt k .timeout) = some { g with admission := m } := by
    simp only [step, found, Option.bind_some, interruptGate, stage, interrupted, Option.map_some]
  have second : step { g with admission := m } (.resume k start) =
      some ({ g with admission := t }.settle k r b (.raised error)) := by
    simp only [step, found, Option.bind_some, resumeGate, stage, bound, woken, ticket,
      Option.map_some]
  refine .of_step first rfl (.of_step second rfl (.of_isOver ?_))
  rw [settle_exact]
  refine ⟨_, Dict.get?_set_self .., ?_⟩
  cases error <;> rfl

/-- From every reachable state every request can come to its end by at most two events of its
own. -/
theorem can_end {config : GatewayConfig} {events : List (GatewayEvent ρ)}
    (ran : run step (new config) events = some g) (found : g.requests.get? k = some r) :
    g.EndsWithin k 2 := by
  obtain ⟨linked, placed, poised⟩ := runnable_run ran
  cases poised k r found with
  | ended ended => exact .of_isOver ⟨r, found, ended⟩
  | waiting stage bound inside => exact endsWithin_of_waiting placed found stage bound inside
  | holding waiting holds =>
      have answering : r.stage.isAnswering = true → r.stage ≠ .yielded → g.EndsWithin k 2 := by
        intro answers settled
        obtain ⟨es, short, rest⟩ := endsWithin_of_answering found answers settled holds
        exact ⟨es, short.trans (Nat.le_succ 1), rest⟩
      cases stage : r.stage with
      | waiting => exact absurd stage waiting
      | pendingBody =>
          have dropped : g.step (.drop k) = some (g.setStage k r (.over .dropped)) := by
            simp only [step, found, Option.bind_some, drop, stage]
          exact .of_step dropped rfl (.of_isOver ⟨_, Dict.get?_set_self .., rfl⟩)
      | yielded =>
          have dropped : g.step (.drop k) = some (g.setStage k r .closing) := by
            simp only [step, found, Option.bind_some, drop, stage]
          exact .of_step dropped rfl (endsWithin_of_answering (Dict.get?_set_self ..) rfl
            Stage.noConfusion holds)
      | awaiting => exact answering (by rw [stage]; rfl) (by rw [stage]; exact Stage.noConfusion)
      | completing => exact answering (by rw [stage]; rfl) (by rw [stage]; exact Stage.noConfusion)
      | doneYielded => exact answering (by rw [stage]; rfl) (by rw [stage]; exact Stage.noConfusion)
      | closing => exact answering (by rw [stage]; rfl) (by rw [stage]; exact Stage.noConfusion)
      | _ => exact .of_isOver ⟨r, found, by rw [Request.isOver, stage]⟩

/-! ## How long a request goes on -/

/-- The most events of a request that can follow, not counting interruptions and chunks with what
they bring about. -/
def left : Stage → ℕ
  | .waiting => 5
  | .pendingBody | .yielded => 4
  | .awaiting => 3
  | .doneYielded => 2
  | .closing | .completing => 1
  | .over _ => 0

/-- The most events of a request that can follow a state. -/
def leftOf (g : Gateway ρ) (k : ρ) : ℕ := (g.requests.get? k).elim 6 fun r => left r.stage

end Gateway

/-- An interruption of a request inside `gate`. -/
def GatewayEvent.isInterrupt {ρ : Type} : GatewayEvent ρ → Bool
  | .interrupt _ _ => true
  | _ => false

namespace Gateway

variable {ρ : Type} [DecidableEq ρ]

/-- The events of a request that are no interruptions. -/
def efforts (k : ρ) (events : List (GatewayEvent ρ)) : ℕ :=
  (GatewayEvent.ownEvents k events).countP fun e => !e.isInterrupt

variable {g h : Gateway ρ} {k : ρ} {e : GatewayEvent ρ}

omit [DecidableEq ρ] in
/-- A request that comes out of `gate` is past it. -/
theorem left_settled_le (r : Request) (b : BackendInfo) (caller : Caller) :
    left (settled r b caller).stage ≤ 4 + caller.isInside.toNat := by
  cases caller with
  | inside start interrupted => exact le_rfl
  | raised error => cases error <;> exact Nat.zero_le _
  | released => exact Nat.zero_le _
  | holding wait =>
      obtain ⟨payload, stage, after, ways⟩ := afterGate_cases r b
      simp only [settled, after]
      rcases ways with ⟨rfl, _⟩ | ⟨rfl, _⟩ | ⟨rfl, _⟩ <;> exact Nat.le_of_ble_eq_true rfl

/-- A request that wakes up is outside `gate`. -/
theorem outside_of_resume {finish : Time} (stepped : g.step (.resume k finish) = some h) :
    ∃ x, h.admission.tickets.get? k = some x ∧ x.caller.isInside = false := by
  cases does_of_step stepped with
  | resumed found waiting bound inside woke tickets kept =>
      cases AdmissionSystem.does_of_step woke with
      | resume inside resumed =>
          obtain ⟨_, _, _, woken, _⟩ := AdmissionController.resume_spec resumed
          exact ⟨_, Dict.get?_set_self .., (BackpressureQueue.resume_moves woken).2⟩
  | moved found move => cases move
  | ended found ends => cases ends

omit [DecidableEq ρ] in
/-- A reaction to an event uses up what is left of a request, and a chunk adds to it. -/
theorem left_of_reacts {r : Request} {stage : Stage} {delivered : List (List UInt8)}
    {labels : List RequestLabels} (reacts : Reacts k r e stage delivered labels) :
    1 + left stage ≤ left r.stage + 2 * e.chunk?.toList.length := by
  cases reacts with
  | letGo at_stage =>
      rcases at_stage with at_stage | at_stage <;> rw [at_stage] <;>
        exact Nat.le_of_ble_eq_true rfl
  | cancelled at_stage =>
      rcases at_stage with at_stage | at_stage <;> rw [at_stage] <;>
        exact Nat.le_of_ble_eq_true rfl
  | _ at_stage =>
      rw [at_stage]
      exact Nat.le_of_ble_eq_true rfl

/-- Step lemma: an event of a request uses up what is left of it, and a chunk adds to it. -/
theorem left_of_step (stepped : g.step e = some h) (own : e.request? = some k) :
    (!e.isInterrupt).toNat + h.leftOf k ≤ g.leftOf k + 2 * e.chunk?.toList.length := by
  obtain ⟨r, labels, step, found, _⟩ := ownStep_of_step stepped own
  rw [leftOf, found, leftOf]
  cases step with
  | refused fresh =>
      rw [fresh]
      exact Nat.le_of_ble_eq_true rfl
  | @arrived _ _ _ _ _ _ _ _ _ caller fresh =>
      rw [fresh]
      refine (Nat.add_le_add_left (left_settled_le _ _ caller) 1).trans ?_
      have inside := Bool.toNat_le caller.isInside
      change 1 + (4 + _) ≤ 6
      omega
  | interrupted before =>
      rw [before]
      exact Nat.le_of_eq (Nat.zero_add _)
  | resumed before waiting bound ticket kept =>
      rw [before, Option.elim_some, Option.elim_some, waiting]
      obtain ⟨x, again, outside⟩ := outside_of_resume stepped
      cases ticket.symm.trans again
      have most := left_settled_le ‹Request› ‹BackendInfo› ‹Caller›
      rw [outside] at most
      exact Nat.add_le_add_left most 1
  | reacts before reacts =>
      rw [before]
      have used := left_of_reacts reacts
      have effort := Bool.toNat_le (!e.isInterrupt)
      exact (Nat.add_le_add_right effort _).trans used

/-- A request has at most two events for each chunk and six more, not counting interruptions. -/
theorem efforts_le {config : GatewayConfig} {events : List (GatewayEvent ρ)}
    (ran : run step (new config) events = some g) (k : ρ) :
    efforts k events + g.leftOf k ≤
      6 + 2 * (GatewayEvent.sent (GatewayEvent.ownEvents k events)).length := by
  refine past_invariant_of_run (P := fun past (g : Gateway ρ) => efforts k past + g.leftOf k ≤
    6 + 2 * (GatewayEvent.sent (GatewayEvent.ownEvents k past)).length) ?_ le_rfl ran
  intro past g e h before bounded stepped
  by_cases own : e.request? = some k
  · have used := left_of_step stepped own
    rw [efforts, GatewayEvent.ownEvents_concat_own own, GatewayEvent.sent_concat,
      List.length_append, List.countP_append]
    have single : [e].countP (fun e => !e.isInterrupt) = (!e.isInterrupt).toNat := by
      rw [List.countP_singleton]
      cases e.isInterrupt <;> rfl
    rw [single]
    have counted : efforts k past =
      (GatewayEvent.ownEvents k past).countP fun e => !e.isInterrupt := rfl
    omega
  · have linked := (runnable_run before).linked
    have same := (frame_of_does linked (does_of_step stepped)
      fun sid acts => own (request?_of_actor acts)).1
    rw [efforts, GatewayEvent.ownEvents_concat_other own, leftOf, same]
    exact bounded

/-- **Requests end.** In every run a request has at most two events for each chunk of its backend
and six more, not counting interruptions, and where the run leaves it, it can still come to its
end by at most two events of its own. -/
theorem requests_end (config : GatewayConfig) (events : List (GatewayEvent ρ)) (g : Gateway ρ)
    (ran : run step (new config) events = some g) (k : ρ) (r : Request)
    (found : g.requests.get? k = some r) :
    efforts k events ≤ 6 + 2 * (GatewayEvent.sent (GatewayEvent.ownEvents k events)).length ∧
      g.EndsWithin k 2 :=
  ⟨(Nat.le_add_right _ _).trans (efforts_le ran k), can_end ran found⟩

/-- A stream that has handed out a chunk. -/
theorem requests_end_of_stream :
    ∃ (g : Gateway ℕ) (r : Request), run step (new shippedConfig) (wholeStream.take 3) = some g ∧
      g.requests.get? 0 = some r ∧ efforts 0 (wholeStream.take 3) ≤
        6 + 2 * (GatewayEvent.sent (GatewayEvent.ownEvents 0 (wholeStream.take 3))).length ∧
      g.EndsWithin 0 2 :=
  ⟨_, _, rfl, rfl, requests_end shippedConfig (wholeStream.take 3) _ rfl 0 _ rfl⟩

end Gateway

end AgentServe
