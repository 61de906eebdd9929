import AgentServe.Gateway.Budget
import AgentServe.Gateway.Drained
import AgentServe.Gateway.Forwarding
import AgentServe.Gateway.Progress

/-!
# Why a request is rejected

The gateway rejects a request for one of four causes: its tier has no healthy backend, its
estimate is beyond its budget, the queue of its tier has as many requests as it admits, or
its wait for a slot has timed out. The first three apply when it arrives, and the last one
when it wakes up.

A step rejects a request exactly if one of them applies, and with the exception of that
cause (`rejected_iff`). That the queue is full is said of the requests: its count is the
number of requests that wait for a backend of the tier, at every moment of every run
(`waitingOn_eq`). A request that was granted a slot and has not woken up is still one of
them, and a request that has lost its slot is not.
-/

set_option autoImplicit false

namespace AgentServe

open Lib

/-! ## Stretches of `gate` -/

namespace BackpressureQueue

variable {ι : Type} [DecidableEq ι]

/-- An arrival is turned away exactly if the queue has as many callers as it admits. -/
theorem acquire_raised_iff (q : BackpressureQueue ι) (k : ι) (start finish : Time)
    (x : GatewayException) :
    (q.acquire k start finish).2 = .raised (.exception x) ↔
      q.maxQueue ≤ q.queued ∧ x = .queueFull q.retryAfter := by
  unfold acquire
  by_cases full : q.queued ≥ q.maxQueue
  · rw [if_pos full]
    simp [BackpressureQueue.full, full, eq_comm]
  · rw [if_neg full]
    refine iff_of_false ?_ fun crowded => full crowded.1
    split
    · exact Caller.noConfusion
    · split <;> exact Caller.noConfusion

/-- A caller that wakes up is turned away exactly if its wait has timed out. -/
theorem resume_raised_iff {q r : BackpressureQueue ι} {k : ι} {start finish : Time}
    {interrupted : Option Interrupt} {c : Caller}
    (resumed : q.resume k start interrupted finish = some (r, c)) (x : GatewayException) :
    c = .raised (.exception x) ↔
      interrupted = some .timeout ∧ x = .queueFull q.retryAfter := by
  have thrown : Caller.raised (q.thrown interrupted) = .raised (.exception x) ↔
      interrupted = some .timeout ∧ x = .queueFull q.retryAfter := by
    cases interrupted with
    | none => simp [BackpressureQueue.thrown]
    | some i => cases i <;> simp [BackpressureQueue.thrown, BackpressureQueue.full, eq_comm]
  unfold resume at resumed
  split at resumed
  · rename_i next kept woke
    cases resumed
    cases kept with
    | false => exact thrown
    | true =>
        -- A caller that is interrupted does not keep its slot.
        refine iff_of_false Caller.noConfusion ?_
        rintro ⟨rfl, _⟩
        unfold Semaphore.resume at woke
        split at woke <;> simp at woke
  · split at resumed
    · cases resumed
      exact thrown
    · cases resumed

end BackpressureQueue

/-- While its tier has a healthy backend, a request is turned away on arrival exactly if its
estimate is beyond its budget or its queue has as many callers as it admits. -/
theorem AdmissionController.gate_raised_iff {ι : Type} [DecidableEq ι]
    {c d : AdmissionController ι} {k : ι} {session : SessionContext} {tier : Tier} {estimated : ℤ}
    {clock : GateClock} {caller : Caller} (undebited : c.accountant.Undebited)
    (healthy : c.registry.getHealthyBackends tier ≠ [])
    (gated : c.gate k session tier estimated clock = (d, caller)) (x : GatewayException) :
    caller = .raised (.exception x) ↔
      (c.accountant.config.defaultTokenBudget < estimated ∧
        x = .budgetExceeded session.agentId 0 c.accountant.config.defaultTokenBudget) ∨
      (estimated ≤ c.accountant.config.defaultTokenBudget ∧ ∃ q, c.queues.get? tier = some q ∧
        q.maxQueue ≤ q.queued ∧ x = .queueFull q.retryAfter) := by
  by_cases beyond : c.accountant.config.defaultTokenBudget < estimated
  · rw [gate_over_budget undebited beyond gated]
    have not_within : ¬ estimated ≤ c.accountant.config.defaultTokenBudget := by omega
    simp [beyond, not_within, eq_comm]
  · have within : estimated ≤ c.accountant.config.defaultTokenBudget := by omega
    have some_backend : (c.registry.getHealthyBackends tier).isEmpty = false := by
      simpa using healthy
    simp only [gate, undebited.checkBudget_eq, within, decide_true, Bool.not_true,
      Bool.false_eq_true, if_false, some_backend] at gated
    cases queue : c.queues.get? tier with
    | none =>
        simp only [queue] at gated
        cases gated
        simp [beyond]
    | some q =>
        simp only [queue] at gated
        cases gated
        rw [BackpressureQueue.acquire_raised_iff]
        simp [beyond, within]

namespace AdmissionSystem

variable {ρ : Type} [DecidableEq ρ]

/-- The tiers with a queue are the two of the backends. -/
def Queued (s : AdmissionSystem ρ) : Prop := ∀ t, (s.queue? t).isSome = true ↔ t ≠ .auto

/-- Step lemma: queues are neither made nor taken away. -/
theorem queued_step {s t : AdmissionSystem ρ} {e : AdmissionEvent ρ} (sound : s.Sound)
    (queued : s.Queued) (stepped : s.step e = some t) : t.Queued := by
  intro tier
  rw [← queued tier]
  rcases step_cases sound stepped with
    ⟨_, k, x, moves⟩ | ⟨k, session, at_tier, wait, _, holds, rfl⟩ | ⟨_, _, queues, _⟩
  · rcases moves.queue_cases tier with ⟨before, after⟩ | ⟨q, r, before, after, _⟩
    · rw [before, after]
    · rw [before, after]
      exact Iff.rfl
  · rw [queue?, queue?_release]
    split
    · rw [Option.isSome_map]
    · rfl
  · rw [queues]

end AdmissionSystem

namespace AffinityScheduler

variable {s t : AffinityScheduler} {session : SessionContext} {tier : Tier}
  {candidates : List BackendInfo} {now made : Time}

/-- A turn that raises had no candidates, and says so. -/
theorem error_of_raised {e : GatewayException}
    (raised : s.selectBackend session tier candidates now made = (t, .error e)) :
    candidates = [] ∧ e = .backendUnavailable tier := by
  rcases selectBackend_cases s session tier candidates now made with
    ⟨none, outcome⟩ | ⟨b, _, outcome⟩ | ⟨b, _, _, outcome⟩
  · rw [outcome] at raised
    cases raised
    exact ⟨none, rfl⟩
  · rw [outcome] at raised
    cases raised
  · rw [outcome] at raised
    cases raised

/-- A turn that is answered had candidates. -/
theorem candidates_of_answer {b : BackendInfo} {hit : Bool}
    (answered : s.selectBackend session tier candidates now made = (t, .ok (b, hit))) :
    candidates ≠ [] := by
  rintro rfl
  rw [selectBackend_nil] at answered
  cases answered

end AffinityScheduler

/-! ## Requests that wait -/

/-- A request that waits for its slot. -/
def Request.isWaiting (r : Request) : Bool :=
  match r.stage with
  | .waiting => true
  | _ => false

theorem Request.isWaiting_iff (r : Request) : r.isWaiting = true ↔ r.stage = .waiting := by
  unfold isWaiting
  split
  · rename_i waiting
    exact ⟨fun _ => waiting, fun _ => rfl⟩
  · rename_i other
    exact ⟨Bool.noConfusion, fun waits => absurd waits other⟩

/-- The exception that a request was rejected with. -/
def Request.rejection? (r : Request) : Option GatewayException :=
  match r.stage with
  | .over (.rejected x) => some x
  | _ => none

theorem Request.rejection?_eq_some_iff (r : Request) {x : GatewayException} :
    r.rejection? = some x ↔ r.stage = .over (.rejected x) := by
  unfold rejection?
  split
  · rename_i y rejected
    rw [rejected]
    simp
  · rename_i other
    refine ⟨fun none_there => ?_, fun rejected => absurd rejected (other x)⟩
    cases none_there

namespace Gateway

variable {ρ : Type}

/-- The requests that wait for a slot of a backend of the tier. -/
def waitingOn (g : Gateway ρ) (t : Tier) : ℕ :=
  g.requests.count fun _ r => r.isWaiting && r.backend.any fun b => b.tier = t

variable [DecidableEq ρ]

/-- Requests inside `gate` wait for their slots. -/
def InsideWaits (g : Gateway ρ) : Prop :=
  ∀ k r x, g.requests.get? k = some r → g.admission.tickets.get? k = some x →
    x.caller.isInside = true → r.stage = .waiting

/-- Step lemma: requests inside `gate` go on waiting. -/
theorem insideWaits_of_does {g h : Gateway ρ} {e : GatewayEvent ρ} (linked : g.Linked)
    (waits : g.InsideWaits) (does : g.Does e h) : h.InsideWaits := by
  intro k r x found ticket inside
  by_cases own : ∃ sid, g.actor e = some (k, sid)
  · obtain ⟨sid, acts⟩ := own
    cases does with
    | refused fresh raised =>
        cases acts
        rw [linked.ticket_of_fresh fresh] at ticket
        cases ticket
    | @arrived _ _ _ _ _ _ _ b _ _ caller _ fresh selected gated tickets unreleased =>
        cases acts
        simp only [Dict.get?_set_self] at found
        simp only [tickets, Dict.get?_set_self] at ticket
        cases found
        cases ticket
        cases caller with
        | inside start interrupted => rfl
        | _ => cases inside
    | interrupted at_j waiting at_gate stepped tickets =>
        obtain rfl := eq_of_actor acts rfl at_j
        cases found.symm.trans at_j
        exact waiting
    | @resumed _ _ _ b _ _ _ _ _ caller _ at_j waiting bound at_gate woke tickets unreleased =>
        obtain rfl := eq_of_actor acts rfl at_j
        simp only [Dict.get?_set_self] at found
        simp only [tickets, Dict.get?_set_self] at ticket
        cases found
        cases ticket
        cases caller with
        | inside start interrupted => rfl
        | _ => cases inside
    | moved at_j move =>
        obtain rfl := eq_of_actor acts move.actor at_j
        exact absurd (waits _ _ x at_j ticket inside) move.ne_waiting.1
    | ended at_j ends holds released tickets =>
        obtain rfl := eq_of_actor acts ends.actor at_j
        simp only [tickets, Dict.get?_set_self] at ticket
        cases ticket
        cases inside
    | status => cases acts
  · obtain ⟨requests, tickets, _⟩ :=
      frame_of_does linked does fun sid acts => own ⟨sid, acts⟩
    exact waits k r x (requests ▸ found) (tickets ▸ ticket) inside

/-- What holds of every reachable state: requests stand where their tickets say, the queues count
their callers, and nobody was debited. -/
structure Explained (config : GatewayConfig) (g : Gateway ρ) : Prop where
  runnable : g.Runnable
  waits : g.InsideWaits
  sound : g.admission.Sound
  counts : g.admission.Counts (builtQueue config)
  queued : g.admission.Queued
  unspent : g.Unspent config.admission

theorem explained_new (config : GatewayConfig) : Explained config (new config : Gateway ρ) where
  runnable := runnable_new config
  waits := by
    intro k r x found
    cases found
  sound := AdmissionSystem.sound_new ..
  counts := (settled_new config).counts
  queued := by
    intro t
    rw [new, AdmissionSystem.queue?_new]
    cases t <;> simp
  unspent := unspent_new config

/-- Step lemma: every step can be explained. -/
theorem explained_step {config : GatewayConfig} {g h : Gateway ρ} {e : GatewayEvent ρ}
    (explained : Explained config g) (stepped : g.step e = some h) : Explained config h := by
  have runnable := runnable_step explained.runnable stepped
  have unspent := unspent_step explained.unspent stepped
  have does := does_of_step stepped
  have waits := insideWaits_of_does explained.runnable.linked explained.waits does
  rcases admission_of_does explained.runnable.linked does with same | ⟨a, moved, _⟩
  · exact ⟨runnable, waits, same ▸ explained.sound, same ▸ explained.counts,
      same ▸ explained.queued, unspent⟩
  · exact ⟨runnable, waits, AdmissionSystem.sound_step explained.sound moved,
      AdmissionSystem.counts_step explained.sound explained.counts moved,
      AdmissionSystem.queued_step explained.sound explained.queued moved, unspent⟩

theorem explained_run {config : GatewayConfig} {events : List (GatewayEvent ρ)} {g : Gateway ρ}
    (ran : run step (new config) events = some g) : Explained config g :=
  invariant_of_step (fun _ _ _ explained stepped => explained_step explained stepped)
    (explained_new config) ran

/-- The queue of a tier counts the requests that wait for a backend of the tier. -/
theorem waitingOn_eq {config : GatewayConfig} {g : Gateway ρ} (explained : Explained config g)
    {t : Tier} {q : BackpressureQueue ρ} (queue : g.admission.queue? t = some q) :
    q.queued = g.waitingOn t := by
  rw [(explained.counts t q queue).2.1]
  apply congrArg
  apply Dict.count_eq_of_keys
  intro k
  constructor
  · rintro ⟨⟨session, tier, caller⟩, ticket, counted⟩
    obtain ⟨r, b, found, _, bound, same⟩ := explained.runnable.linked k _ ticket
    by_cases on_tier : tier = t
    · subst on_tier
      have inside : caller.isInside = true := by simpa [Ticket.on] using counted
      have waiting := explained.waits k r _ found ticket inside
      refine ⟨r, found, ?_⟩
      have on_tier : b.tier = tier := same
      simp [bound, on_tier, r.isWaiting_iff.mpr waiting]
    · rw [Ticket.on_of_ne on_tier] at counted
      cases counted
  · rintro ⟨r, found, counted⟩
    simp only [Bool.and_eq_true, Request.isWaiting_iff] at counted
    obtain ⟨waiting, on_tier⟩ := counted
    cases explained.runnable.poised k r found with
    | ended ended => simp [Request.isOver, waiting] at ended
    | holding running => exact absurd waiting running
    | @waiting b session tier start interrupted _ bound inside =>
        obtain ⟨r', b', found', _, bound', same⟩ := explained.runnable.linked k _ inside
        cases found.symm.trans found'
        cases bound.symm.trans bound'
        rw [bound, Option.any_some, decide_eq_true_eq] at on_tier
        refine ⟨_, inside, ?_⟩
        rw [show tier = t from same.symm.trans on_tier, Ticket.on_tier]
        rfl

/-! ## Causes -/

/-- The exception of a full queue. The time to wait that it tells is the whole timeout. -/
def queueFull (config : GatewayConfig) : GatewayException :=
  .queueFull config.admission.queueTimeoutSeconds

/-- Why an event rejects a request, and with which exception. -/
inductive Cause (config : GatewayConfig) (g : Gateway ρ) (k : ρ) :
    GatewayEvent ρ → GatewayException → Prop where
  | unavailable {input : ChatInput} {decision : RoutingDecision} {now made : Time}
      {clock : GateClock} (nobody : g.registry.getHealthyBackends decision.tier = []) :
      Cause config g k (.arrive k input decision now made clock)
        (.backendUnavailable decision.tier)
  | beyond {input : ChatInput} {decision : RoutingDecision} {now made : Time} {clock : GateClock}
      (healthy : g.registry.getHealthyBackends decision.tier ≠ [])
      (beyond : config.admission.defaultTokenBudget < estimatedTokens input) :
      Cause config g k (.arrive k input decision now made clock)
        (.budgetExceeded (buildSession input).agentId 0 config.admission.defaultTokenBudget)
  | crowded {input : ChatInput} {decision : RoutingDecision} {now made : Time} {clock : GateClock}
      (healthy : g.registry.getHealthyBackends decision.tier ≠ []) (tier : decision.tier ≠ .auto)
      (affordable : estimatedTokens input ≤ config.admission.defaultTokenBudget)
      (full : config.admission.maxQueueSize ≤ g.waitingOn decision.tier) :
      Cause config g k (.arrive k input decision now made clock) (queueFull config)
  | late {finish : Time} {session : SessionContext} {tier : Tier} {start : Time}
      (timedOut : g.admission.tickets.get? k =
        some ⟨session, tier, .inside start (some .timeout)⟩) :
      Cause config g k (.resume k finish) (queueFull config)

/-- A step rejects a request: it is rejected now and was not over before. -/
def Rejects (g h : Gateway ρ) (k : ρ) (x : GatewayException) : Prop :=
  (∃ r, h.requests.get? k = some r ∧ r.stage = .over (.rejected x)) ∧
    ∀ r, g.requests.get? k = some r → r.isOver = false

theorem stage_settled_rejected_iff (r : Request) (b : BackendInfo) (caller : Caller)
    (x : GatewayException) :
    (settled r b caller).stage = .over (.rejected x) ↔ caller = .raised (.exception x) := by
  cases caller with
  | inside start interrupted => exact iff_of_false Stage.noConfusion Caller.noConfusion
  | raised error => cases error <;> simp [settled]
  | released => simp [settled]
  | holding wait =>
      obtain ⟨payload, stage, after, ways⟩ := afterGate_cases r b
      simp only [settled, after]
      rcases ways with ⟨rfl, _⟩ | ⟨rfl, _⟩ | ⟨rfl, _⟩
      all_goals simp

variable {config : GatewayConfig} {g h : Gateway ρ} {k : ρ} {x : GatewayException}

/-- A step of a request that was not over rejects it exactly if it is rejected then. -/
theorem rejects_iff_of_set {r : Request} (requests : h.requests = g.requests.set k r)
    (running : ∀ r, g.requests.get? k = some r → r.isOver = false) :
    g.Rejects h k x ↔ r.stage = .over (.rejected x) := by
  rw [Rejects, requests, Dict.get?_set_self]
  constructor
  · rintro ⟨⟨r', same, ended⟩, _⟩
    cases same
    exact ended
  · intro ended
    exact ⟨⟨r, rfl, ended⟩, running⟩

/-- The queues are set up as the configuration says. -/
theorem Explained.settings (explained : Explained config g) {t : Tier} {q : BackpressureQueue ρ}
    (queue : g.admission.queue? t = some q) :
    q.maxQueue = config.admission.maxQueueSize ∧
      GatewayException.queueFull q.retryAfter = queueFull config := by
  have settings := (explained.counts t q queue).1
  refine ⟨settings.maxQueue, ?_⟩
  have whole : q.retryAfter = config.admission.queueTimeoutSeconds := by
    rw [BackpressureQueue.retryAfter, settings.timeout]
    simp [builtQueue, AdmissionController.buildQueue, BackpressureQueue.new]
  rw [whole, queueFull]

/-- An arrival is rejected exactly if one of the first three causes applies. -/
theorem arrive_rejects_iff (explained : Explained config g) {input : ChatInput}
    {decision : RoutingDecision} {now made : Time} {clock : GateClock}
    (stepped : g.step (.arrive k input decision now made clock) = some h) :
    g.Rejects h k x ↔ Cause config g k (.arrive k input decision now made clock) x := by
  have unknown : g.requests.get? k = none → ∀ r, g.requests.get? k = some r →
      r.isOver = false := by
    intro fresh r found
    cases fresh.symm.trans found
  cases does_of_step stepped with
  | refused fresh raised =>
      obtain ⟨nobody, rfl⟩ := AffinityScheduler.error_of_raised raised
      rw [rejects_iff_of_set rfl (unknown fresh)]
      constructor
      · intro ended
        cases ended
        exact .unavailable nobody
      · intro cause
        cases cause with
        | unavailable => rfl
        | beyond healthy => exact absurd nobody healthy
        | crowded healthy => exact absurd nobody healthy
  | @arrived _ _ _ _ _ _ _ b _ _ caller _ fresh selected gated tickets unreleased =>
      have healthy : g.registry.getHealthyBackends decision.tier ≠ [] :=
        AffinityScheduler.candidates_of_answer selected
      rw [rejects_iff_of_set rfl (unknown fresh), stage_settled_rejected_iff]
      cases AdmissionSystem.does_of_step gated with
      | gate _ called =>
          have own := congrArg (·.get? k) tickets
          simp only [Dict.get?_set_self, Option.some.injEq, Ticket.mk.injEq, true_and] at own
          subst own
          rw [AdmissionController.gate_raised_iff explained.unspent.undebited healthy called,
            explained.unspent.settings]
          constructor
          · rintro (⟨beyond, rfl⟩ | ⟨affordable, q, queue, full, rfl⟩)
            · exact .beyond healthy beyond
            · obtain ⟨limit, exception⟩ := explained.settings queue
              have tier := (explained.queued decision.tier).mp (Option.isSome_of_eq_some queue)
              rw [exception]
              refine .crowded healthy tier affordable ?_
              rw [← limit, ← waitingOn_eq explained queue]
              exact full
          · intro cause
            cases cause with
            | unavailable nobody => exact absurd nobody healthy
            | beyond _ beyond => exact .inl ⟨beyond, rfl⟩
            | crowded _ tier affordable full =>
                obtain ⟨q, queue⟩ :=
                  Option.isSome_iff_exists.mp ((explained.queued decision.tier).mpr tier)
                obtain ⟨limit, exception⟩ := explained.settings queue
                refine .inr ⟨affordable, q, queue, ?_, exception.symm⟩
                rw [limit, waitingOn_eq explained queue]
                exact full
  | moved at_j move => cases move
  | ended at_j ends => cases ends

/-- A request that wakes up is rejected exactly if its wait has timed out. -/
theorem resume_rejects_iff (explained : Explained config g) {finish : Time}
    (stepped : g.step (.resume k finish) = some h) :
    g.Rejects h k x ↔ Cause config g k (.resume k finish) x := by
  cases does_of_step stepped with
  | @resumed _ _ r b _ session tier start interrupted caller _ at_k waiting bound inside woke
      tickets unreleased =>
      have running : ∀ r, g.requests.get? k = some r → r.isOver = false := by
        intro r' found
        cases at_k.symm.trans found
        simp [Request.isOver, waiting]
      rw [rejects_iff_of_set rfl running, stage_settled_rejected_iff]
      cases AdmissionSystem.does_of_step woke with
      | resume ticket resumed =>
          cases inside.symm.trans ticket
          have own := congrArg (·.get? k) tickets
          simp only [Dict.get?_set_self, Option.some.injEq, Ticket.mk.injEq, true_and] at own
          subst own
          obtain ⟨q, r', queue, again, _⟩ := AdmissionController.resume_spec resumed
          obtain ⟨_, exception⟩ := explained.settings queue
          rw [BackpressureQueue.resume_raised_iff again, exception]
          constructor
          · rintro ⟨rfl, rfl⟩
            exact .late inside
          · intro cause
            cases cause with
            | late timedOut =>
                cases inside.symm.trans timedOut
                exact ⟨rfl, rfl⟩
  | moved at_j move => cases move
  | ended at_j ends => cases ends

omit [DecidableEq ρ] in
theorem StageMove.ne_rejected {e : GatewayEvent ρ} {source target : Stage}
    (move : StageMove k e source target) : target ≠ .over (.rejected x) := by
  cases move <;> simp

omit [DecidableEq ρ] in
theorem StageEnd.ne_rejected {e : GatewayEvent ρ} {source : Stage} {exit : Exit}
    (ends : StageEnd k e source exit) : exit ≠ .rejected x := by
  cases ends <;> simp

/-- Only an arrival and a waking up reject a request. -/
theorem event_of_rejects {e : GatewayEvent ρ} (linked : g.Linked) (does : g.Does e h)
    (rejects : g.Rejects h k x) :
    (∃ input decision now made clock, e = .arrive k input decision now made clock) ∨
      ∃ finish, e = .resume k finish := by
  obtain ⟨⟨r, found, ended⟩, running⟩ := rejects
  have changed : h.requests.get? k ≠ g.requests.get? k := by
    intro same
    have unended := running r (same.symm.trans found)
    simp [Request.isOver, ended] at unended
  have own : ∃ sid, g.actor e = some (k, sid) := by
    by_contra other
    exact changed (frame_of_does linked does fun sid acts => other ⟨sid, acts⟩).1
  obtain ⟨sid, acts⟩ := own
  cases does with
  | refused =>
      cases acts
      exact .inl ⟨_, _, _, _, _, rfl⟩
  | arrived =>
      cases acts
      exact .inl ⟨_, _, _, _, _, rfl⟩
  | interrupted => exact absurd rfl changed
  | resumed at_j =>
      obtain rfl := eq_of_actor acts rfl at_j
      exact .inr ⟨_, rfl⟩
  | moved at_j move =>
      obtain rfl := eq_of_actor acts move.actor at_j
      simp only [Dict.get?_set_self] at found
      cases found
      exact absurd ended move.ne_rejected
  | ended at_j ends =>
      obtain rfl := eq_of_actor acts ends.actor at_j
      simp only [Dict.get?_set_self] at found
      cases found
      cases ended
      exact absurd rfl ends.ne_rejected
  | status => cases acts

/-- **Rejections.** In every run, a step rejects a request exactly if a cause applies, and with the
exception of that cause. -/
theorem rejected_iff (config : GatewayConfig) (events : List (GatewayEvent ρ)) (g h : Gateway ρ)
    (ran : run step (new config) events = some g) (e : GatewayEvent ρ)
    (stepped : g.step e = some h) (k : ρ) (x : GatewayException) :
    g.Rejects h k x ↔ Cause config g k e x := by
  have explained : Explained config g := explained_run ran
  constructor
  · intro rejects
    rcases event_of_rejects explained.runnable.linked (does_of_step stepped) rejects with
      ⟨input, decision, now, made, clock, rfl⟩ | ⟨finish, rfl⟩
    · exact (arrive_rejects_iff explained stepped).mp rejects
    · exact (resume_rejects_iff explained stepped).mp rejects
  · intro cause
    cases cause with
    | unavailable nobody =>
        exact (arrive_rejects_iff explained stepped).mpr (.unavailable nobody)
    | beyond healthy beyond =>
        exact (arrive_rejects_iff explained stepped).mpr (.beyond healthy beyond)
    | crowded healthy tier affordable full =>
        exact (arrive_rejects_iff explained stepped).mpr (.crowded healthy tier affordable full)
    | late timedOut => exact (resume_rejects_iff explained stepped).mpr (.late timedOut)

/-! ## A full queue -/

/-- One slot, and a queue that admits one request. -/
def oneInQueue : GatewayConfig := { oneSlot with admission := { maxQueueSize := 1 } }

/-- A request that gets the slot, and one that waits for it. -/
def slotAndQueueTaken : List (GatewayEvent ℕ) := [
  .arrive 0 (hello "a" false) (greeted .big "big-0") 0 0 AdmissionSystem.atStart,
  .arrive 1 (hello "b" false) (greeted .big "big-0") 0 0 AdmissionSystem.atStart]

/-- A third request. -/
def third : GatewayEvent ℕ :=
  .arrive 2 (hello "c" false) (greeted .big "big-0") 0 0 AdmissionSystem.atStart

/-- The third request is rejected since one request waits. -/
theorem rejected_iff_third :
    ∃ g : Gateway ℕ, run step (new oneInQueue) slotAndQueueTaken = some g ∧
      Cause oneInQueue g 2 third (queueFull oneInQueue) := by
  have before : ((run step (new oneInQueue) slotAndQueueTaken).map fun g =>
      (g.requests.get? 2).isNone) = some true := by
    decide +kernel
  have after : ((run step (new oneInQueue) (slotAndQueueTaken ++ [third])).map fun h =>
      (h.requests.get? 2).bind Request.rejection?) = some (some (queueFull oneInQueue)) := by
    decide +kernel
  obtain ⟨h, on, shown⟩ := Option.map_eq_some_iff.mp after
  obtain ⟨r, found, exception⟩ := Option.bind_eq_some_iff.mp shown
  obtain ⟨g, ran, stepped⟩ := run_concat_eq_some.mp on
  rw [ran, Option.map_some, Option.some.injEq] at before
  refine ⟨g, ran, (rejected_iff oneInQueue slotAndQueueTaken g h ran third stepped 2 _).mp
    ⟨⟨r, found, (r.rejection?_eq_some_iff).mp exception⟩, ?_⟩⟩
  intro r' known
  rw [known] at before
  cases before

end Gateway

end AgentServe
