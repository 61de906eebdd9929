import AgentServe.Admission.Controller
import AgentServe.Lib.Run

/-!
# The slots of a tier

Requests pass through the admission controller: each calls `gate` once, may be
interrupted inside it, and calls `release` once after it was admitted. Sessions
may have several requests, on any tiers. The steps of the requests interleave
freely with debits and with changes of backend status.

The slots of a tier are conserved when each is free, granted to a caller inside
`gate`, or taken by a request that was admitted on the tier and not released. All
steps but releases conserve them (`conserved_of_moves`). A release conserves them
exactly when the tier recorded for its session is the tier of its request
(`conserved_release_iff`), and so does a whole run (`slots_conserved_iff`). Two
requests of one session that overlap have one record between them, and one of
their slots is lost for ever (`overlap_loses_slot`).
-/

set_option autoImplicit false

namespace AgentServe

open Lib

/-- A request at the admission controller. -/
structure Ticket where
  session : SessionContext
  tier : Tier
  caller : Caller
deriving DecidableEq

/-- What the queue of a tier sees of a request. -/
def Ticket.on (x : Ticket) (t : Tier) : Option Caller := if x.tier = t then some x.caller else none

@[simp] theorem Ticket.on_tier (x : Ticket) : x.on x.tier = some x.caller := if_pos rfl

theorem Ticket.on_of_ne {x : Ticket} {t : Tier} (differ : x.tier ≠ t) : x.on t = none :=
  if_neg differ

/-- A controller with the requests that have reached it. -/
structure AdmissionSystem (ρ : Type) where
  controller : AdmissionController ρ
  tickets : Dict ρ Ticket

inductive AdmissionEvent (ρ : Type) where
  | gate (k : ρ) (session : SessionContext) (tier : Tier) (estimated : ℤ) (clock : GateClock)
  | interrupt (k : ρ) (i : Interrupt)
  | resume (k : ρ) (finish : Time)
  | release (k : ρ)
  | debit (agentId : String) (input output : ℤ) (now : Time)
  | markStatus (backendId : String) (status : BackendStatus)

namespace AdmissionSystem

variable {ρ : Type}

def new (config : AdmissionConfig) (accountant : TokenAccountant) (registry : BackendRegistry) :
    AdmissionSystem ρ :=
  ⟨.new config accountant registry, .empty⟩

/-- The queue of a tier. -/
def queue? (s : AdmissionSystem ρ) (t : Tier) : Option (BackpressureQueue ρ) :=
  s.controller.queues.get? t

theorem queue?_new (config : AdmissionConfig) (accountant : TokenAccountant)
    (registry : BackendRegistry) (t : Tier) :
    (new config accountant registry : AdmissionSystem ρ).queue? t =
      if t = .auto then none
      else some (AdmissionController.buildQueue config registry t) := by
  simp only [queue?, new, AdmissionController.new, Dict.get?_set, Dict.get?_empty]
  cases t <;> rfl

/-- The requests admitted on a tier and not released. -/
def admitted (s : AdmissionSystem ρ) (t : Tier) : ℕ :=
  s.tickets.count fun _ x => (x.on t).any Caller.isHolding

variable [DecidableEq ρ]

/-- One step of a request or of what surrounds it. -/
def step (s : AdmissionSystem ρ) : AdmissionEvent ρ → Option (AdmissionSystem ρ)
  | .gate k session tier estimated clock =>
    if s.tickets.get? k = none then
      let (controller, caller) := s.controller.gate k session tier estimated clock
      some ⟨controller, s.tickets.set k ⟨session, tier, caller⟩⟩
    else none
  | .interrupt k i =>
    match s.tickets.get? k with
    | some ⟨session, tier, .inside start before⟩ =>
      some ⟨s.controller.interrupt k tier,
        s.tickets.set k ⟨session, tier, .inside start (some (i.after before))⟩⟩
    | _ => none
  | .resume k finish =>
    match s.tickets.get? k with
    | some ⟨session, tier, .inside start interrupted⟩ =>
      (s.controller.resume k session tier start interrupted finish).map
        fun (controller, caller) => ⟨controller, s.tickets.set k ⟨session, tier, caller⟩⟩
    | _ => none
  | .release k =>
    match s.tickets.get? k with
    | some ⟨session, tier, .holding _⟩ =>
      some ⟨s.controller.release session tier, s.tickets.set k ⟨session, tier, .released⟩⟩
    | _ => none
  | .debit agentId input output now =>
    some ⟨{ s.controller with
      accountant := s.controller.accountant.debit agentId input output now }, s.tickets⟩
  | .markStatus backendId status =>
    some ⟨{ s.controller with registry := s.controller.registry.markStatus backendId status },
      s.tickets⟩

/-- What a step does: the cases of `step` in which it fires. -/
inductive Does (s : AdmissionSystem ρ) : AdmissionEvent ρ → AdmissionSystem ρ → Prop where
  | gate {k : ρ} {session : SessionContext} {tier : Tier} {estimated : ℤ} {clock : GateClock}
      {d : AdmissionController ρ} {caller : Caller} (fresh : s.tickets.get? k = none)
      (gated : s.controller.gate k session tier estimated clock = (d, caller)) :
      Does s (.gate k session tier estimated clock)
        ⟨d, s.tickets.set k ⟨session, tier, caller⟩⟩
  | interrupt {k : ρ} {i : Interrupt} {session : SessionContext} {tier : Tier} {start : Time}
      {before : Option Interrupt}
      (inside : s.tickets.get? k = some ⟨session, tier, .inside start before⟩) :
      Does s (.interrupt k i) ⟨s.controller.interrupt k tier,
        s.tickets.set k ⟨session, tier, .inside start (some (i.after before))⟩⟩
  | resume {k : ρ} {finish : Time} {session : SessionContext} {tier : Tier} {start : Time}
      {interrupted : Option Interrupt} {d : AdmissionController ρ} {caller : Caller}
      (inside : s.tickets.get? k = some ⟨session, tier, .inside start interrupted⟩)
      (woke : s.controller.resume k session tier start interrupted finish = some (d, caller)) :
      Does s (.resume k finish) ⟨d, s.tickets.set k ⟨session, tier, caller⟩⟩
  | release {k : ρ} {session : SessionContext} {tier : Tier} {wait : Time}
      (holds : s.tickets.get? k = some ⟨session, tier, .holding wait⟩) :
      Does s (.release k) ⟨s.controller.release session tier,
        s.tickets.set k ⟨session, tier, .released⟩⟩
  | debit {agentId : String} {input output : ℤ} {now : Time} :
      Does s (.debit agentId input output now) ⟨{ s.controller with
        accountant := s.controller.accountant.debit agentId input output now }, s.tickets⟩
  | markStatus {backendId : String} {status : BackendStatus} :
      Does s (.markStatus backendId status) ⟨{ s.controller with
        registry := s.controller.registry.markStatus backendId status }, s.tickets⟩

theorem does_of_step {s t : AdmissionSystem ρ} {e : AdmissionEvent ρ}
    (stepped : s.step e = some t) : s.Does e t := by
  cases e with
  | gate k session tier estimated clock =>
      simp only [step] at stepped
      split at stepped
      · rename_i fresh
        cases stepped
        exact .gate fresh rfl
      · cases stepped
  | interrupt k i =>
      simp only [step] at stepped
      split at stepped
      · rename_i inside
        cases stepped
        exact .interrupt inside
      · cases stepped
  | resume k finish =>
      simp only [step] at stepped
      split at stepped
      · rename_i inside
        obtain ⟨⟨d, caller⟩, woke, rfl⟩ := Option.map_eq_some_iff.mp stepped
        exact .resume inside woke
      · cases stepped
  | release k =>
      simp only [step] at stepped
      split at stepped
      · rename_i holds
        cases stepped
        exact .release holds
      · cases stepped
  | debit agentId input output now =>
      cases stepped
      exact .debit
  | markStatus backendId status =>
      cases stepped
      exact .markStatus

/-- What the queue of a tier sees of a request that may have reached the controller. -/
def share (s : AdmissionSystem ρ) (k : ρ) (t : Tier) : Option Caller :=
  (s.tickets.get? k).bind fun x => x.on t

/-! ## What holds of every reachable state -/

/-- A request waits in the queue of its own tier and only while it is inside `gate`. Sessions
are recorded with tiers that have queues, and requests are admitted on such tiers. -/
structure Sound (s : AdmissionSystem ρ) : Prop where
  waiting : ∀ t q, s.queue? t = some q → ∀ k, (s.share k t).any Caller.isInside = false →
    q.semaphore.waiters.get? k = none
  recorded : ∀ sid t, s.controller.held.get? sid = some t → ∃ q, s.queue? t = some q
  served : ∀ k x, s.tickets.get? k = some x → x.caller.isHolding = true →
    ∃ q, s.queue? x.tier = some q

/-- Every slot of a tier is free, granted inside `gate`, or taken by an admitted request. -/
def Conserved (capacity : Tier → ℕ) (s : AdmissionSystem ρ) : Prop :=
  ∀ t q, s.queue? t = some q →
    q.semaphore.value + q.semaphore.granted + s.admitted t = capacity t

omit [DecidableEq ρ] in
/-- A controller that nobody has used has all its slots. -/
theorem conserved_new (config : AdmissionConfig) (accountant : TokenAccountant)
    (registry : BackendRegistry) :
    (new config accountant registry : AdmissionSystem ρ).Conserved (totalInflight registry) := by
  intro t q found
  rw [queue?_new] at found
  split at found
  · cases found
  · cases found
    rfl

/-- One request moves on, and every queue moves it. A session is recorded only with a tier
that its request is admitted on. -/
structure Moves (k : ρ) (x : Ticket) (s t : AdmissionSystem ρ) : Prop where
  tickets : t.tickets = s.tickets.set k x
  queues : ∀ tier q, s.queue? tier = some q → ∃ r, t.queue? tier = some r ∧
    BackpressureQueue.Moves k (s.share k tier) (x.on tier) q r
  tiers : ∀ tier r, t.queue? tier = some r → ∃ q, s.queue? tier = some q
  held : ∀ sid tier, t.controller.held.get? sid = some tier →
    s.controller.held.get? sid = some tier ∨ (x.caller.isHolding = true ∧ tier = x.tier)
  served : x.caller.isHolding = true → ∃ q, s.queue? x.tier = some q

/-- The queue of a tier after a move was there before. -/
theorem Moves.origin {k : ρ} {x : Ticket} {s t : AdmissionSystem ρ} (moves : Moves k x s t)
    {tier : Tier} {r : BackpressureQueue ρ} (found : t.queue? tier = some r) :
    ∃ q, s.queue? tier = some q ∧
      BackpressureQueue.Moves k (s.share k tier) (x.on tier) q r := by
  obtain ⟨q, before⟩ := moves.tiers tier r found
  obtain ⟨r', after, moved⟩ := moves.queues tier q before
  obtain rfl : r = r' := Option.some.inj (found.symm.trans after)
  exact ⟨q, before, moved⟩

/-- A tier has a queue before and after a move, or neither. -/
theorem Moves.queue_cases {k : ρ} {x : Ticket} {s t : AdmissionSystem ρ} (moves : Moves k x s t)
    (tier : Tier) :
    (s.queue? tier = none ∧ t.queue? tier = none) ∨
      ∃ q r, s.queue? tier = some q ∧ t.queue? tier = some r ∧
        BackpressureQueue.Moves k (s.share k tier) (x.on tier) q r := by
  cases after : t.queue? tier with
  | some r =>
      obtain ⟨q, before, moved⟩ := moves.origin after
      exact .inr ⟨q, r, before, rfl, moved⟩
  | none =>
      cases before : s.queue? tier with
      | none => exact .inl ⟨rfl, rfl⟩
      | some q =>
          obtain ⟨r, present, _⟩ := moves.queues tier q before
          cases after.symm.trans present

theorem admitted_set {s t : AdmissionSystem ρ} {k : ρ} {x : Ticket}
    (tickets : t.tickets = s.tickets.set k x) (tier : Tier) :
    t.admitted tier + ((s.share k tier).any Caller.isHolding).toNat =
      s.admitted tier + ((x.on tier).any Caller.isHolding).toNat := by
  have counted := Dict.count_set (fun _ x => (Ticket.on x tier).any Caller.isHolding) s.tickets k x
  have same : ((s.tickets.get? k).any fun x => (x.on tier).any Caller.isHolding) =
      (s.share k tier).any Caller.isHolding := by
    unfold share
    cases s.tickets.get? k <;> rfl
  rw [same] at counted
  rw [admitted, tickets]
  exact counted

theorem share_of_tickets {s t : AdmissionSystem ρ} {k : ρ} {x : Ticket}
    (tickets : t.tickets = s.tickets.set k x) (j : ρ) (tier : Tier) :
    t.share j tier = if j = k then x.on tier else s.share j tier := by
  unfold share
  rw [tickets, Dict.get?_set]
  split <;> rfl

/-- A request that moves on conserves the slots. -/
theorem conserved_of_moves {capacity : Tier → ℕ} {s t : AdmissionSystem ρ} {k : ρ} {x : Ticket}
    (moves : Moves k x s t) (conserved : s.Conserved capacity) : t.Conserved capacity := by
  intro tier r found
  obtain ⟨q, before, moved⟩ := moves.origin found
  have slots := moved.slots
  have counted := admitted_set moves.tickets tier
  have start := conserved tier q before
  simp only [Semaphore.slots] at slots
  omega

/-- A request that moves on waits only while it is inside. -/
theorem waiting_of_moves {s t : AdmissionSystem ρ} {k : ρ} {x : Ticket} (moves : Moves k x s t)
    (sound : s.Sound) (tier : Tier) (r : BackpressureQueue ρ) (found : t.queue? tier = some r)
    (j : ρ) (outside : (t.share j tier).any Caller.isInside = false) :
    r.semaphore.waiters.get? j = none := by
  obtain ⟨q, before, moved⟩ := moves.origin found
  rw [share_of_tickets moves.tickets] at outside
  split at outside
  · rename_i same
    subst same
    exact moved.own outside
  · rename_i differ
    exact (moved.others j differ).mpr (sound.waiting tier q before j outside)

/-- A request that moves on keeps the state sound. -/
theorem sound_of_moves {s t : AdmissionSystem ρ} {k : ρ} {x : Ticket} (moves : Moves k x s t)
    (sound : s.Sound) : t.Sound := by
  have still : ∀ tier, (∃ q, s.queue? tier = some q) → ∃ r, t.queue? tier = some r := by
    rintro tier ⟨q, before⟩
    obtain ⟨r, after, _⟩ := moves.queues tier q before
    exact ⟨r, after⟩
  refine ⟨waiting_of_moves moves sound, ?_, ?_⟩
  · intro sid tier found
    rcases moves.held sid tier found with earlier | ⟨holds, rfl⟩
    · exact still tier (sound.recorded sid tier earlier)
    · exact still x.tier (moves.served holds)
  · intro j y found holds
    rw [moves.tickets, Dict.get?_set] at found
    split at found
    · cases found
      exact still x.tier (moves.served holds)
    · exact still y.tier (sound.served j y found holds)

/-! ## Steps as moves -/

/-- A queue does not move a request that neither waits in it nor holds a slot of it. -/
theorem moves_unseen {k : ρ} {q : BackpressureQueue ρ} {after : Option Caller}
    (absent : q.semaphore.waiters.get? k = none) (outside : after.any Caller.isInside = false)
    (empty_handed : after.any Caller.isHolding = false) :
    BackpressureQueue.Moves k none after q q :=
  ⟨⟨rfl, rfl, rfl⟩, by simp [outside], by simp [outside], by simp [empty_handed],
    fun _ _ => Iff.rfl, fun _ => absent⟩

/-- A request whose tier's queue moves it, while no other queue changes, moves on. -/
theorem moves_of_own_queue {s t : AdmissionSystem ρ} {k : ρ} {x : Ticket} (sound : s.Sound)
    (tickets : t.tickets = s.tickets.set k x)
    (others : ∀ tier, tier ≠ x.tier → t.queue? tier = s.queue? tier)
    (own : ∀ q, s.queue? x.tier = some q → ∃ r, t.queue? x.tier = some r ∧
      BackpressureQueue.Moves k (s.share k x.tier) (some x.caller) q r)
    (missing : s.queue? x.tier = none → t.queue? x.tier = none)
    (unshared : ∀ tier, tier ≠ x.tier → s.share k tier = none)
    (held : ∀ sid tier, t.controller.held.get? sid = some tier →
      s.controller.held.get? sid = some tier ∨ (x.caller.isHolding = true ∧ tier = x.tier))
    (served : x.caller.isHolding = true → ∃ q, s.queue? x.tier = some q) : Moves k x s t := by
  refine ⟨tickets, ?_, ?_, held, served⟩
  · intro tier q before
    by_cases same : tier = x.tier
    · subst same
      rw [Ticket.on_tier]
      exact own q before
    · rw [Ticket.on_of_ne fun equal => same equal.symm, unshared tier same, others tier same]
      refine ⟨q, before, moves_unseen (sound.waiting tier q before k ?_) rfl rfl⟩
      rw [unshared tier same]
      rfl
  · intro tier r after
    by_cases same : tier = x.tier
    · subst same
      exact Option.ne_none_iff_exists'.mp fun none => by simp [missing none] at after
    · exact ⟨r, others tier same ▸ after⟩

/-- A call of `gate` moves its request. -/
theorem gate_moves {s : AdmissionSystem ρ} (sound : s.Sound) {k : ρ}
    (fresh : s.tickets.get? k = none) {session : SessionContext} {tier : Tier} {estimated : ℤ}
    {clock : GateClock} {d : AdmissionController ρ} {caller : Caller}
    (gated : s.controller.gate k session tier estimated clock = (d, caller)) :
    Moves k ⟨session, tier, caller⟩ s ⟨d, s.tickets.set k ⟨session, tier, caller⟩⟩ := by
  have unshared : ∀ t, s.share k t = none := by
    intro t
    rw [share, fresh]
    rfl
  rcases AdmissionController.gate_cases gated with
    ⟨queues, held, error, rfl⟩ | ⟨q, r, found, acquired, queues, held⟩
  · refine ⟨rfl, fun t q before => ⟨q, ?_, ?_⟩, fun t q after => ⟨q, ?_⟩, ?_,
      fun holds => by cases holds⟩
    · rw [queue?, queues]
      exact before
    · rw [unshared]
      apply moves_unseen (sound.waiting t q before k (by rw [unshared]; rfl))
      · unfold Ticket.on
        split <;> rfl
      · unfold Ticket.on
        split <;> rfl
    · rw [queue?, queues] at after
      exact after
    · intro sid t at_sid
      rw [held] at at_sid
      exact .inl at_sid
  · have after : ∀ t, d.queues.get? t = if t = tier then some r else s.queue? t := fun t => by
      rw [queues, Dict.get?_set]
      rfl
    refine moves_of_own_queue sound rfl (fun t differ => (after t).trans (if_neg differ))
      (fun q' before => ⟨r, (after tier).trans (if_pos rfl), ?_⟩)
      (fun none => by simp [queue?, found] at none) (fun t _ => unshared t)
      ?_ (fun _ => ⟨q, found⟩)
    · obtain rfl : q = q' := Option.some.inj (found.symm.trans before)
      rw [unshared]
      refine BackpressureQueue.acquire_moves (sound.waiting tier q found k ?_) acquired
      rw [unshared]
      rfl
    · intro sid t at_sid
      rw [held] at at_sid
      split at at_sid
      · rename_i own
        cases at_sid
        exact .inr ⟨own.2, rfl⟩
      · exact .inl at_sid

/-- What the queues see of a request on its tier, and on the others. -/
theorem share_eq {s : AdmissionSystem ρ} {k : ρ} {session : SessionContext} {tier : Tier}
    {caller : Caller} (found : s.tickets.get? k = some ⟨session, tier, caller⟩) (t : Tier) :
    s.share k t = if tier = t then some caller else none := by
  rw [share, found]
  rfl

/-- A wake-up in `gate` moves its request. -/
theorem resume_moves {s : AdmissionSystem ρ} (sound : s.Sound) {k : ρ}
    {session : SessionContext} {tier : Tier} {start finish : Time}
    {interrupted : Option Interrupt}
    (inside : s.tickets.get? k = some ⟨session, tier, .inside start interrupted⟩)
    {d : AdmissionController ρ} {caller : Caller}
    (resumed : s.controller.resume k session tier start interrupted finish = some (d, caller)) :
    Moves k ⟨session, tier, caller⟩ s ⟨d, s.tickets.set k ⟨session, tier, caller⟩⟩ := by
  obtain ⟨q, r, found, woke, queues, held⟩ := AdmissionController.resume_spec resumed
  have after : ∀ t, d.queues.get? t = if t = tier then some r else s.queue? t := fun t => by
    rw [queues, Dict.get?_set]
    rfl
  refine moves_of_own_queue sound rfl (fun t differ => (after t).trans (if_neg differ))
    (fun q' before => ⟨r, (after tier).trans (if_pos rfl), ?_⟩)
    (fun none => by simp [queue?, found] at none)
    (fun t differ => (share_eq inside t).trans (if_neg fun same => differ same.symm))
    ?_ (fun _ => ⟨q, found⟩)
  · obtain rfl : q = q' := Option.some.inj (found.symm.trans before)
    rw [share_eq inside, if_pos rfl]
    exact (BackpressureQueue.resume_moves woke).1
  · intro sid t at_sid
    rw [held] at at_sid
    split at at_sid
    · rename_i own
      cases at_sid
      exact .inr ⟨own.2, rfl⟩
    · exact .inl at_sid

/-- An interruption moves its request. -/
theorem interrupt_moves {s : AdmissionSystem ρ} (sound : s.Sound) {k : ρ}
    {session : SessionContext} {tier : Tier} {start : Time} {before after : Option Interrupt}
    (inside : s.tickets.get? k = some ⟨session, tier, .inside start before⟩) :
    Moves k ⟨session, tier, .inside start after⟩ s
      ⟨s.controller.interrupt k tier,
        s.tickets.set k ⟨session, tier, .inside start after⟩⟩ := by
  have queues : ∀ t, (s.controller.interrupt k tier).queues.get? t =
      if t = tier then (s.queue? t).map (BackpressureQueue.interrupt · k) else s.queue? t :=
    fun t => Dict.get?_modify ..
  refine moves_of_own_queue sound rfl (fun t differ => (queues t).trans (if_neg differ))
    (fun q found => ⟨q.interrupt k, ?_, ?_⟩) ?_
    (fun t differ => (share_eq inside t).trans (if_neg fun same => differ same.symm))
    (fun _ _ at_sid => .inl at_sid) (fun holds => by cases holds)
  · exact (queues tier).trans (by rw [if_pos rfl, found]; rfl)
  · rw [share_eq inside, if_pos rfl]
    exact BackpressureQueue.interrupt_moves ..
  · intro none
    exact (queues tier).trans (by rw [if_pos rfl, none]; rfl)

/-! ## Releases -/

/-- The queues after a release: the queue of the recorded tier gets a slot back. -/
theorem queue?_release (s : AdmissionSystem ρ) (session : SessionContext) (tier t : Tier) :
    (s.controller.release session tier).queues.get? t =
      if s.controller.held.get? session.sessionId = some t then
        (s.queue? t).map BackpressureQueue.release
      else s.queue? t := by
  unfold AdmissionController.release
  cases recorded : s.controller.held.get? session.sessionId with
  | none => rfl
  | some heldTier =>
      simp only [Dict.get?_modify, Option.some.injEq, eq_comm (a := t)]
      rfl

theorem held_release {c : AdmissionController ρ} (session : SessionContext) (tier : Tier)
    {t : Tier} {sid : String} (found : (c.release session tier).held.get? sid = some t) :
    c.held.get? sid = some t := by
  unfold AdmissionController.release at found
  split at found
  · exact found
  · exact Dict.get?_of_get?_erase found

/-- A release keeps the state sound, whatever it gives back. Nobody may leave `gate` meanwhile,
or get a slot. -/
theorem sound_of_release {s : AdmissionSystem ρ} (sound : s.Sound) (session : SessionContext)
    (tier : Tier) {tickets : Dict ρ Ticket}
    (stays : ∀ j t,
      (share ⟨s.controller.release session tier, tickets⟩ j t).any Caller.isInside = false →
        (s.share j t).any Caller.isInside = false)
    (holders : ∀ j y, tickets.get? j = some y → y.caller.isHolding = true →
      s.tickets.get? j = some y) :
    Sound (⟨s.controller.release session tier, tickets⟩ : AdmissionSystem ρ) := by
  have still : ∀ t, (∃ q, s.queue? t = some q) →
      ∃ r, (s.controller.release session tier).queues.get? t = some r := by
    rintro t ⟨q, found⟩
    rw [queue?_release, found]
    split
    · exact ⟨_, rfl⟩
    · exact ⟨_, rfl⟩
  refine ⟨?_, fun sid t at_sid => still t
    (sound.recorded sid t (held_release session tier at_sid)),
    fun j y found held => still y.tier (sound.served j y (holders j y found held) held)⟩
  intro t r found j outside
  have before := stays j t outside
  rw [queue?, queue?_release] at found
  split at found
  · obtain ⟨q, earlier, rfl⟩ := Option.map_eq_some_iff.mp found
    exact (Semaphore.release_woken q.semaphore).get?_eq_none.mpr
      (sound.waiting t q earlier j before)
  · exact sound.waiting t r found j before

/-- A release of a request keeps the state sound. -/
theorem sound_release {s : AdmissionSystem ρ} (sound : s.Sound) {k : ρ}
    {session : SessionContext} {tier : Tier} {wait : Time}
    (holds : s.tickets.get? k = some ⟨session, tier, .holding wait⟩) :
    Sound (⟨s.controller.release session tier, s.tickets.set k ⟨session, tier, .released⟩⟩ :
      AdmissionSystem ρ) := by
  refine sound_of_release sound session tier ?_ ?_
  · intro j t outside
    rw [share_of_tickets (k := k) rfl] at outside
    split at outside
    · rename_i same
      subst same
      rw [share_eq holds]
      split <;> rfl
    · exact outside
  · intro j y found held
    rw [Dict.get?_set] at found
    split at found
    · cases found
      cases held
    · exact found

/-- **When a release conserves the slots.** It does exactly if its session is recorded with the
tier of its request. -/
theorem conserved_release_iff {capacity : Tier → ℕ} {s : AdmissionSystem ρ} (sound : s.Sound)
    (conserved : s.Conserved capacity) {k : ρ} {session : SessionContext} {tier : Tier}
    {wait : Time} (holds : s.tickets.get? k = some ⟨session, tier, .holding wait⟩) :
    Conserved capacity (⟨s.controller.release session tier,
        s.tickets.set k ⟨session, tier, .released⟩⟩ : AdmissionSystem ρ) ↔
      s.controller.held.get? session.sessionId = some tier := by
  constructor
  · intro after
    by_contra other
    -- The queue of the request's tier gets nothing back, and the request is gone.
    obtain ⟨q, found⟩ := sound.served k _ holds rfl
    have same : (s.controller.release session tier).queues.get? tier = some q := by
      rw [queue?_release, if_neg other]
      exact found
    have gone := after tier q same
    have start := conserved tier q found
    have counted := admitted_set (s := s) (k := k) (x := ⟨session, tier, .released⟩)
      (t := ⟨s.controller.release session tier, s.tickets.set k ⟨session, tier, .released⟩⟩)
      rfl tier
    simp only [share_eq holds, Ticket.on, if_true, Option.any_some, Caller.isHolding_holding,
      Caller.isHolding_released, Bool.toNat_true, Bool.toNat_false] at counted
    omega
  · intro recorded
    have released : ∀ t, (s.controller.release session tier).queues.get? t =
        if t = tier then (s.queue? t).map BackpressureQueue.release else s.queue? t := by
      intro t
      rw [queue?_release, recorded]
      simp only [Option.some.injEq, eq_comm (a := tier)]
    refine conserved_of_moves (moves_of_own_queue (k := k) sound rfl
      (fun t differ => (released t).trans (if_neg differ))
      (fun q found => ⟨q.release, ?_, ?_⟩) ?_
      (fun t differ => (share_eq holds t).trans (if_neg fun same => differ same.symm))
      (fun _ _ at_sid => .inl (held_release session tier at_sid))
      (fun empty => by cases empty)) conserved
    · exact (released tier).trans (by rw [if_pos rfl, found]; rfl)
    · rw [share_eq holds, if_pos rfl]
      refine BackpressureQueue.release_moves (sound.waiting tier q found k ?_) wait
      rw [share_eq holds, if_pos rfl]
      rfl
    · intro none
      exact (released tier).trans (by rw [if_pos rfl, none]; rfl)

/-! ## Runs -/

/-- A request that holds a slot has its session recorded with its tier. -/
def Recorded (k : ρ) (s : AdmissionSystem ρ) : Prop :=
  ∀ x, s.tickets.get? k = some x → x.caller.isHolding = true →
    s.controller.held.get? x.session.sessionId = some x.tier

/-- A release finds its session recorded with the tier of its request. -/
def ReleasesOwn (s : AdmissionSystem ρ) : AdmissionEvent ρ → Prop
  | .release k => s.Recorded k
  | _ => True

/-- **The shape of a step.** A request moves on, or it is released, or the surroundings change
and no request notices. -/
theorem step_cases {s t : AdmissionSystem ρ} {e : AdmissionEvent ρ} (sound : s.Sound)
    (stepped : s.step e = some t) :
    (s.ReleasesOwn e ∧ ∃ k x, Moves k x s t) ∨
      (∃ k session tier wait, e = .release k ∧
        s.tickets.get? k = some ⟨session, tier, .holding wait⟩ ∧
        t = ⟨s.controller.release session tier,
          s.tickets.set k ⟨session, tier, .released⟩⟩) ∨
      (s.ReleasesOwn e ∧ t.tickets = s.tickets ∧ (∀ tier, t.queue? tier = s.queue? tier) ∧
        t.controller.held = s.controller.held) := by
  cases does_of_step stepped with
  | gate fresh gated => exact .inl ⟨trivial, _, _, gate_moves sound fresh gated⟩
  | interrupt inside => exact .inl ⟨trivial, _, _, interrupt_moves sound inside⟩
  | resume inside woke => exact .inl ⟨trivial, _, _, resume_moves sound inside woke⟩
  | release holds => exact .inr (.inl ⟨_, _, _, _, rfl, holds, rfl⟩)
  | debit => exact .inr (.inr ⟨trivial, rfl, fun _ => rfl, rfl⟩)
  | markStatus => exact .inr (.inr ⟨trivial, rfl, fun _ => rfl, rfl⟩)

/-- Step lemma: every step keeps the state sound. -/
theorem sound_step {s t : AdmissionSystem ρ} {e : AdmissionEvent ρ} (sound : s.Sound)
    (stepped : s.step e = some t) : t.Sound := by
  rcases step_cases sound stepped with
    ⟨_, k, x, moves⟩ | ⟨k, session, tier, wait, _, holds, rfl⟩ | ⟨_, tickets, queues, held⟩
  · exact sound_of_moves moves sound
  · exact sound_release sound holds
  · have shares : ∀ k tier, t.share k tier = s.share k tier := by
      intro k tier
      rw [share, tickets]
      rfl
    refine ⟨?_, ?_, ?_⟩
    · intro tier q found k outside
      exact sound.waiting tier q (queues tier ▸ found) k (shares k tier ▸ outside)
    · intro sid tier found
      exact queues tier ▸ sound.recorded sid tier (held ▸ found)
    · intro k x found holds
      exact queues x.tier ▸ sound.served k x (tickets ▸ found) holds

/-- Step lemma: a step conserves the slots exactly if it is not a release of a slot of another
tier. -/
theorem conserved_step_iff {capacity : Tier → ℕ} {s t : AdmissionSystem ρ}
    {e : AdmissionEvent ρ} (sound : s.Sound) (conserved : s.Conserved capacity)
    (stepped : s.step e = some t) : t.Conserved capacity ↔ s.ReleasesOwn e := by
  rcases step_cases sound stepped with
    ⟨own, k, x, moves⟩ | ⟨k, session, tier, wait, rfl, holds, rfl⟩ | ⟨own, tickets, queues, _⟩
  · exact iff_of_true (conserved_of_moves moves conserved) own
  · rw [conserved_release_iff sound conserved holds]
    simp [ReleasesOwn, Recorded, holds]
  · refine iff_of_true ?_ own
    intro tier q found
    rw [admitted, tickets]
    exact conserved tier q (queues tier ▸ found)

section Start

variable (config : AdmissionConfig) (accountant : TokenAccountant) (registry : BackendRegistry)

theorem sound_new : (new config accountant registry : AdmissionSystem ρ).Sound := by
  refine ⟨?_, ?_, ?_⟩
  · intro t q found k _
    rw [queue?_new] at found
    split at found
    · cases found
    · cases found
      rfl
  · intro sid t found
    simp [new, AdmissionController.new] at found
  · intro k x found
    simp [new] at found

/-- **When slots are conserved.** In a run of requests through the controller every tier keeps
all its slots in every state exactly if every release finds its session recorded with the tier
of its request. -/
theorem slots_conserved_iff (events : List (AdmissionEvent ρ)) (s : AdmissionSystem ρ)
    (ran : run step (new config accountant registry) events = some s) :
    EveryState step (new config accountant registry) events
        (Conserved (totalInflight registry)) ↔
      EveryStep step (new config accountant registry) events ReleasesOwn :=
  everyState_iff_everyStep (I := Sound)
    (fun _ _ _ sound stepped => sound_step sound stepped)
    (fun _ _ _ sound conserved stepped => conserved_step_iff sound conserved stepped)
    (sound_new config accountant registry) (conserved_new config accountant registry) ran

end Start

/-! ## Sessions without overlap -/

/-- The request a step is of, and its session. -/
def actor (s : AdmissionSystem ρ) : AdmissionEvent ρ → Option (ρ × String)
  | .gate k session _ _ _ => some (k, session.sessionId)
  | .interrupt k _ | .resume k _ | .release k =>
    (s.tickets.get? k).map fun x => (k, x.session.sessionId)
  | .debit _ _ _ _ | .markStatus _ _ => none

/-- While a request holds a slot, a step of another request is of another session. -/
def Apart (k : ρ) (s : AdmissionSystem ρ) (e : AdmissionEvent ρ) : Prop :=
  ∀ x, s.tickets.get? k = some x → x.caller.isHolding = true →
    ∀ j sid, s.actor e = some (j, sid) → j ≠ k → sid ≠ x.session.sessionId

/-- A step changes the registry only by marking a status. -/
theorem registry_step {s t : AdmissionSystem ρ} {e : AdmissionEvent ρ}
    (stepped : s.step e = some t) :
    t.controller.registry = match e with
      | .markStatus id status => s.controller.registry.markStatus id status
      | _ => s.controller.registry := by
  cases does_of_step stepped with
  | gate _ gated => exact AdmissionController.registry_gate gated
  | interrupt => rfl
  | resume _ woke => exact (AdmissionController.frame_resume woke).1
  | @release _ session tier => exact (AdmissionController.frame_release s.controller session tier).1
  | debit => rfl
  | markStatus => rfl

/-- A step that is not a debit leaves an undebited accountant undebited. -/
theorem undebited_step {s t : AdmissionSystem ρ} {e : AdmissionEvent ρ}
    (undebited : s.controller.accountant.Undebited)
    (no_debit : ∀ agentId input output now, e ≠ .debit agentId input output now)
    (stepped : s.step e = some t) :
    t.controller.accountant.Undebited ∧
      t.controller.accountant.config = s.controller.accountant.config := by
  cases does_of_step stepped with
  | gate _ gated => exact AdmissionController.accountant_gate undebited gated
  | interrupt => exact ⟨undebited, rfl⟩
  | resume _ woke =>
      have same := (AdmissionController.frame_resume woke).2
      exact ⟨same ▸ undebited, congrArg _ same⟩
  | @release _ session tier =>
      have same := (AdmissionController.frame_release s.controller session tier).2
      exact ⟨same ▸ undebited, congrArg _ same⟩
  | debit => exact absurd rfl (no_debit _ _ _ _)
  | markStatus => exact ⟨undebited, rfl⟩

/-- A step of one request leaves the tickets of the others. -/
theorem tickets_frame {s t : AdmissionSystem ρ} {e : AdmissionEvent ρ} {k : ρ}
    (stepped : s.step e = some t) (other : ∀ sid, s.actor e ≠ some (k, sid)) :
    t.tickets.get? k = s.tickets.get? k := by
  cases does_of_step stepped with
  | gate fresh gated =>
      exact Dict.get?_set_of_ne _ _ fun same => other _ (by rw [same]; rfl)
  | interrupt inside =>
      exact Dict.get?_set_of_ne _ _ fun same => other _ (by rw [same, actor, inside]; rfl)
  | resume inside woke =>
      exact Dict.get?_set_of_ne _ _ fun same => other _ (by rw [same, actor, inside]; rfl)
  | release holds =>
      exact Dict.get?_set_of_ne _ _ fun same => other _ (by rw [same, actor, holds]; rfl)
  | debit => rfl
  | markStatus => rfl

/-- A request that comes out of `gate` leaves the records of other sessions. -/
theorem recorded_of_held {s t : AdmissionSystem ρ} {j k : ρ} {y : Ticket}
    (recorded : s.Recorded k) (tickets : t.tickets = s.tickets.set j y)
    (held : ∀ sid, t.controller.held.get? sid =
      if sid = y.session.sessionId ∧ y.caller.isHolding = true then some y.tier
      else s.controller.held.get? sid)
    (apart : ∀ x, s.tickets.get? k = some x → x.caller.isHolding = true → j ≠ k →
      y.session.sessionId ≠ x.session.sessionId) : t.Recorded k := by
  intro x found holds
  rw [tickets, Dict.get?_set] at found
  rw [held]
  split at found
  · cases found
    rw [if_pos ⟨rfl, holds⟩]
  · rename_i differ
    have other := apart x found holds fun same => differ same.symm
    rw [if_neg fun own => other own.1.symm]
    exact recorded x found holds

/-- Step lemma: steps of other sessions leave the record of a request. -/
theorem recorded_step {s t : AdmissionSystem ρ} {e : AdmissionEvent ρ} {k : ρ}
    (recorded : s.Recorded k) (apart : s.Apart k e) (stepped : s.step e = some t) :
    t.Recorded k := by
  cases does_of_step stepped with
  | gate _ gated =>
      exact recorded_of_held recorded rfl (AdmissionController.held_gate gated)
        fun x found holds differ => apart x found holds _ _ rfl differ
  | interrupt inside =>
      refine recorded_of_held recorded rfl ?_ fun x found holds differ =>
        apart x found holds _ _ (by simp [actor, inside]) differ
      intro sid
      simp [AdmissionController.interrupt]
  | resume inside woke =>
      obtain ⟨_, _, _, _, _, held⟩ := AdmissionController.resume_spec woke
      exact recorded_of_held recorded rfl held fun x found holds differ =>
        apart x found holds _ _ (by simp [actor, inside]) differ
  | @release j session tier wait holding =>
      intro x found holds
      rw [Dict.get?_set] at found
      split at found
      · cases found
        cases holds
      · rename_i differ
        have own := recorded x found holds
        have other : session.sessionId ≠ x.session.sessionId :=
          apart x found holds j _ (by simp [actor, holding]) fun same => differ same.symm
        simp only [AdmissionController.release]
        split
        · exact own
        · exact (Dict.get?_erase_of_ne _ fun same => other same.symm).trans own
  | debit => exact recorded
  | markStatus => exact recorded

/-- **Sessions without overlap conserve the slots.** If no request takes a step while another
one of its session holds a slot, every release gives back a slot of the tier of its request. -/
theorem releasesOwn_of_apart {config : AdmissionConfig} {accountant : TokenAccountant}
    {registry : BackendRegistry} {events : List (AdmissionEvent ρ)}
    (apart : EveryStep step (new config accountant registry) events
      fun s e => ∀ k, s.Apart k e) :
    EveryStep step (new config accountant registry) events ReleasesOwn := by
  intro first e second s split before
  subst split
  have recorded : ∀ k, s.Recorded k :=
    invariant_of_everyStep (P := fun s => ∀ k, Recorded k s)
      (fun _ _ _ all apart stepped k => recorded_step (all k) (apart k) stepped)
      (fun _ _ found => by simp [new] at found) apart.prefix before
  cases e with
  | release k => exact recorded k
  | _ => trivial

/-! ## Two requests of one session -/

def oneSession : SessionContext := { sessionId := "s", agentId := "a" }

def atStart : GateClock := ⟨0, 0, 0, 0⟩

/-- Two requests of a session are admitted on a tier, and then both are released. -/
def overlap : List (AdmissionEvent ℕ) := [
  .gate 0 oneSession .small 50 atStart, .gate 1 oneSession .small 50 atStart,
  .release 0, .release 1]

/-- Two requests of one session that overlap lose a slot: nothing is admitted any more, and one
of the hundred and twenty-eight slots of the tier is missing. -/
theorem overlap_loses_slot :
    ¬ ∀ (config : AdmissionConfig) (accountant : TokenAccountant) (registry : BackendRegistry)
      (events : List (AdmissionEvent ℕ)) (s : AdmissionSystem ℕ),
      run step (new config accountant registry) events = some s →
      s.Conserved (totalInflight registry) := by
  intro always
  have lost : ((run step (new shippedConfig.admission (.new shippedConfig.admission)
      (.new shippedConfig)) overlap).bind fun s => (s.queue? .small).map fun q =>
        q.semaphore.value + q.semaphore.granted + s.admitted .small) = some 127 := by
    decide +kernel
  obtain ⟨s, ran, rest⟩ := Option.bind_eq_some_iff.mp lost
  obtain ⟨q, found, total⟩ := Option.map_eq_some_iff.mp rest
  have kept := always _ _ _ overlap s ran .small q found
  have capacity : totalInflight (.new shippedConfig) .small = 128 := by decide +kernel
  omega

/-- The condition for one request, which is admitted and released. -/
theorem slots_conserved_iff_for_one_request :
    ∃ s, run step (new shippedConfig.admission (.new shippedConfig.admission)
        (.new shippedConfig)) [.gate 0 oneSession .small 50 atStart, .release 0] = some s ∧
      (EveryState step (new shippedConfig.admission (.new shippedConfig.admission)
          (.new shippedConfig)) [.gate 0 oneSession .small 50 atStart, .release 0]
          (Conserved (totalInflight (.new shippedConfig))) ↔
        EveryStep step (new shippedConfig.admission (.new shippedConfig.admission)
          (.new shippedConfig)) [.gate 0 oneSession .small 50 atStart, .release 0]
          ReleasesOwn) :=
  ⟨_, rfl, slots_conserved_iff _ _ _ _ _ rfl⟩

end AdmissionSystem

end AgentServe
