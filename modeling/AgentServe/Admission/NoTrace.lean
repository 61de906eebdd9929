import AgentServe.Accounting.Window
import AgentServe.Admission.OverRelease

/-!
# Calls of `gate` that raise

A call of `gate` can raise at once, or after a wait in which other requests went on. Its own steps
are then one stretch up to the wait, the interruptions that reach it, and the stretch that raises.

The steps of a request that is never admitted leave the slots that nobody holds as they are, and
count it in a queue exactly while it is inside (`own_step_effect`). What they read of a window, no
later call of the accountant can tell (`alike_gate`). So, whatever happens in between, they have no
effect when the call has raised (`AdmissionHost.noTrace_of_raised`). This is shown for every system
that carries an admission controller along (`AdmissionHost`).
-/

set_option autoImplicit false

namespace AgentServe

open Lib

/-- A call that got its slot, whether it still has it or not. -/
def Caller.wasAdmitted : Caller → Bool
  | .holding _ | .released => true
  | _ => false

theorem Caller.isHolding_of_unadmitted {c : Caller} (unadmitted : c.wasAdmitted = false) :
    c.isHolding = false := by
  cases c with
  | holding => cases unadmitted
  | _ => rfl

/-- The clock readings with which a call of `gate` looks into the window of its agent. -/
def AdmissionController.readings {ι : Type} (c : AdmissionController ι) (session : SessionContext)
    (estimated : ℤ) (clock : GateClock) : List Time :=
  if (c.accountant.checkBudget session.agentId estimated clock.check).2 then [clock.check]
  else [clock.check, clock.report]

namespace AdmissionSystem

variable {ρ : Type}

/-- The slots of a tier that no admitted request holds. A slot that is granted to a caller inside
`gate` is one of them. -/
def unheldSlots (s : AdmissionSystem ρ) (t : Tier) : ℤ :=
  ((s.queue? t).map fun q => (q.semaphore.slots : ℤ)).getD 0

/-- The callers counted in the queue of a tier. -/
def queued (s : AdmissionSystem ρ) (t : Tier) : ℤ :=
  ((s.queue? t).map BackpressureQueue.queued).getD 0

/-- The clock readings with which a step looks into windows. -/
def readings (s : AdmissionSystem ρ) : OpenEvent ρ → List Time
  | .call (.gate _ session _ estimated clock) => s.controller.readings session estimated clock
  | _ => []

/-- A step that nobody but its own request can notice: the records and the other requests are as
they were, and the accountant answers all later calls as it would have. -/
structure Unnoticed (k : ρ) (readings : List Time) (s t : AdmissionSystem ρ) [DecidableEq ρ] :
    Prop where
  held : ∀ sid, t.controller.held.get? sid = s.controller.held.get? sid
  others : ∀ j, j ≠ k → t.tickets.get? j = s.tickets.get? j
  answers : ∀ now, (∀ time ∈ readings, time ≤ now) → ∀ calls : List (Time × AccountantCall),
    (now :: calls.map Prod.fst).IsChain (· ≤ ·) →
      history TokenAccountant.call t.controller.accountant calls =
        history TokenAccountant.call s.controller.accountant calls

variable [DecidableEq ρ]

theorem Unnoticed.mono {k : ρ} {readings more : List Time} {s t : AdmissionSystem ρ}
    (unnoticed : Unnoticed k readings s t) (subset : readings ⊆ more) :
    Unnoticed k more s t where
  held := unnoticed.held
  others := unnoticed.others
  answers := fun now past => unnoticed.answers now fun time member => past time (subset member)

/-- A step is one of a request. -/
def own (k : ρ) (s : AdmissionSystem ρ) : OpenEvent ρ → Bool
  | .call e => (s.actor e).any fun a => a.1 = k
  | .release _ _ => false

/-- A request has not got a slot. -/
def Unadmitted (k : ρ) (s : AdmissionSystem ρ) : Prop :=
  ∀ x, s.tickets.get? k = some x → x.caller.wasAdmitted = false

/-- Whether the queue of a tier counts a request, as a number. -/
def insideOn (k : ρ) (s : AdmissionSystem ρ) (t : Tier) : ℤ :=
  ((s.queue? t).map fun _ => (((s.share k t).any Caller.isInside).toNat : ℤ)).getD 0

/-! ## The accountant -/

/-- What `gate` reads of a window, no later call can tell. -/
theorem alike_gate {c d : AdmissionController ρ} {k : ρ} {session : SessionContext} {tier : Tier}
    {estimated : ℤ} {clock : GateClock} {caller : Caller}
    (gated : c.gate k session tier estimated clock = (d, caller)) {now : Time}
    (past : ∀ time ∈ c.readings session estimated clock, time ≤ now) :
    TokenAccountant.Alike now c.accountant d.accountant := by
  have checked : clock.check ≤ now := by
    apply past
    unfold AdmissionController.readings
    split <;> simp
  have asked : TokenAccountant.Alike now c.accountant
      (c.accountant.checkBudget session.agentId estimated clock.check).1 :=
    (TokenAccountant.alike_checkBudget _ _ _ _).mono checked
  unfold AdmissionController.gate at gated
  simp only at gated
  split at gated
  · rename_i refused
    have reported : clock.report ≤ now := by
      apply past
      unfold AdmissionController.readings
      split
      · rename_i ok
        simp [ok] at refused
      · simp
    cases gated
    exact asked.trans ((TokenAccountant.alike_getUsage _ _ _).mono reported)
  · repeat' split at gated
    all_goals
      cases gated
      simpa [AdmissionController.setQueue] using asked

/-- A step that debits nobody reads windows, and no later call of the accountant can tell. -/
theorem alike_of_does {s t : AdmissionSystem ρ} {e : AdmissionEvent ρ} (does : s.Does e t)
    (undebited : ∀ agentId input output now, e ≠ .debit agentId input output now) {now : Time}
    (past : ∀ time ∈ s.readings (.call e), time ≤ now) :
    TokenAccountant.Alike now s.controller.accountant t.controller.accountant := by
  cases does with
  | gate fresh gated => exact alike_gate gated past
  | interrupt => exact .refl now _
  | resume inside woke =>
      rw [(AdmissionController.frame_resume woke).2]
      exact .refl now _
  | @release k session tier =>
      rw [(AdmissionController.frame_release s.controller session tier).2]
      exact .refl now _
  | debit => exact absurd rfl (undebited _ _ _ _)
  | markStatus => exact .refl now _

/-! ## Steps of one request -/

/-- A step of a request that does not get a slot in it moves the request on, and leaves the
records. -/
theorem moves_of_own {s t : AdmissionSystem ρ} {k : ρ} {e : AdmissionEvent ρ} (sound : s.Sound)
    (does : s.Does e t) {sid : String} (acts : s.actor e = some (k, sid))
    (unadmitted : t.Unadmitted k) :
    s.Unadmitted k ∧ (∃ x, Moves k x s t ∧ x.caller.wasAdmitted = false) ∧
      ∀ sid, t.controller.held.get? sid = s.controller.held.get? sid := by
  have own : ∀ {j : ρ} {y : Ticket}, s.tickets.get? j = some y →
      (s.tickets.get? j).map (fun x => (j, x.session.sessionId)) = some (k, sid) → j = k := by
    intro j y found acts
    rw [found] at acts
    exact congrArg Prod.fst (Option.some.inj acts)
  cases does with
  | @gate j session tier estimated clock d caller fresh gated =>
      cases acts
      have after := unadmitted _ (Dict.get?_set_self ..)
      refine ⟨fun x found => ?_, ⟨_, gate_moves sound fresh gated, after⟩, fun sid => ?_⟩
      · cases fresh.symm.trans found
      · rw [AdmissionController.held_gate gated, Caller.isHolding_of_unadmitted after]
        simp
  | @interrupt j i session tier start before inside =>
      obtain rfl := own inside acts
      refine ⟨fun x found => ?_, ⟨_, interrupt_moves sound inside, rfl⟩, fun _ => rfl⟩
      cases inside.symm.trans found
      rfl
  | @resume j finish session tier start interrupted d caller inside woke =>
      obtain rfl := own inside acts
      have after := unadmitted _ (Dict.get?_set_self ..)
      obtain ⟨_, _, _, _, _, held⟩ := AdmissionController.resume_spec woke
      refine ⟨fun x found => ?_, ⟨_, resume_moves sound inside woke, after⟩, fun sid => ?_⟩
      · cases inside.symm.trans found
        rfl
      · rw [held, Caller.isHolding_of_unadmitted after]
        simp
  | release holds =>
      obtain rfl := own holds acts
      cases unadmitted _ (Dict.get?_set_self ..)
  | debit => cases acts
  | markStatus => cases acts

/-- A request that moves on without a slot leaves the slots that nobody holds. -/
theorem unheldSlots_of_moves {s t : AdmissionSystem ρ} {k : ρ} {x : Ticket}
    (moves : Moves k x s t) (before : ∀ tier, (s.share k tier).any Caller.isHolding = false)
    (after : x.caller.isHolding = false) (tier : Tier) :
    t.unheldSlots tier = s.unheldSlots tier := by
  unfold unheldSlots
  rcases moves.queue_cases tier with ⟨missing, still⟩ | ⟨q, r, found, also, moved⟩
  · rw [missing, still]
  · have slots := moved.slots
    have on_tier : (x.on tier).any Caller.isHolding = false := by
      unfold Ticket.on
      split
      · exact after
      · rfl
    rw [on_tier, before tier] at slots
    simpa [found, also] using slots

/-- A request that moves on is counted in a queue while it is inside. -/
theorem queued_of_moves {s t : AdmissionSystem ρ} {k : ρ} {x : Ticket} (moves : Moves k x s t)
    (tier : Tier) :
    t.queued tier - s.queued tier = t.insideOn k tier - s.insideOn k tier := by
  have share : t.share k tier = x.on tier := by
    rw [share_of_tickets moves.tickets, if_pos rfl]
  unfold queued insideOn
  rcases moves.queue_cases tier with ⟨missing, still⟩ | ⟨q, r, found, also, moved⟩
  · simp only [missing, still, Option.map_none, Option.getD_none]
  · have counted := moved.queued
    simp only [found, also, share, Option.map_some, Option.getD_some]
    omega

/-- **What a step of a request does that is not admitted in it.** The slots that nobody holds are
as they were, the request is counted where it is inside, and nobody else can notice. -/
theorem own_step_effect {s t : AdmissionSystem ρ} {k : ρ} {e : OpenEvent ρ} (sound : s.Sound)
    (stepped : s.openStep e = some t) (mine : s.own k e = true) (unadmitted : t.Unadmitted k) :
    s.Unadmitted k ∧ (∀ tier, t.unheldSlots tier = s.unheldSlots tier) ∧
      (∀ tier, t.queued tier - s.queued tier = t.insideOn k tier - s.insideOn k tier) ∧
      Unnoticed k (s.readings e) s t := by
  cases e with
  | release => cases mine
  | call e =>
      obtain ⟨⟨j, sid⟩, acts, same⟩ : ∃ a, s.actor e = some a ∧ a.1 = k := by
        cases acts : s.actor e with
        | none => simp [own, acts] at mine
        | some a => exact ⟨a, rfl, by simpa [own, acts] using mine⟩
      obtain rfl : j = k := same
      have does := does_of_step stepped
      obtain ⟨before, ⟨x, moves, after⟩, held⟩ := moves_of_own sound does acts unadmitted
      have empty_handed : ∀ tier, (s.share j tier).any Caller.isHolding = false := by
        intro tier
        unfold share
        cases found : s.tickets.get? j with
        | none => rfl
        | some y =>
            have none := Caller.isHolding_of_unadmitted (before y found)
            simp only [Option.bind_some, Ticket.on]
            split
            · exact none
            · rfl
      refine ⟨before,
        unheldSlots_of_moves moves empty_handed (Caller.isHolding_of_unadmitted after),
        queued_of_moves moves, held, ?_, ?_⟩
      · intro other differ
        rw [moves.tickets]
        exact Dict.get?_set_of_ne _ _ differ
      · intro now past calls ordered
        have undebited : ∀ agentId input output now, e ≠ .debit agentId input output now := by
          rintro agentId input output now rfl
          cases acts
        exact TokenAccountant.answers_of_alike (alike_of_does does undebited past) ordered

/-! ## Steps of others -/

/-- A step of others leaves the ticket of a request. -/
theorem ticket_of_other {s t : AdmissionSystem ρ} {k : ρ} {e : OpenEvent ρ}
    (stepped : s.openStep e = some t) (other : s.own k e = false) :
    t.tickets.get? k = s.tickets.get? k := by
  cases e with
  | release session tier =>
      cases stepped
      rfl
  | call e =>
      apply tickets_frame stepped
      intro sid acts
      simp [own, acts] at other

/-- No tier gets a queue, and none loses its queue. -/
theorem queue?_isSome_step {s t : AdmissionSystem ρ} {e : OpenEvent ρ} (sound : s.Sound)
    (stepped : s.openStep e = some t) (tier : Tier) :
    (t.queue? tier).isSome = (s.queue? tier).isSome := by
  have released : ∀ (session : SessionContext) (given : Tier) (tickets : Dict ρ Ticket),
      (queue? ⟨s.controller.release session given, tickets⟩ tier).isSome =
        (s.queue? tier).isSome := by
    intro session given tickets
    rw [queue?, queue?_release]
    split
    · exact Option.isSome_map
    · rfl
  cases e with
  | release session given =>
      cases stepped
      exact released session given _
  | call e =>
      rcases step_cases sound stepped with
        ⟨_, k, x, moves⟩ | ⟨k, session, given, wait, _, holds, rfl⟩ | ⟨_, _, queues, _⟩
      · rcases moves.queue_cases tier with ⟨missing, still⟩ | ⟨q, r, found, also, _⟩
        · rw [missing, still]
        · rw [found, also]
          rfl
      · exact released session given _
      · rw [queues]

/-- A step of others leaves a request where it is inside. -/
theorem insideOn_of_other {s t : AdmissionSystem ρ} {k : ρ} {e : OpenEvent ρ} (sound : s.Sound)
    (stepped : s.openStep e = some t) (other : s.own k e = false) (tier : Tier) :
    t.insideOn k tier = s.insideOn k tier := by
  have present := queue?_isSome_step sound stepped tier
  have share : t.share k tier = s.share k tier := by
    rw [AdmissionSystem.share, ticket_of_other stepped other]
    rfl
  unfold insideOn
  rw [share]
  cases before : s.queue? tier <;> cases after : t.queue? tier <;> simp_all

/-- A request that is not admitted was not admitted before. -/
theorem unadmitted_of_step {s t : AdmissionSystem ρ} {k : ρ} {e : OpenEvent ρ} (sound : s.Sound)
    (stepped : s.openStep e = some t) (unadmitted : t.Unadmitted k) : s.Unadmitted k := by
  cases mine : s.own k e with
  | true => exact (own_step_effect sound stepped mine unadmitted).1
  | false =>
      intro x found
      exact unadmitted x ((ticket_of_other stepped mine).trans found)

end AdmissionSystem

/-! ## Systems that carry a controller along -/

/-- A system whose requests go through an admission controller: a step of it is a step of the
controller by the same request, or leaves the controller alone. -/
structure AdmissionHost (ρ σ α : Type) [DecidableEq ρ] where
  step : σ → α → Option σ
  admission : σ → AdmissionSystem ρ
  own : ρ → σ → α → Bool
  readings : σ → α → List Time
  Kept : σ → Prop
  sound : ∀ s, Kept s → (admission s).Sound
  keeps : ∀ s e t, Kept s → step s e = some t → Kept t
  projects : ∀ s e t, Kept s → step s e = some t →
    admission t = admission s ∨ ∃ a, (admission s).openStep a = some (admission t) ∧
      (∀ k, (admission s).own k a = own k s e) ∧ (admission s).readings a ⊆ readings s e

namespace AdmissionHost

variable {ρ σ α : Type} [DecidableEq ρ] (host : AdmissionHost ρ σ α)

/-- The steps of a request in a run have no net effect on the slots that nobody holds and on the
counts of the queues, and nobody else can notice one of them. -/
structure NoTrace (k : ρ) (s : σ) (events : List α) : Prop where
  slots : ∀ tier,
    netEffect host.step (host.own k) (fun s => (host.admission s).unheldSlots tier) s events = 0
  queued : ∀ tier,
    netEffect host.step (host.own k) (fun s => (host.admission s).queued tier) s events = 0
  steps : EveryStep host.step s events fun m e => host.own k m e = true →
    ∀ n, host.step m e = some n →
      AdmissionSystem.Unnoticed k (host.readings m e) (host.admission m) (host.admission n)

variable {host}

/-- What the own steps of a request have done so far, if it was not admitted. -/
structure Traced (host : AdmissionHost ρ σ α) (k : ρ) (s : σ) (past : List α) (m : σ) : Prop where
  kept : host.Kept m
  slots : (host.admission m).Unadmitted k → ∀ tier,
    netEffect host.step (host.own k) (fun s => (host.admission s).unheldSlots tier) s past = 0
  queued : (host.admission m).Unadmitted k → ∀ tier,
    netEffect host.step (host.own k) (fun s => (host.admission s).queued tier) s past =
      (host.admission m).insideOn k tier

/-- A step by which a request is not admitted: the own one of the request has its effect, and one
of others leaves it where it is inside. -/
theorem effect_of_step {k : ρ} {m n : σ} {e : α} (kept : host.Kept m)
    (stepped : host.step m e = some n) (unadmitted : (host.admission n).Unadmitted k) :
    (host.admission m).Unadmitted k ∧
      (host.own k m e = true →
        (∀ tier, (host.admission n).unheldSlots tier = (host.admission m).unheldSlots tier) ∧
        (∀ tier, (host.admission n).queued tier - (host.admission m).queued tier =
          (host.admission n).insideOn k tier - (host.admission m).insideOn k tier) ∧
        AdmissionSystem.Unnoticed k (host.readings m e) (host.admission m) (host.admission n)) ∧
      (host.own k m e = false →
        ∀ tier, (host.admission n).insideOn k tier = (host.admission m).insideOn k tier) := by
  rcases host.projects m e n kept stepped with same | ⟨a, inside, owned, readings⟩
  · rw [same] at unadmitted ⊢
    refine ⟨unadmitted, fun _ => ⟨fun _ => rfl, fun _ => by rw [sub_self, sub_self], ?_⟩,
      fun _ _ => rfl⟩
    exact ⟨fun _ => rfl, fun _ _ => rfl, fun _ _ _ _ => rfl⟩
  · have sound := host.sound m kept
    refine ⟨AdmissionSystem.unadmitted_of_step sound inside unadmitted, fun mine => ?_,
      fun other => AdmissionSystem.insideOn_of_other sound inside ((owned k).trans other)⟩
    obtain ⟨_, slots, counted, unnoticed⟩ :=
      AdmissionSystem.own_step_effect sound inside ((owned k).trans mine) unadmitted
    exact ⟨slots, counted, unnoticed.mono readings⟩

/-- Step lemma: a step of the request, while it is not admitted, or a step of others. -/
theorem traced_step {k : ρ} {s m n : σ} {past : List α} {e : α}
    (ran : run host.step s past = some m) (traced : host.Traced k s past m)
    (stepped : host.step m e = some n) : host.Traced k s (past ++ [e]) n := by
  refine ⟨host.keeps m e n traced.kept stepped, fun unadmitted tier => ?_,
    fun unadmitted tier => ?_⟩
  · obtain ⟨before, own, _⟩ := effect_of_step traced.kept stepped unadmitted
    cases mine : host.own k m e with
    | true =>
        obtain ⟨slots, _, _⟩ := own mine
        rw [netEffect_concat_own ran stepped mine, traced.slots before, slots, sub_self, add_zero]
    | false => rw [netEffect_concat_other ran stepped mine, traced.slots before]
  · obtain ⟨before, own, other⟩ := effect_of_step traced.kept stepped unadmitted
    cases mine : host.own k m e with
    | true =>
        obtain ⟨_, counted, _⟩ := own mine
        rw [netEffect_concat_own ran stepped mine, traced.queued before, counted]
        omega
    | false =>
        rw [netEffect_concat_other ran stepped mine, traced.queued before, other mine]

/-- A request that is not admitted at the end of a run was not admitted before. -/
theorem unadmitted_of_run {k : ρ} {m n : σ} {events : List α} (kept : host.Kept m)
    (ran : run host.step m events = some n) (unadmitted : (host.admission n).Unadmitted k) :
    (host.admission m).Unadmitted k := by
  have back : host.Kept n ∧
      ((host.admission n).Unadmitted k → (host.admission m).Unadmitted k) := by
    refine invariant_of_step (P := fun n => host.Kept n ∧
      ((host.admission n).Unadmitted k → (host.admission m).Unadmitted k)) ?_ ⟨kept, id⟩ ran
    rintro l e n ⟨kept, back⟩ stepped
    refine ⟨host.keeps l e n kept stepped, fun unadmitted => back ?_⟩
    exact (effect_of_step kept stepped unadmitted).1
  exact back.2 unadmitted

/-- Run lemma: nobody can notice a step of a request that is never admitted. -/
theorem unnoticed_of_run {k : ρ} {s t : σ} {events : List α} (kept : host.Kept s)
    (ran : run host.step s events = some t) (unadmitted : (host.admission t).Unadmitted k) :
    EveryStep host.step s events fun m e => host.own k m e = true →
      ∀ n, host.step m e = some n →
        AdmissionSystem.Unnoticed k (host.readings m e) (host.admission m) (host.admission n) := by
  intro first e second m split before mine n stepped
  subst split
  have at_m : host.Kept m := invariant_of_step host.keeps kept before
  obtain ⟨m', before', rest⟩ := run_append_eq_some.mp ran
  obtain rfl : m = m' := Option.some.inj (before.symm.trans before')
  obtain ⟨n', stepped', later⟩ := Option.bind_eq_some_iff.mp rest
  obtain rfl : n = n' := Option.some.inj (stepped.symm.trans stepped')
  have after : (host.admission n).Unadmitted k :=
    unadmitted_of_run (host.keeps m e n at_m stepped) later unadmitted
  obtain ⟨_, own, _⟩ := effect_of_step at_m stepped after
  exact (own mine).2.2

variable (host) in
/-- **A call that raised has left no trace.** -/
theorem noTrace_of_raised {k : ρ} {s t : σ} {events : List α} (kept : host.Kept s)
    (fresh : (host.admission s).tickets.get? k = none) (ran : run host.step s events = some t)
    {session : SessionContext} {tier : Tier} {error : Raised}
    (raised : (host.admission t).tickets.get? k = some ⟨session, tier, .raised error⟩) :
    host.NoTrace k s events := by
  have unadmitted : (host.admission t).Unadmitted k := by
    intro x found
    cases raised.symm.trans found
    rfl
  have start : host.Traced k s [] s := by
    refine ⟨kept, fun _ _ => rfl, fun _ tier => ?_⟩
    unfold AdmissionSystem.insideOn AdmissionSystem.share
    rw [fresh]
    cases (host.admission s).queue? tier <;> rfl
  have traced : host.Traced k s events t :=
    past_invariant_of_run (P := host.Traced k s)
      (fun _ _ _ _ ran traced stepped => traced_step ran traced stepped) start ran
  refine ⟨traced.slots unadmitted, fun tier => ?_, unnoticed_of_run kept ran unadmitted⟩
  rw [traced.queued unadmitted]
  have outside : ((host.admission t).share k tier).any Caller.isInside = false := by
    rw [AdmissionSystem.share_eq raised]
    split <;> rfl
  unfold AdmissionSystem.insideOn
  rw [outside]
  cases (host.admission t).queue? tier <;> rfl

end AdmissionHost

/-- The controller itself, with releases by anybody. -/
def AdmissionSystem.host (ρ : Type) [DecidableEq ρ] :
    AdmissionHost ρ (AdmissionSystem ρ) (OpenEvent ρ) where
  step := openStep
  admission := id
  own := own
  readings := readings
  Kept := Sound
  sound := fun _ sound => sound
  keeps := fun _ _ _ sound stepped => sound_openStep sound stepped
  projects := fun _ e _ _ stepped => .inr ⟨e, stepped, fun _ => rfl, List.Subset.refl _⟩

end AgentServe
