import AgentServe.Affinity.Scheduler
import AgentServe.Routing.Classifier
import AgentServe.Routing.Rules

/-!
# The tier router

The rules are asked first and the classifier second. Then the pool of the tier is
looked up, and if it is empty the pool of another tier: the big one for the small
tier, and the small one for every other tier.

A classifier may name the automatic tier, which no backend has. For that tier the
small pool is the only one that is tried. So a routing gives up while some backend
is healthy exactly if the classifier said so, now or when the tier was cached, and
the small pool is empty when it is looked up (`fallback_serves_iff`).
-/

set_option autoImplicit false

namespace AgentServe

structure TierRouter where
  config : RoutingConfig
  classifier : ClassifierRouter

/-- Where a routing gets at once: a decision, or a call of the classifier. -/
inductive Routing where
  | decided (decision : RoutingDecision)
  | asking (call : ClassifierCall)

namespace Routing

def decision? : Routing → Option RoutingDecision
  | .decided decision => some decision
  | .asking _ => none

def asked : Routing → List ClassifierCall
  | .decided _ => []
  | .asking call => [call]

theorem eq_decided {r : Routing} {d : RoutingDecision} (decision : r.decision? = some d) :
    r = .decided d := by
  cases r with
  | decided decision => exact congrArg Routing.decided (Option.some.inj decision)
  | asking call => cases decision

end Routing

/-- The tier that is tried when a tier has no healthy backend. -/
def fallbackTier (tier : Tier) : Tier := if tier = .small then .big else .small

/-- The first healthy backend of the tier, or else of the other tier. -/
def lookUp (registry : BackendRegistry) (tier : Tier) (reason : RoutingReason)
    (classifierUsed : Bool) : RoutingDecision :=
  match registry.getHealthyBackends tier with
  | b :: _ => { tier, backendId := b.id, reason, classifierUsed }
  | [] =>
    match registry.getHealthyBackends (fallbackTier tier) with
    | b :: _ =>
      { tier := fallbackTier tier, backendId := b.id, reason := .fallback, classifierUsed }
    | [] => { tier, backendId := "__unavailable__", reason, classifierUsed }

namespace TierRouter

def new (config : RoutingConfig) : TierRouter :=
  ⟨config, .new config.classifierCacheTtlSeconds⟩

/-- A routing up to the call of the classifier, or to its end if no call is needed. -/
def route (t : TierRouter) (registry : BackendRegistry) (session : SessionContext)
    (messages : List ChatMessage) (now : Time) : TierRouter × Routing :=
  match selectTier t.config registry session messages with
  | some (tier, reason) => (t, .decided (lookUp registry tier reason false))
  | none =>
    match t.classifier.classify registry session messages now with
    | (classifier, .cached tier) =>
      ({ t with classifier }, .decided (lookUp registry tier .classifier true))
    | (classifier, .default) =>
      ({ t with classifier }, .decided (lookUp registry .small .classifier true))
    | (classifier, .asking call) => ({ t with classifier }, .asking call)

/-- A routing from the reply of the classifier on. -/
def replied (t : TierRouter) (registry : BackendRegistry) (call : ClassifierCall)
    (reply : ClassifierReply) (now : Time) : TierRouter × RoutingDecision :=
  match t.classifier.classified call.key reply now with
  | (classifier, tier) => ({ t with classifier }, lookUp registry tier .classifier true)

/-- The routers that earlier routings lead to, with the calls that wait for a reply. A call may
also be given up. -/
inductive Reached (config : RoutingConfig) : TierRouter → List ClassifierCall → Prop where
  | new : Reached config (new config) []
  | route {t : TierRouter} {calls : List ClassifierCall} (earlier : Reached config t calls)
    (registry : BackendRegistry) (session : SessionContext) (messages : List ChatMessage)
    (now : Time) :
    Reached config (t.route registry session messages now).1
      (calls ++ (t.route registry session messages now).2.asked)
  | replied {t : TierRouter} {call : ClassifierCall} {before after : List ClassifierCall}
    (earlier : Reached config t (before ++ call :: after)) (registry : BackendRegistry)
    (reply : ClassifierReply) (now : Time) :
    Reached config (t.replied registry call reply now).1 (before ++ after)
  | cancelled {t : TierRouter} {call : ClassifierCall} {before after : List ClassifierCall}
    (earlier : Reached config t (before ++ call :: after)) : Reached config t (before ++ after)

/-- What a routing that starts with a router and a registry comes to: the reply of the classifier
if it was asked, the registry when the backends are looked up, and the decision. While the
classifier is asked both the router and the registry may change. -/
inductive Routed (t : TierRouter) (registry : BackendRegistry) (session : SessionContext)
    (messages : List ChatMessage) (now : Time) :
    Option ClassifierReply → BackendRegistry → RoutingDecision → Prop where
  | atOnce {d : RoutingDecision}
    (decided : (t.route registry session messages now).2 = .decided d) :
    Routed t registry session messages now none registry d
  | afterReply {call : ClassifierCall}
    (asked : (t.route registry session messages now).2 = .asking call) (u : TierRouter)
    (later : BackendRegistry) (reply : ClassifierReply) (made : Time) :
    Routed t registry session messages now (some reply) later
      (u.replied later call reply made).2

end TierRouter

/-! ## Looking up -/

/-- A decision a request can be served on: its tier is one of the two, has a healthy backend, and
no scheduler refuses to select one. -/
structure Serves (registry : BackendRegistry) (session : SessionContext) (d : RoutingDecision) :
    Prop where
  tier : d.tier = .small ∨ d.tier = .big
  healthy : registry.getHealthyBackends d.tier ≠ []
  selects : ∀ (s : AffinityScheduler) (now made : Time), ∃ answer,
    (s.selectBackend session d.tier (registry.getHealthyBackends d.tier) now made).2 = .ok answer

theorem serves_of_healthy {registry : BackendRegistry} {session : SessionContext}
    {d : RoutingDecision} (tier : d.tier = .small ∨ d.tier = .big)
    (healthy : registry.getHealthyBackends d.tier ≠ []) : Serves registry session d := by
  refine ⟨tier, healthy, fun s now made => ?_⟩
  cases selected :
      (s.selectBackend session d.tier (registry.getHealthyBackends d.tier) now made).2 with
  | error e => exact absurd (AffinityScheduler.candidates_of_error selected) healthy
  | ok answer => exact ⟨answer, rfl⟩

theorem lookUp_of_healthy {registry : BackendRegistry} {tier : Tier} (reason : RoutingReason)
    (used : Bool) (healthy : registry.getHealthyBackends tier ≠ []) :
    (lookUp registry tier reason used).tier = tier := by
  unfold lookUp
  split
  · rfl
  · rename_i empty
    exact absurd empty healthy

theorem lookUp_of_fallback {registry : BackendRegistry} {tier : Tier} (reason : RoutingReason)
    (used : Bool) (empty : registry.getHealthyBackends tier = [])
    (healthy : registry.getHealthyBackends (fallbackTier tier) ≠ []) :
    (lookUp registry tier reason used).tier = fallbackTier tier := by
  rw [lookUp, empty]
  simp only
  split
  · rfl
  · rename_i none
    exact absurd none healthy

theorem lookUp_of_empty {registry : BackendRegistry} {tier : Tier} (reason : RoutingReason)
    (used : Bool) (empty : registry.getHealthyBackends tier = [])
    (none : registry.getHealthyBackends (fallbackTier tier) = []) :
    (lookUp registry tier reason used).tier = tier := by
  rw [lookUp, empty, none]

/-- Looking up fails, with some backend healthy, for the automatic tier and an empty small pool
only. -/
theorem serves_lookUp_iff {registry : BackendRegistry} (tiered : registry.Tiered)
    (up : ∃ b ∈ registry.allBackends, b.status = .healthy)
    (session : SessionContext) (tier : Tier) (reason : RoutingReason) (used : Bool) :
    Serves registry session (lookUp registry tier reason used) ↔
      ¬ (tier = .auto ∧ registry.getHealthyBackends .small = []) := by
  obtain ⟨b, filed, healthy⟩ := up
  have pool := tiered.exists_pool filed healthy
  -- A tier with a healthy backend, of its own or of its fallback, is served.
  have served : ∀ {chosen : Tier}, (lookUp registry tier reason used).tier = chosen →
      chosen ≠ .auto → registry.getHealthyBackends chosen ≠ [] →
      Serves registry session (lookUp registry tier reason used) := by
    rintro chosen rfl own here
    refine serves_of_healthy ?_ here
    cases named : (lookUp registry tier reason used).tier with
    | small => exact .inl rfl
    | big => exact .inr rfl
    | auto => exact absurd named own
  by_cases here : registry.getHealthyBackends tier = []
  · by_cases other : registry.getHealthyBackends (fallbackTier tier) = []
    · -- Nothing is found. Then the tier is the automatic one, and the small pool was tried.
      have auto : tier = .auto := by
        cases tier with
        | small =>
            have big : registry.getHealthyBackends .big = [] := other
            exact absurd pool (by simp [here, big])
        | big =>
            have small : registry.getHealthyBackends .small = [] := other
            exact absurd pool (by simp [here, small])
        | auto => rfl
      subst auto
      have kept := lookUp_of_empty reason used here other
      constructor
      · intro serves
        rcases serves.tier with small | big
        · cases kept.symm.trans small
        · cases kept.symm.trans big
      · intro refuted
        exact absurd ⟨rfl, other⟩ refuted
    · have chosen := lookUp_of_fallback reason used here other
      have own : fallbackTier tier ≠ .auto := by
        cases tier <;> decide
      refine iff_of_true (served chosen own other) ?_
      rintro ⟨rfl, empty⟩
      exact other empty
  · have own : tier ≠ .auto := by
      rintro rfl
      exact here tiered.getHealthyBackends_auto
    refine iff_of_true (served (lookUp_of_healthy reason used here) own here) ?_
    rintro ⟨rfl, _⟩
    exact own rfl

/-! ## When a routing gives up -/

theorem Tier.ofValue?_eq_auto_iff {name : String} :
    (Tier.ofValue? name).getD .small = .auto ↔ name = "auto" := by
  constructor
  · intro named
    unfold Tier.ofValue? at named
    split at named
    · cases named
    · cases named
    · rfl
    · cases named
  · rintro rfl
    rfl

/-- A reply names the automatic tier only by its name. -/
theorem ClassifierReply.tier_eq_auto_iff {reply : ClassifierReply} :
    reply.tier = .auto ↔
      ∃ fields, reply = .answered (.obj fields) ∧ fields.lookup "tier" = some (.str "auto") := by
  constructor
  · intro named
    unfold ClassifierReply.tier at named
    split at named
    · rename_i fields
      refine ⟨fields, rfl, ?_⟩
      split at named
      · rename_i name value
        obtain rfl := Tier.ofValue?_eq_auto_iff.mp named
        cases found : fields.lookup "tier" with
        | none =>
            rw [found] at value
            exact absurd (Json.str.inj value) (by decide)
        | some j =>
            rw [found] at value
            exact congrArg some value
      · cases named
    · cases named
  · rintro ⟨fields, rfl, found⟩
    simp only [ClassifierReply.tier, found, Option.getD_some]
    exact Tier.ofValue?_eq_auto_iff.mpr rfl

namespace TierRouter

/-- The classifier names the automatic tier: no rule applies, and the reply names it, or there was
none and an entry of the cache that is not too old holds it. -/
def SaysAuto (t : TierRouter) (registry : BackendRegistry) (session : SessionContext)
    (messages : List ChatMessage) (now : Time) (reply : Option ClassifierReply) : Prop :=
  selectTier t.config registry session messages = none ∧
    match reply with
    | some reply =>
      ∃ fields, reply = .answered (.obj fields) ∧ fields.lookup "tier" = some (.str "auto")
    | none => (t.classifier.cacheGet (cacheKey session messages) now).2 = some .auto

/-- **When a routing gives up.** If some backend is healthy when the backends are looked up, the
decision is for one of the two tiers, with a healthy backend of that tier that can be selected,
unless the classifier names the automatic tier and no small backend is healthy then. -/
theorem fallback_serves_iff (t : TierRouter) (registry : BackendRegistry)
    (session : SessionContext) (messages : List ChatMessage) (now : Time)
    (reply : Option ClassifierReply) (later : BackendRegistry) (d : RoutingDecision)
    (routed : t.Routed registry session messages now reply later d) (tiered : registry.Tiered)
    (tieredLater : later.Tiered)
    (up : ∃ b ∈ later.allBackends, b.status = .healthy) :
    Serves later session d ↔
      ¬ (t.SaysAuto registry session messages now reply ∧
        later.getHealthyBackends .small = []) := by
  cases routed with
  | afterReply asked u later reply made =>
      have unruled : selectTier t.config registry session messages = none := by
        cases selected : selectTier t.config registry session messages with
        | none => rfl
        | some ruled => simp [route, selected] at asked
      have auto : t.SaysAuto registry session messages now (some reply) ↔ reply.tier = .auto := by
        rw [SaysAuto, ClassifierReply.tier_eq_auto_iff]
        exact and_iff_right unruled
      rw [auto]
      exact serves_lookUp_iff tieredLater up session reply.tier .classifier true
  | atOnce decided =>
      unfold route at decided
      split at decided
      · rename_i tier reason selected
        cases decided
        have own := selectTier_ne_auto tiered selected
        have unsaid : ¬ t.SaysAuto registry session messages now none := fun said => by
          cases selected.symm.trans said.1
        rw [serves_lookUp_iff tieredLater up]
        exact iff_of_true (fun auto => own auto.1) fun auto => unsaid auto.1
      · rename_i unruled
        split at decided
        · rename_i classifier tier classified
          cases decided
          have auto : t.SaysAuto registry session messages now none ↔ tier = .auto := by
            have got := ClassifierRouter.cacheGet_of_cached classified
            rw [SaysAuto, got, Option.some.injEq]
            exact and_iff_right unruled
          rw [auto]
          exact serves_lookUp_iff tieredLater up session tier .classifier true
        · rename_i classifier classified
          cases decided
          have unsaid : ¬ t.SaysAuto registry session messages now none := fun said => by
            have got := ClassifierRouter.cacheGet_of_default classified
            cases got.symm.trans said.2
          rw [serves_lookUp_iff tieredLater up]
          exact iff_of_true (fun auto => nomatch auto.1) fun auto => unsaid auto.1
        · cases decided

/-! ## A cached tier and an outage -/

/-- A question the classifier is asked about. -/
def question : List ChatMessage := [{ role := "user", content := some "hi" }]

def asker : SessionContext := { sessionId := "s", agentId := "a" }

/-- The registry at start-up, and after both small backends went down. -/
def allUp : BackendRegistry := .new shippedConfig

def smallDown : BackendRegistry := (allUp.markStatus "small-0" .down).markStatus "small-1" .down

/-- The call a first question leads to. -/
def firstCall : ClassifierCall where
  key := cacheKey asker question
  backend := BackendRegistry.ofConfig
    { id := "small-0", tier := .small, baseUrl := "http://vllm-small-0:8002", gpu := 0,
      maxInflight := 64, model := "Qwen/Qwen2.5-7B-Instruct" }
  model := "Qwen/Qwen2.5-7B-Instruct"
  asked := question

/-- The reply that names the automatic tier. -/
def saysAuto : ClassifierReply := .answered (.obj [("tier", .str "auto")])

/-- The router that has cached the reply. -/
def withAuto : TierRouter := ((new {}).replied allUp firstCall saysAuto 1).1

theorem reached_withAuto : Reached {} withAuto [] := by
  have asked : Reached {} (new {}) ([] ++ firstCall :: []) :=
    Reached.new.route allUp asker question 0
  exact asked.replied allUp saysAuto 1

theorem routed_withAuto :
    ∃ d, withAuto.Routed smallDown asker question 2 none smallDown d ∧ d.tier = .auto := by
  have gives : ((withAuto.route smallDown asker question 2).2.decision?.map RoutingDecision.tier) =
      some .auto := by
    decide +kernel
  obtain ⟨d, decision, tier⟩ := Option.map_eq_some_iff.mp gives
  exact ⟨d, .atOnce (Routing.eq_decided decision), tier⟩

/-- With a cached automatic tier and no small backend left, a routing gives up although the big
backend is healthy. -/
theorem automatic_tier_gives_up :
    ¬ ∀ (config : RoutingConfig) (t : TierRouter) (calls : List ClassifierCall),
      Reached config t calls →
      ∀ (registry : BackendRegistry) (session : SessionContext) (messages : List ChatMessage)
        (now : Time) (reply : Option ClassifierReply) (later : BackendRegistry)
        (d : RoutingDecision), t.Routed registry session messages now reply later d →
        registry.Tiered → later.Tiered → (∃ b ∈ later.allBackends, b.status = .healthy) →
        Serves later session d := by
  intro always
  obtain ⟨d, routed, auto⟩ := routed_withAuto
  have serves := always {} withAuto [] reached_withAuto smallDown asker question 2 none smallDown d
    routed (by decide +kernel) (by decide +kernel) (by decide +kernel)
  rcases serves.tier with small | big
  · cases auto.symm.trans small
  · cases auto.symm.trans big

/-- The condition in that routing. -/
theorem fallback_serves_iff_after_outage :
    ∃ d, withAuto.Routed smallDown asker question 2 none smallDown d ∧
      (Serves smallDown asker d ↔
        ¬ (withAuto.SaysAuto smallDown asker question 2 none ∧
          smallDown.getHealthyBackends .small = [])) := by
  obtain ⟨d, routed, _⟩ := routed_withAuto
  exact ⟨d, routed, fallback_serves_iff withAuto smallDown asker question 2 none smallDown d routed
    (by decide +kernel) (by decide +kernel) (by decide +kernel)⟩

end TierRouter

end AgentServe
