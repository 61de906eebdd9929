import AgentServe.Gateway.Causes
import AgentServe.Gateway.Handler
import AgentServe.Gateway.Outcomes
import AgentServe.Lib.Lists

/-!
# The routes about backends

The gateway answers two questions about its backends. Its status lists all of them and
counts the healthy ones of each tier. Its models are what the healthy backends list, one
backend after the other, and every model is marked with its backend.

The status says whether requests are served. A request that a rule routes is rejected for
want of a backend exactly if the status counts none on either tier, at the moment when the
request is received (`unavailable_iff_status`).

What a backend lists is stated apart from the route: the items of the `data` of an answer
with status 200, up to the first one that is no object (`Lists`). A backend that cannot be
reached, or answers something else, takes nothing away from the models of the others: as
long as the listing can be encoded, the models that are marked with a backend are those that
it lists, in order, with their other members as they were (`models_of_backend`). A number
that is not finite in one answer fails the whole listing.
-/

set_option autoImplicit false

namespace AgentServe

open Lib

def BackendStatus.value : BackendStatus → String
  | .healthy => "healthy"
  | .degraded => "degraded"
  | .down => "down"

namespace HealthRoutes

/-! ## The status -/

/-- What the status says of a backend. -/
structure BackendState where
  id : String
  tier : String
  status : String
  gpu : ℤ
  maxInflight : ℤ

structure StatusReport where
  gateway : String := "ok"
  backends : List BackendState
  healthyBig : ℕ
  healthySmall : ℕ

/-- The healthy backends with the name of a tier. -/
def healthyWith (backends : List BackendInfo) (tier : String) : ℕ :=
  (backends.filter fun b => b.tier.value == tier && b.status == .healthy).length

def status (registry : BackendRegistry) : StatusReport :=
  let backends := registry.allBackends
  { backends := backends.map fun b => ⟨b.id, b.tier.value, b.status.value, b.gpu, b.maxInflight⟩
    healthyBig := healthyWith backends "big"
    healthySmall := healthyWith backends "small" }

theorem healthyWith_allBackends (registry : BackendRegistry) (tier : Tier) :
    healthyWith registry.allBackends tier.value = (registry.getHealthyBackends tier).length := by
  have same : ∀ b : BackendInfo, (b.tier.value == tier.value) = (b.tier == tier) := by
    intro b
    cases b.tier <;> cases tier <;> decide
  simp only [healthyWith, BackendRegistry.getHealthyBackends, same]

/-- The status counts nobody on a tier exactly if the pool of the tier is empty. -/
theorem status_eq_zero_iff (registry : BackendRegistry) :
    (status registry).healthyBig = 0 ∧ (status registry).healthySmall = 0 ↔
      registry.getHealthyBackends .big = [] ∧ registry.getHealthyBackends .small = [] := by
  have big := healthyWith_allBackends registry .big
  have small := healthyWith_allBackends registry .small
  rw [← List.length_eq_zero_iff, ← List.length_eq_zero_iff, ← big, ← small]
  exact Iff.rfl

end HealthRoutes

/-! ## Requests without a backend -/

/-- Looking up a tier of backends fails exactly if both pools are empty. -/
theorem pool_lookUp_eq_nil_iff {registry : BackendRegistry} {tier : Tier} (own : tier ≠ .auto)
    (reason : RoutingReason) (used : Bool) :
    registry.getHealthyBackends (lookUp registry tier reason used).tier = [] ↔
      registry.getHealthyBackends .big = [] ∧ registry.getHealthyBackends .small = [] := by
  have both : registry.getHealthyBackends .big = [] ∧ registry.getHealthyBackends .small = [] ↔
      registry.getHealthyBackends tier = [] ∧
        registry.getHealthyBackends (fallbackTier tier) = [] := by
    cases tier with
    | small => exact and_comm
    | big => exact Iff.rfl
    | auto => exact absurd rfl own
  rw [both]
  by_cases here : registry.getHealthyBackends tier = []
  · by_cases other : registry.getHealthyBackends (fallbackTier tier) = []
    · rw [lookUp_of_empty reason used here other]
      exact iff_of_true here ⟨here, other⟩
    · rw [lookUp_of_fallback reason used here other]
      exact iff_of_false other fun empty => other empty.2
  · rw [lookUp_of_healthy reason used here]
    exact iff_of_false here fun empty => here empty.1

/-- A hint and a long prompt are routed by a rule, to a tier of backends. -/
theorem selectTier_of_ruled {config : RoutingConfig} {registry : BackendRegistry}
    {session : SessionContext} {messages : List ChatMessage}
    (unassigned : session.assignedBackendId = none)
    (ruled : session.tierHint ≠ .auto ∨ config.promptLengthThreshold < totalChars messages) :
    ∃ tier reason, selectTier config registry session messages = some (tier, reason) ∧
      tier ≠ .auto := by
  unfold selectTier
  by_cases hinted : session.tierHint ≠ .auto
  · exact ⟨_, _, if_pos hinted, hinted⟩
  · have long := ruled.resolve_left hinted
    rw [if_neg hinted]
    cases followup : toolFollowup config registry session messages with
    | some assigned =>
        obtain ⟨id, named, _⟩ := toolFollowup_mem followup
        cases unassigned.symm.trans named
    | none => exact ⟨.big, .promptLength, if_pos long, by decide⟩

namespace ChatHandler

variable {ρ : Type} [DecidableEq ρ] {lib : SchemaLibrary}

/-- A request that a rule routes arrives at once, with the backend that is looked up. -/
theorem arrives_of_ruled {s t : ChatHandler ρ} {k : ρ} {request : IncomingRequest}
    {now made : Time} {clock : GateClock}
    (stepped : s.step lib (.receive k request now made clock) = some t) {tier : Tier}
    {reason : RoutingReason}
    (selected : selectTier s.router.config s.registry (request.session lib)
      request.body.messages = some (tier, reason)) :
    s.gateway.step (.arrive k (request.input lib) (lookUp s.registry tier reason false) now made
      clock) = some t.gateway := by
  have routed : s.routeOf lib request now =
      (s.router, .decided (lookUp s.registry tier reason false)) := by
    rw [routeOf, TierRouter.route, selected]
  simp only [step, routed] at stepped
  split at stepped
  · have inside := gateway_of_arrive stepped
    exact inside
  · cases stepped

/-- **The status tells.** In every run, a request that a rule routes is rejected for want of a
backend exactly if the status counts no healthy backend when the request is received. -/
theorem unavailable_iff_status (config : GatewayConfig) (events : List (HandlerEvent ρ))
    (s t : ChatHandler ρ) (ran : run (step lib) (new config) events = some s) {k : ρ}
    {request : IncomingRequest} {now made : Time} {clock : GateClock}
    (stepped : s.step lib (.receive k request now made clock) = some t)
    (ruled : (request.session lib).tierHint ≠ .auto ∨
      s.router.config.promptLengthThreshold < totalChars request.body.messages) :
    (∃ tier, s.gateway.Rejects t.gateway k (.backendUnavailable tier)) ↔
      (HealthRoutes.status s.registry).healthyBig = 0 ∧
        (HealthRoutes.status s.registry).healthySmall = 0 := by
  obtain ⟨tier, reason, selected, own⟩ : ∃ tier reason,
      selectTier s.router.config s.registry (request.session lib) request.body.messages =
        some (tier, reason) ∧ tier ≠ .auto :=
    selectTier_of_ruled (assignedBackendId_session lib request) ruled
  obtain ⟨steps, inside⟩ := gateway_run ran
  have explained : Gateway.Explained config s.gateway := Gateway.explained_run inside
  have arrived := arrives_of_ruled stepped selected
  rw [HealthRoutes.status_eq_zero_iff, ← pool_lookUp_eq_nil_iff own reason false]
  constructor
  · rintro ⟨at_tier, rejects⟩
    cases (Gateway.arrive_rejects_iff explained arrived).mp rejects with
    | unavailable nobody => exact nobody
  · intro nobody
    exact ⟨_, (Gateway.arrive_rejects_iff explained arrived).mpr (.unavailable nobody)⟩

/-- The only backend goes down. -/
def onlyBackendDown : List (HandlerEvent ℕ) := [.gateway (.markStatus "big-0" .down)]

/-- A question to the big tier is rejected while the status counts nobody. -/
theorem unavailable_iff_status_onlyBackendDown :
    ∃ s t : ChatHandler ℕ,
      run (step plainLibrary) (new Gateway.oneSlot) onlyBackendDown = some s ∧
        s.step plainLibrary (.receive 0 bigQuestion 1 1 AdmissionSystem.atStart) = some t ∧
        ∃ tier, s.gateway.Rejects t.gateway 0 (.backendUnavailable tier) := by
  have after : (run (step plainLibrary) (new Gateway.oneSlot)
      (onlyBackendDown ++ [.receive 0 bigQuestion 1 1 AdmissionSystem.atStart])).isSome = true := by
    decide +kernel
  have before : ((run (step plainLibrary) (new Gateway.oneSlot) onlyBackendDown).map fun s =>
      ((HealthRoutes.status s.registry).healthyBig,
        (HealthRoutes.status s.registry).healthySmall)) = some (0, 0) := by
    decide +kernel
  obtain ⟨t, on⟩ := Option.isSome_iff_exists.mp after
  obtain ⟨s, ran, stepped⟩ := run_concat_eq_some.mp on
  rw [ran, Option.map_some, Option.some.injEq, Prod.mk.injEq] at before
  have hinted : (bigQuestion.session plainLibrary).tierHint ≠ .auto := by
    decide +kernel
  exact ⟨s, t, ran, stepped,
    (unavailable_iff_status Gateway.oneSlot onlyBackendDown s t ran stepped (.inl hinted)).mpr
      before⟩

end ChatHandler

namespace HealthRoutes

/-! ## Models -/

/-- What a backend answers when it is asked for its models: its response, with the body if that is
a document, unless the call failed. -/
structure ModelsAnswer where
  statusCode : ℤ
  json : Option Json

/-- A model with the backend that lists it. -/
def markedBy (b : BackendInfo) (m : Json) : Option Json :=
  (m.set "backend_id" (.str b.id)).bind fun m => m.set "tier" (.str b.tier.value)

/-- The models up to the first one that is not an object. -/
def markedPrefix (b : BackendInfo) : List Json → List Json
  | [] => []
  | m :: rest =>
    match markedBy b m with
    | none => []
    | some m => m :: markedPrefix b rest

/-- The models of a document. Only a list has items that can be marked. -/
def modelsIn (b : BackendInfo) (data : Json) : List Json :=
  match data.get "data" (.arr []) with
  | some (.arr items) => markedPrefix b items
  | _ => []

/-- What a backend adds to the listing. -/
def modelsOf (b : BackendInfo) (answer : Option ModelsAnswer) : List Json :=
  match answer with
  | none => []
  | some r =>
    match r.json with
    | some data => if r.statusCode = 200 then modelsIn b data else []
    | none => []

def healthyBackends (registry : BackendRegistry) : List BackendInfo :=
  registry.allBackends.filter fun b => b.status == .healthy

/-- The models of the backends that are healthy at first. -/
def allModels (registry : BackendRegistry) (answers : BackendInfo → Option ModelsAnswer) :
    List Json :=
  (healthyBackends registry).flatMap fun b => modelsOf b (answers b)

def listing (models : List Json) : Json := .obj [("object", .str "list"), ("data", .arr models)]

/-- The listing, if it can be encoded. -/
def listModels (registry : BackendRegistry) (answers : BackendInfo → Option ModelsAnswer) :
    Option Json :=
  if (listing (allModels registry answers)).renderable then
    some (listing (allModels registry answers))
  else none

/-- A model is marked with a backend. -/
def isOf (b : BackendInfo) (m : Json) : Bool :=
  match m.get "backend_id" .null with
  | some (.str id) => id == b.id
  | _ => false

/-! ## What a backend lists -/

/-- The members of the objects that an answer lists. An answer with status 200 lists the items of
its `data`, up to the first one that is no object. Any other answer lists nothing. -/
inductive Lists (answer : Option ModelsAnswer) : List (List (String × Json)) → Prop where
  | models {body : List (String × Json)} {objects : List (List (String × Json))}
      {rest : List Json} (answered : answer = some ⟨200, some (.obj body)⟩)
      (data : body.lookup "data" = some (.arr (objects.map .obj ++ rest)))
      (stops : ∀ fields, rest.head? ≠ some (.obj fields)) : Lists answer objects
  | nothing (other : ∀ body items, answer = some ⟨200, some (.obj body)⟩ →
      body.lookup "data" ≠ some (.arr items)) : Lists answer []

/-- A listed object is marked with its backend and the tier of that. Its other members are as they
were. -/
structure Marked (b : BackendInfo) (fields : List (String × Json)) (m : Json) : Prop where
  backend : m.get "backend_id" .null = some (.str b.id)
  tier : m.get "tier" .null = some (.str b.tier.value)
  others : ∀ name, name ≠ "backend_id" → name ≠ "tier" →
    m.get name .null = some ((fields.lookup name).getD .null)

/-- The members of a listed object that are not replaced. -/
def otherMembers (fields : List (String × Json)) : List (String × Json) :=
  (fields.eraseP fun member => member.1 = "tier").eraseP fun member => member.1 = "backend_id"

/-- The members of a listed object, marked. -/
def markFields (b : BackendInfo) (fields : List (String × Json)) : List (String × Json) :=
  Dict.setItems "tier" (.str b.tier.value) (Dict.setItems "backend_id" (.str b.id) fields)

theorem marked_markFields (b : BackendInfo) (fields : List (String × Json)) :
    Marked b fields (.obj (markFields b fields)) := by
  refine ⟨?_, ?_, fun name noBackend noTier => ?_⟩
  · simp [markFields, Json.get, Json.lookup_setItems]
  · simp [markFields, Json.get, Json.lookup_setItems]
  · simp [markFields, Json.get, Json.lookup_setItems, noBackend, noTier]

/-- A marked object can be encoded exactly if its other members can. -/
theorem renderable_markFields (b : BackendInfo) (fields : List (String × Json)) :
    (Json.obj (markFields b fields)).renderable = true ↔
      ∀ member ∈ otherMembers fields, member.2.renderable = true := by
  have encodes : ∀ text, (Json.str text).renderable = true := fun _ => rfl
  rw [Json.renderable, markFields, renderableFields_setItems (encodes _),
    Dict.eraseP_setItems (by decide), ← renderableFields_iff,
    renderableFields_setItems (encodes _), otherMembers]

/-- Marking goes on up to the first item that is no object. -/
theorem markedPrefix_append (b : BackendInfo) (objects : List (List (String × Json)))
    {rest : List Json} (stops : ∀ fields, rest.head? ≠ some (.obj fields)) :
    markedPrefix b (objects.map .obj ++ rest) =
      objects.map fun fields => .obj (markFields b fields) := by
  induction objects with
  | nil =>
      cases rest with
      | nil => rfl
      | cons m later =>
          cases m with
          | obj fields => exact absurd rfl (stops fields)
          | _ => rfl
  | cons fields others ih => exact congrArg (Json.obj (markFields b fields) :: ·) ih

/-- Items are objects up to the first one that is none. -/
theorem exists_objects (items : List Json) :
    ∃ (objects : List (List (String × Json))) (rest : List Json),
      items = objects.map .obj ++ rest ∧ ∀ fields, rest.head? ≠ some (.obj fields) := by
  induction items with
  | nil => exact ⟨[], [], rfl, nofun⟩
  | cons m later ih =>
      cases m with
      | obj fields =>
          obtain ⟨objects, rest, rfl, stops⟩ := ih
          exact ⟨fields :: objects, rest, rfl, stops⟩
      | _ => exact ⟨[], _, rfl, nofun⟩

/-- Every answer lists something, and if only nothing. -/
theorem exists_lists (answer : Option ModelsAnswer) : ∃ objects, Lists answer objects := by
  by_cases listing : ∃ body items, answer = some ⟨200, some (.obj body)⟩ ∧
      body.lookup "data" = some (.arr items)
  · obtain ⟨body, items, answered, data⟩ := listing
    obtain ⟨objects, rest, rfl, stops⟩ := exists_objects items
    exact ⟨objects, .models answered data stops⟩
  · exact ⟨[], .nothing fun body items answered data => listing ⟨body, items, answered, data⟩⟩

theorem objects_unique {first second : List (List (String × Json))} {rest others : List Json}
    (same : first.map Json.obj ++ rest = second.map Json.obj ++ others)
    (stops : ∀ fields, rest.head? ≠ some (.obj fields))
    (also_stops : ∀ fields, others.head? ≠ some (.obj fields)) : first = second := by
  induction first generalizing second with
  | nil =>
      cases second with
      | nil => rfl
      | cons fields later =>
          rw [show rest = Json.obj fields :: (later.map Json.obj ++ others) from same] at stops
          exact absurd rfl (stops fields)
  | cons fields later ih =>
      cases second with
      | nil =>
          rw [show others = Json.obj fields :: (later.map Json.obj ++ rest) from same.symm]
            at also_stops
          exact absurd rfl (also_stops fields)
      | cons fields' later' =>
          obtain ⟨head, tail⟩ := List.cons_eq_cons.mp same
          cases head
          rw [ih tail]

/-- An answer lists one thing only. -/
theorem Lists.unique {answer : Option ModelsAnswer} {first second : List (List (String × Json))}
    (lists : Lists answer first) (also_lists : Lists answer second) : first = second := by
  cases lists with
  | models answered data stops =>
      cases also_lists with
      | models also_answered also_data also_stops =>
          cases answered.symm.trans also_answered
          have same := Json.arr.inj (Option.some.inj (data.symm.trans also_data))
          exact objects_unique same stops also_stops
      | nothing other => exact absurd data (other _ _ answered)
  | nothing other =>
      cases also_lists with
      | models also_answered also_data _ => exact absurd also_data (other _ _ also_answered)
      | nothing _ => rfl

/-- **What a backend adds** to the listing is what it lists, marked. -/
theorem modelsOf_of_lists {answer : Option ModelsAnswer} {objects : List (List (String × Json))}
    (b : BackendInfo) (lists : Lists answer objects) :
    modelsOf b answer = objects.map fun fields => .obj (markFields b fields) := by
  cases lists with
  | models answered data stops =>
      subst answered
      simp only [modelsOf, if_true, modelsIn, Json.get, data, Option.getD_some]
      exact markedPrefix_append b objects stops
  | nothing other =>
      rcases answer with _ | ⟨statusCode, _ | data⟩
      · rfl
      · rfl
      · by_cases ok : statusCode = 200
        · subst ok
          cases data with
          | obj body =>
              simp only [modelsOf, if_true, modelsIn, Json.get]
              cases found : body.lookup "data" with
              | none => rfl
              | some value =>
                  cases value with
                  | arr items => exact absurd found (other body items rfl)
                  | _ => rfl
          | _ => rfl
        · simp only [modelsOf, if_neg ok, List.map_nil]

/-- A marked model is of the backend that marked it, and of those that have its name. -/
theorem isOf_markFields (b c : BackendInfo) (fields : List (String × Json)) :
    isOf b (.obj (markFields c fields)) = (c.id == b.id) := by
  simp only [isOf, (marked_markFields c fields).backend]

theorem isOf_of_mem_modelsOf {b c : BackendInfo} {answer : Option ModelsAnswer} {m : Json}
    (member : m ∈ modelsOf c answer) : isOf b m = (c.id == b.id) := by
  obtain ⟨objects, lists⟩ := exists_lists answer
  rw [modelsOf_of_lists c lists] at member
  obtain ⟨fields, _, rfl⟩ := List.mem_map.mp member
  exact isOf_markFields b c fields

theorem renderableItems_iff (items : List Json) :
    Json.renderableItems items = true ↔ ∀ m ∈ items, m.renderable = true := by
  induction items with
  | nil => simp [Json.renderableItems]
  | cons m rest ih => simp [Json.renderableItems, ih]

theorem renderable_listing_iff (models : List Json) :
    (listing models).renderable = true ↔ ∀ m ∈ models, m.renderable = true := by
  simp [listing, Json.renderable, Json.renderableFields, renderableItems_iff]

/-- Healthy backends are told apart by their names. -/
theorem eq_of_mem_healthyBackends {registry : BackendRegistry} {b c : BackendInfo}
    (first : b ∈ healthyBackends registry) (second : c ∈ healthyBackends registry)
    (same : c.id = b.id) : c = b :=
  List.inj_on_of_nodup_map (BackendRegistry.nodup_allBackends registry)
    (List.mem_of_mem_filter second) (List.mem_of_mem_filter first) same

/-- The models that are marked with a healthy backend are its own. -/
theorem filter_allModels {registry : BackendRegistry} (answers : BackendInfo → Option ModelsAnswer)
    {b : BackendInfo} (healthy : b ∈ healthyBackends registry) :
    (allModels registry answers).filter (isOf b) = modelsOf b (answers b) := by
  have distinct : (healthyBackends registry).Nodup :=
    (List.Nodup.of_map _ (BackendRegistry.nodup_allBackends registry)).filter _
  have parts : ((healthyBackends registry).flatMap fun c => modelsOf c (answers c)).filter
      (isOf b) = if b ∈ healthyBackends registry then modelsOf b (answers b) else [] := by
    apply filter_flatMap_of_nodup distinct
    · intro m member
      rw [isOf_of_mem_modelsOf member]
      exact beq_self_eq_true b.id
    · intro c inside differ m member
      rw [isOf_of_mem_modelsOf member]
      exact beq_eq_false_iff_ne.mpr fun same =>
        differ (eq_of_mem_healthyBackends healthy inside same)
  rw [allModels, parts, if_pos healthy]

/-- What a backend adds to the listing can be encoded exactly if the other members of the objects
that it lists can. -/
theorem exists_stuck_iff (b : BackendInfo) (answer : Option ModelsAnswer) :
    (∃ m ∈ modelsOf b answer, m.renderable = false) ↔ ∃ objects, Lists answer objects ∧
      ∃ fields ∈ objects, ∃ member ∈ otherMembers fields, member.2.renderable = false := by
  have stuck : ∀ fields, (Json.obj (markFields b fields)).renderable = false ↔
      ∃ member ∈ otherMembers fields, member.2.renderable = false := by
    intro fields
    rw [← Bool.not_eq_true, renderable_markFields]
    push Not
    simp only [ne_eq, Bool.not_eq_true]
  constructor
  · rintro ⟨m, member, fails⟩
    obtain ⟨objects, lists⟩ := exists_lists answer
    rw [modelsOf_of_lists b lists] at member
    obtain ⟨fields, among, rfl⟩ := List.mem_map.mp member
    exact ⟨objects, lists, fields, among, (stuck fields).mp fails⟩
  · rintro ⟨objects, lists, fields, among, fails⟩
    rw [modelsOf_of_lists b lists]
    exact ⟨_, List.mem_map_of_mem among, (stuck fields).mpr fails⟩

theorem mem_healthyBackends {registry : BackendRegistry} {b : BackendInfo} :
    b ∈ healthyBackends registry ↔ b ∈ registry.allBackends ∧ b.status = .healthy := by
  rw [healthyBackends, List.mem_filter, beq_iff_eq]

/-- The listing fails exactly if a model of a healthy backend cannot be encoded. -/
theorem listModels_eq_none_iff {registry : BackendRegistry}
    {answers : BackendInfo → Option ModelsAnswer} :
    listModels registry answers = none ↔
      ∃ b ∈ healthyBackends registry, ∃ m ∈ modelsOf b (answers b), m.renderable = false := by
  rw [listModels, ite_eq_right_iff]
  constructor
  · intro fails
    by_contra none_fails
    push Not at none_fails
    have encodes : (listing (allModels registry answers)).renderable = true := by
      apply (renderable_listing_iff _).mpr
      intro m member
      obtain ⟨b, healthy, inside⟩ := List.mem_flatMap.mp member
      exact Bool.eq_true_of_not_eq_false (none_fails b healthy m inside)
    cases fails encodes
  · rintro ⟨b, healthy, m, inside, fails⟩ encodes
    have member : m ∈ allModels registry answers := List.mem_flatMap.mpr ⟨b, healthy, inside⟩
    rw [(renderable_listing_iff _).mp encodes m member] at fails
    cases fails

/-- **Models.** Whatever the backends answer, the listing fails exactly if a member of an object
that a healthy backend lists cannot be encoded, other than the two that are replaced. Otherwise,
the models in it that are marked with a healthy backend are the objects that this backend lists,
in order, and every model is marked with a healthy backend. -/
theorem models_of_backend (registry : BackendRegistry)
    (answers : BackendInfo → Option ModelsAnswer) :
    (listModels registry answers = none ↔
      ∃ b ∈ registry.allBackends, b.status = .healthy ∧ ∃ objects, Lists (answers b) objects ∧
        ∃ fields ∈ objects, ∃ member ∈ otherMembers fields, member.2.renderable = false) ∧
    ∀ body, listModels registry answers = some body →
      ∃ models, body = .obj [("object", .str "list"), ("data", .arr models)] ∧
        (∀ b ∈ registry.allBackends, b.status = .healthy →
          ∃ objects, Lists (answers b) objects ∧
            List.Forall₂ (Marked b) objects (models.filter (isOf b))) ∧
        ∀ m ∈ models, ∃ b ∈ registry.allBackends, b.status = .healthy ∧ isOf b m = true := by
  constructor
  · rw [listModels_eq_none_iff]
    simp only [mem_healthyBackends, exists_stuck_iff, and_assoc]
  · intro body listed
    unfold listModels at listed
    split at listed
    · cases listed
      refine ⟨allModels registry answers, rfl, fun b inside healthy => ?_, ?_⟩
      · obtain ⟨objects, lists⟩ := exists_lists (answers b)
        refine ⟨objects, lists, ?_⟩
        rw [filter_allModels answers (mem_healthyBackends.mpr ⟨inside, healthy⟩),
          modelsOf_of_lists b lists, List.forall₂_map_right_iff, List.forall₂_same]
        exact fun fields _ => marked_markFields b fields
      · intro m member
        obtain ⟨b, among, inside⟩ := List.mem_flatMap.mp member
        obtain ⟨known, healthy⟩ := mem_healthyBackends.mp among
        exact ⟨b, known, healthy, (isOf_of_mem_modelsOf inside).trans (beq_self_eq_true b.id)⟩
    · cases listed

/-- One backend lists a model and something that is none, and the others cannot be reached. -/
def oneLists (b : BackendInfo) : Option ModelsAnswer :=
  if b.id = "big-0" then
    some ⟨200, some (.obj [("data", .arr [.obj [("id", .str "llama")], .null])])⟩
  else none

/-- The listing has the model of the one backend. -/
theorem models_of_backend_oneLists :
    ∃ models b m, listModels (BackendRegistry.new shippedConfig) oneLists =
        some (.obj [("object", .str "list"), ("data", .arr models)]) ∧
      b.id = "big-0" ∧ models.filter (isOf b) = [m] ∧
      m.get "id" .null = some (.str "llama") := by
  have listed : (listModels (BackendRegistry.new shippedConfig) oneLists).isSome = true := by
    decide +kernel
  have known : ((BackendRegistry.new shippedConfig).getBackend "big-0").map
      (fun b => (b.id, b.status)) = some ("big-0", .healthy) := by
    decide +kernel
  obtain ⟨body, listed⟩ := Option.isSome_iff_exists.mp listed
  obtain ⟨b, found, same⟩ := Option.map_eq_some_iff.mp known
  obtain ⟨named, healthy⟩ := Prod.mk.inj same
  obtain ⟨models, rfl, own, _⟩ :=
    (models_of_backend (BackendRegistry.new shippedConfig) oneLists).2 body listed
  obtain ⟨objects, lists, marked⟩ :=
    own b (BackendRegistry.mem_allBackends.mpr (by rw [named]; exact found)) healthy
  have answered : oneLists b = some ⟨200, some (.obj
      [("data", .arr ([[("id", .str "llama")]].map .obj ++ [.null]))])⟩ := by
    rw [oneLists, if_pos named]
    rfl
  have one : Lists (oneLists b) [[("id", .str "llama")]] := .models answered rfl nofun
  obtain rfl := lists.unique one
  obtain ⟨m, nobody, marks, rest, only⟩ := List.forall₂_cons_left_iff.mp marked
  cases rest
  exact ⟨models, b, m, listed, named, only, marks.others "id" (by decide) (by decide)⟩

end HealthRoutes

end AgentServe
