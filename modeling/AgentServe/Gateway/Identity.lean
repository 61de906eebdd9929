import AgentServe.Accounting.Accountant
import AgentServe.Gateway.Handler

/-!
# Where a request says who it is

A request may name its session, its agent and a tier in headers, and the schema
reads the same three from members of the body, each under two names
(`validate_identity`). The session is built from the headers alone. What the body
says is read, kept out of the payload and not used.

So a request that names itself in its body is treated as an anonymous one without a
session. That is how the same names in the headers are treated exactly if they are
those of an anonymous request (`Anonymous`, `identity_from_body_iff`). Where the
headers are present they are what counts, whatever the body says.
-/

set_option autoImplicit false

namespace AgentServe

open Lib Schema
open Json (present)

/-- The session, the agent and the tier a request names. -/
structure Identity where
  sessionId : Option String := none
  agentId : Option String := none
  tierHint : Option Tier := none

/-- The names of the three members: the aliases, or the names of the fields. -/
inductive Naming where
  | aliases
  | fields
deriving DecidableEq

namespace Identity

/-- The members of a body that name what a request names. -/
def members (i : Identity) : Naming → List (String × Option Json)
  | .aliases => [("x_session_id", i.sessionId.map .str), ("x_agent_id", i.agentId.map .str),
      ("x_tier_hint", i.tierHint.map fun t => .str t.value)]
  | .fields => [("session_id", i.sessionId.map .str), ("agent_id", i.agentId.map .str),
      ("tier_hint", i.tierHint.map fun t => .str t.value)]

/-- A request that names itself in its headers. -/
def inHeaders (i : Identity) (uuid : String) (body : ChatCompletionRequest) : IncomingRequest where
  xSessionId := i.sessionId
  xAgentId := i.agentId
  xTierHint := i.tierHint.map Tier.value
  uuid := uuid
  body := body

/-- What the schema reads of a body that names what a request names. -/
def read (i : Identity) (r : ChatCompletionRequest) : ChatCompletionRequest :=
  { r with
    sessionId := i.sessionId
    agentId := i.agentId
    tierHint := i.tierHint.getD .auto }

/-- The names are those of an anonymous request: no tier is asked for, no agent is named, and the
session is the one that is drawn for a request without a session. -/
structure Anonymous (i : Identity) (uuid drawn : String) : Prop where
  session : (i.sessionId = some drawn ∧ drawn ≠ "") ∨
    ((i.sessionId = none ∨ i.sessionId = some "") ∧ uuid = drawn)
  agent : i.agentId = some "anonymous" ∨ i.agentId = none ∨ i.agentId = some ""
  tier : i.tierHint = none ∨ i.tierHint = some .auto

end Identity

/-- A request without headers. -/
def withoutHeaders (uuid : String) (body : ChatCompletionRequest) : IncomingRequest where
  uuid := uuid
  body := body

/-- Two requests are treated alike: they have the same session, so the same decision on the tier,
the same turn at the scheduler and the same account. -/
structure TreatedAlike (lib : SchemaLibrary) (q p : IncomingRequest) : Prop where
  session : q.session lib = p.session lib
  decision : ∀ (t : TierRouter) (registry : BackendRegistry) (now : Time),
    t.route registry (q.session lib) q.body.messages now =
      t.route registry (p.session lib) p.body.messages now
  binding : ∀ (s : AffinityScheduler) (tier : Tier) (candidates : List BackendInfo)
    (now made : Time), s.selectBackend (q.session lib) tier candidates now made =
      s.selectBackend (p.session lib) tier candidates now made
  account : ∀ (a : TokenAccountant) (now : Time),
    a.checkBudget (q.session lib).agentId (estimatedTokens (q.input lib)) now =
      a.checkBudget (p.session lib).agentId (estimatedTokens (p.input lib)) now

/-- Requests with the same session and the same messages are treated alike. -/
theorem treatedAlike_of_session {lib : SchemaLibrary} {q p : IncomingRequest}
    (session : q.session lib = p.session lib) (messages : q.body.messages = p.body.messages) :
    TreatedAlike lib q p := by
  have estimate : estimatedTokens (q.input lib) = estimatedTokens (p.input lib) := by
    simp only [IncomingRequest.input, ChatInput.ofRequest, estimatedTokens, messages]
  refine ⟨session, ?_, ?_, ?_⟩
  · intro t registry now
    rw [session, messages]
  · intro s tier candidates now made
    rw [session]
  · intro a now
    rw [session, estimate]

/-! ## What the schema reads -/

theorem lookup_members_of_notMem (i : Identity) (naming : Naming) {name : String}
    (other : name ∉ gatewayOnly) : (present (i.members naming)).lookup name = none := by
  apply Json.lookup_present_of_notMem
  intro member
  apply other
  cases naming <;> simp [Identity.members] at member <;> rcases member with rfl | rfl | rfl <;>
    simp [gatewayOnly]

theorem nodup_members (i : Identity) (naming : Naming) :
    ((i.members naming).map Prod.fst).Nodup := by
  cases naming
  · exact show ["x_session_id", "x_agent_id", "x_tier_hint"].Nodup by decide
  · exact show ["session_id", "agent_id", "tier_hint"].Nodup by decide

section Members

variable (i : Identity) (naming : Naming)

/-- The three members, as the schema reads them. -/
theorem read_sessionId :
    defaulted (aliased (present (i.members naming)) "x_session_id" "session_id") none
      (nullable str?) = some i.sessionId := by
  simp only [aliased, Json.lookup_present (nodup_members i naming)]
  obtain ⟨sessionId, _, _⟩ := i
  cases naming <;> cases sessionId <;> rfl

theorem read_agentId :
    defaulted (aliased (present (i.members naming)) "x_agent_id" "agent_id") none
      (nullable str?) = some i.agentId := by
  simp only [aliased, Json.lookup_present (nodup_members i naming)]
  obtain ⟨_, agentId, _⟩ := i
  cases naming <;> cases agentId <;> rfl

theorem read_tierHint :
    defaulted (aliased (present (i.members naming)) "x_tier_hint" "tier_hint") .auto tier? =
      some (i.tierHint.getD .auto) := by
  simp only [aliased, Json.lookup_present (nodup_members i naming)]
  obtain ⟨_, _, tierHint⟩ := i
  cases naming <;> rcases tierHint with _ | (_ | _ | _) <;> rfl

end Members

/-- **The body names what the request names.** Adding the members to a body without them adds what
they say to what is read. -/
theorem validate_identity {lib : SchemaLibrary} {fields : List (String × Json)}
    {r : ChatCompletionRequest}
    (accepted : ChatCompletionRequest.validate lib (.obj fields) = some r)
    (unnamed : ∀ name ∈ gatewayOnly, fields.lookup name = none) (i : Identity)
    (naming : Naming) :
    ChatCompletionRequest.validate lib (.obj (fields ++ present (i.members naming))) =
      some (i.read r) := by
  have plain : ∀ name, name ∉ gatewayOnly →
      (fields ++ present (i.members naming)).lookup name = fields.lookup name := by
    intro name other
    rw [List.lookup_append, lookup_members_of_notMem i naming other, Option.or_none]
  have own : ∀ first name, first ∈ gatewayOnly → name ∈ gatewayOnly →
      aliased (fields ++ present (i.members naming)) first name =
        aliased (present (i.members naming)) first name := by
    intro first name member other
    simp only [aliased, List.lookup_append, unnamed first member, unnamed name other,
      Option.none_or]
  simp only [ChatCompletionRequest.validate] at accepted ⊢
  rw [plain "model" (by decide), plain "messages" (by decide), plain "stream" (by decide),
    plain "temperature" (by decide), plain "max_tokens" (by decide), plain "tools" (by decide),
    plain "tool_choice" (by decide),
    own "x_session_id" "session_id" (by decide) (by decide), read_sessionId,
    own "x_agent_id" "agent_id" (by decide) (by decide), read_agentId,
    own "x_tier_hint" "tier_hint" (by decide) (by decide), read_tierHint]
  obtain ⟨model, readModel, accepted⟩ := Option.bind_eq_some_iff.mp accepted
  obtain ⟨messages, readMessages, accepted⟩ := Option.bind_eq_some_iff.mp accepted
  obtain ⟨stream, readStream, accepted⟩ := Option.bind_eq_some_iff.mp accepted
  obtain ⟨temperature, readTemperature, accepted⟩ := Option.bind_eq_some_iff.mp accepted
  obtain ⟨maxTokens, readMax, accepted⟩ := Option.bind_eq_some_iff.mp accepted
  obtain ⟨tools, readTools, accepted⟩ := Option.bind_eq_some_iff.mp accepted
  obtain ⟨toolChoice, readChoice, accepted⟩ := Option.bind_eq_some_iff.mp accepted
  obtain ⟨sessionId, readSession, accepted⟩ := Option.bind_eq_some_iff.mp accepted
  obtain ⟨agentId, readAgent, accepted⟩ := Option.bind_eq_some_iff.mp accepted
  obtain ⟨tierHint, readHint, accepted⟩ := Option.bind_eq_some_iff.mp accepted
  cases accepted
  rw [readModel, readMessages, readStream, readTemperature, readMax, readTools, readChoice]
  rfl

/-! ## What the session is built from -/

theorem headerOr_eq_iff {header : Option String} {default text : String} :
    headerOr header default = text ↔
      (header = some text ∧ text ≠ "") ∨ ((header = none ∨ header = some "") ∧ default = text) := by
  cases header with
  | none => simp [headerOr]
  | some value =>
      by_cases empty : value = ""
      · subst empty
        simp only [headerOr, if_true, Option.some.injEq, reduceCtorEq, false_or, true_and]
        exact ⟨.inr, fun either => either.elim (fun both => absurd both.1.symm both.2) id⟩
      · simp only [headerOr, empty, if_false, Option.some.injEq, reduceCtorEq, false_and,
          or_false]
        exact ⟨fun same => ⟨same, same ▸ empty⟩, And.left⟩

/-- The session of a request that names itself in its headers. -/
theorem session_inHeaders (lib : SchemaLibrary) (i : Identity) (uuid : String)
    (body : ChatCompletionRequest) :
    (i.inHeaders uuid body).session lib =
      { sessionId := headerOr i.sessionId uuid
        agentId := headerOr i.agentId "anonymous"
        tierHint := i.tierHint.getD .auto } := by
  obtain ⟨sessionId, agentId, tierHint⟩ := i
  cases tierHint with
  | none => rfl
  | some tier => cases tier <;> rfl

/-- The session of a request without headers is a drawn one, of the anonymous agent. -/
theorem session_withoutHeaders (lib : SchemaLibrary) (uuid : String)
    (body : ChatCompletionRequest) :
    (withoutHeaders uuid body).session lib = { sessionId := uuid, agentId := "anonymous" } := rfl

/-- Naming oneself in the headers gives the session of a request without headers exactly if the
names are those of an anonymous request. -/
theorem session_eq_iff (lib : SchemaLibrary) (i : Identity) (uuid drawn : String)
    (body other : ChatCompletionRequest) :
    (i.inHeaders uuid body).session lib = (withoutHeaders drawn other).session lib ↔
      i.Anonymous uuid drawn := by
  rw [session_inHeaders, session_withoutHeaders, SessionContext.mk.injEq, headerOr_eq_iff,
    headerOr_eq_iff]
  constructor
  · rintro ⟨session, agent, _, _, tier⟩
    refine ⟨session, ?_, ?_⟩
    · rcases agent with ⟨named, _⟩ | ⟨unnamed, _⟩
      · exact .inl named
      · exact .inr unnamed
    · cases hint : i.tierHint with
      | none => exact .inl rfl
      | some t =>
          rw [hint] at tier
          exact .inr (congrArg some tier)
  · rintro ⟨session, agent, tier⟩
    refine ⟨session, ?_, rfl, rfl, ?_⟩
    · rcases agent with named | unnamed
      · exact .inl ⟨named, by decide⟩
      · exact .inr ⟨unnamed, rfl⟩
    · rcases tier with none | auto
      · rw [none]
        rfl
      · rw [auto]
        rfl

/-- **Naming oneself in the body.** Whatever a request names, under either of the names of the
members, naming it in the body alone is accepted, and is treated like naming it in the headers
alone exactly if the names are those of an anonymous request. With both, the headers count. -/
theorem identity_from_body_iff (lib : SchemaLibrary) (fields : List (String × Json))
    (r : ChatCompletionRequest)
    (accepted : ChatCompletionRequest.validate lib (.obj fields) = some r)
    (unnamed : ∀ name ∈ gatewayOnly, fields.lookup name = none) (i : Identity)
    (naming : Naming) (uuid drawn : String) :
    ∃ named, ChatCompletionRequest.validate lib (.obj (fields ++ present (i.members naming))) =
        some named ∧
      (TreatedAlike lib (i.inHeaders uuid r) (withoutHeaders drawn named) ↔
        i.Anonymous uuid drawn) ∧
      ∀ other : Identity,
        TreatedAlike lib (other.inHeaders uuid named) (other.inHeaders uuid r) := by
  refine ⟨i.read r, validate_identity accepted unnamed i naming, ?_, ?_⟩
  · rw [← session_eq_iff lib i uuid drawn r (i.read r)]
    exact ⟨TreatedAlike.session, fun same => treatedAlike_of_session same rfl⟩
  · intro other
    have session : (other.inHeaders uuid (i.read r)).session lib =
        (other.inHeaders uuid r).session lib := by
      rw [session_inHeaders, session_inHeaders]
    exact treatedAlike_of_session session rfl

/-! ## A session in the body -/

/-- A body without names, and what it is read as. -/
def plainBody : List (String × Json) :=
  [("model", .str "auto"),
    ("messages", .arr [.obj [("role", .str "user"), ("content", .str "hi")]])]

def plainRequest : ChatCompletionRequest where
  model := "auto"
  messages := [{ role := "user", content := some "hi" }]

def agentOnBig : Identity where
  sessionId := some "s"
  agentId := some "agent"
  tierHint := some .big

/-- A request that names itself in its body runs as an anonymous one. -/
theorem body_identity_is_ignored :
    ¬ ∀ (lib : SchemaLibrary) (fields : List (String × Json)) (r named : ChatCompletionRequest)
      (i : Identity) (naming : Naming) (uuid drawn : String),
      ChatCompletionRequest.validate lib (.obj fields) = some r →
      (∀ name ∈ gatewayOnly, fields.lookup name = none) →
      ChatCompletionRequest.validate lib (.obj (fields ++ present (i.members naming))) =
        some named →
      TreatedAlike lib (i.inHeaders uuid r) (withoutHeaders drawn named) := by
  intro always
  have alike := always plainLibrary plainBody plainRequest (agentOnBig.read plainRequest)
    agentOnBig .aliases "0" "1" rfl (by decide) rfl
  have same := congrArg SessionContext.agentId alike.session
  exact absurd same (by decide)

/-- The condition for a request that names a session, an agent and a tier. -/
theorem identity_from_body_iff_for_agent :
    ∃ named, ChatCompletionRequest.validate plainLibrary
        (.obj (plainBody ++ present (agentOnBig.members .aliases))) = some named ∧
      (TreatedAlike plainLibrary (agentOnBig.inHeaders "0" plainRequest)
          (withoutHeaders "1" named) ↔ agentOnBig.Anonymous "0" "1") ∧
      ∀ other : Identity, TreatedAlike plainLibrary (other.inHeaders "0" named)
        (other.inHeaders "0" plainRequest) :=
  identity_from_body_iff plainLibrary plainBody plainRequest rfl (by decide) agentOnBig .aliases
    "0" "1"

end AgentServe
