import AgentServe.Lib.Python
import AgentServe.Routing.Classifier

/-!
# Replies of the classifier

The reply of the classifier is the output of a model. It is unpacked by a chain of
lookups, a second decoding and a lookup among the tiers, and each of them raises
where the value has not the shape it expects. All of this is inside one handler, so
a classification returns whatever the reply is, unless it is cancelled
(`classification_is_careful`).

A classification that asks the classifier gives the big tier exactly if the reply
says so in full (`tier_eq_big_iff`). What is cached is the same tier: the chain of
lookups ends where the router takes the reply up (`classified_reply`).

The decoder of texts is a parameter. Nothing is assumed of it.
-/

set_option autoImplicit false

namespace AgentServe

open Lib

/-- What comes of the request to the classifier: the client raises, or there is a response with a
status and a body, if the body can be decoded. -/
inductive ClassifierResponse where
  | raises (e : PyError)
  | responds (status : ℕ) (body : Option PyValue)

/-- The tier of a value, if the value can be looked up. What is no text of a tier is small. -/
def Tier.ofMember (v : PyValue) : Except PyError Tier :=
  if v.hashable then
    match v with
    | .str name => .ok ((Tier.ofValue? name).getD .small)
    | _ => .ok .small
  else .error .typeError

namespace ClassifierResponse

/-- The decoded body of a response that is no failure. -/
def json : ClassifierResponse → Except PyError PyValue
  | .raises e => .error e
  | .responds status body =>
    if 200 ≤ status ∧ status < 300 then body.elim (.error .valueError) .ok else .error .other

section Decoder

variable (loads : String → Option PyValue)

/-- The value that the text of the reply decodes to. -/
def value (r : ClassifierResponse) : Except PyError PyValue := do
  let reply ← r.json
  let choices ← reply.item "choices"
  let choice ← choices.first
  let message ← choice.item "message"
  let content ← message.item "content"
  let text ← content.strip
  (loads text).elim (.error .valueError) .ok

/-- The tier that the reply names. -/
def named (r : ClassifierResponse) : Except PyError Tier := do
  let value ← r.value loads
  let name ← value.get "tier" (.str "small")
  Tier.ofMember name

/-- The tier that is taken from the reply: small, when anything fails. -/
def tier (r : ClassifierResponse) : Except PyError Tier := guarded .small (r.named loads)

/-- The reply succeeded with a first choice whose content is, without the blanks around it, an
object that names the big tier. -/
def SaysBig (r : ClassifierResponse) : Prop :=
  ∃ status reply choice rest message content decoded,
    r = .responds status (some (.dict reply)) ∧ 200 ≤ status ∧ status < 300 ∧
    reply.lookup "choices" = some (.list (.dict choice :: rest)) ∧
    choice.lookup "message" = some (.dict message) ∧
    message.lookup "content" = some (.str content) ∧
    loads (PyData.stripped content) = some (.dict decoded) ∧
    decoded.lookup "tier" = some (.str "big")

end Decoder

variable {loads : String → Option PyValue} {r : ClassifierResponse}

theorem json_ne_cancelled (alive : r ≠ .raises .cancelled) : r.json ≠ .error .cancelled := by
  cases r with
  | raises e => exact fun same => alive (congrArg raises (Except.error.inj same))
  | responds status body =>
      simp only [json]
      split
      · cases body <;> exact nofun
      · exact nofun

theorem value_ne_cancelled (alive : r ≠ .raises .cancelled) :
    r.value loads ≠ .error .cancelled := by
  intro cancelled
  simp only [value, bind_eq_error_iff] at cancelled
  rcases cancelled with here | ⟨reply, _, here | ⟨choices, _, here | ⟨choice, _, here |
    ⟨message, _, here | ⟨content, _, here | ⟨text, _, here⟩⟩⟩⟩⟩⟩
  · exact json_ne_cancelled alive here
  · exact PyData.item_ne_cancelled _ _ here
  · exact PyData.first_ne_cancelled _ here
  · exact PyData.item_ne_cancelled _ _ here
  · exact PyData.item_ne_cancelled _ _ here
  · exact PyData.strip_ne_cancelled _ here
  · revert here
    cases loads text <;> exact nofun

theorem ofMember_ne_cancelled (v : PyValue) : Tier.ofMember v ≠ .error .cancelled := by
  unfold Tier.ofMember
  split
  · split <;> exact nofun
  · exact nofun

theorem named_ne_cancelled (alive : r ≠ .raises .cancelled) :
    r.named loads ≠ .error .cancelled := by
  intro cancelled
  simp only [named, bind_eq_error_iff] at cancelled
  rcases cancelled with here | ⟨value, _, here | ⟨name, _, here⟩⟩
  · exact value_ne_cancelled alive here
  · exact PyData.get_ne_cancelled _ _ _ here
  · exact ofMember_ne_cancelled _ here

/-- A value names the big tier only as a text, and exactly. -/
theorem ofMember_eq_big_iff {v : PyValue} : Tier.ofMember v = .ok .big ↔ v = .str "big" := by
  cases v with
  | str name =>
      simp only [Tier.ofMember, PyData.hashable, if_true, Except.ok.injEq, PyData.str.injEq]
      unfold Tier.ofValue?
      split <;> simp_all
  | _ => simp [Tier.ofMember, PyData.hashable]

/-- A body is decoded if the response is a success. -/
theorem json_eq_ok_iff {v : PyValue} :
    r.json = .ok v ↔ ∃ status, r = .responds status (some v) ∧ 200 ≤ status ∧ status < 300 := by
  constructor
  · intro decoded
    cases r with
    | raises e => cases decoded
    | responds status body =>
        simp only [json] at decoded
        split at decoded
        · rename_i success
          cases body with
          | none => cases decoded
          | some body =>
              cases decoded
              exact ⟨status, rfl, success⟩
        · cases decoded
  · rintro ⟨status, rfl, success⟩
    exact if_pos success

/-- What the decoded text of a reply must have come from. -/
theorem value_eq_ok_iff {v : PyValue} :
    r.value loads = .ok v ↔
      ∃ status reply choice rest message content,
        r = .responds status (some (.dict reply)) ∧ 200 ≤ status ∧ status < 300 ∧
        reply.lookup "choices" = some (.list (.dict choice :: rest)) ∧
        choice.lookup "message" = some (.dict message) ∧
        message.lookup "content" = some (.str content) ∧
        loads (PyData.stripped content) = some v := by
  simp only [value, bind_eq_ok_iff, json_eq_ok_iff]
  constructor
  · rintro ⟨reply, ⟨status, rfl, atLeast, below⟩, choices, found, choice, firstly, message, inside,
      content, text, stripped, ends, here⟩
    obtain ⟨members, rfl, lookup⟩ := PyData.item_eq_ok_iff.mp found
    obtain ⟨fields, rfl, second⟩ := PyData.item_eq_ok_iff.mp inside
    obtain ⟨parts, rfl, third⟩ := PyData.item_eq_ok_iff.mp text
    obtain ⟨s, rfl, rfl⟩ := PyData.strip_eq_ok_iff.mp ends
    obtain ⟨rest, rfl⟩ := (PyData.first_eq_ok_iff fun _ same => by cases same).mp firstly
    have value : loads (PyData.stripped s) = some v := by
      revert here
      cases loads (PyData.stripped s) with
      | none => exact nofun
      | some w => exact fun same => congrArg some (Except.ok.inj same)
    exact ⟨status, members, fields, rest, parts, s, rfl, atLeast, below, lookup, second, third,
      value⟩
  · rintro ⟨status, reply, choice, rest, message, content, rfl, atLeast, below, lookup, second,
      third, value⟩
    refine ⟨.dict reply, ⟨status, rfl, atLeast, below⟩, _,
      PyData.item_eq_ok_iff.mpr ⟨_, rfl, lookup⟩, .dict choice, rfl, _,
      PyData.item_eq_ok_iff.mpr ⟨_, rfl, second⟩, _, PyData.item_eq_ok_iff.mpr ⟨_, rfl, third⟩,
      _, rfl, ?_⟩
    rw [value]
    rfl

/-- **When a reply gives the big tier.** -/
theorem tier_eq_big_iff : r.tier loads = .ok .big ↔ r.SaysBig loads := by
  have named_big : r.tier loads = .ok .big ↔ r.named loads = .ok .big := by
    unfold tier
    cases r.named loads with
    | ok t => exact Iff.rfl
    | error e => cases e <;> simp [guarded]
  rw [named_big]
  simp only [named, bind_eq_ok_iff, value_eq_ok_iff, PyData.get_eq_ok_iff, ofMember_eq_big_iff]
  constructor
  · rintro ⟨_, ⟨status, reply, choice, rest, message, content, same, atLeast, below, lookup,
      second, third, value⟩, _, ⟨decoded, rfl, name⟩, rfl⟩
    refine ⟨status, reply, choice, rest, message, content, decoded, same, atLeast, below, lookup,
      second, third, value, ?_⟩
    cases found : decoded.lookup "tier" with
    | none =>
        rw [found] at name
        exact absurd (PyData.str.inj name) (by decide)
    | some v =>
        rw [found] at name
        exact congrArg some name
  · rintro ⟨status, reply, choice, rest, message, content, decoded, same, atLeast, below, lookup,
      second, third, value, name⟩
    exact ⟨.dict decoded, ⟨status, reply, choice, rest, message, content, same, atLeast, below,
      lookup, second, third, value⟩, .str "big", ⟨decoded, rfl, by rw [name]; rfl⟩, rfl⟩

end ClassifierResponse

/-! ## The reply as the router takes it up -/

mutual

/-- A decoded value, as far as the gateway tells values apart. -/
def ofPyValue : PyValue → Json
  | .none => .null
  | .bool b => .bool b
  | .int n => .number n
  | .float (.finite q) => .number q
  | .float _ => .unrenderable
  | .str s => .str s
  | .list items => .arr (ofPyItems items)
  | .dict items => .obj (ofPyMembers items)

def ofPyItems : List PyValue → List Json
  | [] => []
  | v :: rest => ofPyValue v :: ofPyItems rest

def ofPyMembers : List (String × PyValue) → List (String × Json)
  | [] => []
  | (key, v) :: rest => (key, ofPyValue v) :: ofPyMembers rest

end

theorem lookup_ofPyMembers (items : List (String × PyValue)) (key : String) :
    (ofPyMembers items).lookup key = (items.lookup key).map ofPyValue := by
  induction items with
  | nil => rfl
  | cons e rest ih =>
      obtain ⟨name, v⟩ := e
      simp only [ofPyMembers, List.lookup_cons]
      cases key == name with
      | true => rfl
      | false => exact ih

namespace ClassifierResponse

variable {loads : String → Option PyValue} {r : ClassifierResponse}

/-- The reply of a response: what its text decodes to, if all lookups on the way succeed. -/
def reply (loads : String → Option PyValue) (r : ClassifierResponse) : ClassifierReply :=
  match r.value loads with
  | .ok v => .answered (ofPyValue v)
  | .error _ => .raised

/-- The lookup of a value among the tiers, as the router takes it up. -/
theorem ofMember_eq_tier (v : PyValue) :
    (Tier.ofMember v).toOption.getD .small =
      (ClassifierReply.answered (.obj [("tier", ofPyValue v)])).tier := by
  cases v with
  | float x => cases x <;> rfl
  | _ => rfl

theorem tier_ofPyMembers (items : List (String × PyValue)) :
    (ClassifierReply.answered (ofPyValue (.dict items))).tier =
      (ClassifierReply.answered
        (.obj [("tier", ofPyValue ((items.lookup "tier").getD (.str "small")))])).tier := by
  simp only [ofPyValue, ClassifierReply.tier, lookup_ofPyMembers]
  cases items.lookup "tier" <;> rfl

/-- The tier of a response that was not cancelled is the tier of its reply. -/
theorem tier_eq_tier_reply (alive : r ≠ .raises .cancelled) :
    r.tier loads = .ok (r.reply loads).tier := by
  rw [tier, guarded_eq_ok (named_ne_cancelled alive), named, reply]
  cases r.value loads with
  | error e => rfl
  | ok v =>
      cases v with
      | dict items =>
          rw [tier_ofPyMembers, ← ofMember_eq_tier]
          rfl
      | float x => cases x <;> rfl
      | _ => rfl

end ClassifierResponse

namespace ClassifierRouter

/-- A whole classification: from the cache, by default, or from the response that comes. -/
def answer (loads : String → Option PyValue) (c : ClassifierRouter) (registry : BackendRegistry)
    (session : SessionContext) (messages : List ChatMessage) (now : Time)
    (response : ClassifierResponse) : Except PyError Tier :=
  match (c.classify registry session messages now).2 with
  | .cached tier => .ok tier
  | .default => .ok .small
  | .asking _ => response.tier loads

/-- The tier of a classification that asked is the one that is cached under its key, whatever
other classifications did to the cache in the meantime. -/
theorem classified_reply {loads : String → Option PyValue} {c : ClassifierRouter}
    {registry : BackendRegistry} {session : SessionContext} {messages : List ChatMessage}
    {now : Time} {response : ClassifierResponse} {call : ClassifierCall}
    (asking : (c.classify registry session messages now).2 = .asking call)
    (alive : response ≠ .raises .cancelled) (meanwhile : ClassifierRouter) (later : Time) :
    c.answer loads registry session messages now response =
      .ok (meanwhile.classified call.key (response.reply loads) later).2 := by
  rw [answer, asking]
  exact ClassifierResponse.tier_eq_tier_reply alive

/-- A classification asks only where a backend of the small tier is healthy. -/
theorem backend_of_asking {c : ClassifierRouter} {registry : BackendRegistry}
    {session : SessionContext} {messages : List ChatMessage} {now : Time} {call : ClassifierCall}
    (asking : (c.classify registry session messages now).2 = .asking call) :
    registry.getHealthyBackends .small ≠ [] := by
  unfold classify at asking
  split at asking
  · cases asking
  · split at asking
    · cases asking
    · rename_i found
      rw [found]
      exact List.cons_ne_nil _ _

/-- **The classifier never fails and never escalates by accident.** Whatever the cache, the
registry, the request and the response are, a classification that is not cancelled returns a tier.
With an empty cache it returns the big tier only if a backend of the small tier was healthy and the
response names the big tier in full. -/
theorem classification_is_careful (loads : String → Option PyValue) (c : ClassifierRouter)
    (registry : BackendRegistry) (session : SessionContext) (messages : List ChatMessage)
    (now : Time) (response : ClassifierResponse) (alive : response ≠ .raises .cancelled) :
    (∃ tier, c.answer loads registry session messages now response = .ok tier) ∧
      (c.cache = .empty → c.answer loads registry session messages now response = .ok .big →
        registry.getHealthyBackends .small ≠ [] ∧ response.SaysBig loads) := by
  unfold answer
  cases outcome : (c.classify registry session messages now).2 with
  | cached tier =>
      refine ⟨⟨tier, rfl⟩, ?_⟩
      intro empty _
      have got := cacheGet_of_cached (Prod.ext rfl outcome)
      obtain ⟨ts, found, _⟩ := cacheGet_eq_some got
      rw [empty] at found
      cases found
  | default => exact ⟨⟨.small, rfl⟩, fun _ big => by cases big⟩
  | asking call =>
      refine ⟨⟨_, ClassifierResponse.tier_eq_tier_reply alive⟩, ?_⟩
      intro _ big
      exact ⟨backend_of_asking outcome, ClassifierResponse.tier_eq_big_iff.mp big⟩

/-- The text of an object whose tier is a list, which cannot be looked up among the tiers. -/
def listText : String := "\x7b\"tier\": [\"big\"]\x7d"

def listResponse : ClassifierResponse :=
  .responds 200 (some (.dict [
    ("choices", .list [.dict [("message", .dict [("content", .str (listText ++ "\n"))])]])]))

/-- The decoder, on that text. -/
def loadsList (text : String) : Option PyValue :=
  if text = listText then some (.dict [("tier", .list [.str "big"])]) else none

/-- A reply that names a list of tiers gives a tier. -/
theorem classification_is_careful_for_list :
    (∃ tier, (new 300).answer loadsList (.new shippedConfig) { sessionId := "s", agentId := "a" }
        [] 0 listResponse = .ok tier) ∧
      ((new 300).cache = .empty →
        (new 300).answer loadsList (.new shippedConfig) { sessionId := "s", agentId := "a" } [] 0
          listResponse = .ok .big →
        (BackendRegistry.new shippedConfig).getHealthyBackends .small ≠ [] ∧
          listResponse.SaysBig loadsList) :=
  classification_is_careful loadsList (new 300) (.new shippedConfig)
    { sessionId := "s", agentId := "a" } [] 0 listResponse nofun

end ClassifierRouter

end AgentServe
