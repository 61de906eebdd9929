import AgentServe.Backends.Registry
import AgentServe.Core.JsonText
import AgentServe.Core.Schemas

/-!
# The classifier

A prompt that no rule decides is shown to a small model, which names a tier. The
tier is cached for some seconds under the agent and a fingerprint of the last three
messages. The fingerprint is taken of the roles and of the first two hundred
characters of the contents, and nothing else of the messages.

So two requests share an entry exactly when they are of one agent and have the same
snippets, as long as the fingerprints of their texts do not collide
(`cacheKey_eq_iff`).
-/

set_option autoImplicit false

namespace AgentServe

open Lib

/-! ## Fingerprints -/

/-- The messages the classifier is shown. -/
def lastThree (messages : List ChatMessage) : List ChatMessage :=
  messages.drop (messages.length - 3)

/-- The role of a message, and the beginning of its content. -/
def snippet (m : ChatMessage) : String × String :=
  (m.role, String.ofList ((m.content.getD "").toList.take 200))

def snippets (messages : List ChatMessage) : List (String × String) :=
  (lastThree messages).map snippet

/-- The text of a snippet. -/
def snippetText (s : String × String) : List Char :=
  JsonText.object [
    JsonText.member "role" (JsonText.literal s.1), JsonText.member "content" (JsonText.literal s.2)]

/-- The text a fingerprint is taken of. -/
def fingerprintText (messages : List ChatMessage) : List Char :=
  JsonText.array snippetText (snippets messages)

/-- The first sixteen digits of the digest of a text. -/
def shortDigest (text : List Char) : List Char :=
  (Sha1.hexdigest (text.flatMap String.utf8EncodeChar)).take 16

def fingerprint (messages : List ChatMessage) : String :=
  String.ofList (shortDigest (fingerprintText messages))

def cacheKey (session : SessionContext) (messages : List ChatMessage) : String :=
  session.agentId ++ ":" ++ fingerprint messages

theorem selfDelimiting_snippetText : SelfDelimiting snippetText := by
  have role := JsonText.selfDelimiting_literal.frame
    (['\x7b'] ++ JsonText.literal "role" ++ [':', ' '])
    ([',', ' '] ++ JsonText.literal "content" ++ [':', ' '])
  have content := JsonText.selfDelimiting_literal.frame [] ['\x7d']
  intro s t r rest same
  apply (role.append content) s t r rest
  simpa [snippetText, JsonText.object, JsonText.member, List.intercalate] using same

/-- **Fingerprints are taken of the snippets.** Texts are equal only if the snippets are. -/
theorem fingerprintText_eq_iff {messages others : List ChatMessage} :
    fingerprintText messages = fingerprintText others ↔ snippets messages = snippets others := by
  constructor
  · have opens : ∀ s r rest, snippetText s ++ r ≠ [']'] ++ rest := by
      intro s r rest same
      exact absurd (List.cons.inj same).1 (by decide)
    exact fun same =>
      (JsonText.selfDelimiting_array selfDelimiting_snippetText opens).injective same
  · intro same
    rw [fingerprintText, same, fingerprintText]

theorem length_shortDigest (text : List Char) : (shortDigest text).length = 16 := by
  rw [shortDigest, List.length_take, Sha1.length_hexdigest]
  rfl

/-- A key names its agent and the digest of its text. -/
theorem cacheKey_inj {session other : SessionContext} {messages others : List ChatMessage}
    (same : cacheKey session messages = cacheKey other others) :
    session.agentId = other.agentId ∧
      shortDigest (fingerprintText messages) = shortDigest (fingerprintText others) := by
  have chars := congrArg String.toList same
  simp only [cacheKey, fingerprint, String.toList_append, String.toList_ofList] at chars
  obtain ⟨agents, digests⟩ := List.append_inj' chars
    ((length_shortDigest _).trans (length_shortDigest _).symm)
  exact ⟨String.toList_inj.mp (List.append_cancel_right agents), digests⟩

/-- Requests whose digests do not collide share a key exactly if they are of one agent and have
the same snippets. -/
theorem cacheKey_eq_iff {session other : SessionContext} {messages others : List ChatMessage}
    (apart : shortDigest (fingerprintText messages) = shortDigest (fingerprintText others) →
      fingerprintText messages = fingerprintText others) :
    cacheKey session messages = cacheKey other others ↔
      session.agentId = other.agentId ∧ snippets messages = snippets others := by
  constructor
  · intro same
    obtain ⟨agents, digests⟩ := cacheKey_inj same
    exact ⟨agents, fingerprintText_eq_iff.mp (apart digests)⟩
  · rintro ⟨agents, same⟩
    rw [cacheKey, cacheKey, agents, fingerprint, fingerprint, fingerprintText_eq_iff.mpr same]

/-! ## Replies -/

/-- How a call of the classifier ends: with an exception, or with an answer that is decoded. -/
inductive ClassifierReply where
  | raised
  | answered (content : Json)

/-- The tier a reply names. It is small if the call or its decoding fails, and if no tier of that
name exists. -/
def ClassifierReply.tier : ClassifierReply → Tier
  | .answered (.obj fields) =>
    match (fields.lookup "tier").getD (.str "small") with
    | .str name => (Tier.ofValue? name).getD .small
    | _ => .small
  | _ => .small

/-! ## The router -/

structure ClassifierRouter where
  cacheTtl : ℤ
  cache : Dict String (Tier × Time)

/-- A call of the classifier that waits for its reply: under which key the tier will be cached, of
which backend, for which model, and with which messages. -/
structure ClassifierCall where
  key : String
  backend : BackendInfo
  model : String
  asked : List ChatMessage

/-- Where a classification gets at once: a tier, from the cache or by default, or a call. -/
inductive Classification where
  | cached (tier : Tier)
  | default
  | asking (call : ClassifierCall)

namespace ClassifierRouter

def new (cacheTtl : ℤ) : ClassifierRouter := ⟨cacheTtl, .empty⟩

/-- The tier under a key, unless it is too old. An entry that is too old is deleted. -/
def cacheGet (c : ClassifierRouter) (key : String) (now : Time) : ClassifierRouter × Option Tier :=
  match c.cache.get? key with
  | none => (c, none)
  | some (tier, ts) =>
    if now - ts < c.cacheTtl then (c, some tier)
    else ({ c with cache := c.cache.erase key }, none)

def cachePut (c : ClassifierRouter) (key : String) (tier : Tier) (now : Time) : ClassifierRouter :=
  { c with cache := c.cache.set key (tier, now) }

/-- A classification up to the call of the classifier. Without a small backend the tier is small
and nothing is cached. -/
def classify (c : ClassifierRouter) (registry : BackendRegistry) (session : SessionContext)
    (messages : List ChatMessage) (now : Time) : ClassifierRouter × Classification :=
  match c.cacheGet (cacheKey session messages) now with
  | (c, some tier) => (c, .cached tier)
  | (c, none) =>
    match registry.getHealthyBackends .small with
    | [] => (c, .default)
    | backend :: _ =>
      (c, .asking {
        key := cacheKey session messages
        backend
        model := if backend.model = "" then "classifier" else backend.model
        asked := lastThree messages })

/-- A classification from the reply on. Whatever the tier comes from, it is cached. -/
def classified (c : ClassifierRouter) (key : String) (reply : ClassifierReply) (now : Time) :
    ClassifierRouter × Tier :=
  (c.cachePut key reply.tier now, reply.tier)

@[simp] theorem cacheTtl_cacheGet (c : ClassifierRouter) (key : String) (now : Time) :
    (c.cacheGet key now).1.cacheTtl = c.cacheTtl := by
  unfold cacheGet
  split
  · rfl
  · split <;> rfl

/-- A classification looks its key up, and changes nothing else before the reply. -/
theorem fst_classify (c : ClassifierRouter) (registry : BackendRegistry)
    (session : SessionContext) (messages : List ChatMessage) (now : Time) :
    (c.classify registry session messages now).1 =
      (c.cacheGet (cacheKey session messages) now).1 := by
  unfold classify
  split
  · rename_i after tier got
    rw [got]
  · rename_i after got
    rw [got]
    split <;> rfl

/-- Looking a key up adds no entry and changes none. -/
theorem get?_cacheGet {c : ClassifierRouter} {key : String} {now : Time} {j : String}
    {entry : Tier × Time} (found : (c.cacheGet key now).1.cache.get? j = some entry) :
    c.cache.get? j = some entry := by
  unfold cacheGet at found
  split at found
  · exact found
  · split at found
    · exact found
    · exact Dict.get?_of_get?_erase found

/-- What is got from the cache is there, and not too old. -/
theorem cacheGet_eq_some {c : ClassifierRouter} {key : String} {now : Time} {tier : Tier}
    (got : (c.cacheGet key now).2 = some tier) :
    ∃ ts, c.cache.get? key = some (tier, ts) ∧ now - ts < c.cacheTtl := by
  unfold cacheGet at got
  split at got
  · cases got
  · rename_i stored ts found
    split at got
    · rename_i fresh
      cases got
      exact ⟨ts, found, fresh⟩
    · cases got

/-- An entry that is not too old is answered. -/
theorem classify_of_fresh {c : ClassifierRouter} {registry : BackendRegistry}
    {session : SessionContext} {messages : List ChatMessage} {now ts : Time} {tier : Tier}
    (found : c.cache.get? (cacheKey session messages) = some (tier, ts))
    (fresh : now - ts < c.cacheTtl) :
    (c.classify registry session messages now).2 = .cached tier := by
  have got : c.cacheGet (cacheKey session messages) now = (c, some tier) := by
    rw [cacheGet, found]
    exact if_pos fresh
  rw [classify, got]

/-- A tier from the cache is what the cache has under the key. -/
theorem cacheGet_of_cached {c d : ClassifierRouter} {registry : BackendRegistry}
    {session : SessionContext} {messages : List ChatMessage} {now : Time} {tier : Tier}
    (cached : c.classify registry session messages now = (d, .cached tier)) :
    (c.cacheGet (cacheKey session messages) now).2 = some tier := by
  unfold classify at cached
  split at cached
  · rename_i after stored got
    cases cached
    rw [got]
  · split at cached <;> cases cached

/-- The default tier is for keys that the cache does not have. -/
theorem cacheGet_of_default {c d : ClassifierRouter} {registry : BackendRegistry}
    {session : SessionContext} {messages : List ChatMessage} {now : Time}
    (default : c.classify registry session messages now = (d, .default)) :
    (c.cacheGet (cacheKey session messages) now).2 = none := by
  unfold classify at default
  split at default
  · cases default
  · rename_i after got
    rw [got]

/-- A call is made under the key of its request, about the last three messages. -/
theorem call_of_asking {c : ClassifierRouter} {registry : BackendRegistry}
    {session : SessionContext} {messages : List ChatMessage} {now : Time} {call : ClassifierCall}
    (asking : (c.classify registry session messages now).2 = .asking call) :
    call.key = cacheKey session messages ∧ call.asked = lastThree messages := by
  unfold classify at asking
  split at asking
  · cases asking
  · split at asking
    · cases asking
    · cases asking
      exact ⟨rfl, rfl⟩

end ClassifierRouter

end AgentServe
