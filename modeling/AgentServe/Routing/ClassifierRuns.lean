import AgentServe.Lib.Run
import AgentServe.Routing.Classifier
import Mathlib.Data.List.DropRight
import Mathlib.Data.List.Forall2

/-!
# What the cache of the classifier answers

Classifications by any agents overlap: one may be asking the classifier while others
begin and end. Every call that ends, by an answer or by a failure, is the last one
under its key from then on, and the cache holds no tier but that of the last call
under its key (`Logged`).

Calls share a key when they are of one agent and their last three messages have the
same roles and begin alike (`EndedCall.key_eq_iff`). So a cached tier is the one the
last such call gave: what the classifier said of the messages of that call, or small
if the call failed (`cached_tier_is_last_call`). It need not be what the classifier
would say of the messages at hand (`cached_tier_differs`).

The calls that ended are logged. The program keeps no such log, and no step reads it.
-/

set_option autoImplicit false

namespace AgentServe

open Lib

/-- A classification that waits for the classifier. -/
structure PendingCall where
  session : SessionContext
  messages : List ChatMessage
  call : ClassifierCall

/-- A call that ended: for which request, whether it succeeded, and when its tier was cached. -/
structure EndedCall where
  session : SessionContext
  messages : List ChatMessage
  succeeded : Bool
  time : Time

structure ClassifierSystem (κ : Type) where
  router : ClassifierRouter
  pending : Dict κ PendingCall
  ended : List EndedCall

/-- What can happen next: a classification begins, with the registry it finds; a call ends; a
classification is cancelled while it waits. -/
inductive ClassifierEvent (κ : Type) where
  | classify (k : κ) (registry : BackendRegistry) (session : SessionContext)
    (messages : List ChatMessage) (now : Time)
  | reply (k : κ) (succeeded : Bool) (now : Time)
  | cancel (k : κ)

/-- The texts the fingerprint of a classification that begins is taken of. -/
def ClassifierEvent.texts {κ : Type} : ClassifierEvent κ → List (List Char)
  | .classify _ _ _ messages _ => [fingerprintText messages]
  | _ => []

/-- When an event happens, if it reads the clock. -/
def ClassifierEvent.time? {κ : Type} : ClassifierEvent κ → Option Time
  | .classify _ _ _ _ now => some now
  | .reply _ _ now => some now
  | .cancel _ => none

/-- A classification begins only while a classifier backend is healthy. -/
def ClassifierEvent.Backed {κ : Type} : ClassifierEvent κ → Prop
  | .classify _ registry _ _ _ => registry.getHealthyBackends .small ≠ []
  | _ => True

/-- No two of the texts have the same short digest. -/
def CollisionFree (texts : List (List Char)) : Prop :=
  ∀ a ∈ texts, ∀ b ∈ texts, shortDigest a = shortDigest b → a = b

namespace EndedCall

def key (c : EndedCall) : String := cacheKey c.session c.messages

/-- The tier a call gave, by a classifier that answers the messages it is asked about. -/
def tier (answer : List ChatMessage → ClassifierReply) (c : EndedCall) : Tier :=
  if c.succeeded then (answer (lastThree c.messages)).tier else .small

/-- Messages of one role whose contents begin with the same two hundred characters. No content
reads as an empty one. -/
def BeginAlike (m other : ChatMessage) : Prop :=
  m.role = other.role ∧
    (m.content.getD "").toList.take 200 = (other.content.getD "").toList.take 200

instance : DecidableRel BeginAlike := fun _ _ => inferInstanceAs (Decidable (_ ∧ _))

/-- A call by the agent of a request, with last three messages that are like those of the
request. -/
def Matches (session : SessionContext) (messages : List ChatMessage) (c : EndedCall) : Prop :=
  c.session.agentId = session.agentId ∧
    List.Forall₂ BeginAlike (c.messages.rtake 3) (messages.rtake 3)

instance (session : SessionContext) (messages : List ChatMessage) :
    DecidablePred (Matches session messages) :=
  fun _ => inferInstanceAs (Decidable (_ ∧ _))

theorem snippet_eq_iff {m other : ChatMessage} :
    snippet m = snippet other ↔ BeginAlike m other := by
  rw [snippet, snippet, Prod.mk.injEq, String.ofList_inj, BeginAlike]

theorem snippets_eq_iff {messages others : List ChatMessage} :
    snippets messages = snippets others ↔
      List.Forall₂ BeginAlike (messages.rtake 3) (others.rtake 3) := by
  have alike : (fun m other => snippet m = snippet other) = BeginAlike := by
    funext m other
    exact propext snippet_eq_iff
  rw [snippets, snippets, ← List.forall₂_eq_eq_eq, List.forall₂_map_left_iff,
    List.forall₂_map_right_iff, alike]
  rfl

/-- If digests do not collide, the calls under the key of a request are the matching ones. -/
theorem key_eq_iff {session : SessionContext} {messages : List ChatMessage} {c : EndedCall}
    (apart : shortDigest (fingerprintText c.messages) = shortDigest (fingerprintText messages) →
      fingerprintText c.messages = fingerprintText messages) :
    c.key = cacheKey session messages ↔ c.Matches session messages := by
  rw [key, cacheKey_eq_iff apart, snippets_eq_iff, Matches]

end EndedCall

namespace ClassifierSystem

variable {κ : Type} [DecidableEq κ]

def new (cacheTtl : ℤ) : ClassifierSystem κ := ⟨.new cacheTtl, .empty, []⟩

/-- One step, with a classifier that answers what it is asked in the same way every time. -/
def step (answer : List ChatMessage → ClassifierReply) (s : ClassifierSystem κ) :
    ClassifierEvent κ → Option (ClassifierSystem κ)
  | .classify k registry session messages now =>
    match s.pending.get? k with
    | some _ => none
    | none =>
      match s.router.classify registry session messages now with
      | (router, .asking call) =>
        some { s with router, pending := s.pending.set k ⟨session, messages, call⟩ }
      | (router, _) => some { s with router }
  | .reply k succeeded now =>
    (s.pending.get? k).map fun p =>
      let reply := if succeeded then answer p.call.asked else .raised
      { router := (s.router.classified p.call.key reply now).1
        pending := s.pending.erase k
        ended := s.ended ++ [⟨p.session, p.messages, succeeded, now⟩] }
  | .cancel k => (s.pending.get? k).map fun _ => { s with pending := s.pending.erase k }

/-- All a step can do: a classification is decided, or asks the classifier; a call ends; a
classification is cancelled. -/
inductive Does (answer : List ChatMessage → ClassifierReply) (s : ClassifierSystem κ) :
    ClassifierEvent κ → ClassifierSystem κ → Prop where
  | decided {k : κ} {registry : BackendRegistry} {session : SessionContext}
    {messages : List ChatMessage} {now : Time} :
    Does answer s (.classify k registry session messages now)
      { s with router := (s.router.classify registry session messages now).1 }
  | asked {k : κ} {registry : BackendRegistry} {session : SessionContext}
    {messages : List ChatMessage} {now : Time} {call : ClassifierCall}
    (asking : (s.router.classify registry session messages now).2 = .asking call) :
    Does answer s (.classify k registry session messages now)
      { s with
        router := (s.router.classify registry session messages now).1
        pending := s.pending.set k ⟨session, messages, call⟩ }
  | ended {k : κ} {succeeded : Bool} {now : Time} {p : PendingCall}
    (waits : s.pending.get? k = some p) :
    Does answer s (.reply k succeeded now)
      { router := s.router.cachePut p.call.key
          (if succeeded then (answer p.call.asked).tier else .small) now
        pending := s.pending.erase k
        ended := s.ended ++ [⟨p.session, p.messages, succeeded, now⟩] }
  | cancelled {k : κ} : Does answer s (.cancel k) { s with pending := s.pending.erase k }

theorem does_of_step {answer : List ChatMessage → ClassifierReply} {s t : ClassifierSystem κ}
    {e : ClassifierEvent κ} (stepped : s.step answer e = some t) : s.Does answer e t := by
  cases e with
  | classify k registry session messages now =>
      simp only [step] at stepped
      split at stepped
      · cases stepped
      · have decided : s.Does answer (.classify k registry session messages now)
          { s with router := (s.router.classify registry session messages now).1 } := .decided
        split at stepped
        · rename_i router call classified
          cases stepped
          have asked : s.Does answer (.classify k registry session messages now)
              { s with
                router := (s.router.classify registry session messages now).1
                pending := s.pending.set k ⟨session, messages, call⟩ } :=
            .asked (by rw [classified])
          rwa [classified] at asked
        · rename_i router classification _ classified
          cases stepped
          rwa [classified] at decided
  | reply k succeeded now =>
      obtain ⟨p, waits, rfl⟩ := Option.map_eq_some_iff.mp stepped
      have ended : s.Does answer (.reply k succeeded now) _ := .ended waits
      cases succeeded <;> exact ended
  | cancel k =>
      obtain ⟨p, waits, rfl⟩ := Option.map_eq_some_iff.mp stepped
      exact .cancelled

/-- The last call that ended under a key. -/
def lastUnder (key : String) (ended : List EndedCall) : Option EndedCall :=
  (ended.filter fun c => c.key = key).getLast?

theorem lastUnder_concat (key : String) (ended : List EndedCall) (c : EndedCall) :
    lastUnder key (ended ++ [c]) = if c.key = key then some c else lastUnder key ended := by
  by_cases own : c.key = key
  · simp [lastUnder, List.filter_append, own]
  · simp [lastUnder, List.filter_append, own]

/-! ## The log and the cache -/

/-- What holds after every run. The cache holds the tier of the last call under a key. A call that
waits was made for its request. The texts of all requests were met. -/
structure Logged (cacheTtl : ℤ) (answer : List ChatMessage → ClassifierReply)
    (past : List (ClassifierEvent κ)) (s : ClassifierSystem κ) : Prop where
  ttl : s.router.cacheTtl = cacheTtl
  cached : ∀ key tier ts, s.router.cache.get? key = some (tier, ts) →
    ∃ c, lastUnder key s.ended = some c ∧ c.tier answer = tier ∧ c.time = ts
  waiting : ∀ k p, s.pending.get? k = some p →
    p.call.key = cacheKey p.session p.messages ∧ p.call.asked = lastThree p.messages ∧
      fingerprintText p.messages ∈ past.flatMap ClassifierEvent.texts
  met : ∀ c ∈ s.ended, fingerprintText c.messages ∈ past.flatMap ClassifierEvent.texts

theorem logged_new (cacheTtl : ℤ) (answer : List ChatMessage → ClassifierReply) :
    Logged cacheTtl answer [] (new cacheTtl : ClassifierSystem κ) where
  ttl := rfl
  cached := fun _ _ _ found => nomatch found
  waiting := fun _ _ found => nomatch found
  met := fun _ member => nomatch member

omit [DecidableEq κ] in
/-- Texts that were met before a step were met after it. -/
theorem met_concat {past : List (ClassifierEvent κ)} {text : List Char} (e : ClassifierEvent κ)
    (before : text ∈ past.flatMap ClassifierEvent.texts) :
    text ∈ (past ++ [e]).flatMap ClassifierEvent.texts := by
  rw [List.flatMap_append]
  exact List.mem_append_left _ before

/-- A call that ends is the last one under its key, and leaves its tier there. -/
theorem Logged.cached_concat {cacheTtl : ℤ} {answer : List ChatMessage → ClassifierReply}
    {past : List (ClassifierEvent κ)} {s : ClassifierSystem κ}
    (logged : Logged cacheTtl answer past s) (ended : EndedCall) {key : String} {tier : Tier}
    {ts : Time}
    (found : (s.router.cachePut ended.key (ended.tier answer) ended.time).cache.get? key =
      some (tier, ts)) :
    ∃ c, lastUnder key (s.ended ++ [ended]) = some c ∧ c.tier answer = tier ∧ c.time = ts := by
  rw [lastUnder_concat]
  rw [ClassifierRouter.cachePut, Dict.get?_set] at found
  by_cases own : key = ended.key
  · rw [if_pos own] at found
    cases found
    exact ⟨ended, if_pos own.symm, rfl, rfl⟩
  · rw [if_neg own] at found
    obtain ⟨c, last, same, time⟩ := logged.cached key tier ts found
    refine ⟨c, ?_, same, time⟩
    rw [if_neg fun equal => own equal.symm, last]

/-- Step lemma: only a call that ends writes to the cache, under its key and with its tier. -/
theorem logged_step {cacheTtl : ℤ} {answer : List ChatMessage → ClassifierReply}
    {past : List (ClassifierEvent κ)} {s t : ClassifierSystem κ} {e : ClassifierEvent κ}
    (logged : Logged cacheTtl answer past s) (stepped : s.step answer e = some t) :
    Logged cacheTtl answer (past ++ [e]) t := by
  have kept : ∀ k p, s.pending.get? k = some p →
      p.call.key = cacheKey p.session p.messages ∧ p.call.asked = lastThree p.messages ∧
        fingerprintText p.messages ∈ (past ++ [e]).flatMap ClassifierEvent.texts := by
    intro k p waits
    obtain ⟨key, asked, met⟩ := logged.waiting k p waits
    exact ⟨key, asked, met_concat e met⟩
  have met : ∀ c ∈ s.ended,
      fingerprintText c.messages ∈ (past ++ [e]).flatMap ClassifierEvent.texts :=
    fun c member => met_concat e (logged.met c member)
  -- The entries a lookup leaves were there before.
  have looked : ∀ registry session messages now key tier ts,
      (s.router.classify registry session messages now).1.cache.get? key = some (tier, ts) →
      ∃ c, lastUnder key s.ended = some c ∧ c.tier answer = tier ∧ c.time = ts := by
    intro registry session messages now key tier ts found
    rw [ClassifierRouter.fst_classify] at found
    exact logged.cached key tier ts (ClassifierRouter.get?_cacheGet found)
  have ttl : ∀ registry session messages now,
      (s.router.classify registry session messages now).1.cacheTtl = cacheTtl := by
    intro registry session messages now
    rw [ClassifierRouter.fst_classify, ClassifierRouter.cacheTtl_cacheGet, logged.ttl]
  cases does_of_step stepped with
  | decided => exact ⟨ttl _ _ _ _, looked _ _ _ _, kept, met⟩
  | @asked k registry session messages now call asking =>
      refine ⟨ttl _ _ _ _, looked _ _ _ _, ?_, met⟩
      intro j p waits
      rw [Dict.get?_set] at waits
      split at waits
      · cases waits
        obtain ⟨key, about⟩ := ClassifierRouter.call_of_asking asking
        exact ⟨key, about, by simp [ClassifierEvent.texts]⟩
      · exact kept j p waits
  | @ended k succeeded now p waits =>
      obtain ⟨key, about, text⟩ := kept k p waits
      refine ⟨logged.ttl, ?_, fun j q found => kept j q (Dict.get?_of_get?_erase found), ?_⟩
      · intro j tier ts found
        rw [key, about] at found
        exact logged.cached_concat ⟨p.session, p.messages, succeeded, now⟩ found
      · intro c member
        rcases List.mem_append.mp member with before | last
        · exact met c before
        · obtain rfl := List.mem_singleton.mp last
          exact text
  | @cancelled k =>
      exact ⟨logged.ttl, logged.cached, fun j q found => kept j q (Dict.get?_of_get?_erase found),
        met⟩

theorem logged_run {cacheTtl : ℤ} {answer : List ChatMessage → ClassifierReply}
    {events : List (ClassifierEvent κ)} {s : ClassifierSystem κ}
    (ran : run (step answer) (new cacheTtl) events = some s) :
    Logged cacheTtl answer events s :=
  past_invariant (fun _ _ _ _ logged stepped => logged_step logged stepped)
    (logged_new cacheTtl answer) ran

/-! ## Cached tiers -/

/-- **A cached tier is that of the last matching call.** If the short digests of the texts of a run
do not collide, a tier that is answered from the cache is the one the last call by the same agent
gave whose last three messages have the same roles and begin with the same two hundred characters.
That call ended less than the time to live ago. Its tier is what the classifier said of its last
three messages, or small if it failed. -/
theorem cached_tier_is_last_call (cacheTtl : ℤ) (answer : List ChatMessage → ClassifierReply)
    (events : List (ClassifierEvent κ)) (s : ClassifierSystem κ)
    (ran : run (step answer) (new cacheTtl) events = some s) (registry : BackendRegistry)
    (session : SessionContext) (messages : List ChatMessage) (now : Time) (tier : Tier)
    (apart : CollisionFree (fingerprintText messages :: events.flatMap ClassifierEvent.texts))
    (cached : (s.router.classify registry session messages now).2 = .cached tier) :
    ∃ c, (s.ended.filter fun c => c.Matches session messages).getLast? = some c ∧
      now - c.time < cacheTtl ∧ tier = c.tier answer := by
  have logged := logged_run ran
  have got : (s.router.cacheGet (cacheKey session messages) now).2 = some tier :=
    ClassifierRouter.cacheGet_of_cached (Prod.ext rfl cached)
  obtain ⟨ts, found, fresh⟩ := ClassifierRouter.cacheGet_eq_some got
  obtain ⟨c, last, same, rfl⟩ := logged.cached _ _ _ found
  have keyed : (s.ended.filter fun c => c.key = cacheKey session messages) =
      s.ended.filter fun c => c.Matches session messages := by
    apply List.filter_congr
    intro d member
    rw [decide_eq_decide]
    exact EndedCall.key_eq_iff (apart _ (List.mem_cons_of_mem _ (logged.met d member)) _
      List.mem_cons_self)
  rw [lastUnder, keyed] at last
  rw [logged.ttl] at fresh
  exact ⟨c, last, fresh, same.symm⟩

/-! ## Two long questions -/

/-- A question of two hundred and one characters. -/
def longQuestion (last : Char) : List ChatMessage :=
  [{ role := "user", content := some (String.ofList (List.replicate 200 'a' ++ [last])) }]

/-- A classifier that goes by the last character. -/
def readsToTheEnd (messages : List ChatMessage) : ClassifierReply :=
  let text := messages.flatMap fun m => (m.content.getD "").toList
  .answered (.obj [("tier", .str (if text.getLast? = some 'b' then "big" else "small"))])

def shippedRegistry : BackendRegistry := .new shippedConfig

/-- One of the questions is classified. -/
def oneQuestion : List (ClassifierEvent ℕ) := [
  .classify 0 shippedRegistry { sessionId := "s", agentId := "a" } (longQuestion 'a') 0,
  .reply 0 true 1]

theorem snippets_longQuestion (last : Char) :
    snippets (longQuestion last) = [("user", String.ofList (List.replicate 200 'a'))] := by
  have beginning : (List.replicate 200 'a' ++ [last]).take 200 = List.replicate 200 'a' :=
    List.take_left' List.length_replicate
  have content : snippet { role := "user", content := some (String.ofList
      (List.replicate 200 'a' ++ [last])) } =
      ("user", String.ofList (List.replicate 200 'a')) := by
    rw [snippet, Option.getD_some, String.toList_ofList, beginning]
  exact congrArg (fun s => [s]) content

theorem collisionFree_oneQuestion :
    CollisionFree (fingerprintText (longQuestion 'b') ::
      oneQuestion.flatMap ClassifierEvent.texts) := by
  have same : fingerprintText (longQuestion 'b') = fingerprintText (longQuestion 'a') :=
    fingerprintText_eq_iff.mpr
      ((snippets_longQuestion 'b').trans (snippets_longQuestion 'a').symm)
  have texts : ∀ text ∈ fingerprintText (longQuestion 'b') ::
      oneQuestion.flatMap ClassifierEvent.texts, text = fingerprintText (longQuestion 'a') := by
    intro text member
    rcases List.mem_cons.mp member with rfl | later
    · exact same
    · exact List.mem_singleton.mp later
  intro x here y there _
  rw [texts x here, texts y there]

theorem tier_readsToTheEnd (last : Char) :
    (readsToTheEnd (lastThree (longQuestion last))).tier = if last = 'b' then .big else .small := by
  have text : ((lastThree (longQuestion last)).flatMap fun m => (m.content.getD "").toList) =
      List.replicate 200 'a' ++ [last] := by
    have whole : lastThree (longQuestion last) = longQuestion last := rfl
    rw [whole, longQuestion, List.flatMap_cons, List.flatMap_nil, Option.getD_some,
      String.toList_ofList, List.append_nil]
  rw [readsToTheEnd, text, List.getLast?_concat]
  by_cases big : last = 'b'
  · rw [if_pos (congrArg some big), if_pos big]
    rfl
  · rw [if_neg (fun same => big (Option.some.inj same)), if_neg big]
    rfl

/-- The other question, by another session of the agent, is answered from the cache. -/
theorem cached_oneQuestion :
    ∃ s : ClassifierSystem ℕ, run (step readsToTheEnd) (new 300) oneQuestion = some s ∧
      (s.router.classify shippedRegistry { sessionId := "t", agentId := "a" } (longQuestion 'b')
        2).2 = .cached .small := by
  have same : cacheKey { sessionId := "t", agentId := "a" } (longQuestion 'b') =
      cacheKey { sessionId := "s", agentId := "a" } (longQuestion 'a') :=
    (cacheKey_eq_iff (collisionFree_oneQuestion _ List.mem_cons_self _ (by
      exact List.mem_cons_of_mem _ List.mem_cons_self))).mpr
      ⟨rfl, (snippets_longQuestion 'b').trans (snippets_longQuestion 'a').symm⟩
  obtain ⟨s, ran, found, ttl⟩ : ∃ s : ClassifierSystem ℕ,
      run (step readsToTheEnd) (new 300) oneQuestion = some s ∧
        s.router.cache.get? (cacheKey { sessionId := "s", agentId := "a" } (longQuestion 'a')) =
          some (.small, 1) ∧
        s.router.cacheTtl = 300 := by
    refine ⟨_, rfl, (Dict.get?_set_self _ _ _).trans ?_, rfl⟩
    exact congrArg (fun tier => some (tier, (1 : Time))) (tier_readsToTheEnd 'a')
  have fresh : (2 : Time) - 1 < s.router.cacheTtl := by
    rw [ttl]
    decide +kernel
  rw [← same] at found
  exact ⟨s, ran, ClassifierRouter.classify_of_fresh found fresh⟩

/-- **A cached tier may be another one.** The classifier answers every call, the times do not go
back, and no digests collide. -/
theorem cached_tier_differs :
    ¬ ∀ (cacheTtl : ℤ) (answer : List ChatMessage → ClassifierReply)
      (events : List (ClassifierEvent ℕ)) (s : ClassifierSystem ℕ),
      run (step answer) (new cacheTtl) events = some s →
      ∀ (registry : BackendRegistry) (session : SessionContext) (messages : List ChatMessage)
        (now : Time) (tier : Tier),
        (∀ e ∈ events, e.Backed) → registry.getHealthyBackends .small ≠ [] →
        (events.filterMap ClassifierEvent.time? ++ [now]).Pairwise (· ≤ ·) →
        CollisionFree (fingerprintText messages :: events.flatMap ClassifierEvent.texts) →
        (s.router.classify registry session messages now).2 = .cached tier →
        tier = (answer (lastThree messages)).tier := by
  intro always
  obtain ⟨s, ran, cached⟩ := cached_oneQuestion
  have up : shippedRegistry.getHealthyBackends .small ≠ [] := by decide
  have backed : ∀ e ∈ oneQuestion, e.Backed := by
    intro e member
    rcases List.mem_cons.mp member with rfl | later
    · exact up
    · obtain rfl := List.mem_singleton.mp later
      trivial
  have times : (oneQuestion.filterMap ClassifierEvent.time? ++ [(2 : Time)]).Pairwise (· ≤ ·) := by
    decide +kernel
  have same := always 300 readsToTheEnd oneQuestion s ran shippedRegistry _ _ 2 .small backed up
    times collisionFree_oneQuestion cached
  rw [tier_readsToTheEnd] at same
  cases same

/-- The last matching call is the one for the other question. -/
theorem cached_tier_is_last_call_for_long_question :
    ∃ s : ClassifierSystem ℕ, ∃ c,
      (s.ended.filter fun c =>
          c.Matches { sessionId := "t", agentId := "a" } (longQuestion 'b')).getLast? = some c ∧
        2 - c.time < (300 : ℤ) ∧ Tier.small = c.tier readsToTheEnd := by
  obtain ⟨s, ran, cached⟩ := cached_oneQuestion
  exact ⟨s, cached_tier_is_last_call 300 readsToTheEnd oneQuestion s ran shippedRegistry
    { sessionId := "t", agentId := "a" } (longQuestion 'b') 2 .small collisionFree_oneQuestion
    cached⟩

end ClassifierSystem

end AgentServe
