import AgentServe.Affinity.Scheduler
import AgentServe.Lib.Argmax

/-!
# Rendezvous weights and the set of candidates

The weight of a backend for a session is a digest of a key made of their two names. Keys of
distinct backends are distinct (`hrwKey_inj`), so without collisions of the digest the
weights are distinct too (`injOn_hrwScore`). The winner is then the same in every order of
the candidates, and it loses only to a backend that was added (`minimal_disruption`).
-/

set_option autoImplicit false

namespace AgentServe

open Lib

/-- The bytes whose digest is the weight of a backend for a session. -/
def hrwKey (sessionId backendId : String) : List UInt8 :=
  (sessionId ++ ":" ++ backendId).toList.flatMap String.utf8EncodeChar

/-- The digest has no collision on the keys of a session and some backends. -/
def CollisionFreeKeys (sessionId : String) (candidates : List BackendInfo) : Prop :=
  ∀ b ∈ candidates, ∀ c ∈ candidates,
    Sha256.digest (hrwKey sessionId b.id) = Sha256.digest (hrwKey sessionId c.id) →
      hrwKey sessionId b.id = hrwKey sessionId c.id

instance (sessionId : String) (candidates : List BackendInfo) :
    Decidable (CollisionFreeKeys sessionId candidates) :=
  inferInstanceAs (Decidable (∀ b ∈ candidates, ∀ c ∈ candidates, _ → _))

/-- Texts with the same encoding are the same. -/
theorem utf8_inj {s t : String}
    (same : s.toList.flatMap String.utf8EncodeChar = t.toList.flatMap String.utf8EncodeChar) :
    s = t := by
  have bytes : s.toList.utf8Encode = t.toList.utf8Encode := congrArg List.toByteArray same
  rwa [String.utf8Encode_toList, String.utf8Encode_toList, String.toByteArray_inj] at bytes

/-- A session has distinct keys with distinct backends. -/
theorem hrwKey_inj {sessionId backendId other : String}
    (same : hrwKey sessionId backendId = hrwKey sessionId other) : backendId = other := by
  have texts := congrArg String.toList (utf8_inj same)
  simp only [String.toList_append] at texts
  exact String.toList_inj.mp (List.append_cancel_left texts)

/-- Without collisions the weights of distinct backends are distinct. -/
theorem injOn_hrwScore {sessionId : String} {candidates : List BackendInfo}
    (distinct : (candidates.map BackendInfo.id).Nodup)
    (free : CollisionFreeKeys sessionId candidates) :
    Set.InjOn (fun b : BackendInfo => hrwScore sessionId b.id) {b | b ∈ candidates} := by
  intro b member c inside same
  have named : b.id = c.id := hrwKey_inj (free b member c inside same)
  exact List.inj_on_of_nodup_map distinct member inside named

/-- **Minimal disruption.** Let the candidates have distinct names, and the digest no collision on
their keys. A winner that stays among fewer candidates stays the winner. The order of the
candidates does not matter. When the winner among fewer candidates is another one than among all
of them, the winner among all of them is one that the fewer lack. -/
theorem minimal_disruption (sessionId : String) (fewer all : List BackendInfo)
    (distinct : (all.map BackendInfo.id).Nodup) (subset : ∀ b ∈ fewer, b ∈ all)
    (free : CollisionFreeKeys sessionId all) :
    (∀ b ∈ fewer, selectByHrw sessionId all = some b → selectByHrw sessionId fewer = some b) ∧
      (∀ reordered, reordered.Perm all →
        selectByHrw sessionId reordered = selectByHrw sessionId all) ∧
      (selectByHrw sessionId fewer ≠ selectByHrw sessionId all →
        ∃ b, selectByHrw sessionId all = some b ∧ b ∉ fewer) := by
  have scores := injOn_hrwScore distinct free
  refine ⟨fun b member chosen => argmax_of_subset scores subset chosen member,
    fun reordered perm => argmax_perm scores perm, fun changed => ?_⟩
  exact argmax_change scores subset changed

/-! ## The two small backends -/

def smallPair : List BackendInfo := (BackendRegistry.new shippedConfig).getHealthyBackends .small

/-- The session of the winner of the small backends stays when the other one goes. -/
theorem minimal_disruption_of_small_pair :
    ∃ b ∈ smallPair, selectByHrw "s" smallPair = some b ∧ selectByHrw "s" [b] = some b := by
  have some_winner : (selectByHrw "s" smallPair).isSome = true := by decide +kernel
  obtain ⟨b, chosen⟩ := Option.isSome_iff_exists.mp some_winner
  have member := mem_of_selectByHrw chosen
  have stays := (minimal_disruption "s" [b] smallPair (by decide +kernel)
    (by simpa using member) (by decide +kernel)).1 b (by simp) chosen
  exact ⟨b, member, chosen, stays⟩

end AgentServe
