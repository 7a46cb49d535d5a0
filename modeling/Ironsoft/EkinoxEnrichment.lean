import Ironsoft.EkinoxLoggerApi

/-!
# Reading the body of a reply

What `enrich_from_json` writes of a result. What does not depend on it is as the exchange has left it.
-/
namespace Ironsoft.Ekinox

/-- `P` does not depend on what is read from a body; the message is only filled in if it is empty. -/
structure Unread (P : LoggerResult → Prop) : Prop where
  status : ∀ r text, P r → P { r with statusValue := text }
  mode : ∀ r text, P r → P { r with mode := text }
  session : ∀ r text, P r → P { r with sessionName := text }
  speed : ∀ r n, P r → P { r with hasWriteSpeed := true, writeSpeed := n }
  flag : ∀ r b, P r → P { r with hasRecordingFlag := true, recordingActive := b }
  message : ∀ r text, r.message = [] → P r → P { r with message := text }

namespace Unread

variable {P : LoggerResult → Prop} {root : Json} {e e' : Enriched} {result r : LoggerResult}

theorem enrichStatus (h : Unread P) (he : P e.result) : P (enrichStatus root e).result := by
  unfold Ekinox.enrichStatus
  dsimp only
  split_ifs
  · exact h.status _ _ he
  · exact he

theorem enrichMode (h : Unread P) (he : P e.result) : P (enrichMode root e).result := by
  unfold Ekinox.enrichMode
  dsimp only
  split_ifs
  · exact h.mode _ _ he
  · exact he

theorem enrichSession (h : Unread P) (he : P e.result) : P (enrichSession root e).result := by
  unfold Ekinox.enrichSession
  dsimp only
  split_ifs
  · exact h.session _ _ he
  · exact h.session _ _ he
  · exact he

theorem enrichWriteSpeed (h : Unread P) (he : P e.result)
    (hspeed : enrichWriteSpeed root e = .ok e') : P e'.result := by
  unfold Ekinox.enrichWriteSpeed at hspeed
  dsimp only at hspeed
  split_ifs at hspeed
  · cases hread : (root.get (bytes "writeSpeed")).asInt with
    | error err =>
      rw [hread] at hspeed
      cases hspeed
    | ok n =>
      rw [hread] at hspeed
      cases hspeed
      exact h.speed _ _ he
  · cases hspeed
    exact he

theorem enrichState (h : Unread P) (hr : P r) : P (enrichState root r) := by
  unfold Ekinox.enrichState
  dsimp only
  split_ifs
  · exact h.status _ _ hr
  · exact hr

theorem enrichMessage (h : Unread P) (hr : P r) : P (enrichMessage r) := by
  unfold Ekinox.enrichMessage
  split_ifs with hempty
  · exact h.message _ _ hempty hr
  · exact h.message _ _ hempty hr
  · exact hr
  · exact hr

theorem assignBool (h : Unread P) (hr : P result) (value : Json) :
    ∀ r ∈ assignBool value result, P r := by
  intro r hassigned
  unfold Ekinox.assignBool at hassigned
  split_ifs at hassigned
  · cases hassigned
    exact h.flag _ _ hr
  · cases hassigned

theorem enrichRecording (h : Unread P) (he : P e.result) : P (enrichRecording root e) := by
  have hor {o : Option LoggerResult} {alternative : Unit → Option LoggerResult}
      (ho : ∀ r ∈ o, P r) (halternative : ∀ r ∈ alternative (), P r) :
      ∀ r ∈ o.orElse alternative, P r := by
    cases o with
    | none => exact halternative
    | some r => exact ho
  have hget {o : Option LoggerResult} (ho : ∀ r ∈ o, P r) : P (o.getD e.result) := by
    cases o with
    | none => exact he
    | some r => exact ho r rfl
  unfold Ekinox.enrichRecording
  split_ifs
  · exact h.flag _ _ he
  · exact hget (hor (h.assignBool he _) (hor (h.assignBool he _) (hor (h.assignBool he _)
      (h.assignBool he _))))

theorem enrichFromObject (h : Unread P) (hresult : P result)
    (hr : enrichFromObject root result = .ok r) : P r := by
  unfold Ekinox.enrichFromObject at hr
  dsimp only at hr
  generalize he : Ekinox.enrichSession root
    (Ekinox.enrichMode root (Ekinox.enrichStatus root { result := result })) = e at hr
  have hsession : P e.result := by
    rw [← he]
    exact h.enrichSession (h.enrichMode (h.enrichStatus hresult))
  cases hspeed : Ekinox.enrichWriteSpeed root e with
  | error err =>
    rw [hspeed] at hr
    cases hr
  | ok e' =>
    rw [hspeed] at hr
    cases hr
    exact h.enrichRecording (h.enrichMessage (h.enrichState (h.enrichWriteSpeed hsession hspeed)))

/-- What holds before the body is read holds of the result. -/
theorem performHttpRequest (h : Unread P) {parse : JsonParser} {reply : HttpReply}
    (hresult : P (assembleResult reply)) (hr : performHttpRequest parse reply = .ok r) : P r := by
  cases reply with
  | initFailed | failed =>
    cases hr
    exact hresult
  | response httpCode body =>
    simp only [Ekinox.performHttpRequest, enrichFromJson] at hr
    split_ifs at hr
    · cases hr
      exact hresult
    · split at hr
      · cases hr
      · cases hr
        exact hresult
      · split_ifs at hr
        · exact h.enrichFromObject hresult hr
        · cases hr
          exact hresult

end Unread

end Ironsoft.Ekinox
