import Ironsoft.EkinoxLink

/-!
# Polls

The ways `poll_sensor` can go, and what is left to be shown of each.
-/
namespace Ironsoft.Ekinox
open Effect

set_option synthInstance.maxSize 400000
set_option synthInstance.maxHeartbeats 200000

inductive PollVerdict
  /-- there is no session to poll -/
  | idle
  /-- the reconnect deferred by a recording is made up for -/
  | deferred
  | failed
  | inTime
  | late
  deriving DecidableEq

def World.recording (w : World) : Bool :=
  decide (w.status.state = .recording) || w.status.recordingActive

/-- The branch `poll_sensor` takes. -/
def pollVerdict (env : Env) (now : TimePoint) (w : World) : PollVerdict :=
  if w.sensor.sensorConnected = false then .idle
  else if w.sensor.sensorReconnectNeeded ∧ w.recording = false then .deferred
  else match exec sessionPoll env w with
    | (.ok none, w₁) =>
      if max (w₁.sensor.session.lastRxAgeMs (monoMs now)) 0 ≤ udpRxTimeout env.config then .inTime
      else .late
    | _ => .failed

/-- The verdict of a poll that is made. -/
def polledVerdict (config : EkinoxConfig) (now : TimePoint) (err : Option Bytes) (w : World) :
    PollVerdict :=
  if err.isSome then .failed
  else if max (w.sensor.session.lastRxAgeMs (monoMs now)) 0 ≤ udpRxTimeout config then .inTime
  else .late

section Polls

variable {env : Env} {now : TimePoint} {w : World} {Q : Unit → World → Prop} {E : Exn → World → Prop}
  {R : World → World → Prop}

theorem sessionPoll_verdict (now : TimePoint) (hpoll : Respects env R sessionPoll)
    (hsensor : w.sensor.sensorConnected ≠ false)
    (hneeded : ¬(w.sensor.sensorReconnectNeeded = true ∧ w.recording = false)) :
    wp sessionPoll env (fun err w₁ => R w w₁ ∧
      pollVerdict env now w = polledVerdict env.config now err w₁) (fun _ _ => False) w := by
  have hrun := hpoll.returns inferInstance w
  unfold pollVerdict polledVerdict
  rw [if_neg hsensor, if_neg hneeded]
  revert hrun
  unfold wp
  rcases exec sessionPoll env w with ⟨e | err, w₁⟩
  · exact False.elim
  · cases err with
    | some text => exact fun hR => ⟨hR, rfl⟩
    | none => exact fun hR => ⟨hR, rfl⟩

theorem connected_of_verdict (h : pollVerdict env now w ≠ .idle) : w.sensor.sensorConnected = true :=
  eq_true_of_ne_false fun hclosed => h (if_pos hclosed)

/-- A poll does what its verdict says, in a state that is related to the one it starts from if the
session's own poll respects the relation. -/
theorem wp_pollSensor (hpoll : Respects env R sessionPoll)
    (hidle : pollVerdict env now w = .idle → Q () w)
    (hdeferred : pollVerdict env now w = .deferred →
      wp handleSensorDisconnect env Q E
        { w with sensor.sensorReconnectNeeded := false })
    (hfailed : pollVerdict env now w = .failed → ∀ err w₁, R w w₁ →
      wp (do
        atSensor.update fun l => { l with rxFailStreak := 0, rxOkStreak := 0 }
        clearRxTimeoutError
        handleSensorError err
        return) env Q E w₁)
    (hinTime : pollVerdict env now w = .inTime → ∀ w₁, R w w₁ →
      wp (handleSensorRxRecovered (monoMs now)) env Q E w₁)
    (hlate : pollVerdict env now w = .late → ∀ w₁, R w w₁ →
      wp (handleSensorRxTimeout w.recording (monoMs now)) env Q E w₁) :
    wp (pollSensor now) env Q E w := by
  simp only [pollSensor, wp_bind, wp_get, wp_ite, wp_pure, Part.wp_update]
  split_ifs with hsensor hneeded
  · exact hidle (if_pos hsensor)
  · exact hdeferred ((if_neg hsensor).trans (if_pos hneeded))
  refine wp_mono (sessionPoll_verdict now hpoll hsensor hneeded) (fun err w₁ h => ?_)
    fun _ _ => False.elim
  obtain ⟨hR, hverdict⟩ := h
  split_ifs with herr
  · have hrun := hfailed (hverdict.trans (if_pos herr)) (err.getD []) w₁ hR
    simpa only [wp_bind, Part.wp_update] using hrun
  · simp only [wp_bind, wp_get, wp_read, wp_ite]
    split_ifs with hage
    · exact hinTime (hverdict.trans ((if_neg herr).trans (if_pos hage))) w₁ hR
    · exact hlate (hverdict.trans ((if_neg herr).trans (if_neg hage))) w₁ hR

end Polls

end Ironsoft.Ekinox
