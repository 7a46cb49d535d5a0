import Ironsoft.EkinoxUdpSession

/-!
# Publishing and REST health

The functions of `EkinoxService` that publish, and those that derive presence and
`api_ok` from the results of REST requests.
-/
namespace Ironsoft.Ekinox
open Effect

def intMax : ℕ := 2147483647

def EkinoxConfig.topics (config : EkinoxConfig) : EkinoxTopics := makeTopics config.mqtt.droneId

/-- `presence_timeout_` in milliseconds, with 10 s for a timeout that is not positive. -/
def EkinoxConfig.presenceTimeout (config : EkinoxConfig) : ℤ :=
  if config.timeouts.presenceTimeoutMs.toInt > 0 then config.timeouts.presenceTimeoutMs.toInt
  else 10000

/-- `rest_poll_interval_`: half the presence timeout, between one and two seconds. -/
def EkinoxConfig.restPollInterval (config : EkinoxConfig) : ℤ :=
  let half := config.presenceTimeout.tdiv 2
  if half ≤ 0 then 1000 else max 1000 (min half 2000)

theorem restPollInterval_pos (config : EkinoxConfig) : 0 < config.restPollInterval := by
  unfold EkinoxConfig.restPollInterval
  dsimp only
  split <;> omega

def presenceMinPublishInterval : ℤ := 2000

def httpCodeOrDefault (result : LoggerResult) (fallback : ℤ) : ℤ :=
  Int.bmod (if result.httpCode ≠ 0 then result.httpCode else fallback) 4294967296

def restErrorOrHttp (result : LoggerResult) : Bytes :=
  if result.body ≠ [] then sanitizeAndClip result.body
  else if result.errorString ≠ [] then sanitizeAndClip result.errorString
  else if result.httpCode > 0 then bytes "HTTP_" ++ decimal result.httpCode
  else if result.errorCode ≠ 0 then bytes "HTTP_" ++ decimal result.errorCode
  else []

def loggerStateMatches (result : LoggerResult) (expected : Bool) : Bool :=
  result.ok && result.hasRecordingFlag && (result.recordingActive == expected)

def resultReportsRecording (result : LoggerResult) : Bool :=
  result.ok && result.hasRecordingFlag && result.recordingActive

def resultReportsIdle (result : LoggerResult) : Bool :=
  result.ok && result.hasRecordingFlag && !result.recordingActive

def setState (state : ServiceState) : M Unit := atLogger.update fun s => { s with state := state }

def rxTimeoutText : Bytes := bytes "rx timeout"

def setError (message : Bytes) : M Unit := do
  emit (.errorSet message)
  let ts ← unixTs
  atError.update fun _ => { lastError := sanitizeAndClip message, lastErrorTs := ts }
  atMarker.update fun _ => sanitizeAndClip message = rxTimeoutText

def publishPresence (online : Bool) (reason : Bytes) : M Unit := do
  let sanitizedReason := sanitizeAndClip reason
  let nowMs ← monoNow
  let w ← get
  let rateLimited := w.presence.presenceOnline = online ∧ w.presence.lastPresenceEmitTsMs > 0 ∧
    nowMs - w.presence.lastPresenceEmitTsMs < presenceMinPublishInterval
  if w.conn.connected = false then
    -- deferred: only remembered
    let ts ← unixTs
    atPresence.update fun p =>
      { p with payload := ⟨online, sanitizedReason, ts⟩, lastPresenceTs := ts
               presenceOnline := online }
  else if rateLimited then
    return
  else
    let ts ← unixTs
    atPresence.update fun p =>
      { p with payload := ⟨online, sanitizedReason, ts⟩, lastPresenceTs := ts }
    let payload := (← get).presence.payload
    mqttCall (.publish ⟨(← read).config.topics.presence, .presence payload, 1, true⟩)
    atPresence.update fun p => { p with presenceOnline := online, lastPresenceEmitTsMs := nowMs }

def publishStatus : M Unit := do
  let w ← get
  if w.conn.connected = false then
    return
  mqttCall (.publish ⟨(← read).config.topics.status, .status w.status, 1, true⟩)

def publishHeartbeat (uptimeS : ℤ) : M Unit := do
  if (← get).conn.connected = false then
    return
  atTimers.update fun t => { t with heartbeatSeq := t.heartbeatSeq + 1 }
  let seq := (← get).timers.heartbeatSeq
  mqttCall (.publish ⟨(← read).config.topics.heartbeat, .heartbeat seq uptimeS, 0, false⟩)

/-- `publish_topic` of `publish_ack`. -/
def publishAckTo (topic : Bytes) (ack : Ack) (ts : ℤ) : M Unit := do
  if topic = [] ∨ (← get).conn.connected = false then
    return
  catchMqtt (mqttCall (.publish ⟨topic, .ack ack ts, 1, false⟩)) (pure ())

def publishAck (ack : Ack) : M Unit := do
  emit (.publishAck ack)
  let ts ← unixTs
  let topics := (← read).config.topics
  publishAckTo topics.ack ack ts
  if topics.ackLegacy ≠ [] ∧ topics.ackLegacy ≠ topics.ack then
    publishAckTo topics.ackLegacy ack ts

def sendAck (id type : Bytes) (ok : Bool) (message err : Bytes) (httpCode : ℤ) : M Unit :=
  let ackMessage := if ok ∧ message = [] then bytes "ok" else message
  let ackErr := if ok = false ∧ err = [] then bytes "error" else err
  publishAck ⟨type, id, ok, httpCode, sanitizeAndClip ackMessage, sanitizeAndClip ackErr⟩

def RestHealth.ageMs (rest : RestHealth) (nowMs : ℤ) : ℤ :=
  if rest.lastRestOkTsMs ≤ 0 then int64Max
  else if nowMs < rest.lastRestOkTsMs then 0
  else nowMs - rest.lastRestOkTsMs

/-- `rest_offline_condition`; a recording triples the timeout. -/
def restOfflineCondition (config : EkinoxConfig) (w : World) (nowMs : ℤ) : Bool :=
  if w.rest.restFailStreak ≥ 3 then true
  else if w.rest.lastRestOkTsMs ≤ 0 then true
  else if w.status.recordingActive ∧ w.rest.ageMs nowMs ≤ config.presenceTimeout * 3 then false
  else w.rest.ageMs nowMs > config.presenceTimeout

theorem presenceTimeout_pos (config : EkinoxConfig) : 0 < config.presenceTimeout := by
  unfold EkinoxConfig.presenceTimeout
  split <;> omega

/-- How old the last success may be. -/
def restGrace (config : EkinoxConfig) (recording : Bool) : ℤ :=
  if recording then config.presenceTimeout * 3 else config.presenceTimeout

theorem restOfflineCondition_eq_false {config : EkinoxConfig} {w : World} {nowMs : ℤ} :
    restOfflineCondition config w nowMs = false ↔ w.rest.restFailStreak < 3 ∧
      0 < w.rest.lastRestOkTsMs ∧ w.rest.ageMs nowMs ≤ restGrace config w.status.recordingActive := by
  have hpos := presenceTimeout_pos config
  unfold restOfflineCondition restGrace
  by_cases hfail : w.rest.restFailStreak ≥ 3
  · rw [if_pos hfail]
    exact ⟨nofun, fun h => absurd h.1 (by omega)⟩
  by_cases hnever : w.rest.lastRestOkTsMs ≤ 0
  · rw [if_neg hfail, if_pos hnever]
    exact ⟨nofun, fun h => absurd h.2.1 (by omega)⟩
  rw [if_neg hfail, if_neg hnever]
  cases hrecording : w.status.recordingActive with
  | false =>
    simp only [Bool.false_eq_true, false_and, if_false, decide_eq_false_iff_not]
    omega
  | true =>
    simp only [true_and, if_true]
    split_ifs with hage
    · simp only [true_iff]
      omega
    · rw [decide_eq_false_iff_not]
      omega

/-- A success that has just been stamped is not too old. -/
theorem restOfflineCondition_of_now {config : EkinoxConfig} {w : World} {nowMs : ℤ}
    (hfail : w.rest.restFailStreak < 3) (hok : w.rest.lastRestOkTsMs = nowMs) (hnow : 0 < nowMs) :
    restOfflineCondition config w nowMs = false := by
  have hpos := presenceTimeout_pos config
  have hage : w.rest.ageMs nowMs = 0 := by
    unfold RestHealth.ageMs
    rw [hok, if_neg (by omega), if_neg (by omega), Int.sub_self]
  refine restOfflineCondition_eq_false.mpr ⟨hfail, by omega, ?_⟩
  rw [hage]
  unfold restGrace
  split <;> omega

theorem restOfflineCondition_of_never {config : EkinoxConfig} {w : World} {nowMs : ℤ}
    (h : w.rest.lastRestOkTsMs = 0) : restOfflineCondition config w nowMs = true := by
  refine eq_true_of_ne_false fun hfalse => ?_
  have hpos := (restOfflineCondition_eq_false.mp hfalse).2.1
  omega

/-- What `update_link_health` leaves behind. -/
def World.withLinkHealth (w : World) (config : EkinoxConfig) (nowMs : ℤ) : World :=
  { w with
    status.toLinkStatus :=
      { apiOk := !restOfflineCondition config w nowMs
        linkAlive := w.sensor.sensorConnected && w.sensor.udpLinkAlive } }

def updateLinkHealth (nowMs : ℤ) : M Unit := do
  let w' := (← get).withLinkHealth (← read).config nowMs
  atLink.update fun _ => w'.status.toLinkStatus

@[simp] theorem wp_updateLinkHealth {env : Env} {Q : Unit → World → Prop} {E : Exn → World → Prop}
    {w : World} (nowMs : ℤ) :
    wp (updateLinkHealth nowMs) env Q E w ↔ Q () (w.withLinkHealth env.config nowMs) := ⟨id, id⟩

/-- The decision of `update_presence_state`. -/
def shouldOnline (config : EkinoxConfig) (w : World) (nowMs : ℤ) : Bool :=
  w.conn.connected && !restOfflineCondition config w nowMs &&
    (decide (w.rest.restSuccessStreak ≥ 2) || w.presence.presenceOnline)

theorem shouldOnline_eq_true {config : EkinoxConfig} {w : World} {nowMs : ℤ} :
    shouldOnline config w nowMs = true ↔ w.conn.connected = true ∧
      restOfflineCondition config w nowMs = false ∧
      (2 ≤ w.rest.restSuccessStreak ∨ w.presence.presenceOnline = true) := by
  simp [shouldOnline, and_assoc]

theorem shouldOnline_of_offline {config : EkinoxConfig} {w : World} {nowMs : ℤ}
    (h : restOfflineCondition config w nowMs = true) : shouldOnline config w nowMs = false := by
  simp [shouldOnline, h]

def presenceReason (config : EkinoxConfig) (w : World) (nowMs : ℤ) (reasonOverride : Bytes) : Bytes :=
  if shouldOnline config w nowMs = false ∧ reasonOverride = [] then
    if w.conn.connected = false then bytes "mqtt offline"
    else if restOfflineCondition config w nowMs then
      if w.rest.lastRestError = [] then bytes "rest timeout" else w.rest.lastRestError
    else bytes "rest hysteresis"
  else reasonOverride

def updatePresenceState (nowMs : ℤ) (reasonOverride : Bytes) : M Unit := do
  let w ← get
  let config := (← read).config
  publishPresence (shouldOnline config w nowMs) (presenceReason config w nowMs reasonOverride)

/-- A result that counts as a success of the REST interface. -/
def LoggerResult.restSuccess (result : LoggerResult) : Bool :=
  result.ok && decide (200 ≤ result.httpCode ∧ result.httpCode < 300)

/-- The next value of a counter that stops at `INT_MAX`. -/
def countUp (streak : ℕ) : ℕ := if streak < intMax then streak + 1 else streak

theorem le_countUp (n : ℕ) : n ≤ countUp n := by
  unfold countUp
  split <;> omega

theorem countUp_le (n : ℕ) : countUp n ≤ n + 1 := by
  unfold countUp
  split <;> omega

namespace RestHealth

def recordSuccess (now : TimePoint) (nowMs : ℤ) (r : RestHealth) : RestHealth :=
  { r with
    restAlive := true, lastRestSuccess := now, lastRestOk := now, lastRestOkTsMs := nowMs
    restFailStreak := 0, restSuccessStreak := countUp r.restSuccessStreak, lastRestError := [] }

def recordFailure (error : Bytes) (r : RestHealth) : RestHealth :=
  { r with
    restFailStreak := countUp r.restFailStreak, restSuccessStreak := 0, lastRestError := error }

def setAlive (alive : Bool) (r : RestHealth) : RestHealth := { r with restAlive := alive }

def recordTimeout (r : RestHealth) : RestHealth :=
  { r with
    restAlive := false
    lastRestError := if r.lastRestError = [] then bytes "rest timeout" else r.lastRestError }

end RestHealth

/-- What `mark_rest_result` remembers of a failure. -/
def restFailureText (result : LoggerResult) (contextReason : Bytes) : Bytes :=
  if result.errorString ≠ [] then result.errorString else contextReason

def markRestResult (result : LoggerResult) (contextReason : Bytes) (nowMs : ℤ) : M Unit := do
  let now ← steadyNow
  emit (.restResult result nowMs)
  if result.restSuccess then
    atRest.update (.recordSuccess now nowMs)
    updateLinkHealth nowMs
    updatePresenceState nowMs []
  else
    atRest.update (.recordFailure (restFailureText result contextReason))
    let offline := restOfflineCondition (← read).config (← get) nowMs
    atRest.update (.setAlive !offline)
    updateLinkHealth nowMs
    if offline then
      updatePresenceState nowMs []

def refreshRestHealth (nowMs : ℤ) : M Unit := do
  let w ← get
  if restOfflineCondition (← read).config w nowMs = false then
    atRest.update (.setAlive true)
  else if w.rest.restAlive then
    atRest.update .recordTimeout
    updateLinkHealth nowMs
    updatePresenceState nowMs []

/-- What `request_logger_state` makes of a result. -/
def storeLoggerState (result : LoggerResult) (contextReason : Bytes) : M Unit := do
  if result.ok then
    atError.update fun s => { s with lastError := [] }
    if result.hasRecordingFlag then
      atLogger.update fun s => { s with recordingActive := result.recordingActive }
      setState (if result.recordingActive then .recording else .idle)
    if result.sessionName ≠ [] then
      atLogger.update fun s => { s with sessionName := result.sessionName }
    else if (← get).status.recordingActive = false then
      atLogger.update fun s => { s with sessionName := [] }
  else
    let err := restErrorOrHttp result
    let err := if err = [] then contextReason else err
    if err ≠ [] then
      setError err
    if result.httpCode = 404 then
      atLogger.update fun s => { s with recordingActive := false, sessionName := [] }
      setState .idle
    else
      setState .error

def requestLoggerState (contextReason : Bytes) (nowMs : ℤ) : M LoggerResult := do
  let result ← dataLoggerGet
  markRestResult result contextReason nowMs
  storeLoggerState result contextReason
  return result

end Ironsoft.Ekinox
