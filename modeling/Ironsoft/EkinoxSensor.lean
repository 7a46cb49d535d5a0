import Ironsoft.EkinoxHealth

/-!
# Sensor link

The functions of `EkinoxService` that open, poll and give up the UDP session.
-/
namespace Ironsoft.Ekinox
open Effect

def setUdpLinkAlive (alive : Bool) : M Unit := do
  atSensor.update fun l => { l with udpLinkAlive := alive }
  updateLinkHealth (← monoNow)

def clearRxTimeoutError : M Unit := do
  let w ← get
  if w.rxTimeoutErrorActive then
    atMarker.update fun _ => false
    if w.status.lastError = rxTimeoutText then
      let ts ← unixTs
      atError.update fun _ => { lastError := [], lastErrorTs := ts }

def handleSensorDisconnect : M Unit := do
  atSensor.update fun l => { l with rxFailStreak := 0, rxOkStreak := 0 }
  clearRxTimeoutError
  sessionClose
  atSensor.update fun l =>
    { l with sensorConnected := false, udpLinkAlive := false, sensorReconnectNeeded := false }
  setUdpLinkAlive false
  let now ← steadyNow
  let backoff := (← get).retry.currentBackoffMs
  atSensor.update fun l => { l with nextSensorAttempt := some (now + milliseconds backoff) }

def handleSensorError (reason : Bytes) : M Unit := do
  setError reason
  handleSensorDisconnect

def EkinoxTimeouts.failThreshold (t : EkinoxTimeouts) : ℤ := max 1 t.udpRxFailThreshold.toInt

def EkinoxTimeouts.okThreshold (t : EkinoxTimeouts) : ℤ := max 1 t.udpRxOkToClearThreshold.toInt

def handleSensorRxTimeout (recording : Bool) (nowMs : ℤ) : M Unit := do
  let threshold := (← read).config.timeouts.failThreshold
  atSensor.update fun l =>
    { l with rxFailStreak := countUp l.rxFailStreak, rxOkStreak := 0, udpLinkAlive := false }
  updateLinkHealth nowMs
  let w ← get
  if w.sensor.rxFailStreak ≥ threshold ∧ w.rxTimeoutErrorActive = false then
    setError rxTimeoutText
  if w.sensor.rxFailStreak < threshold then
    return
  if recording then
    -- the reconnect is deferred until the recording is over
    atSensor.update fun l => { l with sensorReconnectNeeded := true }
  else
    handleSensorDisconnect

def handleSensorRxRecovered (nowMs : ℤ) : M Unit := do
  let threshold := (← read).config.timeouts.okThreshold
  atSensor.update fun l => { l with udpLinkAlive := true, rxOkStreak := countUp l.rxOkStreak }
  emit (.linkAlive nowMs)
  let l := (← get).sensor
  if l.rxOkStreak ≥ threshold ∧ l.rxFailStreak ≠ 0 then
    atSensor.update fun l => { l with rxFailStreak := 0 }
    clearRxTimeoutError
  atSensor.update fun l => { l with sensorReconnectNeeded := false }
  updateLinkHealth nowMs

/-- `min(current_backoff_ms_ * 2, reconnect_backoff_max_ms)`; an `int` that overflows wraps. -/
def doubleBackoff (config : EkinoxConfig) (backoff : ℤ) : ℤ :=
  min (Int.bmod (backoff * 2) 4294967296) config.timeouts.reconnectBackoffMaxMs.toInt

/-- The build with sbgECom. -/
def ensureSensorSessionSbg (now : TimePoint) : M Unit := do
  let l := (← get).sensor
  if l.sensorConnected then
    return
  let attempt := l.nextSensorAttempt.getD now
  atSensor.update fun l => { l with nextSensorAttempt := some attempt }
  if now < attempt then
    return
  let config := (← read).config
  let err ← sessionOpen
  if err.isSome then
    setError (err.getD [])
    setUdpLinkAlive false
    atRetry.update fun r => { r with currentBackoffMs := doubleBackoff config r.currentBackoffMs }
    let backoff := (← get).retry.currentBackoffMs
    atSensor.update fun l => { l with nextSensorAttempt := some (now + milliseconds backoff) }
    return
  atSensor.update fun l => { l with sensorConnected := true, rxFailStreak := 0, rxOkStreak := 0 }
  clearRxTimeoutError
  atRetry.update fun r =>
    { r with currentBackoffMs := config.timeouts.reconnectBackoffMs.toInt }
  atSensor.update fun l => { l with nextSensorAttempt := none }

/-- The build without sbgECom. -/
def ensureSensorSessionNoSbg (now : TimePoint) : M Unit := do
  atSensor.update fun l => { l with sensorConnected := false, udpLinkAlive := false }
  updateLinkHealth (monoMs now)
  if (← get).sensor.reportedNoSbg = false then
    atSensor.update fun l => { l with reportedNoSbg := true }
    setError (bytes "sbgECom unavailable")

def ensureSensorSession (now : TimePoint) : M Unit := do
  if (← read).hasSbg then
    ensureSensorSessionSbg now
  else
    ensureSensorSessionNoSbg now

def pollSensor (now : TimePoint) : M Unit := do
  let w ← get
  if w.sensor.sensorConnected = false then
    return
  let nowMs := monoMs now
  let recording := decide (w.status.state = .recording) || w.status.recordingActive
  if w.sensor.sensorReconnectNeeded ∧ recording = false then
    atSensor.update fun l => { l with sensorReconnectNeeded := false }
    handleSensorDisconnect
    return
  let err ← sessionPoll
  if err.isSome then
    atSensor.update fun l => { l with rxFailStreak := 0, rxOkStreak := 0 }
    clearRxTimeoutError
    handleSensorError (err.getD [])
    return
  let age := max ((← get).sensor.session.lastRxAgeMs nowMs) 0
  if age ≤ (← read).config.timeouts.udpRxTimeoutMs.toInt then
    handleSensorRxRecovered nowMs
  else
    handleSensorRxTimeout recording nowMs

end Ironsoft.Ekinox
