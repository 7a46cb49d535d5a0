import Ironsoft.EkinoxCommands
import Ironsoft.EffectRun

/-!
# Connection, loop and operations

Connecting, the loop of `run`, and the operations it is made of. The callbacks of the MQTT
client come between two operations of the loop.
-/
namespace Ironsoft.Ekinox
open Effect

def subscribeAndLog (topic : Bytes) : M Unit :=
  if topic = [] then pure () else mqttCall (.subscribe topic)

def setNextRestPoll (nowMs : ℤ) : M Unit :=
  atTimers.update fun t => { t with nextRestPollMs := nowMs }

/-- What `connect_once` resets when the session is up. -/
def resetSession (nextRestPollMs : ℤ) : M Unit := do
  atConn.update fun _ => { connected := true }
  atPresence.update fun p => { p with presenceOnline := false, lastPresenceEmitTsMs := 0 }
  atLink.update fun _ => { linkAlive := false, apiOk := false }
  atLogger.update fun s => { s with recordingActive := false }
  atSensor.update fun l => { l with udpLinkAlive := false, sensorReconnectNeeded := false }
  atRest.update fun _ =>
    { restAlive := false, lastRestSuccess := 0, lastRestOk := 0, lastRestOkTsMs := 0
      restFailStreak := 0, restSuccessStreak := 0, lastRestError := [] }
  setNextRestPoll nextRestPollMs

def selfTest : M Unit := do
  publishStatus
  let _ ← requestLoggerState (bytes "connect.selftest") (← monoNow)
  publishStatus

/-- The part of `connect_once` behind the subscriptions. -/
def startSession : M Unit := do
  resetSession ((← monoNow) + (← read).config.restPollInterval)
  setState .connecting
  updatePresenceState (← monoNow) (bytes "connecting")
  selfTest

def connectOnce : M Bool := catchMqtt
  (do
    setState .connecting
    mqttCall .connect
    let topics := (← read).config.topics
    subscribeAndLog topics.cmd
    subscribeAndLog topics.cmdLegacy
    startSession
    return true)
  (do
    setState .disconnected
    return false)

def disconnect : M Unit := do
  if (← get).conn.connected then
    catchMqtt
      (do
        mqttCall .disconnect
        atConn.update fun _ => { connected := false }
        atLink.update fun s => { s with linkAlive := false }
        atRest.update fun r => { r with restSuccessStreak := 0 }
        setNextRestPoll 0
        setState .disconnected)
      (pure ())

def ensureConnection (now : TimePoint) : M Unit := do
  let w ← get
  if w.conn.connected then
    return
  let attempt := w.retry.nextReconnectAttempt.getD now
  atRetry.update fun r => { r with nextReconnectAttempt := some attempt }
  if now < attempt then
    return
  let config := (← read).config
  let connected ← connectOnce
  if connected then
    let backoff := config.timeouts.reconnectBackoffMs.toInt
    atRetry.update fun _ =>
      { currentBackoffMs := backoff
        nextReconnectAttempt := some (now + milliseconds backoff) }
  else
    atRetry.update fun r =>
      { currentBackoffMs := doubleBackoff config r.currentBackoffMs
        nextReconnectAttempt :=
          some (now + milliseconds (doubleBackoff config r.currentBackoffMs)) }

/-- `connection_lost`, on the thread of the MQTT client. -/
def connectionLost : M Unit := do
  atConn.update fun _ => { connected := false }
  atPresence.update fun p => { p with presenceOnline := false }
  atLink.update fun s => { s with linkAlive := false }
  atRest.update fun r => { r with restSuccessStreak := 0 }
  setNextRestPoll 0
  sessionClose
  atSensor.update fun l => { l with sensorConnected := false, sensorReconnectNeeded := false }
  let now ← steadyNow
  updateLinkHealth (monoMs now)
  setState .disconnected
  atRetry.update fun r => { r with nextReconnectAttempt := some now }
  updatePresenceState (monoMs now) (bytes "mqtt offline")

def restTimer (nowMs : ℤ) : M Unit := do
  let interval := (← read).config.restPollInterval
  if (← get).timers.nextRestPollMs ≤ 0 then
    setNextRestPoll (nowMs + interval)
  if nowMs ≥ (← get).timers.nextRestPollMs then
    let _ ← requestLoggerState (bytes "poll.timer") nowMs
    setNextRestPoll (nowMs + interval)

def statusTimer (now : TimePoint) : M Unit := do
  if now ≥ (← get).timers.nextStatusPub then
    publishStatus
    atTimers.update fun t => { t with nextStatusPub := now + milliseconds 1000 }

def heartbeatTimer (now : TimePoint) : M Unit := do
  let t := (← get).timers
  if now ≥ t.nextHeartbeatPub then
    publishHeartbeat ((now - t.startTp).tdiv 1000000000)
    atTimers.update fun t => { t with nextHeartbeatPub := now + milliseconds 1000 }

/-- The branch of the loop without a connection. -/
def restIdle : M Unit := setNextRestPoll 0

/-- One pass of the loop. -/
def runIteration : M Unit := do
  let now ← steadyNow
  ensureConnection now
  if (← get).conn.connected then
    drainCommands
    ensureSensorSession now
    pollSensor now
    refreshRestHealth (monoMs now)
    restTimer (monoMs now)
    statusTimer now
    heartbeatTimer now
  else
    restIdle

/-- What `run` does after the loop. -/
def shutdown : M Unit := do
  if (← get).sensor.sensorConnected then
    handleSensorDisconnect
  if (← get).conn.connected then
    publishPresence false (bytes "shutdown")
    publishStatus
    disconnect

/-- The operations of the service, with the arguments they are passed. -/
inductive Op
  | readClock
  | ensureConnection (now : TimePoint)
  | connectionLost
  | messageArrived (command : CommandMessage)
  | swapCommands
  | handleFront
  | ensureSensorSession (now : TimePoint)
  | pollSensor (now : TimePoint)
  | refreshRestHealth (nowMs : ℤ)
  | restTimer (nowMs : ℤ)
  | requestLoggerState (contextReason : Bytes) (nowMs : ℤ)
  | markRestResult (result : LoggerResult) (contextReason : Bytes) (nowMs : ℤ)
  | statusTimer (now : TimePoint)
  | heartbeatTimer (now : TimePoint)
  | restIdle
  | shutdown

def Op.run : Op → M Unit
  | .readClock => do
    let _ ← steadyNow
  | .ensureConnection now => Ekinox.ensureConnection now
  | .connectionLost => Ekinox.connectionLost
  | .messageArrived command => Ekinox.messageArrived command
  | .swapCommands => Ekinox.swapCommands
  | .handleFront => Ekinox.handleFront
  | .ensureSensorSession now => Ekinox.ensureSensorSession now
  | .pollSensor now => Ekinox.pollSensor now
  | .refreshRestHealth nowMs => Ekinox.refreshRestHealth nowMs
  | .restTimer nowMs => Ekinox.restTimer nowMs
  | .requestLoggerState contextReason nowMs => do
    let _ ← Ekinox.requestLoggerState contextReason nowMs
  | .markRestResult result contextReason nowMs => Ekinox.markRestResult result contextReason nowMs
  | .statusTimer now => Ekinox.statusTimer now
  | .heartbeatTimer now => Ekinox.heartbeatTimer now
  | .restIdle => Ekinox.restIdle
  | .shutdown => Ekinox.shutdown

/-- An operation with the inputs it meets. -/
structure Step where
  op : Op
  inputs : Inputs

/-- What the constructor leaves: every timer is due at once. -/
def initialWorld (config : EkinoxConfig) (inputs : Inputs) : World :=
  { presence := { payload := ⟨false, [], inputs.system 0⟩ }
    retry :=
      { nextReconnectAttempt := some (inputs.steady 1)
        currentBackoffMs := config.timeouts.reconnectBackoffMs.toInt }
    sensor := { nextSensorAttempt := some (inputs.steady 1) }
    timers :=
      { startTp := inputs.steady 1, nextStatusPub := inputs.steady 1
        nextHeartbeatPub := inputs.steady 1 }
    taken := { steady := 2, system := 1 } }

def execStep (platform : Platform) (step : Step) (w : World) : Except Exn Unit × World :=
  exec step.op.run ⟨platform, step.inputs⟩ w

def execSteps (platform : Platform) : List Step → World → Except Exn Unit × World :=
  execAll (execStep platform)

def benchCommand (type : Bytes) : Json :=
  .obj [(bytes "id", .str (bytes "1")), (bytes "type", .str type)]

/-- `benchCommand` as text. -/
def benchPayload (type : Bytes) : Bytes :=
  bytes "\x7b\"id\":\"1\",\"type\":\"" ++ type ++ bytes "\"\x7d"

/-- A reader that knows the four commands. -/
def benchParse : JsonParser := fun payload =>
  let types := [bytes "ping", bytes "logger.start", bytes "logger.stop", bytes "logger.status"]
  .ok ((types.find? fun type => payload = benchPayload type).map benchCommand)

def benchPlatform : Platform where
  config :=
    { mqtt := { host := bytes "broker", droneId := bytes "d1" }
      ekinox := { ip := bytes "10.0.0.2" } }
  parse := benchParse
  hasSbg := true

/-- The text `benchPlatform.config` is loaded from. -/
def benchConfigText : Bytes :=
  bytes "\x7b\"mqtt\":\x7b\"host\":\"broker\",\"port\":1883,\"drone_id\":\"d1\"\x7d," ++
    bytes "\"ekinox\":\x7b\"ip\":\"10.0.0.2\"\x7d\x7d"

def benchConfigJson : Json :=
  .obj [(bytes "mqtt", .obj [(bytes "host", .str (bytes "broker")), (bytes "port", .int 1883),
      (bytes "drone_id", .str (bytes "d1"))]),
    (bytes "ekinox", .obj [(bytes "ip", .str (bytes "10.0.0.2"))])]

def benchLoadEnv : LoadEnv where
  parse content := .ok (if content = benchConfigText then some benchConfigJson else none)
  file := some benchConfigText

theorem benchPlatform_accepted : Accepted benchPlatform.config :=
  ⟨benchLoadEnv, bytes "config.json", {}, rfl⟩

/-- The clocks stand still, nothing fails, and the sensor sends nothing. -/
def benchInputs (rest : ℕ → LoggerResult) : Inputs where
  steady _ := milliseconds 1000
  system _ := 1700000000
  rest k := .ok (rest k)
  mqttThrows _ _ := false
  udpOpen _ := ⟨true, .noError, .noError⟩
  udpPoll _ := ⟨0, .noError⟩

/-- A bench whose REST interface always answers with success. -/
def benchHealthy : Inputs := benchInputs fun _ => { ok := true, httpCode := 200 }

/-- The result of a response with no body. -/
def benchResponse (httpCode : ℤ) : LoggerResult := assembleResult (.response httpCode [])

/-- The result of a response that tells whether the logger records. -/
def benchFlag (recording : Bool) : LoggerResult :=
  let body := if recording then bytes "\x7b\"recording\":true\x7d"
    else bytes "\x7b\"recording\":false\x7d"
  { assembleResult (.response 200 body) with hasRecordingFlag := true, recordingActive := recording }

/-- The service has just connected. -/
def benchConnected (inputs : Inputs) : World :=
  (execSteps benchPlatform [⟨.ensureConnection (milliseconds 1000), inputs⟩]
    (initialWorld benchPlatform.config inputs)).2

/-- What is left of a command that arrives at once. -/
def benchCommandSteps (type : Bytes) (inputs : Inputs) : List Step :=
  [⟨.messageArrived ⟨bytes "ironsoft/uav/d1/cmd", benchPayload type⟩, inputs⟩,
    ⟨.swapCommands, inputs⟩, ⟨.handleFront, inputs⟩]

end Ironsoft.Ekinox
