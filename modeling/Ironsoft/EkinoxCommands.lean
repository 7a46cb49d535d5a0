import Ironsoft.EkinoxSensor

/-!
# Commands

From a payload to its handler, and the four handlers.
-/
namespace Ironsoft.Ekinox
open Effect

/-- The civil date of a day counted from 1970-01-01, as `gmtime_r` computes it. -/
def civilFromDays (days : ℤ) : ℤ × ℤ × ℤ :=
  let z := days + 719468
  let era := z.fdiv 146097
  let doe := z - era * 146097
  let yoe := (doe - doe / 1460 + doe / 36524 - doe / 146096) / 365
  let doy := doe - (365 * yoe + yoe / 4 - yoe / 100)
  let mp := (5 * doy + 2) / 153
  let month := if mp < 10 then mp + 3 else mp - 9
  (yoe + era * 400 + (if month ≤ 2 then 1 else 0), month, doy - (153 * mp + 2) / 5 + 1)

def twoDigits (n : ℤ) : Bytes := if n < 10 then bytes "0" ++ decimal n else decimal n

/-- `IronSoft_%Y%m%d_%H%M%S` in UTC. -/
def sessionNameAt (ts : ℤ) : Bytes :=
  let (year, month, day) := civilFromDays (ts.fdiv 86400)
  let s := ts.fmod 86400
  bytes "IronSoft_" ++ decimal year ++ twoDigits month ++ twoDigits day ++ bytes "_" ++
    twoDigits (s / 3600) ++ twoDigits (s / 60 % 60) ++ twoDigits (s % 60)

def generateSessionName : M Bytes := return sessionNameAt (← unixTs)

/-- `read_field`: empty unless the member is a string. -/
def readField (node : Json) : Bytes := if node.isString then node.asString else []

/-- The first of the places a session name may stand in that has one. -/
def extractSessionName (cmd : Json) : Bytes :=
  let name := readField (cmd.get (bytes "sessionName"))
  if name ≠ [] then name
  else
    let name := readField (cmd.get (bytes "session_name"))
    if name ≠ [] then name
    else
      let payload := cmd.get (bytes "payload")
      let name := if payload.isObject then readField (payload.get (bytes "sessionName")) else []
      if name ≠ [] then name
      else
        let params := cmd.get (bytes "params")
        if params.isObject then readField (params.get (bytes "sessionName")) else []

/-- The session name a recording is started with. -/
def sessionNameFor (cmd : Json) : M Bytes :=
  if extractSessionName cmd = [] then generateSessionName else pure (extractSessionName cmd)

/-- `validate_rest_endpoint`: the error text, empty if the endpoint is configured. -/
def restEndpointError (config : EkinoxConfig) : Bytes :=
  if config.ekinox.ip = [] then bytes "ekinox.ip missing"
  else if config.ekinox.restPort ≤ 0 then bytes "rest_port is 0"
  else []

theorem restEndpointError_eq_nil {config : EkinoxConfig} (h : config.ekinox.HasEndpoint) :
    restEndpointError config = [] := by
  unfold restEndpointError
  rw [if_neg h.ip, if_neg (Int32.not_le.mpr h.restPort)]

theorem validateRestTarget_eq_none {config : EkinoxConfig} (h : restEndpointError config = []) :
    validateRestTarget config = none := by
  unfold restEndpointError at h
  unfold validateRestTarget
  split_ifs at h with hip hport
  · exact absurd h (by decide)
  · exact absurd h (by decide)
  · rw [if_neg hip, if_neg hport]

theorem validateRestTarget_fails {config : EkinoxConfig} (h : restEndpointError config ≠ []) :
    ∃ error, validateRestTarget config = some error ∧ error.ok = false := by
  unfold restEndpointError at h
  unfold validateRestTarget
  split_ifs at h ⊢
  · exact ⟨_, rfl, rfl⟩
  · exact ⟨_, rfl, rfl⟩
  · exact absurd rfl h

def mqttOfflineText : Bytes := bytes "MQTT offline"

/-- `body` behind `validate_rest_endpoint`. -/
def checkedRestEndpoint (id type : Bytes) (body : M Unit) : M Unit := do
  let restReason := restEndpointError (← read).config
  if restReason ≠ [] then
    setError restReason
    let nowMs ← monoNow
    updateLinkHealth nowMs
    updatePresenceState nowMs restReason
    publishStatus
    sendAck id type false restReason (bytes "bad_config") 400
  else
    body

/-- The checks every logger command starts with; `body` runs once they are passed. -/
def checkedLoggerCmd (id type : Bytes) (body : M Unit) : M Unit := do
  if (← get).conn.connected = false then
    setError mqttOfflineText
    publishStatus
    sendAck id type false [] mqttOfflineText 503
  else
    checkedRestEndpoint id type body

/-- The error text of a POST that failed. -/
def postError (result : LoggerResult) : Bytes :=
  let err := restErrorOrHttp result
  if err = [] then bytes "HTTP_" ++ decimal (httpCodeOrDefault result 500) else err

/-- The last branch of a handler whose POST failed. -/
def failLoggerCmd (id type : Bytes) (result : LoggerResult) (message : Bytes) : M Unit := do
  setState (if result.httpCode = 404 then .idle else .error)
  setError (postError result)
  publishStatus
  sendAck id type false message (postError result) (httpCodeOrDefault result 500)

/-- The reply the error of an unconfirmed command is taken from. -/
def failingReply (verifyNow verifyLater : LoggerResult) : LoggerResult :=
  if verifyLater.ok then verifyLater else verifyNow

def verifyError (failing : LoggerResult) : Bytes :=
  let err := restErrorOrHttp failing
  if err = [] then bytes "state_not_confirmed" else err

/-- The state is asked for right after the POST and once more a second later. -/
def verifyLoggerState (nowReason laterReason : Bytes) : M (LoggerResult × LoggerResult) := do
  let verifyNow ← requestLoggerState nowReason (← monoNow)
  let verifyLater ← requestLoggerState laterReason (← monoNow)
  return (verifyNow, verifyLater)

def startConfirmed (v : LoggerResult × LoggerResult) : Bool :=
  loggerStateMatches v.1 true || loggerStateMatches v.2 true

def stopConfirmed (v : LoggerResult × LoggerResult) : Bool :=
  loggerStateMatches v.1 false || loggerStateMatches v.2 false

/-- The part of `handle_logger_start` behind the POST. -/
def concludeLoggerStart (id type : Bytes) (startResult : LoggerResult) : M Unit := do
  if startResult.ok = false then
    if startResult.httpCode = 409 then
      -- the reply to this request is not looked at
      let _ ← requestLoggerState (bytes "logger.start.conflict") (← monoNow)
      publishStatus
      sendAck id type true (bytes "already recording") [] (httpCodeOrDefault startResult 500)
      return
    failLoggerCmd id type startResult (bytes "start failed")
    return
  let v ← verifyLoggerState (bytes "logger.start.verify.now") (bytes "logger.start.verify.later")
  publishStatus
  if startConfirmed v then
    sendAck id type true (bytes "recording started") [] (httpCodeOrDefault startResult 500)
    return
  sendAck id type false (bytes "recording not confirmed") (verifyError (failingReply v.1 v.2))
    (httpCodeOrDefault (failingReply v.1 v.2) (httpCodeOrDefault startResult 500))

def handleLoggerStart (id type : Bytes) (cmd : Json) : M Unit := checkedLoggerCmd id type do
  let preStatus ← requestLoggerState (bytes "logger.start.precheck") (← monoNow)
  publishStatus
  if resultReportsRecording preStatus then
    sendAck id type true (bytes "already recording") [] (httpCodeOrDefault preStatus 200)
    return
  let sessionName ← sessionNameFor cmd
  setState .starting
  publishStatus
  let startResult ← dataLoggerStart sessionName
  markRestResult startResult (bytes "logger.start") (← monoNow)
  concludeLoggerStart id type startResult

def clearSessionName : M Unit := atLogger.update fun s => { s with sessionName := [] }

/-- The ack of a logger that is idle already. -/
def ackAlreadyStopped (id type : Bytes) (httpCode : ℤ) : M Unit := do
  clearSessionName
  setState .idle
  publishStatus
  sendAck id type true (bytes "already stopped") [] httpCode

/-- The part of `handle_logger_stop` behind the POST. -/
def concludeLoggerStop (id type : Bytes) (stopResult : LoggerResult) : M Unit := do
  if stopResult.ok = false then
    if stopResult.httpCode = 500 ∨ stopResult.httpCode = 409 then
      let retryState ← requestLoggerState (bytes "logger.stop.post_error") (← monoNow)
      publishStatus
      if resultReportsIdle retryState then
        ackAlreadyStopped id type (httpCodeOrDefault stopResult 500)
        return
    failLoggerCmd id type stopResult (bytes "stop failed")
    return
  let v ← verifyLoggerState (bytes "logger.stop.verify.now") (bytes "logger.stop.verify.later")
  if stopConfirmed v then
    clearSessionName
  publishStatus
  if stopConfirmed v then
    sendAck id type true (bytes "recording stopped") [] (httpCodeOrDefault stopResult 500)
    return
  sendAck id type false (bytes "recording still active") (verifyError (failingReply v.1 v.2))
    (httpCodeOrDefault (failingReply v.1 v.2) (httpCodeOrDefault stopResult 500))

def handleLoggerStop (id type : Bytes) : M Unit := checkedLoggerCmd id type do
  let preStatus ← requestLoggerState (bytes "logger.stop.precheck") (← monoNow)
  publishStatus
  if resultReportsIdle preStatus then
    ackAlreadyStopped id type (httpCodeOrDefault preStatus 200)
    return
  setState .stopping
  publishStatus
  let stopResult ← dataLoggerStop
  markRestResult stopResult (bytes "logger.stop") (← monoNow)
  concludeLoggerStop id type stopResult

/-- The message of a status ack: the device's own, or one made from the recording flag. -/
def statusMessage (result : LoggerResult) (recordingActive : Bool) : Bytes :=
  if result.message ≠ [] then result.message
  else if recordingActive then bytes "recording active"
  else bytes "recording inactive"

def handleLoggerStatus (id type : Bytes) : M Unit := checkedLoggerCmd id type do
  let result ← requestLoggerState (bytes "logger.status.cmd") (← monoNow)
  publishStatus
  if result.ok then
    sendAck id type true (statusMessage result (← get).status.recordingActive) []
      (httpCodeOrDefault result 200)
    return
  sendAck id type false [] (postError result) (httpCodeOrDefault result 500)

def handlePing (id type : Bytes) : M Unit := sendAck id type true (bytes "pong") [] 200

/-- What `handle_command_message` makes of a payload before it does anything: the ack it
refuses the payload with, or the handler to run. -/
inductive Admission
  | refused (ack : Ack)
  | accepted (command : CommandType) (id type : Bytes) (cmd : Json)

def badRequest (type id : Bytes) : Admission :=
  .refused ⟨type, id, false, 400, [], bytes "bad_request"⟩

def admitObject (root : Json) : Admission :=
  let typeValue := root.get (bytes "type")
  let idValue := root.get (bytes "id")
  let type := readField typeValue
  let id := readField idValue
  let tsValue := root.get (bytes "ts")
  if root.isObject = false then badRequest [] []
  else if typeValue.isString = false ∨ type = [] then badRequest [] id
  else if idValue.isString = false ∨ id = [] then badRequest type []
  else if root.isMember (bytes "ts") ∧ tsValue.isInt64 = false ∧ tsValue.isUInt64 = false then
    badRequest type id
  else if parseCommandType type = .unknown then
    .refused ⟨type, id, false, 400, [], bytes "unknown_type"⟩
  else .accepted (parseCommandType type) id type root

/-- `none` stands for a payload the reader returns false for. -/
def admitParsed : Option Json → Admission
  | none => badRequest [] []
  | some root => admitObject root

def dispatch : Admission → M Unit
  | .refused ack => publishAck ack
  | .accepted .ping id type _ => handlePing id type
  | .accepted .loggerStart id type cmd => handleLoggerStart id type cmd
  | .accepted .loggerStop id type _ => handleLoggerStop id type
  | .accepted .loggerStatus id type _ => handleLoggerStatus id type
  | .accepted .unknown id type _ => publishAck ⟨type, id, false, 400, [], bytes "unknown_type"⟩

def handleCommandMessage (payload : Bytes) : M Unit := do
  let root ← liftJson ((← read).parse payload)
  dispatch (admitParsed root)

/-- `message_arrived`, on the thread of the MQTT client. -/
def messageArrived (command : CommandMessage) : M Unit := do
  emit (.commandArrived command)
  atPending.update (· ++ [command])

/-- The swap under the lock; the local queue is empty when `drain_commands` starts. -/
def swapCommands : M Unit := do
  let w ← get
  atBatch.update (· ++ w.pending)
  atPending.update fun _ => []

def handleNext : List CommandMessage → M Unit
  | [] => pure ()
  | command :: rest => do
    handleCommandMessage command.payload
    emit (.commandHandled command)
    atBatch.update fun _ => rest

/-- One pass of the loop of `drain_commands`; nothing if the local queue is empty. -/
def handleFront : M Unit := do
  handleNext (← get).batch

def drainLoop : ℕ → M Unit
  | 0 => pure ()
  | n + 1 => do
    handleFront
    drainLoop n

def drainCommands : M Unit := do
  swapCommands
  drainLoop (← get).batch.length

end Ironsoft.Ekinox
