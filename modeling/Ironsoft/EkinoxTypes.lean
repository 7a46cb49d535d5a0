import Ironsoft.JsonValue

/-!
# Types on the wire

States and commands with their names, the published payloads with the JSON built from
them, and the topics of a drone.
-/
namespace Ironsoft.Ekinox

inductive ServiceState
  | disconnected
  | connecting
  | idle
  | starting
  | recording
  | stopping
  | error
  deriving DecidableEq, Repr

def ServiceState.name : ServiceState → Bytes
  | connecting => bytes "CONNECTING"
  | idle => bytes "IDLE"
  | starting => bytes "STARTING"
  | recording => bytes "RECORDING"
  | stopping => bytes "STOPPING"
  | error => bytes "ERROR"
  | disconnected => bytes "DISCONNECTED"

/-- The states a command passes through while it is carried out. -/
def ServiceState.transient (state : ServiceState) : Prop := state = starting ∨ state = stopping

instance (state : ServiceState) : Decidable state.transient :=
  inferInstanceAs (Decidable (_ ∨ _))

inductive CommandType
  | ping
  | loggerStart
  | loggerStop
  | loggerStatus
  | unknown
  deriving DecidableEq, Repr

/-- `session.*` is an alias of `logger.*`. -/
def parseCommandType (text : Bytes) : CommandType :=
  if text = bytes "ping" then .ping
  else if text = bytes "logger.start" then .loggerStart
  else if text = bytes "logger.stop" then .loggerStop
  else if text = bytes "logger.status" then .loggerStatus
  else if text = bytes "session.start" then .loggerStart
  else if text = bytes "session.stop" then .loggerStop
  else if text = bytes "session.status" then .loggerStatus
  else .unknown

structure PresencePayload where
  online : Bool := false
  reason : Bytes := []
  timestamp : ℤ := 0
  deriving DecidableEq

structure LinkStatus where
  linkAlive : Bool := false
  apiOk : Bool := false
  deriving DecidableEq

structure LoggerStatus where
  recordingActive : Bool := false
  state : ServiceState := .disconnected
  sessionName : Bytes := []
  deriving DecidableEq

structure ErrorStatus where
  lastError : Bytes := []
  lastErrorTs : ℤ := 0
  deriving DecidableEq

/-- The status, by the functions that write its fields. -/
structure StatusPayload extends LinkStatus, LoggerStatus, ErrorStatus
  deriving DecidableEq

/-- The arguments of a `publish_ack` call. -/
structure Ack where
  type : Bytes
  id : Bytes
  ok : Bool
  httpCode : ℤ
  message : Bytes
  err : Bytes
  deriving DecidableEq

def int64Json (n : ℤ) : Json := .int (Int64.ofInt n)

def buildPresenceJson (payload : PresencePayload) : Json :=
  .obj [(bytes "state", .str (if payload.online then bytes "online" else bytes "offline")),
    (bytes "ts", int64Json payload.timestamp),
    (bytes "reason", .str payload.reason)]

def buildStatusJson (payload : StatusPayload) : Json :=
  .obj [(bytes "link_alive", .bool payload.linkAlive),
    (bytes "api_ok", .bool payload.apiOk),
    (bytes "recording_active", .bool payload.recordingActive),
    (bytes "recording", .bool payload.recordingActive),
    (bytes "state", .str payload.state.name),
    (bytes "mode", .str payload.state.name),
    (bytes "last_error", .str payload.lastError),
    (bytes "last_error_ts", int64Json payload.lastErrorTs),
    (bytes "session_name", .str payload.sessionName),
    (bytes "sessionName", .str payload.sessionName)]

def buildHeartbeatJson (seq uptimeS : ℤ) : Json :=
  .obj [(bytes "seq", int64Json seq), (bytes "uptime_s", int64Json uptimeS)]

/-- The object `publish_ack` builds; empty texts and codes that are not positive are left out. -/
def buildAckJson (ack : Ack) (ts : ℤ) : Json :=
  .obj ([(bytes "type", .str ack.type), (bytes "id", .str ack.id), (bytes "ok", .bool ack.ok),
      (bytes "ts", int64Json ts)] ++
    (if ack.message = [] then [] else [(bytes "message", .str ack.message)]) ++
    (if ack.err = [] then [] else [(bytes "error", .str ack.err)]) ++
    (if ack.httpCode > 0 then [(bytes "http_code", int64Json ack.httpCode)] else []))

structure EkinoxTopics where
  root : Bytes
  topicPrefix : Bytes
  presence : Bytes
  status : Bytes
  heartbeat : Bytes
  cmd : Bytes
  ack : Bytes
  cmdLegacy : Bytes
  ackLegacy : Bytes

def makeTopics (droneId : Bytes) : EkinoxTopics :=
  let root := bytes "ironsoft/uav/" ++ droneId
  let topicPrefix := root ++ bytes "/ekinox"
  { root := root
    topicPrefix := topicPrefix
    presence := topicPrefix ++ bytes "/presence"
    status := topicPrefix ++ bytes "/status"
    heartbeat := topicPrefix ++ bytes "/heartbeat"
    cmd := root ++ bytes "/cmd"
    ack := root ++ bytes "/ack"
    cmdLegacy := topicPrefix ++ bytes "/cmd"
    ackLegacy := topicPrefix ++ bytes "/ack" }

/-- What a message carries. -/
inductive Body
  | presence (payload : PresencePayload)
  | status (payload : StatusPayload)
  | heartbeat (seq uptimeS : ℤ)
  | ack (ack : Ack) (ts : ℤ)
  deriving DecidableEq

def Body.toJson : Body → Json
  | presence payload => buildPresenceJson payload
  | status payload => buildStatusJson payload
  | heartbeat seq uptimeS => buildHeartbeatJson seq uptimeS
  | ack a ts => buildAckJson a ts

inductive BodyKind
  | presence
  | status
  | heartbeat
  | ack
  deriving DecidableEq

def Body.kind : Body → BodyKind
  | presence _ => .presence
  | status _ => .status
  | heartbeat .. => .heartbeat
  | ack .. => .ack

structure Message where
  topic : Bytes
  body : Body
  qos : ℕ
  retained : Bool
  deriving DecidableEq

/-- A command as it arrives. -/
structure CommandMessage where
  topic : Bytes
  payload : Bytes
  deriving DecidableEq

end Ironsoft.Ekinox
