import Ironsoft.EffectProgram
import Ironsoft.EkinoxTypes

/-!
# The backend

The MQTT client of the backend with its loops, and the handler `main` gives it. What cannot be
handled ends the message loop, and the client starts over.
-/
namespace Ironsoft.Backend
open Effect Ekinox

inductive Exn
  | reader (e : JsonException)
  /-- `Json::LogicError` -/
  | logicError
  | mqtt
  deriving DecidableEq

/-- The reader, and the text a double is written as. -/
structure JsonCpp where
  parse : JsonParser
  realText : Option ℚ → Bytes

/-- `root.get(key, default)` -/
def getOr (root : Json) (key : Bytes) (default : Json) : Except Exn Json :=
  match root with
  | .null => .ok default
  | .obj members => .ok ((members.lookup key).getD default)
  | _ => .error .logicError

/-- `root.isMember(key)` -/
def hasMember (root : Json) (key : Bytes) : Except Exn Bool :=
  match root with
  | .null => .ok false
  | .obj _ => .ok (root.isMember key)
  | _ => .error .logicError

/-- `asString()` -/
def textOf (realText : Option ℚ → Bytes) : Json → Except Exn Bytes
  | .null => .ok []
  | .bool b => .ok (bytes (if b then "true" else "false"))
  | .int n => .ok (decimal n.toInt)
  | .uint n => .ok (decimal n.toNat)
  | .real v => .ok (realText v)
  | .str s => .ok s
  | .arr _ | .obj _ => .error .logicError

def JsonCpp.parseFromStream (json : JsonCpp) (text : Bytes) : Except Exn (Option Json) :=
  (json.parse text).mapError .reader

structure Topics where
  topicPrefix : Bytes
  presence : Bytes
  status : Bytes
  heartbeat : Bytes
  cmd : Bytes
  ack : Bytes

def makeTopics (droneId : Bytes) : Topics :=
  let topicPrefix := bytes "ironsoft/uav/" ++ droneId
  { topicPrefix := topicPrefix
    presence := topicPrefix ++ bytes "/presence"
    status := topicPrefix ++ bytes "/status"
    heartbeat := topicPrefix ++ bytes "/heartbeat"
    cmd := topicPrefix ++ bytes "/cmd"
    ack := topicPrefix ++ bytes "/ack" }

structure CmdHandlerResult where
  ok : Bool := true
  message : Bytes := []
  error : Bytes := []
  deriving DecidableEq

abbrev CmdHandler := Bytes → Except Exn CmdHandlerResult

inductive Body
  | presence (ts : ℤ)
  | status
  | ack (cmdId : Bytes) (res : CmdHandlerResult)
  deriving DecidableEq

def Body.toJson : Body → Json
  | presence ts => .obj [(bytes "state", .str (bytes "online")), (bytes "ts", int64Json ts)]
  | status =>
    .obj [(bytes "mode", .str (bytes "IDLE")), (bytes "api_ok", .bool true),
      (bytes "last_error", .str [])]
  | ack cmdId res =>
    .obj [(bytes "id", .str cmdId), (bytes "ok", .bool res.ok),
      if res.ok then (bytes "message", .str res.message) else (bytes "error", .str res.error)]

structure Message where
  topic : Bytes
  body : Body
  qos : ℕ
  retained : Bool
  deriving DecidableEq

inductive Call
  | connect
  | publish
  | subscribe
  deriving DecidableEq

/-- What the client is built with, and what it meets. -/
structure Env where
  topics : Topics
  json : JsonCpp
  onCmd : Option CmdHandler
  now : ℤ
  /-- whether an MQTT call throws, by the number of calls before it -/
  throws : ℕ → Call → Bool

structure World where
  connected : Bool := false
  calls : ℕ := 0
  /-- newest first -/
  published : List Message := []
  deriving DecidableEq

abbrev M := Prog Env World Exn

def mqttCall (call : Call) : M Unit := do
  let threw := (← read).throws (← get).calls call
  modify fun w => { w with calls := w.calls + 1 }
  if threw then throw .mqtt

def publish (m : Message) : M Unit := do
  mqttCall .publish
  modify fun w => { w with published := m :: w.published }

def setConnected (connected : Bool) : M Unit := modify fun w => { w with connected := connected }

def publishPresenceOnline : M Unit := do
  let env ← read
  publish ⟨env.topics.presence, .presence env.now, 1, true⟩

def publishStatusRetained : M Unit := do
  publish ⟨(← read).topics.status, .status, 1, true⟩

def liftExcept {α : Type} : Except Exn α → M α
  | .ok a => pure a
  | .error e => throw e

def readId (json : JsonCpp) (root : Json) : Except Exn Bytes := do
  if ← hasMember root (bytes "id") then textOf json.realText (root.get (bytes "id"))
  else pure []

/-- `catch (...) {}` around a text that starts empty. -/
def orEmpty : Except Exn Bytes → Bytes
  | .ok text => text
  | .error _ => []

/-- The id of a command, empty if it cannot be read. -/
def commandId (json : JsonCpp) (payload : Bytes) : Bytes := orEmpty do
  match ← json.parseFromStream payload with
  | none => pure []
  | some root => readId json root

/-- The body of the message loop. -/
def handleMessage (msg : CommandMessage) : M Unit := do
  let env ← read
  if msg.topic = env.topics.cmd then
    let res ← match env.onCmd with
      | some onCmd => liftExcept (onCmd msg.payload)
      | none => pure ⟨true, bytes "ok", []⟩
    publish ⟨env.topics.ack, .ack (commandId env.json msg.payload) res, 1, false⟩

/-- The message loop over what `consume_message` returns until a stop is requested. -/
def messageLoop : List (Option CommandMessage) → M Unit
  | [] => pure ()
  -- disconnected
  | none :: _ => pure ()
  | some msg :: msgs => do
    handleMessage msg
    messageLoop msgs

/-- What comes before the message loop. -/
def openSession : M Unit := do
  mqttCall .connect
  setConnected true
  publishPresenceOnline
  publishStatusRetained
  mqttCall .subscribe

/-- A round of `run_connect_loop`. -/
def connectRound (msgs : List (Option CommandMessage)) : M Unit := do
  tryCatch (do
    openSession
    messageLoop msgs) fun _ => setConnected false
  setConnected false

/-- `root.get("type", "").asString()` -/
def readType (json : JsonCpp) (root : Json) : Except Exn Bytes :=
  getOr root (bytes "type") (.str []) >>= textOf json.realText

def answerType (type : Bytes) : CmdHandlerResult :=
  if type = bytes "ping" then ⟨true, bytes "pong", []⟩ else ⟨false, [], bytes "UNKNOWN_CMD"⟩

/-- The handler `main` starts the client with. -/
def handleCmdPingOnly (json : JsonCpp) : CmdHandler := fun cmdJson => do
  match ← json.parseFromStream cmdJson with
  | none => pure ⟨false, [], bytes "BAD_JSON"⟩
  | some root => answerType <$> readType json root

/-- The client as `main` builds it. -/
def Env.pingOnly (droneId : Bytes) (json : JsonCpp) (now : ℤ) (throws : ℕ → Call → Bool) : Env where
  topics := makeTopics droneId
  json := json
  onCmd := some (handleCmdPingOnly json)
  now := now
  throws := throws

end Ironsoft.Backend
