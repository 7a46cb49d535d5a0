import Ironsoft.EkinoxLoggerApi
import Ironsoft.EkinoxTypes

/-!
# The world of the service

The data members of `EkinoxService` and its UDP session, the inputs it takes from the
clocks, the MQTT client, the REST endpoint and sbgECom, and the trace of what it does.
The members are grouped by the functions that write them. The trace is newest first.
-/
namespace Ironsoft.Ekinox
open Effect

/-- A `steady_clock` reading in nanoseconds. -/
abbrev TimePoint := ℤ

/-- `mono_ms(tp)` -/
def monoMs (tp : TimePoint) : ℤ := tp.tdiv 1000000

def milliseconds (n : ℤ) : TimePoint := n * 1000000

inductive SbgErrorCode
  | noError
  | notReady
  | invalidParameter
  | nullPointer
  | timeOut
  | error
  | other (code : ℤ)
  deriving DecidableEq

def SbgErrorCode.toText : SbgErrorCode → Bytes
  | noError => bytes "SBG_NO_ERROR"
  | notReady => bytes "SBG_NOT_READY"
  | invalidParameter => bytes "SBG_INVALID_PARAMETER"
  | nullPointer => bytes "SBG_NULL_POINTER"
  | timeOut => bytes "SBG_TIME_OUT"
  | error => bytes "SBG_ERROR"
  | other code => decimal code

/-- How the sbgECom calls of `EkinoxUdpSession::open` go. A code other than `noError` is a
failure of that call. -/
structure OpenOutcome where
  ipValid : Bool
  create : SbgErrorCode
  init : SbgErrorCode

/-- One `sbgEComHandleOneLog` call: how often it calls `on_receive_log`, and its code. -/
structure PollOutcome where
  frames : ℕ
  status : SbgErrorCode

inductive MqttCall
  | connect
  | subscribe (topic : Bytes)
  | publish (message : Message)
  | disconnect
  deriving DecidableEq

/-- A call without what it carries. -/
inductive MqttOp
  | connect
  | subscribe
  | publish (kind : BodyKind)
  | disconnect
  deriving DecidableEq

def MqttCall.op : MqttCall → MqttOp
  | connect => .connect
  | subscribe _ => .subscribe
  | publish message => .publish message.body.kind
  | disconnect => .disconnect

inductive Exn
  | mqtt
  | json (e : JsonException)
  deriving DecidableEq

/-- What does not change while the service runs. -/
structure Platform where
  config : EkinoxConfig
  parse : JsonParser
  hasSbg : Bool

/-- What comes from outside. The `k`-th call of each kind takes the `k`-th input. -/
structure Inputs where
  steady : ℕ → TimePoint
  system : ℕ → ℤ
  rest : ℕ → Except JsonException LoggerResult
  mqttThrows : ℕ → MqttOp → Bool
  udpOpen : ℕ → OpenOutcome
  udpPoll : ℕ → PollOutcome

structure Env extends Platform, Inputs

/-- How many inputs of each kind have been taken. -/
structure Taken where
  steady : ℕ := 0
  system : ℕ := 0
  rest : ℕ := 0
  mqtt : ℕ := 0
  udpOpen : ℕ := 0
  udpPoll : ℕ := 0

inductive SbgEvent
  | interfaceCreate (status : SbgErrorCode)
  | interfaceDestroy
  | ecomInit (status : SbgErrorCode)
  | ecomClose
  | handleOneLog
  /-- `on_receive_log`, with the time it stores -/
  | frame (nowMs : ℤ)
  deriving DecidableEq

inductive Event
  /-- a call on the MQTT client, and whether it threw -/
  | mqtt (call : MqttCall) (threw : Bool)
  | publishAck (ack : Ack)
  | restRequest (request : RestRequest)
  /-- a result went through `mark_rest_result` -/
  | restResult (result : LoggerResult) (nowMs : ℤ)
  /-- `set_error` has been called -/
  | errorSet (message : Bytes)
  | sbg (event : SbgEvent)
  /-- `open()` of the UDP session has succeeded -/
  | sessionOpened
  /-- a poll at `nowMs` set `udp_link_alive_` -/
  | linkAlive (nowMs : ℤ)
  | commandArrived (command : CommandMessage)
  /-- a command of a drained batch has been handled -/
  | commandHandled (command : CommandMessage)
  deriving DecidableEq

structure UdpSession where
  connected : Bool := false
  lastRxMs : ℤ := 0

structure Connection where
  connected : Bool := false

structure Retry where
  nextReconnectAttempt : Option TimePoint := none
  currentBackoffMs : ℤ := 0

structure Presence where
  payload : PresencePayload := {}
  presenceOnline : Bool := false
  lastPresenceTs : ℤ := 0
  lastPresenceEmitTsMs : ℤ := 0

structure RestHealth where
  restAlive : Bool := false
  lastRestSuccess : TimePoint := 0
  lastRestOk : TimePoint := 0
  lastRestOkTsMs : ℤ := 0
  restFailStreak : ℕ := 0
  restSuccessStreak : ℕ := 0
  lastRestError : Bytes := []

structure SensorLink where
  sensorConnected : Bool := false
  rxFailStreak : ℕ := 0
  rxOkStreak : ℕ := 0
  udpLinkAlive : Bool := false
  sensorReconnectNeeded : Bool := false
  nextSensorAttempt : Option TimePoint := none
  reportedNoSbg : Bool := false
  session : UdpSession := {}

structure Timers where
  startTp : TimePoint := 0
  nextStatusPub : TimePoint := 0
  nextHeartbeatPub : TimePoint := 0
  nextRestPollMs : ℤ := 0
  heartbeatSeq : ℤ := 0

structure World where
  status : StatusPayload := {}
  rxTimeoutErrorActive : Bool := false
  conn : Connection := {}
  retry : Retry := {}
  presence : Presence := {}
  rest : RestHealth := {}
  sensor : SensorLink := {}
  timers : Timers := {}
  /-- `pending_commands_` -/
  pending : List CommandMessage := []
  /-- the local queue of `drain_commands` -/
  batch : List CommandMessage := []
  taken : Taken := {}
  trace : List Event := []

abbrev M := Prog Env World Exn

def atLink : Part World LinkStatus :=
  ⟨fun w => w.status.toLinkStatus, fun v w => { w with status.toLinkStatus := v }⟩
def atLogger : Part World LoggerStatus :=
  ⟨fun w => w.status.toLoggerStatus, fun v w => { w with status.toLoggerStatus := v }⟩
def atError : Part World ErrorStatus :=
  ⟨fun w => w.status.toErrorStatus, fun v w => { w with status.toErrorStatus := v }⟩
def atMarker : Part World Bool :=
  ⟨World.rxTimeoutErrorActive, fun v w => { w with rxTimeoutErrorActive := v }⟩
def atConn : Part World Connection := ⟨World.conn, fun v w => { w with conn := v }⟩
def atRetry : Part World Retry := ⟨World.retry, fun v w => { w with retry := v }⟩
def atPresence : Part World Presence := ⟨World.presence, fun v w => { w with presence := v }⟩
def atRest : Part World RestHealth := ⟨World.rest, fun v w => { w with rest := v }⟩
def atSensor : Part World SensorLink := ⟨World.sensor, fun v w => { w with sensor := v }⟩
def atTimers : Part World Timers := ⟨World.timers, fun v w => { w with timers := v }⟩
def atPending : Part World (List CommandMessage) :=
  ⟨World.pending, fun v w => { w with pending := v }⟩
def atBatch : Part World (List CommandMessage) := ⟨World.batch, fun v w => { w with batch := v }⟩

namespace World

variable (w : World)

def said (e : Event) : World := { w with trace := e :: w.trace }
def tookSteady : World := { w with taken.steady := w.taken.steady + 1 }
def tookSystem : World := { w with taken.system := w.taken.system + 1 }
def tookRest : World := { w with taken.rest := w.taken.rest + 1 }
def tookMqtt : World := { w with taken.mqtt := w.taken.mqtt + 1 }
def tookUdpOpen : World := { w with taken.udpOpen := w.taken.udpOpen + 1 }
def tookUdpPoll : World := { w with taken.udpPoll := w.taken.udpPoll + 1 }

end World

def emit (e : Event) : M Unit := modify fun w => w.said e

def steadyNow : M TimePoint := do
  let k := (← get).taken.steady
  modify World.tookSteady
  return (← read).steady k

/-- `mono_ms()` -/
def monoNow : M ℤ := return monoMs (← steadyNow)

def unixTs : M ℤ := do
  let k := (← get).taken.system
  modify World.tookSystem
  return (← read).system k

/-- A call on the MQTT client, with the wait on its token where the source waits. -/
def mqttCall (call : MqttCall) : M Unit := do
  let k := (← get).taken.mqtt
  modify World.tookMqtt
  let threw := (← read).mqttThrows k call.op
  emit (.mqtt call threw)
  if threw then throw Exn.mqtt

/-- The `catch (const mqtt::exception&)` of a block. -/
def catchMqtt {α : Type} (block : M α) (handler : M α) : M α :=
  tryCatch block fun e => if e = .mqtt then handler else throw e

def liftJson {α : Type} : Except JsonException α → M α
  | .ok a => pure a
  | .error e => throw (.json e)

/-- A request that has passed `validate_rest_target`. -/
def performRest (request : RestRequest) : M LoggerResult := do
  let k := (← get).taken.rest
  modify World.tookRest
  emit (.restRequest request)
  liftJson ((← read).rest k)

def callWithValidation (call : M LoggerResult) : M LoggerResult := do
  match validateRestTarget (← read).config with
  | some error => return error
  | none => call

def dataLoggerGet : M LoggerResult := callWithValidation (performRest .get)

def dataLoggerStart (sessionName : Bytes) : M LoggerResult :=
  callWithValidation (performRest (.start sessionName))

def dataLoggerStop : M LoggerResult := callWithValidation (performRest .stop)

section Assertions

variable {α : Type} {env : Env} {E : Exn → World → Prop} {w : World}

@[simp] theorem wp_emit {Q : Unit → World → Prop} (e : Event) :
    wp (emit e) env Q E w ↔ Q () (w.said e) := ⟨id, id⟩

@[simp] theorem wp_steadyNow {Q : TimePoint → World → Prop} :
    wp steadyNow env Q E w ↔ Q (env.steady w.taken.steady) w.tookSteady := ⟨id, id⟩

@[simp] theorem wp_monoNow {Q : ℤ → World → Prop} :
    wp monoNow env Q E w ↔ Q (monoMs (env.steady w.taken.steady)) w.tookSteady := ⟨id, id⟩

@[simp] theorem wp_unixTs {Q : ℤ → World → Prop} :
    wp unixTs env Q E w ↔ Q (env.system w.taken.system) w.tookSystem := ⟨id, id⟩

@[simp] theorem wp_liftJson_ok {Q : α → World → Prop} (a : α) :
    wp (liftJson (.ok a)) env Q E w ↔ Q a w := ⟨id, id⟩

theorem wp_mqttCall {Q : Unit → World → Prop} (call : MqttCall) :
    wp (mqttCall call) env Q E w ↔
      if env.mqttThrows w.taken.mqtt call.op then E .mqtt (w.tookMqtt.said (.mqtt call true))
      else Q () (w.tookMqtt.said (.mqtt call false)) := by
  simp only [mqttCall, wp_bind, wp_get, wp_modify, wp_read, wp_emit, wp_ite, wp_throw, wp_pure]
  cases env.mqttThrows w.taken.mqtt call.op <;> rfl

@[simp] theorem wp_catchMqtt {Q : α → World → Prop} (block handler : M α) :
    wp (catchMqtt block handler) env Q E w ↔
      wp block env Q (fun e w' => if e = .mqtt then wp handler env Q E w' else E e w') w := by
  have h (e : Exn) : wp (if e = .mqtt then handler else throw e) env Q E =
      fun w' => if e = .mqtt then wp handler env Q E w' else E e w' := by
    funext w'
    rw [wp_ite, wp_throw]
  simp only [catchMqtt, wp_tryCatch, h]

theorem wp_performRest {Q : LoggerResult → World → Prop} (request : RestRequest) :
    wp (performRest request) env Q E w ↔
      wp (liftJson (env.rest w.taken.rest)) env Q E (w.tookRest.said (.restRequest request)) := by
  simp only [performRest, wp_bind, wp_get, wp_modify, wp_read, wp_emit]

end Assertions

end Ironsoft.Ekinox
