import Ironsoft.EkinoxFrames

/-!
# Exceptions of the service

Which exceptions can leave a function of the service, from those its MQTT calls, its REST
requests and the JSON reader throw.
-/
namespace Ironsoft.Ekinox
open Effect

set_option synthInstance.maxSize 50000
set_option synthInstance.maxHeartbeats 200000

section Primitives

variable (env : Env) (p : Exn → Prop)

instance (e : Event) : Throws env p (emit e) := by
  unfold emit
  infer_instance

instance : Throws env p steadyNow := by
  unfold steadyNow
  infer_instance

instance : Throws env p monoNow := by
  unfold monoNow
  infer_instance

instance : Throws env p unixTs := by
  unfold unixTs
  infer_instance

instance (cmd : Json) : Throws env p (sessionNameFor cmd) := by
  unfold sessionNameFor generateSessionName
  infer_instance

theorem mqttCall_throws {call : MqttCall} (h : p .mqtt ∨ ∀ k, env.mqttThrows k call.op = false) :
    Throws env p (mqttCall call) := by
  refine ⟨fun w => ?_⟩
  simp only [mqttCall, emit, wp_bind, wp_get, wp_modify, wp_read, wp_ite, wp_throw, wp_pure]
  split_ifs with ht
  rcases h with h | h
  · exact h
  · exact absurd ht (by rw [h]; exact Bool.false_ne_true)

theorem catchMqtt_throws {α : Type} {block handler : M α}
    (hb : Throws env (fun e => e = .mqtt ∨ p e) block) (hh : Throws env p handler) :
    Throws env p (catchMqtt block handler) := by
  refine ⟨fun w => ?_⟩
  rw [catchMqtt, wp_tryCatch]
  refine wp_mono (hb.only w) (fun _ _ _ => trivial) fun e w' he => ?_
  rw [wp_ite]
  split_ifs with hm
  · exact hh.only w'
  · exact he.resolve_left hm

instance {α : Type} (block handler : M α) [Throws env (fun e => e = .mqtt ∨ p e) block]
    [Throws env p handler] : Throws env p (catchMqtt block handler) :=
  catchMqtt_throws env p ‹_› ‹_›

instance (call : MqttCall) : Throws env (fun e => e = .mqtt ∨ p e) (mqttCall call) :=
  mqttCall_throws env _ (.inl (.inl rfl))

theorem liftJson_throws {α : Type} {r : Except JsonException α} (h : ∀ e, r = .error e → p (.json e)) :
    Throws env p (liftJson r) := by
  cases r with
  | ok a =>
    unfold liftJson
    infer_instance
  | error e => exact ⟨fun _ => h e rfl⟩

instance (call : M LoggerResult) [Throws env p call] : Throws env p (callWithValidation call) := by
  unfold callWithValidation
  apply Throws.of_read
  split <;> infer_instance

theorem performRest_throws (h : ∀ k e, env.rest k = .error e → p (.json e)) (request : RestRequest) :
    Throws env p (performRest request) := by
  have hr : ∀ k, Throws env p (liftJson (env.rest k)) := fun k => liftJson_throws env p (h k)
  unfold performRest
  infer_instance

end Primitives

section Publishing

variable (env : Env) (p : Exn → Prop)

instance (online : Bool) (reason : Bytes)
    [∀ topic q, Throws env p (mqttCall (.publish ⟨topic, .presence q, 1, true⟩))] :
    Throws env p (publishPresence online reason) := by
  unfold publishPresence
  dsimp only
  infer_instance

instance [∀ topic s, Throws env p (mqttCall (.publish ⟨topic, .status s, 1, true⟩))] :
    Throws env p publishStatus := by
  unfold publishStatus
  infer_instance

instance (uptimeS : ℤ)
    [∀ topic n m, Throws env p (mqttCall (.publish ⟨topic, .heartbeat n m, 0, false⟩))] :
    Throws env p (publishHeartbeat uptimeS) := by
  unfold publishHeartbeat
  infer_instance

instance (topic : Bytes) (ack : Ack) (ts : ℤ) : Throws env p (publishAckTo topic ack ts) := by
  unfold publishAckTo
  infer_instance

instance (ack : Ack) : Throws env p (publishAck ack) := by
  unfold publishAck
  infer_instance

instance (id type : Bytes) (ok : Bool) (message err : Bytes) (httpCode : ℤ) :
    Throws env p (sendAck id type ok message err httpCode) := by
  unfold sendAck
  infer_instance

end Publishing

section Silent

variable (env : Env) (p : Exn → Prop)

instance (state : ServiceState) : Throws env p (setState state) := by
  unfold setState
  infer_instance

instance : Throws env p clearSessionName := by
  unfold clearSessionName
  infer_instance

instance (nowMs : ℤ) : Throws env p (updateLinkHealth nowMs) := by
  unfold updateLinkHealth
  infer_instance

instance (message : Bytes) : Throws env p (setError message) := by
  unfold setError
  infer_instance

instance : Throws env p clearRxTimeoutError := by
  unfold clearRxTimeoutError
  infer_instance

instance (result : LoggerResult) (contextReason : Bytes) :
    Throws env p (storeLoggerState result contextReason) := by
  unfold storeLoggerState
  dsimp only
  infer_instance

instance (f : UdpSession → UdpSession) : Throws env p (modifySession f) := by
  unfold modifySession
  infer_instance

instance : Throws env p resetLastRx := by
  unfold resetLastRx
  infer_instance

instance (n : ℕ) : Throws env p (receiveLogs n) := by
  induction n with
  | zero => unfold receiveLogs; infer_instance
  | succ n ih => unfold receiveLogs onReceiveLog; infer_instance

instance : Throws env p sessionClose := by
  unfold sessionClose
  infer_instance

instance : Throws env p sessionOpen := by
  unfold sessionOpen
  dsimp only
  infer_instance

instance : Throws env p sessionPoll := by
  unfold sessionPoll
  dsimp only
  infer_instance

instance (alive : Bool) : Throws env p (setUdpLinkAlive alive) := by
  unfold setUdpLinkAlive
  infer_instance

instance : Throws env p handleSensorDisconnect := by
  unfold handleSensorDisconnect
  infer_instance

instance (nowMs : ℤ) : Throws env p (handleSensorRxRecovered nowMs) := by
  unfold handleSensorRxRecovered
  dsimp only
  infer_instance

instance (recording : Bool) (nowMs : ℤ) : Throws env p (handleSensorRxTimeout recording nowMs) := by
  unfold handleSensorRxTimeout
  dsimp only
  infer_instance

instance (now : TimePoint) : Throws env p (pollSensor now) := by
  unfold pollSensor handleSensorError
  dsimp only
  infer_instance

instance (now : TimePoint) : Throws env p (ensureSensorSession now) := by
  unfold ensureSensorSession ensureSensorSessionSbg ensureSensorSessionNoSbg
  dsimp only
  infer_instance

instance (command : CommandMessage) : Throws env p (messageArrived command) := by
  unfold messageArrived
  infer_instance

instance : Throws env p swapCommands := by
  unfold swapCommands
  infer_instance

instance (nowMs : ℤ) : Throws env p (setNextRestPoll nowMs) := by
  unfold setNextRestPoll
  infer_instance

instance (nextRestPollMs : ℤ) : Throws env p (resetSession nextRestPollMs) := by
  unfold resetSession
  infer_instance

instance : Throws env p disconnect := by
  unfold disconnect
  infer_instance

instance : Throws env p restIdle := by
  unfold restIdle
  infer_instance

instance (now : TimePoint) [∀ uptimeS, Throws env p (publishHeartbeat uptimeS)] :
    Throws env p (heartbeatTimer now) := by
  unfold heartbeatTimer
  infer_instance

instance [∀ payload, Throws env p (handleCommandMessage payload)] : Throws env p handleFront := by
  have hnext (batch : List CommandMessage) : Throws env p (handleNext batch) := by
    cases batch <;> unfold handleNext <;> infer_instance
  unfold handleFront
  infer_instance

end Silent

section Health

variable (env : Env) (p : Exn → Prop) [∀ o r, Throws env p (publishPresence o r)]

instance (nowMs : ℤ) (reasonOverride : Bytes) : Throws env p (updatePresenceState nowMs reasonOverride) := by
  unfold updatePresenceState
  infer_instance

instance (result : LoggerResult) (contextReason : Bytes) (nowMs : ℤ) :
    Throws env p (markRestResult result contextReason nowMs) := by
  unfold markRestResult
  dsimp only
  infer_instance

instance (nowMs : ℤ) : Throws env p (refreshRestHealth nowMs) := by
  unfold refreshRestHealth
  infer_instance

instance : Throws env p connectionLost := by
  unfold connectionLost
  infer_instance

variable [∀ request, Throws env p (performRest request)]

instance (contextReason : Bytes) (nowMs : ℤ) :
    Throws env p (requestLoggerState contextReason nowMs) := by
  unfold requestLoggerState dataLoggerGet
  infer_instance

instance (nowMs : ℤ) : Throws env p (restTimer nowMs) := by
  unfold restTimer
  dsimp only
  infer_instance

variable [Throws env p publishStatus]

instance (id type : Bytes) (body : M Unit) [Throws env p body] :
    Throws env p (checkedLoggerCmd id type body) := by
  unfold checkedLoggerCmd checkedRestEndpoint
  dsimp only
  infer_instance

instance (nowReason laterReason : Bytes) :
    Throws env p (verifyLoggerState nowReason laterReason) := by
  unfold verifyLoggerState
  infer_instance

instance (id type : Bytes) (result : LoggerResult) (message : Bytes) :
    Throws env p (failLoggerCmd id type result message) := by
  unfold failLoggerCmd
  infer_instance

instance (id type : Bytes) (cmd : Json) : Throws env p (handleLoggerStart id type cmd) := by
  unfold handleLoggerStart concludeLoggerStart dataLoggerStart
  infer_instance

instance (id type : Bytes) : Throws env p (handleLoggerStop id type) := by
  unfold handleLoggerStop concludeLoggerStop dataLoggerStop ackAlreadyStopped
  dsimp only
  infer_instance

instance (id type : Bytes) : Throws env p (handleLoggerStatus id type) := by
  unfold handleLoggerStatus
  infer_instance

instance (admission : Admission) : Throws env p (dispatch admission) := by
  unfold dispatch handlePing
  split <;> infer_instance

instance : Throws env p startSession := by
  unfold startSession selfTest
  infer_instance

instance (now : TimePoint) : Throws env p (statusTimer now) := by
  unfold statusTimer
  infer_instance

instance : Throws env p shutdown := by
  unfold shutdown
  infer_instance

end Health

section Operations

/-- No publish other than an ack throws. -/
def Inputs.QuietPublishes (inputs : Inputs) : Prop :=
  ∀ k kind, kind ≠ .ack → inputs.mqttThrows k (.publish kind) = false

/-- Every REST exchange ends with a result. -/
def Inputs.RepliesReturn (inputs : Inputs) : Prop := ∀ k, ∃ r, inputs.rest k = .ok r

/-- No MQTT call and no request is left by an exception. -/
structure Inputs.Undisturbed (inputs : Inputs) : Prop where
  mqtt : ∀ k op, inputs.mqttThrows k op = false
  replies : inputs.RepliesReturn

theorem Inputs.Undisturbed.publishes {inputs : Inputs} (h : inputs.Undisturbed) :
    inputs.QuietPublishes := fun k kind _ => h.mqtt k (.publish kind)

/-- The JSON reader accepts a payload or returns false. -/
def Platform.ParserReturns (platform : Platform) : Prop :=
  ∀ payload, ∃ root, platform.parse payload = .ok root

variable (env : Env) (p : Exn → Prop)

theorem request_throws (h : env.RepliesReturn ∨ ∀ e, p (.json e)) (request : RestRequest) :
    Throws env p (performRest request) := by
  refine performRest_throws env p (fun k e he => ?_) request
  rcases h with h | h
  · obtain ⟨r, hr⟩ := h k
    rw [hr] at he
    cases he
  · exact h e

theorem read_throws (h : env.ParserReturns ∨ ∀ e, p (.json e)) (payload : Bytes) :
    Throws env p (liftJson (env.parse payload)) := by
  refine liftJson_throws env p fun e he => ?_
  rcases h with h | h
  · obtain ⟨root, hroot⟩ := h payload
    rw [hroot] at he
    cases he
  · exact h e

theorem publish_throws (h : p .mqtt ∨ env.QuietPublishes) {m : Message}
    (hm : m.body.kind ≠ .ack) : Throws env p (mqttCall (.publish m)) :=
  mqttCall_throws env p (h.imp_right fun hq k => hq k _ hm)

theorem connectOnce_throws
    (h : ∀ request, Throws env (fun e => e = .mqtt ∨ p e) (performRest request)) :
    Throws env p connectOnce := by
  unfold connectOnce subscribeAndLog
  dsimp only
  infer_instance

/-- Whatever the MQTT client throws while it connects is caught. -/
theorem ensureConnection_throws
    (h : ∀ request, Throws env (fun e => e = .mqtt ∨ p e) (performRest request)) (now : TimePoint) :
    Throws env p (ensureConnection now) := by
  have hc := connectOnce_throws env p h
  unfold ensureConnection
  dsimp only
  infer_instance

variable {env p}

theorem benchInputs_quiet (rest : ℕ → LoggerResult) : (benchInputs rest).QuietPublishes :=
  fun _ _ _ => rfl

theorem benchInputs_return (rest : ℕ → LoggerResult) : (benchInputs rest).RepliesReturn :=
  fun k => ⟨rest k, rfl⟩

theorem benchPlatform_returns : benchPlatform.ParserReturns := fun _ => ⟨_, rfl⟩

theorem dispatch_throws (hmqtt : p .mqtt ∨ env.QuietPublishes)
    (hrest : env.RepliesReturn ∨ ∀ e, p (.json e)) (admission : Admission) :
    Throws env p (dispatch admission) := by
  have hrequest := request_throws env p hrest
  have hpresence topic q : Throws env p (mqttCall (.publish ⟨topic, .presence q, 1, true⟩)) :=
    publish_throws env p hmqtt nofun
  have hstatus topic s : Throws env p (mqttCall (.publish ⟨topic, .status s, 1, true⟩)) :=
    publish_throws env p hmqtt nofun
  infer_instance

/-- `handle_command_message` throws what reading the payload throws, and what its handler does. -/
theorem handleCommandMessage_throws_of_read (hmqtt : p .mqtt ∨ env.QuietPublishes)
    (hrest : env.RepliesReturn ∨ ∀ e, p (.json e)) {payload : Bytes}
    (hread : Throws env p (liftJson (env.parse payload))) :
    Throws env p (handleCommandMessage payload) := by
  have hdispatch := dispatch_throws hmqtt hrest
  unfold handleCommandMessage
  infer_instance

theorem handleCommandMessage_throws (hmqtt : p .mqtt ∨ env.QuietPublishes)
    (hrest : env.RepliesReturn ∨ ∀ e, p (.json e)) (hparse : env.ParserReturns ∨ ∀ e, p (.json e))
    (payload : Bytes) : Throws env p (handleCommandMessage payload) :=
  handleCommandMessage_throws_of_read hmqtt hrest (read_throws env p hparse payload)

/-- An operation throws what an unguarded publish, a REST request or the JSON reader throws
in it. -/
theorem Op.run_throws {op : Op}
    (hmqtt : (∃ now, op = .ensureConnection now) ∨ p .mqtt ∨ env.QuietPublishes)
    (hrest : env.RepliesReturn ∨ ∀ e, p (.json e))
    (hparse : env.ParserReturns ∨ ∀ e, p (.json e)) : Throws env p op.run := by
  have hensure (now : TimePoint) : Throws env p (Ekinox.ensureConnection now) :=
    ensureConnection_throws env p
      (request_throws env _ (hrest.imp_right fun h e => .inr (h e))) now
  rcases hmqtt with ⟨now, rfl⟩ | hmqtt
  · exact hensure now
  have hrequest := request_throws env p hrest
  have hcommand := handleCommandMessage_throws hmqtt hrest hparse
  have hpresence topic q : Throws env p (mqttCall (.publish ⟨topic, .presence q, 1, true⟩)) :=
    publish_throws env p hmqtt nofun
  have hstatus topic s : Throws env p (mqttCall (.publish ⟨topic, .status s, 1, true⟩)) :=
    publish_throws env p hmqtt nofun
  have hbeat topic n m : Throws env p (mqttCall (.publish ⟨topic, .heartbeat n m, 0, false⟩)) :=
    publish_throws env p hmqtt nofun
  cases op
  case ensureConnection now => exact hensure now
  all_goals
    unfold Op.run
    dsimp only
    infer_instance

/-- An operation that throws nothing returns. -/
theorem execStep_returns {platform : Platform} {s : Step} (hquiet : s.inputs.QuietPublishes)
    (hreturn : s.inputs.RepliesReturn) (hparse : platform.ParserReturns) (w : World) :
    ∃ w', execStep platform s w = (.ok (), w') := by
  have h : Throws ⟨platform, s.inputs⟩ (fun _ => False) s.op.run :=
    Op.run_throws (.inr (.inr hquiet)) (.inl hreturn) (.inl hparse)
  obtain ⟨_, w', hw⟩ := h.returns _ w
  exact ⟨w', hw⟩

end Operations

end Ironsoft.Ekinox
