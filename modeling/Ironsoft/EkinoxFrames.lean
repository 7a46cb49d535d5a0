import Ironsoft.EkinoxLoop

/-!
# Frames of the service

What a relation between worlds has to allow for a function of the service to respect it:
the parts the function writes, the inputs it takes and the events it leaves in the trace.
-/
namespace Ironsoft.Ekinox
open Effect

set_option synthInstance.maxSize 50000
set_option synthInstance.maxHeartbeats 200000

/-- Taking an input other than a REST reply is a step of `R`. -/
class IgnoresReadings (R : World → World → Prop) : Prop where
  steady : ∀ w : World, R w w.tookSteady
  system : ∀ w : World, R w w.tookSystem
  mqtt : ∀ w : World, R w w.tookMqtt
  udpOpen : ∀ w : World, R w w.tookUdpOpen
  udpPoll : ∀ w : World, R w w.tookUdpPoll

class IgnoresReplies (R : World → World → Prop) : Prop where
  rest : ∀ w : World, R w w.tookRest

/-- Leaving `e` in the trace is a step of `R`. -/
class Emits (R : World → World → Prop) (e : Event) : Prop where
  step : ∀ w : World, R w (w.said e)

/-- The time of the last frame is not looked at. -/
class IgnoresLastRx (R : World → World → Prop) : Prop where
  lastRx : ∀ (w : World) (ms : ℤ), R w { w with sensor.session.lastRxMs := ms }

section Inputs

variable (env : Env) (R : World → World → Prop)

instance (e : Event) [h : Emits R e] : Respects env R (emit e) := ⟨h.step⟩

instance [h : IgnoresReadings R] : Respects env R (modify World.tookSteady : M Unit) := ⟨h.steady⟩

instance [h : IgnoresReadings R] : Respects env R (modify World.tookSystem : M Unit) := ⟨h.system⟩

instance [h : IgnoresReadings R] : Respects env R (modify World.tookMqtt : M Unit) := ⟨h.mqtt⟩

instance [h : IgnoresReadings R] : Respects env R (modify World.tookUdpOpen : M Unit) :=
  ⟨h.udpOpen⟩

instance [h : IgnoresReadings R] : Respects env R (modify World.tookUdpPoll : M Unit) :=
  ⟨h.udpPoll⟩

instance [h : IgnoresReplies R] : Respects env R (modify World.tookRest : M Unit) := ⟨h.rest⟩

variable [IsPreorder World R] [IgnoresReadings R]

instance : Respects env R steadyNow := by
  unfold steadyNow
  infer_instance

instance : Respects env R monoNow := by
  unfold monoNow
  infer_instance

/-- What follows a clock reading only has to respect `R` for times the clock shows. -/
instance (priority := high) {α : Type} (f : ℤ → M α)
    [hf : ∀ k, Respects env R (f (monoMs (env.steady k)))] : Respects env R (monoNow >>= f) where
  related w := by
    have h := (inferInstance : Respects env R monoNow).related w
    rw [exec_bind]
    exact trans_of R h ((hf w.taken.steady).related w.tookSteady)

instance : Respects env R unixTs := by
  unfold unixTs
  infer_instance

instance : Respects env R generateSessionName := by
  unfold generateSessionName
  infer_instance

instance (cmd : Json) : Respects env R (sessionNameFor cmd) := by
  unfold sessionNameFor
  infer_instance

instance (call : MqttCall) [∀ threw, Emits R (.mqtt call threw)] :
    Respects env R (mqttCall call) := by
  unfold mqttCall
  dsimp only
  infer_instance

omit [IgnoresReadings R]

instance {α : Type} (block handler : M α) [Respects env R block] [Respects env R handler] :
    Respects env R (catchMqtt block handler) := by
  unfold catchMqtt
  infer_instance

/-- A handler that respects `R` can be run wherever the block stops. -/
theorem wp_catchMqtt_respects {α : Type} {block handler : M α} (hh : Respects env R handler)
    {w : World} (hb : wp block env (fun _ w' => R w w') (fun _ w' => R w w') w) :
    wp (catchMqtt block handler) env (fun _ w' => R w w') (fun _ w' => R w w') w := by
  rw [wp_catchMqtt]
  refine wp_mono hb (fun _ _ => id) fun e w' hw' => ?_
  split_ifs
  · exact hh.wp_of fun _ => trans_of R hw'
  · exact hw'

omit [IsPreorder World R] in
/-- A handler that preserves `I` can be run wherever the block stops. -/
theorem wp_catchMqtt_invariant {α : Type} {block handler : M α} {I : World → Prop}
    (hh : Respects env (Preserving I) handler) {w : World}
    (hb : wp block env (fun _ w' => I w') (fun _ w' => I w') w) :
    wp (catchMqtt block handler) env (fun _ w' => I w') (fun _ w' => I w') w := by
  rw [wp_catchMqtt]
  refine wp_mono hb (fun _ _ => id) fun e w' hw' => ?_
  split_ifs
  · exact hh.wp_of fun _ h => h hw'
  · exact hw'

instance {α : Type} (r : Except JsonException α) : Respects env R (liftJson r) := by
  cases r <;> unfold liftJson <;> infer_instance

instance (call : M LoggerResult) [Respects env R call] :
    Respects env R (callWithValidation call) := by
  unfold callWithValidation
  apply Respects.of_read
  split <;> infer_instance

variable [IgnoresReplies R] [∀ request, Emits R (.restRequest request)]

instance (request : RestRequest) : Respects env R (performRest request) := by
  unfold performRest
  infer_instance

instance : Respects env R dataLoggerGet := by
  unfold dataLoggerGet
  infer_instance

instance (sessionName : Bytes) : Respects env R (dataLoggerStart sessionName) := by
  unfold dataLoggerStart
  infer_instance

instance : Respects env R dataLoggerStop := by
  unfold dataLoggerStop
  infer_instance

end Inputs

/-- Between a reading of the clock and the use of the time it shows, `S` stands for `R`: `S k` is
about the time of the `k`-th reading. -/
class ReadsClock (env : Env) (R : World → World → Prop) (S : outParam (ℕ → World → World → Prop)) :
    Prop where
  of_reading : ∀ {w w' : World}, S w.taken.steady w.tookSteady w' → R w w'

section Readings

variable (env : Env) {R : World → World → Prop} {S : ℕ → World → World → Prop} {α β : Type}

/-- What uses the time that has just been read. -/
theorem wp_after_reading [h : ReadsClock env R S] {x : M α} {w : World}
    (hx : Respects env (S w.taken.steady) x) :
    wp x env (fun _ w' => R w w') (fun _ w' => R w w') w.tookSteady :=
  hx.wp_of fun _ => h.of_reading

variable [IsPreorder World R] [ReadsClock env R S]

/-- What uses it and what follows. -/
theorem wp_bind_after_reading {x : M α} {g : α → M β} {w : World}
    (hx : Respects env (S w.taken.steady) x) (hg : ∀ a, Respects env R (g a)) :
    wp (x >>= g) env (fun _ w' => R w w') (fun _ w' => R w w') w.tookSteady := by
  rw [wp_bind]
  refine wp_mono (wp_after_reading env hx) (fun a w₁ h₁ => ?_) fun _ _ => id
  exact (hg a).wp_of fun _ => trans_of R h₁

instance (priority := 2000) (x : ℤ → M α) (g : ℤ → α → M β)
    [hx : ∀ k, Respects env (S k) (x (monoMs (env.steady k)))]
    [hg : ∀ k a, Respects env R (g (monoMs (env.steady k)) a)] :
    Respects env R (monoNow >>= fun t => x t >>= g t) := by
  rw [respects_iff_wp]
  intro w
  rw [wp_bind, wp_monoNow]
  exact wp_bind_after_reading env (hx _) (hg _)

omit [IsPreorder World R] in
instance (priority := 1900) (x : ℤ → M α)
    [hx : ∀ k, Respects env (S k) (x (monoMs (env.steady k)))] :
    Respects env R (monoNow >>= x) := by
  rw [respects_iff_wp]
  intro w
  rw [wp_bind, wp_monoNow]
  exact wp_after_reading env (hx _)

instance (priority := 2000) (x : TimePoint → M α) (g : TimePoint → α → M β)
    [hx : ∀ k, Respects env (S k) (x (env.steady k))] [hg : ∀ now a, Respects env R (g now a)] :
    Respects env R (steadyNow >>= fun now => x now >>= g now) := by
  rw [respects_iff_wp]
  intro w
  rw [wp_bind, wp_steadyNow]
  exact wp_bind_after_reading env (hx _) (hg _)

end Readings

section Publishing

variable (env : Env) (R : World → World → Prop) [IsPreorder World R] [IgnoresReadings R]

instance (online : Bool) (reason : Bytes) [atPresence.Ignored R]
    [∀ p threw,
      Emits R (.mqtt (.publish ⟨env.config.topics.presence, .presence p, 1, true⟩) threw)] :
    Respects env R (publishPresence online reason) := by
  unfold publishPresence
  dsimp only
  infer_instance

instance [∀ s threw,
      Emits R (.mqtt (.publish ⟨env.config.topics.status, .status s, 1, true⟩) threw)] :
    Respects env R publishStatus := by
  unfold publishStatus
  infer_instance

instance (uptimeS : ℤ) [atTimers.Ignored R]
    [∀ n m threw,
      Emits R (.mqtt (.publish ⟨env.config.topics.heartbeat, .heartbeat n m, 0, false⟩) threw)] :
    Respects env R (publishHeartbeat uptimeS) := by
  unfold publishHeartbeat
  infer_instance

instance (topic : Bytes) (ack : Ack) (ts : ℤ)
    [∀ threw, Emits R (.mqtt (.publish ⟨topic, .ack ack ts, 1, false⟩) threw)] :
    Respects env R (publishAckTo topic ack ts) := by
  unfold publishAckTo
  infer_instance

instance (ack : Ack) [Emits R (.publishAck ack)]
    [∀ ts threw, Emits R (.mqtt (.publish ⟨env.config.topics.ack, .ack ack ts, 1, false⟩) threw)]
    [∀ ts threw,
      Emits R (.mqtt (.publish ⟨env.config.topics.ackLegacy, .ack ack ts, 1, false⟩) threw)] :
    Respects env R (publishAck ack) := by
  unfold publishAck
  infer_instance

instance (id type : Bytes) (ok : Bool) (message err : Bytes) (httpCode : ℤ)
    [∀ ack, Respects env R (publishAck ack)] :
    Respects env R (sendAck id type ok message err httpCode) := by
  unfold sendAck
  infer_instance

end Publishing

section Status

variable (env : Env) (R : World → World → Prop) [IsPreorder World R]

instance (state : ServiceState) [atLogger.Ignored R] : Respects env R (setState state) := by
  unfold setState
  infer_instance

instance [atLogger.Ignored R] : Respects env R clearSessionName := by
  unfold clearSessionName
  infer_instance

instance (nowMs : ℤ) [atLink.Ignored R] : Respects env R (updateLinkHealth nowMs) := by
  unfold updateLinkHealth
  infer_instance

variable [IgnoresReadings R]

instance (message : Bytes) [atError.Ignored R] [atMarker.Ignored R] [Emits R (.errorSet message)] :
    Respects env R (setError message) := by
  unfold setError
  infer_instance

instance [atError.Ignored R] [atMarker.Ignored R] : Respects env R clearRxTimeoutError := by
  unfold clearRxTimeoutError
  infer_instance

omit [IgnoresReadings R]

instance (result : LoggerResult) (contextReason : Bytes) [atLogger.Ignored R] [atError.Ignored R]
    [∀ m, Respects env R (setError m)] : Respects env R (storeLoggerState result contextReason) := by
  unfold storeLoggerState
  dsimp only
  infer_instance

end Status

section Health

variable (env : Env) (R : World → World → Prop) [IsPreorder World R]

instance (nowMs : ℤ) (reasonOverride : Bytes) [∀ o r, Respects env R (publishPresence o r)] :
    Respects env R (updatePresenceState nowMs reasonOverride) := by
  unfold updatePresenceState
  infer_instance

section

variable [atRest.Ignored R] [∀ t, Respects env R (updateLinkHealth t)]
  [∀ t r, Respects env R (updatePresenceState t r)]

instance (result : LoggerResult) (contextReason : Bytes) (nowMs : ℤ) [IgnoresReadings R]
    [∀ r t, Emits R (.restResult r t)] :
    Respects env R (markRestResult result contextReason nowMs) := by
  unfold markRestResult
  dsimp only
  infer_instance

instance (nowMs : ℤ) : Respects env R (refreshRestHealth nowMs) := by
  unfold refreshRestHealth
  infer_instance

end

instance (contextReason : Bytes) (nowMs : ℤ) [Respects env R dataLoggerGet]
    [∀ r, Respects env R (markRestResult r contextReason nowMs)]
    [∀ r, Respects env R (storeLoggerState r contextReason)] :
    Respects env R (requestLoggerState contextReason nowMs) := by
  unfold requestLoggerState
  infer_instance

end Health

section Frames

variable (env : Env) (R : World → World → Prop) [IsPreorder World R]

instance [h : atSensor.Ignored R] : IgnoresLastRx R :=
  ⟨fun w ms => h.step w { w.sensor with session.lastRxMs := ms }⟩

instance [IgnoresReadings R] [h : IgnoresLastRx R] : Respects env R resetLastRx := by
  have hset (ms : ℤ) : Respects env R (modifySession fun s => { s with lastRxMs := ms }) :=
    ⟨fun w => h.lastRx w ms⟩
  unfold resetLastRx
  infer_instance

instance [Respects env R resetLastRx] [∀ t, Emits R (.sbg (.frame t))] :
    Respects env R onReceiveLog := by
  unfold onReceiveLog
  infer_instance

instance (n : ℕ) [Respects env R onReceiveLog] : Respects env R (receiveLogs n) := by
  induction n with
  | zero => unfold receiveLogs; infer_instance
  | succ n ih => unfold receiveLogs; infer_instance

instance [IgnoresReadings R] [Emits R (.sbg .handleOneLog)] [Respects env R onReceiveLog] :
    Respects env R sessionPoll := by
  unfold sessionPoll
  dsimp only
  infer_instance

end Frames

section Sensor

variable (env : Env) (R : World → World → Prop) [IsPreorder World R] [IgnoresReadings R]
  [atSensor.Ignored R] [∀ e, Emits R (.sbg e)]

omit [IgnoresReadings R] [∀ e, Emits R (.sbg e)] in
instance (f : UdpSession → UdpSession) : Respects env R (modifySession f) := by
  unfold modifySession
  infer_instance

omit [IgnoresReadings R] in
instance : Respects env R sessionClose := by
  unfold sessionClose
  infer_instance

instance [Emits R .sessionOpened] : Respects env R sessionOpen := by
  unfold sessionOpen
  dsimp only
  infer_instance

variable [∀ t, Respects env R (updateLinkHealth t)]

omit [∀ e, Emits R (.sbg e)] in
instance (alive : Bool) : Respects env R (setUdpLinkAlive alive) := by
  unfold setUdpLinkAlive
  infer_instance

variable [Respects env R clearRxTimeoutError]

instance : Respects env R handleSensorDisconnect := by
  unfold handleSensorDisconnect
  infer_instance

instance (nowMs : ℤ) [∀ t, Emits R (.linkAlive t)] :
    Respects env R (handleSensorRxRecovered nowMs) := by
  unfold handleSensorRxRecovered
  dsimp only
  infer_instance

variable [∀ m, Respects env R (setError m)]

instance (reason : Bytes) : Respects env R (handleSensorError reason) := by
  unfold handleSensorError
  infer_instance

instance (recording : Bool) (nowMs : ℤ) : Respects env R (handleSensorRxTimeout recording nowMs) := by
  unfold handleSensorRxTimeout
  dsimp only
  infer_instance

instance (now : TimePoint) [∀ t, Emits R (.linkAlive t)] : Respects env R (pollSensor now) := by
  unfold pollSensor
  dsimp only
  infer_instance

instance (now : TimePoint) [atRetry.Ignored R] [Emits R .sessionOpened] :
    Respects env R (ensureSensorSession now) := by
  unfold ensureSensorSession ensureSensorSessionSbg ensureSensorSessionNoSbg
  dsimp only
  infer_instance

end Sensor

section Commands

variable (env : Env) (R : World → World → Prop) [IsPreorder World R] [IgnoresReadings R]
  [∀ m, Respects env R (setError m)] [Respects env R publishStatus]
  [∀ i t o m e c, Respects env R (sendAck i t o m e c)]

instance (id type : Bytes) [∀ t, Respects env R (updateLinkHealth t)]
    [∀ t r, Respects env R (updatePresenceState t r)] :
    Wraps env R (checkedRestEndpoint id type) where
  wrapped body _ := by
    unfold checkedRestEndpoint
    dsimp only
    infer_instance

omit [IgnoresReadings R] in
instance (id type : Bytes) [h : Wraps env R (checkedRestEndpoint id type)] :
    Wraps env R (checkedLoggerCmd id type) where
  wrapped body hbody := by
    have := h.wrapped body hbody
    unfold checkedLoggerCmd
    infer_instance

omit [IsPreorder World R] [IgnoresReadings R] [∀ m, Respects env R (setError m)]
  [Respects env R publishStatus] [∀ i t o m e c, Respects env R (sendAck i t o m e c)] in
instance (id type : Bytes) (body : M Unit) [h : Wraps env R (checkedLoggerCmd id type)]
    [Respects env R body] : Respects env R (checkedLoggerCmd id type body) :=
  h.wrapped body inferInstance

variable [∀ c k, Respects env R (requestLoggerState c (monoMs (env.steady k)))]

omit [∀ m, Respects env R (setError m)] [Respects env R publishStatus]
  [∀ i t o m e c, Respects env R (sendAck i t o m e c)] in
instance (nowReason laterReason : Bytes) :
    Respects env R (verifyLoggerState nowReason laterReason) := by
  unfold verifyLoggerState
  infer_instance

variable [∀ i t, Wraps env R (checkedLoggerCmd i t)]

omit [∀ m, Respects env R (setError m)] in
instance (id type : Bytes) : Respects env R (handleLoggerStatus id type) := by
  unfold handleLoggerStatus
  infer_instance

variable [∀ s, Respects env R (setState s)]

omit [∀ c k, Respects env R (requestLoggerState c (monoMs (env.steady k)))]
  [∀ i t, Wraps env R (checkedLoggerCmd i t)]
  [IgnoresReadings R] in
instance (id type : Bytes) (result : LoggerResult) (message : Bytes) :
    Respects env R (failLoggerCmd id type result message) := by
  unfold failLoggerCmd
  infer_instance

variable [∀ r c k, Respects env R (markRestResult r c (monoMs (env.steady k)))]

instance (id type : Bytes) (cmd : Json) [∀ s, Respects env R (dataLoggerStart s)] :
    Respects env R (handleLoggerStart id type cmd) := by
  unfold handleLoggerStart concludeLoggerStart
  infer_instance

instance (id type : Bytes) [Respects env R clearSessionName] [Respects env R dataLoggerStop] :
    Respects env R (handleLoggerStop id type) := by
  unfold handleLoggerStop concludeLoggerStop ackAlreadyStopped
  dsimp only
  infer_instance

end Commands

section Dispatch

variable (env : Env) (R : World → World → Prop) [IsPreorder World R]

instance (admission : Admission) [∀ a, Respects env R (publishAck a)]
    [∀ i t c, Respects env R (handleLoggerStart i t c)]
    [∀ i t, Respects env R (handleLoggerStop i t)]
    [∀ i t, Respects env R (handleLoggerStatus i t)] : Respects env R (dispatch admission) := by
  unfold dispatch handlePing
  split <;> infer_instance

instance (payload : Bytes) [∀ a, Respects env R (dispatch a)] :
    Respects env R (handleCommandMessage payload) := by
  unfold handleCommandMessage
  infer_instance

end Dispatch

section Queue

variable (env : Env) (R : World → World → Prop) [IsPreorder World R]

instance (command : CommandMessage) [Emits R (.commandArrived command)] [atPending.Ignored R] :
    Respects env R (messageArrived command) := by
  unfold messageArrived
  infer_instance

instance [atPending.Ignored R] [atBatch.Ignored R] : Respects env R swapCommands := by
  unfold swapCommands
  infer_instance

variable [atBatch.Ignored R] [∀ c, Emits R (.commandHandled c)]
  [∀ p, Respects env R (handleCommandMessage p)]

instance (batch : List CommandMessage) : Respects env R (handleNext batch) := by
  cases batch <;> unfold handleNext <;> infer_instance

instance : Respects env R handleFront := by
  unfold handleFront
  infer_instance

end Queue

section Connection

variable (env : Env) (R : World → World → Prop) [IsPreorder World R] [IgnoresReadings R]

instance (topic : Bytes) [∀ threw, Emits R (.mqtt (.subscribe topic) threw)] :
    Respects env R (subscribeAndLog topic) := by
  unfold subscribeAndLog
  infer_instance

instance [Respects env R publishStatus]
    [∀ c k, Respects env R (requestLoggerState c (monoMs (env.steady k)))] :
    Respects env R selfTest := by
  unfold selfTest
  infer_instance

instance [∀ t, Respects env R (resetSession t)] [Respects env R (setState .connecting)]
    [∀ t r, Respects env R (updatePresenceState t r)] [Respects env R selfTest] :
    Respects env R startSession := by
  unfold startSession
  infer_instance

instance [∀ threw, Emits R (.mqtt .connect threw)]
    [∀ topic threw, Emits R (.mqtt (.subscribe topic) threw)]
    [Respects env R (setState .connecting)] [Respects env R (setState .disconnected)]
    [Respects env R startSession] : Respects env R connectOnce := by
  unfold connectOnce
  dsimp only
  infer_instance

instance (now : TimePoint) [atRetry.Ignored R] [Respects env R connectOnce] :
    Respects env R (ensureConnection now) := by
  unfold ensureConnection
  dsimp only
  infer_instance

omit [IgnoresReadings R]

instance (nowMs : ℤ) [atTimers.Ignored R] : Respects env R (setNextRestPoll nowMs) := by
  unfold setNextRestPoll
  infer_instance

instance (nowMs : ℤ) [atTimers.Ignored R] [∀ c, Respects env R (requestLoggerState c nowMs)] :
    Respects env R (restTimer nowMs) := by
  unfold restTimer
  dsimp only
  infer_instance

instance (now : TimePoint) [atTimers.Ignored R] [Respects env R publishStatus] :
    Respects env R (statusTimer now) := by
  unfold statusTimer
  infer_instance

instance (now : TimePoint) [atTimers.Ignored R] [∀ u, Respects env R (publishHeartbeat u)] :
    Respects env R (heartbeatTimer now) := by
  unfold heartbeatTimer
  infer_instance

instance [atTimers.Ignored R] : Respects env R restIdle := by
  unfold restIdle
  infer_instance

end Connection

section Sessions

variable (env : Env) (R : World → World → Prop) [IsPreorder World R]

instance (nextRestPollMs : ℤ) [atConn.Ignored R] [atPresence.Ignored R] [atLink.Ignored R]
    [atLogger.Ignored R]
    [atSensor.Ignored R] [atRest.Ignored R] [atTimers.Ignored R] :
    Respects env R (resetSession nextRestPollMs) := by
  unfold resetSession
  infer_instance

instance [Respects env R handleSensorDisconnect] [∀ r, Respects env R (publishPresence false r)]
    [Respects env R publishStatus] [Respects env R disconnect] : Respects env R shutdown := by
  unfold shutdown
  infer_instance

variable [IgnoresReadings R] [atConn.Ignored R] [atLink.Ignored R] [atRest.Ignored R]
  [atTimers.Ignored R] [Respects env R (setState .disconnected)]

instance [∀ threw, Emits R (.mqtt .disconnect threw)] : Respects env R disconnect := by
  unfold disconnect
  infer_instance

instance [atPresence.Ignored R] [atRetry.Ignored R] [atSensor.Ignored R] [∀ e, Emits R (.sbg e)]
    [∀ t, Respects env R (updateLinkHealth t)]
    [∀ t r, Respects env R (updatePresenceState t r)] : Respects env R connectionLost := by
  unfold connectionLost
  infer_instance

end Sessions

/-- What every operation of a run preserves holds at its end. -/
theorem execSteps_preserves {platform : Platform} {I : World → Prop} {steps : List Step} {w : World}
    (h : ∀ s ∈ steps, Respects ⟨platform, s.inputs⟩ (Preserving I) s.op.run) (hw : I w) :
    I (execSteps platform steps w).2 := by
  refine execAll_invariant (execStep platform)
    (C := fun s _ => Respects ⟨platform, s.inputs⟩ (Preserving I) s.op.run) ?_
    (allSteps_of_forall _ fun s hs _ => h s hs) hw
  intro s v hs hv
  unfold execStep
  exact hs.preserves hv

section Leaving

variable {env : Env} {I J : World → Prop} {w : World}

/-- What the command at the front leaves is left by the pass that handles it. -/
theorem handleFront_leaves [∀ c, Emits (Preserving I) (.commandHandled c)]
    [atBatch.Ignored (Preserving I)] (hIJ : ∀ v, I v → J v) (hw : I w)
    (hcommand : ∀ command ∈ w.batch.head?,
      wp (handleCommandMessage command.payload) env (fun _ => I) (fun _ => J) w) :
    wp handleFront env (fun _ => I) (fun _ => J) w := by
  have hdone (command : CommandMessage) (rest : List CommandMessage) :
      Respects env (Preserving I) (do
        emit (.commandHandled command)
        atBatch.update fun _ => rest) := inferInstance
  unfold handleFront
  rw [wp_bind, wp_get]
  cases hbatch : w.batch with
  | nil => exact hw
  | cons command rest =>
    rw [hbatch] at hcommand
    unfold handleNext
    rw [wp_bind]
    refine wp_mono (hcommand command rfl) (fun _ v hv => ?_) fun _ _ hv => hv
    exact wp_mono (respects_iff_wp.mp (hdone command rest) v) (fun _ _ h => h hv)
      fun _ v' h => hIJ v' (h hv)

/-- An operation preserves `I`, or handles a command that leaves `J` if it is cut short. -/
theorem Op.run_leaves [∀ c, Emits (Preserving I) (.commandHandled c)]
    [atBatch.Ignored (Preserving I)] {op : Op} (hIJ : ∀ v, I v → J v) (hw : I w)
    (hfront : op = .handleFront → ∀ command ∈ w.batch.head?,
      wp (handleCommandMessage command.payload) env (fun _ => I) (fun _ => J) w)
    (hother : op ≠ .handleFront → Respects env (Preserving I) op.run) :
    Leaves I J (exec op.run env w) := by
  rw [leaves_exec_iff]
  by_cases hop : op = .handleFront
  · have hcommand := hfront hop
    subst hop
    exact handleFront_leaves hIJ hw hcommand
  · exact wp_mono (respects_iff_wp.mp (hother hop) w) (fun _ _ h => h hw)
      fun _ v h => hIJ v (h hw)

end Leaving

/-- What `f` hears of the trace, newest first. -/
def World.heard {α : Type} (f : Event → Option α) (w : World) : List α := w.trace.filterMap f

class Unheard {α : Type} (f : Event → Option α) (e : Event) : Prop where
  none : f e = none

section Heard

variable {α : Type} (f : Event → Option α)

variable {f} in
theorem World.heard_congr {w w' : World} (h : w'.trace = w.trace) : w'.heard f = w.heard f :=
  congrArg (List.filterMap f) h

variable {f} in
theorem World.heard_cons {w w' : World} {e : Event} (h : w'.trace = e :: w.trace) :
    w'.heard f = (f e).toList ++ w.heard f := by
  unfold World.heard
  rw [h, List.filterMap_cons]
  cases f e <;> rfl

@[simp] theorem World.heard_said (e : Event) (w : World) :
    (w.said e).heard f = (f e).toList ++ w.heard f := heard_cons rfl

instance : IgnoresReadings (Keeping (World.heard f)) :=
  ⟨fun _ => rfl, fun _ => rfl, fun _ => rfl, fun _ => rfl, fun _ => rfl⟩

instance : IgnoresReplies (Keeping (World.heard f)) := ⟨fun _ => rfl⟩

instance (e : Event) [h : Unheard f e] : Emits (Keeping (World.heard f)) e :=
  ⟨fun w => by rw [Keeping, World.heard_said, h.none]; rfl⟩

instance : atLink.Ignored (Keeping (World.heard f)) := ⟨fun _ _ => rfl⟩
instance : atLogger.Ignored (Keeping (World.heard f)) := ⟨fun _ _ => rfl⟩
instance : atError.Ignored (Keeping (World.heard f)) := ⟨fun _ _ => rfl⟩
instance : atMarker.Ignored (Keeping (World.heard f)) := ⟨fun _ _ => rfl⟩
instance : atConn.Ignored (Keeping (World.heard f)) := ⟨fun _ _ => rfl⟩
instance : atRetry.Ignored (Keeping (World.heard f)) := ⟨fun _ _ => rfl⟩
instance : atPresence.Ignored (Keeping (World.heard f)) := ⟨fun _ _ => rfl⟩
instance : atRest.Ignored (Keeping (World.heard f)) := ⟨fun _ _ => rfl⟩
instance : atSensor.Ignored (Keeping (World.heard f)) := ⟨fun _ _ => rfl⟩
instance : atTimers.Ignored (Keeping (World.heard f)) := ⟨fun _ _ => rfl⟩
instance : atPending.Ignored (Keeping (World.heard f)) := ⟨fun _ _ => rfl⟩
instance : atBatch.Ignored (Keeping (World.heard f)) := ⟨fun _ _ => rfl⟩

end Heard

end Ironsoft.Ekinox
