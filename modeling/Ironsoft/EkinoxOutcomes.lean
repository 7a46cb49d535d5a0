import Ironsoft.EkinoxFrames

/-!
# Outcomes

What the functions leave behind that publish presence and mark results, that connect and open a
session, and that give up a session, the connection or the sensor.
-/
namespace Ironsoft.Ekinox
open Effect

/-- The payload `publish_presence` puts together. -/
def World.notice (env : Env) (online : Bool) (reason : Bytes) (w : World) : PresencePayload :=
  ⟨online, sanitizeAndClip reason, env.system w.taken.system⟩

/-- The call that publishes it. -/
def World.noticeCall (env : Env) (online : Bool) (reason : Bytes) (w : World) : MqttCall :=
  .publish ⟨env.config.topics.presence, .presence (w.notice env online reason), 1, true⟩

/-- Without a connection presence is remembered. -/
def World.noticeDeferred (env : Env) (online : Bool) (reason : Bytes) (w : World) : World :=
  let payload := w.notice env online reason
  { w with
    presence :=
      { w.presence with
        payload := payload, lastPresenceTs := payload.timestamp, presenceOnline := online }
    taken := { w.taken with steady := w.taken.steady + 1, system := w.taken.system + 1 } }

/-- A publish that throws leaves the presence published before. -/
def World.noticeRefused (env : Env) (online : Bool) (reason : Bytes) (w : World) : World :=
  let payload := w.notice env online reason
  { w with
    presence := { w.presence with payload := payload, lastPresenceTs := payload.timestamp }
    taken :=
      { w.taken with
        steady := w.taken.steady + 1, system := w.taken.system + 1, mqtt := w.taken.mqtt + 1 }
    trace := .mqtt (w.noticeCall env online reason) true :: w.trace }

def World.noticePublished (env : Env) (online : Bool) (reason : Bytes) (w : World) : World :=
  let payload := w.notice env online reason
  { w with
    presence :=
      { payload := payload, lastPresenceTs := payload.timestamp, presenceOnline := online
        lastPresenceEmitTsMs := monoMs (env.steady w.taken.steady) }
    taken :=
      { w.taken with
        steady := w.taken.steady + 1, system := w.taken.system + 1, mqtt := w.taken.mqtt + 1 }
    trace := .mqtt (w.noticeCall env online reason) false :: w.trace }

section Notices

variable {env : Env} {w : World} {online : Bool} {reason : Bytes} {α : Type} {f : Event → Option α}

@[simp] theorem World.heard_noticeDeferred :
    (w.noticeDeferred env online reason).heard f = w.heard f := heard_congr rfl

@[simp] theorem World.heard_noticeRefused : (w.noticeRefused env online reason).heard f =
    (f (.mqtt (w.noticeCall env online reason) true)).toList ++ w.heard f := heard_cons rfl

@[simp] theorem World.heard_noticePublished : (w.noticePublished env online reason).heard f =
    (f (.mqtt (w.noticeCall env online reason) false)).toList ++ w.heard f := heard_cons rfl

end Notices

theorem wp_publishPresence {env : Env} {w : World} {Q : Unit → World → Prop}
    {E : Exn → World → Prop} (online : Bool) (reason : Bytes) :
    wp (publishPresence online reason) env Q E w ↔
      if w.conn.connected = false then Q () (w.noticeDeferred env online reason)
      else if w.presence.presenceOnline = online ∧ w.presence.lastPresenceEmitTsMs > 0 ∧
          monoMs (env.steady w.taken.steady) - w.presence.lastPresenceEmitTsMs <
            presenceMinPublishInterval then
        Q () w.tookSteady
      else if env.mqttThrows w.taken.mqtt (.publish .presence) then
        E .mqtt (w.noticeRefused env online reason)
      else Q () (w.noticePublished env online reason) := by
  simp only [publishPresence, wp_bind, wp_monoNow, wp_get, wp_ite, wp_unixTs, wp_pure,
    Part.wp_update, wp_read, wp_mqttCall, World.tookSteady, World.tookSystem, World.tookMqtt,
    World.said, atPresence]
  rfl

/-- What `mark_rest_result` leaves before it comes to presence. -/
def World.resultMarked (env : Env) (result : LoggerResult) (nowMs : ℤ) (rest : RestHealth)
    (w : World) : World :=
  World.withLinkHealth
    { w with
      rest := rest
      taken := { w.taken with steady := w.taken.steady + 1 }
      trace := .restResult result nowMs :: w.trace }
    env.config nowMs

theorem wp_markRestResult {env : Env} {w : World} {Q : Unit → World → Prop} {E : Exn → World → Prop}
    (result : LoggerResult) (contextReason : Bytes) (nowMs : ℤ) :
    wp (markRestResult result contextReason nowMs) env Q E w ↔
      if result.restSuccess then
        wp (updatePresenceState nowMs []) env Q E (w.resultMarked env result nowMs
          (w.rest.recordSuccess (env.steady w.taken.steady) nowMs))
      else
        let failed := w.rest.recordFailure (restFailureText result contextReason)
        if restOfflineCondition env.config { w with rest := failed } nowMs then
          wp (updatePresenceState nowMs []) env Q E
            (w.resultMarked env result nowMs (failed.setAlive false))
        else Q () (w.resultMarked env result nowMs (failed.setAlive true)) := by
  simp only [markRestResult, wp_updateLinkHealth, wp_bind, wp_steadyNow, wp_emit, wp_ite, wp_get,
    wp_read, Part.wp_update, wp_pure]
  generalize hdown : restOfflineCondition env.config (Part.set atRest _ _) nowMs = offline
  have hoffline : restOfflineCondition env.config
      { w with rest := w.rest.recordFailure (restFailureText result contextReason) } nowMs =
    offline := hdown
  rw [hoffline]
  simp only [atRest, World.said, World.tookSteady, World.resultMarked]
  cases offline <;> rfl

/-- The next attempt is due. -/
def Due (now : TimePoint) (w : World) : Prop :=
  w.conn.connected = false ∧ w.retry.nextReconnectAttempt.getD now ≤ now

instance (now : TimePoint) (w : World) : Decidable (Due now w) := inferInstanceAs (Decidable (_ ∧ _))

/-- The state `connect_once` is called in. -/
def World.attempting (w : World) (now : TimePoint) : World :=
  atRetry.set
    { w.retry with nextReconnectAttempt := some (w.retry.nextReconnectAttempt.getD now) } w

/-- What `ensure_connection` makes of the state `connect_once` leaves. -/
def World.attempted (w : World) (config : EkinoxConfig) (now : TimePoint) (connected : Bool) :
    World :=
  let backoff :=
    if connected then config.timeouts.reconnectBackoffMs.toInt
    else doubleBackoff config w.retry.currentBackoffMs
  { w with
    retry :=
      { currentBackoffMs := backoff, nextReconnectAttempt := some (now + milliseconds backoff) } }

section Attempt

variable {env : Env} {now : TimePoint} {w : World} {Q : Unit → World → Prop} {E : Exn → World → Prop}

theorem wp_ensureConnection : wp (ensureConnection now) env Q E w ↔
    if w.conn.connected then Q () w
    else if now < w.retry.nextReconnectAttempt.getD now then Q () (w.attempting now)
    else wp connectOnce env (fun connected w' => Q () (w'.attempted env.config now connected)) E
      (w.attempting now) := by
  simp only [ensureConnection, wp_bind, wp_get, wp_ite, wp_pure, wp_read, Part.wp_update]
  split_ifs
  · exact Iff.rfl
  · exact Iff.rfl
  refine iff_of_eq (congrArg (fun P => wp connectOnce env P E (w.attempting now)) ?_)
  funext connected w'
  cases connected <;> rfl

theorem wp_ensureConnection_due (h : Due now w) : wp (ensureConnection now) env Q E w ↔
    wp connectOnce env (fun connected w' => Q () (w'.attempted env.config now connected)) E
      (w.attempting now) := by
  rw [wp_ensureConnection, h.1, if_neg Bool.false_ne_true, if_neg (Int.not_lt.mpr h.2)]

end Attempt

/-- The state `open` is called in. -/
def World.opening (w : World) (now : TimePoint) : World :=
  { w with sensor.nextSensorAttempt := some (w.sensor.nextSensorAttempt.getD now) }

theorem heard_errorSet {w : World} (message : Bytes) {α : Type} (f : Event → Option α)
    (h : ∀ message, f (.errorSet message) = none) :
    (w.said (.errorSet message)).heard f = w.heard f := by
  rw [World.heard_said, h]
  rfl

/-- What `ensure_sensor_session` makes of the state a failed `open` leaves. -/
structure OpenFailed (config : EkinoxConfig) (w w' : World) : Prop where
  sensor : ∃ next, w'.sensor = { w.sensor with udpLinkAlive := false, nextSensorAttempt := next }
  linkAlive : w'.status.linkAlive = false
  backoff : w'.retry.currentBackoffMs = doubleBackoff config w.retry.currentBackoffMs
  conn : w'.conn = w.conn
  heard : ∀ {α : Type} (f : Event → Option α), (∀ message, f (.errorSet message) = none) →
    w'.heard f = w.heard f

structure OpenSucceeded (config : EkinoxConfig) (w w' : World) : Prop where
  sensor : w'.sensor =
    { w.sensor with
      sensorConnected := true, rxFailStreak := 0, rxOkStreak := 0, nextSensorAttempt := none }
  linkAlive : w'.status.linkAlive = w.status.linkAlive
  backoff : w'.retry.currentBackoffMs = config.timeouts.reconnectBackoffMs.toInt
  conn : w'.conn = w.conn
  trace : w'.trace = w.trace

/-- With sbgECom. -/
theorem wp_ensureSensorSession {env : Env} {now : TimePoint} {w : World} {Q : Unit → World → Prop}
    {E : Exn → World → Prop} (hsbg : env.hasSbg = true)
    (hopen : w.sensor.sensorConnected = true → Q () w)
    (hearly : w.sensor.sensorConnected = false → now < w.sensor.nextSensorAttempt.getD now →
      Q () (w.opening now))
    (hdue : w.sensor.sensorConnected = false → w.sensor.nextSensorAttempt.getD now ≤ now →
      wp sessionOpen env (fun err w₁ => ∀ w₂,
        (match err with
          | some _ => OpenFailed env.config w₁ w₂
          | none => OpenSucceeded env.config w₁ w₂) → Q () w₂) E (w.opening now)) :
    wp (ensureSensorSession now) env Q E w := by
  simp only [ensureSensorSession, ensureSensorSessionSbg, wp_bind, wp_read, wp_get, wp_ite, wp_pure,
    Part.wp_update, hsbg, if_true]
  split_ifs with hsensor hwaits
  · exact hopen hsensor
  · exact hearly (eq_false_of_ne_true hsensor) hwaits
  refine wp_mono (hdue (eq_false_of_ne_true hsensor) (Int.not_lt.mp hwaits)) (fun err w₁ h => ?_)
    fun _ _ => id
  cases err with
  | some text =>
    simp only [setUdpLinkAlive, setError, wp_emit, Option.isSome_some, if_true, wp_bind, wp_unixTs,
      Part.wp_update, wp_monoNow, wp_updateLinkHealth, wp_get, wp_pure]
    exact h _ ⟨⟨_, rfl⟩, Bool.and_false _, rfl, rfl, heard_errorSet _⟩
  | none =>
    simp only [clearRxTimeoutError, Option.isSome_none, Bool.false_eq_true, if_false, wp_bind,
      wp_get, wp_ite, Part.wp_update, wp_unixTs, wp_pure]
    split_ifs
    all_goals exact h _ ⟨rfl, rfl, rfl, rfl, rfl⟩

/-- What `close` leaves: a closed session. -/
structure SessionClosed (w w' : World) : Prop where
  sensor : w'.sensor = { w.sensor with session := { w.sensor.session with connected := false } }
  status : w'.status = w.status
  conn : w'.conn = w.conn
  presence : w'.presence = w.presence
  rest : w'.rest = w.rest
  taken : w'.taken = w.taken
  heard : ∀ {α : Type} (f : Event → Option α), f (.sbg .ecomClose) = none →
    f (.sbg .interfaceDestroy) = none → w'.heard f = w.heard f

theorem sessionClose_closes (env : Env) (w : World) :
    wp sessionClose env (fun _ w' => SessionClosed w w') (fun _ _ => False) w := by
  simp only [sessionClose, modifySession, wp_bind, wp_get, wp_ite, wp_emit, Part.wp_update, wp_pure]
  split_ifs with hopen
  · refine ⟨rfl, rfl, rfl, rfl, rfl, rfl, fun f hclose hdestroy => ?_⟩
    change ((w.said (.sbg .ecomClose)).said (.sbg .interfaceDestroy)).heard f = _
    simp only [World.heard_said, hclose, hdestroy, Option.toList_none, List.nil_append]
  · refine ⟨?_, rfl, rfl, rfl, rfl, rfl, fun _ _ _ => rfl⟩
    rw [← eq_false_of_ne_true hopen]

/-- What `disconnect` leaves unless the broker throws. -/
def World.disconnected (w : World) : World :=
  { w with
    conn := { connected := false }
    status := { w.status with linkAlive := false, state := .disconnected }
    rest := { w.rest with restSuccessStreak := 0 }
    timers := { w.timers with nextRestPollMs := 0 }
    taken := { w.taken with mqtt := w.taken.mqtt + 1 }
    trace := .mqtt .disconnect false :: w.trace }

theorem wp_disconnect {env : Env} {w : World} {Q : Unit → World → Prop} {E : Exn → World → Prop} :
    wp disconnect env Q E w ↔
      if w.conn.connected then
        if env.mqttThrows w.taken.mqtt .disconnect then
          Q () (w.tookMqtt.said (.mqtt .disconnect true))
        else Q () w.disconnected
      else Q () w := by
  simp only [disconnect, setNextRestPoll, setState, wp_catchMqtt, wp_bind, wp_ite, wp_get,
    Part.wp_update, wp_mqttCall, wp_pure]
  rfl

/-- What `connection_lost` has left when it comes to presence. -/
structure Dropped (w w' : World) : Prop where
  connected : w'.conn.connected = false
  presence : w'.presence = { w.presence with presenceOnline := false }
  rest : w'.rest = { w.rest with restSuccessStreak := 0 }
  sensorConnected : w'.sensor.sensorConnected = false
  heard : ∀ {α : Type} (f : Event → Option α), f (.sbg .ecomClose) = none →
    f (.sbg .interfaceDestroy) = none → w'.heard f = w.heard f

theorem connectionLost_drops {env : Env} {w : World} {Q : Unit → World → Prop}
    {E : Exn → World → Prop}
    (h : ∀ w' nowMs, Dropped w w' →
      wp (updatePresenceState nowMs (bytes "mqtt offline")) env Q E w') :
    wp connectionLost env Q E w := by
  simp only [connectionLost, setNextRestPoll, setState, wp_bind, Part.wp_update]
  refine wp_mono (sessionClose_closes env _) (fun _ w₁ h₁ => ?_) fun _ _ => False.elim
  simp only [wp_updateLinkHealth, wp_bind, Part.wp_update, wp_steadyNow]
  generalize hw' : Part.set atRetry _ _ = w'
  refine h w' _ ?_
  rw [← hw']
  exact ⟨congrArg Connection.connected h₁.conn, h₁.presence, h₁.rest, rfl, h₁.heard⟩

/-- What `clear_rx_timeout_error` leaves: no report of a timeout, if one was made. -/
structure TimeoutCleared (w w' : World) : Prop where
  sensor : w'.sensor = w.sensor
  conn : w'.conn = w.conn
  presence : w'.presence = w.presence
  steady : w'.taken.steady = w.taken.steady
  lastError : w.rxTimeoutErrorActive = true ∨ w.status.lastError ≠ rxTimeoutText →
    w'.status.lastError ≠ rxTimeoutText
  heard : ∀ {α : Type} (f : Event → Option α), w'.heard f = w.heard f

theorem clearRxTimeoutError_clears (env : Env) (w : World) :
    wp clearRxTimeoutError env (fun _ w' => TimeoutCleared w w') (fun _ _ => False) w := by
  simp only [clearRxTimeoutError, wp_bind, wp_get, wp_ite, Part.wp_update, wp_unixTs, wp_pure]
  split_ifs with hmarker hreported
  · refine ⟨rfl, rfl, rfl, rfl, fun _ => ?_, fun _ => rfl⟩
    change [] ≠ rxTimeoutText
    decide
  · exact ⟨rfl, rfl, rfl, rfl, fun _ => hreported, fun _ => rfl⟩
  · exact ⟨rfl, rfl, rfl, rfl, fun h => h.resolve_left hmarker, fun _ => rfl⟩

/-- What `handle_sensor_disconnect` leaves. -/
structure GivenUp (w w' : World) : Prop where
  sensorConnected : w'.sensor.sensorConnected = false
  sessionClosed : w'.sensor.session.connected = false
  udpLinkAlive : w'.sensor.udpLinkAlive = false
  linkAlive : w'.status.linkAlive = false
  reconnectNeeded : w'.sensor.sensorReconnectNeeded = false
  rxFailStreak : w'.sensor.rxFailStreak = 0
  rxOkStreak : w'.sensor.rxOkStreak = 0
  conn : w'.conn = w.conn
  presence : w'.presence = w.presence
  steady : w'.taken.steady = w.taken.steady + 2
  lastError : w.rxTimeoutErrorActive = true ∨ w.status.lastError ≠ rxTimeoutText →
    w'.status.lastError ≠ rxTimeoutText
  heard : ∀ {α : Type} (f : Event → Option α), f (.sbg .ecomClose) = none →
    f (.sbg .interfaceDestroy) = none → w'.heard f = w.heard f

theorem handleSensorDisconnect_givesUp (env : Env) (w : World) :
    wp handleSensorDisconnect env (fun _ w' => GivenUp w w') (fun _ _ => False) w := by
  rw [handleSensorDisconnect, wp_bind, Part.wp_update, wp_bind]
  refine wp_mono (clearRxTimeoutError_clears env _) (fun _ w₁ h₁ => ?_) fun _ _ => id
  rw [wp_bind]
  refine wp_mono (sessionClose_closes env w₁) (fun _ w₂ h₂ => ?_) fun _ _ => id
  have hsensor := h₂.sensor
  rw [h₁.sensor] at hsensor
  simp only [setUdpLinkAlive, wp_updateLinkHealth, wp_bind, wp_get, Part.wp_update, wp_steadyNow,
    wp_monoNow]
  exact {
    sensorConnected := rfl
    sessionClosed := congrArg (fun l => l.session.connected) hsensor
    udpLinkAlive := rfl
    linkAlive := rfl
    reconnectNeeded := rfl
    rxFailStreak := congrArg SensorLink.rxFailStreak hsensor
    rxOkStreak := congrArg SensorLink.rxOkStreak hsensor
    conn := h₂.conn.trans h₁.conn
    presence := h₂.presence.trans h₁.presence
    steady := congrArg (· + 2) ((congrArg Taken.steady h₂.taken).trans h₁.steady)
    lastError := fun h => (congrArg (fun s => s.lastError) h₂.status).trans_ne (h₁.lastError h)
    heard := fun f hclose hdestroy => (h₂.heard f hclose hdestroy).trans (h₁.heard f) }

theorem sanitizeAndClip_rxTimeoutText : sanitizeAndClip rxTimeoutText = rxTimeoutText := by decide

/-- What `handle_sensor_rx_timeout` has left when it has reported the poll. -/
structure Missed (env : Env) (w w' : World) : Prop where
  sensor : w'.sensor =
    { w.sensor with
      rxFailStreak := countUp w.sensor.rxFailStreak, rxOkStreak := 0, udpLinkAlive := false }
  linkAlive : w'.status.linkAlive = false
  conn : w'.conn = w.conn
  heard : ∀ {α : Type} (f : Event → Option α), (∀ message, f (.errorSet message) = none) →
    w'.heard f = w.heard f
  kept : countUp w.sensor.rxFailStreak < env.config.timeouts.failThreshold ∨
      w.rxTimeoutErrorActive = true →
    w'.status.lastError = w.status.lastError ∧ w'.rxTimeoutErrorActive = w.rxTimeoutErrorActive
  reported : env.config.timeouts.failThreshold ≤ countUp w.sensor.rxFailStreak →
    w.rxTimeoutErrorActive = false →
    w'.status.lastError = rxTimeoutText ∧ w'.rxTimeoutErrorActive = true

/-- Below the threshold that is all. At the threshold the reconnect is deferred until the recording
is over, and the sensor is given up if there is none. -/
theorem wp_handleSensorRxTimeout {env : Env} {w : World} {Q : Unit → World → Prop}
    {E : Exn → World → Prop} (recording : Bool) (nowMs : ℤ)
    (hbelow : countUp w.sensor.rxFailStreak < env.config.timeouts.failThreshold →
      ∀ w', Missed env w w' → Q () w')
    (hdeferred : env.config.timeouts.failThreshold ≤ countUp w.sensor.rxFailStreak →
      recording = true → ∀ w', Missed env w w' →
        Q () { w' with sensor.sensorReconnectNeeded := true })
    (hgivenUp : env.config.timeouts.failThreshold ≤ countUp w.sensor.rxFailStreak →
      recording = false → ∀ w', Missed env w w' → wp handleSensorDisconnect env Q E w') :
    wp (handleSensorRxTimeout recording nowMs) env Q E w := by
  have hdown : (w.sensor.sensorConnected && false) = false := Bool.and_false _
  simp only [handleSensorRxTimeout, setError, wp_bind, wp_read, Part.wp_update,
    wp_updateLinkHealth, wp_get]
  generalize hw₁ : World.withLinkHealth _ _ _ = w₁
  have hstreak : w₁.sensor.rxFailStreak = countUp w.sensor.rxFailStreak := by
    rw [← hw₁]
    rfl
  have hmarker : w₁.rxTimeoutErrorActive = w.rxTimeoutErrorActive := by
    rw [← hw₁]
    rfl
  rw [hstreak, hmarker]
  have hkept (h : ¬(env.config.timeouts.failThreshold ≤ countUp w.sensor.rxFailStreak ∧
      w.rxTimeoutErrorActive = false)) : Missed env w w₁ := by
    rw [← hw₁]
    exact ⟨rfl, hdown, rfl, fun _ _ => rfl, fun _ => ⟨rfl, rfl⟩, fun hr hi => absurd ⟨hr, hi⟩ h⟩
  have hreported (h : env.config.timeouts.failThreshold ≤ countUp w.sensor.rxFailStreak ∧
      w.rxTimeoutErrorActive = false) :
      Missed env w (atMarker.set (decide (sanitizeAndClip rxTimeoutText = rxTimeoutText))
        (atError.set ⟨sanitizeAndClip rxTimeoutText, env.system w₁.taken.system⟩
          (w₁.said (.errorSet rxTimeoutText)).tookSystem)) := by
    rw [← hw₁]
    refine ⟨rfl, hdown, rfl, heard_errorSet _, fun hk => ?_, fun _ _ =>
      ⟨sanitizeAndClip_rxTimeoutText, decide_eq_true sanitizeAndClip_rxTimeoutText⟩⟩
    rcases hk with hlt | hactive
    · omega
    · exact absurd (h.2.symm.trans hactive) Bool.false_ne_true
  simp only [wp_bind, wp_ite, wp_emit, Part.wp_update, wp_unixTs, wp_pure]
  split_ifs with hset hearly hrec hearly hrec
  · omega
  · exact hdeferred hset.1 hrec _ (hreported hset)
  · exact hgivenUp hset.1 (eq_false_of_ne_true hrec) _ (hreported hset)
  · exact hbelow hearly w₁ (hkept hset)
  · exact hdeferred (Int.not_lt.mp hearly) hrec w₁ (hkept hset)
  · exact hgivenUp (Int.not_lt.mp hearly) (eq_false_of_ne_true hrec) w₁ (hkept hset)

end Ironsoft.Ekinox
