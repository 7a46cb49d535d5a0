import Ironsoft.EkinoxOutcomes
import Ironsoft.EkinoxThrows
import Ironsoft.LinkModel

/-!
# The sensor link of the service

What the service publishes as `link_alive` is backed by frames, as long as no poll takes
the opening of a session for a frame.
-/
namespace Ironsoft.Ekinox
open Effect LinkModel

set_option synthInstance.maxSize 400000
set_option synthInstance.maxHeartbeats 200000

def Event.link? : Event → Option LinkEvent
  | .sessionOpened => some .opened
  | .sbg (.frame nowMs) => some (.frame nowMs)
  | .linkAlive nowMs => some (.alive nowMs)
  | .mqtt (.publish ⟨_, .status s, _, _⟩) _ => some (.published s.linkAlive)
  | _ => none

abbrev World.linkHistory : World → List LinkEvent := heard Event.link?

def World.linkView (w : World) : LinkView where
  connected := w.conn.connected
  sensorConnected := w.sensor.sensorConnected
  udpLinkAlive := w.sensor.udpLinkAlive
  linkAlive := w.status.linkAlive
  lastRxMs := w.sensor.session.lastRxMs
  history := w.linkHistory

def udpRxTimeout (config : EkinoxConfig) : ℤ := config.timeouts.udpRxTimeoutMs.toInt

/-- The flag of the service is truthful. -/
def LinkTruthful (config : EkinoxConfig) (w : World) : Prop :=
  Linked (udpRxTimeout config) w.linkView

section Frames

variable (config : EkinoxConfig)

instance : IgnoresReadings (Preserving (LinkTruthful config)) :=
  ⟨fun _ => id, fun _ => id, fun _ => id, fun _ => id, fun _ => id⟩
instance : IgnoresReplies (Preserving (LinkTruthful config)) := ⟨fun _ => id⟩
instance : atLogger.Ignored (Preserving (LinkTruthful config)) := ⟨fun _ _ => id⟩
instance : atError.Ignored (Preserving (LinkTruthful config)) := ⟨fun _ _ => id⟩
instance : atMarker.Ignored (Preserving (LinkTruthful config)) := ⟨fun _ _ => id⟩
instance : atRetry.Ignored (Preserving (LinkTruthful config)) := ⟨fun _ _ => id⟩
instance : atPresence.Ignored (Preserving (LinkTruthful config)) := ⟨fun _ _ => id⟩
instance : atRest.Ignored (Preserving (LinkTruthful config)) := ⟨fun _ _ => id⟩
instance : atTimers.Ignored (Preserving (LinkTruthful config)) := ⟨fun _ _ => id⟩
instance : atPending.Ignored (Preserving (LinkTruthful config)) := ⟨fun _ _ => id⟩
instance : atBatch.Ignored (Preserving (LinkTruthful config)) := ⟨fun _ _ => id⟩
instance (threw : Bool) : Emits (Preserving (LinkTruthful config)) (.mqtt .connect threw) :=
  ⟨fun _ => id⟩
instance (topic : Bytes) (threw : Bool) :
    Emits (Preserving (LinkTruthful config)) (.mqtt (.subscribe topic) threw) := ⟨fun _ => id⟩
instance (topic : Bytes) (p : PresencePayload) (qos : ℕ) (retained threw : Bool) :
    Emits (Preserving (LinkTruthful config))
      (.mqtt (.publish ⟨topic, .presence p, qos, retained⟩) threw) := ⟨fun _ => id⟩
instance (topic : Bytes) (n m : ℤ) (qos : ℕ) (retained threw : Bool) :
    Emits (Preserving (LinkTruthful config))
      (.mqtt (.publish ⟨topic, .heartbeat n m, qos, retained⟩) threw) := ⟨fun _ => id⟩
instance (topic : Bytes) (a : Ack) (ts : ℤ) (qos : ℕ) (retained threw : Bool) :
    Emits (Preserving (LinkTruthful config))
      (.mqtt (.publish ⟨topic, .ack a ts, qos, retained⟩) threw) := ⟨fun _ => id⟩
instance (a : Ack) : Emits (Preserving (LinkTruthful config)) (.publishAck a) := ⟨fun _ => id⟩
instance (r : RestRequest) : Emits (Preserving (LinkTruthful config)) (.restRequest r) :=
  ⟨fun _ => id⟩
instance (r : LoggerResult) (t : ℤ) : Emits (Preserving (LinkTruthful config)) (.restResult r t) :=
  ⟨fun _ => id⟩
instance (m : Bytes) : Emits (Preserving (LinkTruthful config)) (.errorSet m) := ⟨fun _ => id⟩
instance (c : CommandMessage) : Emits (Preserving (LinkTruthful config)) (.commandArrived c) :=
  ⟨fun _ => id⟩
instance (c : CommandMessage) : Emits (Preserving (LinkTruthful config)) (.commandHandled c) :=
  ⟨fun _ => id⟩

end Frames

section Reporting

variable (env : Env) (config : EkinoxConfig)

instance (nowMs : ℤ) : Respects env (Preserving (LinkTruthful config)) (updateLinkHealth nowMs) :=
  ⟨fun _ h => h.report⟩

instance : Respects env (Preserving (LinkTruthful config)) publishStatus := by
  rw [respects_iff_wp]
  intro w
  simp only [publishStatus, wp_bind, wp_get, wp_ite, wp_pure, wp_read, wp_mqttCall]
  split_ifs with hconn
  · exact id
  · exact fun h => h.publish (eq_true_of_ne_false hconn)
  · exact fun h => h.publish (eq_true_of_ne_false hconn)

instance (nextRestPollMs : ℤ) :
    Respects env (Preserving (LinkTruthful config)) (resetSession nextRestPollMs) := by
  rw [respects_iff_wp]
  intro w
  simp only [resetSession, setNextRestPoll, wp_bind, Part.wp_update]
  exact fun h => ⟨fun _ => nofun, fun _ => nofun, fun _ => nofun, h.lastRx, h.honest⟩

instance : Respects env (Preserving (LinkTruthful config)) disconnect := by
  rw [respects_iff_wp]
  intro w
  rw [wp_disconnect]
  split_ifs
  · exact id
  · exact fun h => ⟨nofun, nofun, nofun, h.lastRx, h.honest⟩
  · exact id

/-- A lost connection takes the sensor with it. -/
instance : Respects env (Preserving (LinkTruthful config)) connectionLost := by
  refine respects_iff_wp.mpr fun w => connectionLost_drops fun w₁ nowMs h => ?_
  have hoff : w₁.conn.connected ≠ true := by
    simp [h.connected]
  have hsensor : w₁.sensor.sensorConnected ≠ true := by
    simp [h.sensorConnected]
  have hhistory : w₁.linkHistory = w.linkHistory := h.heard _ rfl rfl
  have hstep (hw : LinkTruthful config w) : LinkTruthful config w₁ := by
    refine ⟨fun hc => absurd hc hoff, fun hc => absurd hc hoff, fun hc => absurd hc hoff,
      fun hs => absurd hs hsensor, ?_⟩
    change Honest _ w₁.linkHistory
    rw [hhistory]
    exact hw.honest
  have hpresence : Respects env (Preserving (LinkTruthful config))
      (updatePresenceState nowMs (bytes "mqtt offline")) := inferInstance
  exact hpresence.wp_of fun _ hw => hw ∘ hstep

end Reporting

section Sensor

variable (env : Env) (config : EkinoxConfig)

/-- The sensor is given up, and nothing is reported of it. -/
structure Unlinked (w w' : World) : Prop where
  sensorConnected : w'.sensor.sensorConnected = false
  udpLinkAlive : w'.sensor.udpLinkAlive = false
  linkAlive : w'.status.linkAlive = false
  history : w'.linkHistory = w.linkHistory

variable {config} in
theorem Unlinked.truthful {w w' : World} (h : Unlinked w w')
    (hw : Honest (udpRxTimeout config) w.linkHistory) : LinkTruthful config w' := by
  refine .unlinked ?_ h.sensorConnected h.udpLinkAlive h.linkAlive
  rw [← h.history] at hw
  exact hw

theorem handleSensorDisconnect_unlinks (w : World) :
    wp handleSensorDisconnect env (fun _ w' => Unlinked w w') (fun _ _ => False) w := by
  refine wp_mono (handleSensorDisconnect_givesUp env w) (fun _ _ h => ?_) fun _ _ => id
  exact ⟨h.sensorConnected, h.udpLinkAlive, h.linkAlive, h.heard _ rfl rfl⟩

theorem handleSensorError_unlinks (reason : Bytes) (w : World) :
    wp (handleSensorError reason) env (fun _ w' => Unlinked w w') (fun _ _ => False) w := by
  simp only [handleSensorError, setError, wp_emit, wp_bind, wp_unixTs, Part.wp_update]
  refine wp_mono (handleSensorDisconnect_unlinks env _) (fun _ w' h => ?_) fun _ _ => id
  exact ⟨h.sensorConnected, h.udpLinkAlive, h.linkAlive, h.history⟩

instance : Respects env (Preserving (LinkTruthful config)) handleSensorDisconnect :=
  respects_iff_wp.mpr fun w => wp_mono (handleSensorDisconnect_unlinks env w)
    (fun _ _ h hw => h.truthful hw.honest) fun _ _ => False.elim

instance (reason : Bytes) :
    Respects env (Preserving (LinkTruthful config)) (handleSensorError reason) :=
  respects_iff_wp.mpr fun w => wp_mono (handleSensorError_unlinks env reason w)
    (fun _ _ h hw => h.truthful hw.honest) fun _ _ => False.elim

instance : Respects env (Preserving (LinkTruthful config)) onReceiveLog := by
  rw [respects_iff_wp]
  intro w
  simp only [onReceiveLog, resetLastRx, modifySession, wp_bind, wp_monoNow, Part.wp_update, wp_pure,
    wp_emit]
  exact fun h => h.receive _

instance : Emits (Preserving (LinkTruthful config)) (.sbg .handleOneLog) := ⟨fun _ => id⟩

/-- A poll leaves the connections alone; it hears nothing if the session has been silent and
no frame arrives. -/
structure Polled (n : ℕ) (w w' : World) : Prop where
  conn : w'.conn = w.conn
  sensorConnected : w'.sensor.sensorConnected = w.sensor.sensorConnected
  silent : lastFrame w'.linkHistory = none →
    n = 0 ∧ lastFrame w.linkHistory = none ∧ w'.sensor.session = w.sensor.session

theorem receiveLogs_polled (n : ℕ) (w : World) :
    wp (receiveLogs n) env (fun _ w' => Polled n w w') (fun _ _ => False) w := by
  induction n generalizing w with
  | zero => exact ⟨rfl, rfl, fun h => ⟨rfl, h, rfl⟩⟩
  | succ n ih =>
    simp only [receiveLogs, onReceiveLog, resetLastRx, modifySession, wp_bind, wp_monoNow,
      Part.wp_update, wp_pure, wp_emit]
    refine wp_mono (ih _) (fun _ w' h => ?_) fun _ _ => id
    refine ⟨h.conn, h.sensorConnected, fun hnone => ?_⟩
    obtain ⟨-, hlast, -⟩ := h.silent hnone
    cases hlast

theorem sessionPoll_polled (w : World) :
    wp sessionPoll env (fun err w' => err = none → w.sensor.session.connected = true ∧
        (env.udpPoll w.taken.udpPoll).status.tolerated ∧
        Polled (env.udpPoll w.taken.udpPoll).frames w w') (fun _ _ => False) w := by
  simp only [sessionPoll, wp_bind, wp_get, wp_ite, wp_pure, wp_modify, wp_read, wp_emit]
  split_ifs with hclosed ht
  · exact fun h => h.elim
  · refine wp_mono (receiveLogs_polled env _ _) (fun _ w' h _ => ?_) fun _ _ => id
    exact ⟨eq_true_of_ne_false hclosed, ht, h.conn, h.sensorConnected, h.silent⟩
  · exact wp_mono (receiveLogs_polled env _ _)
      (fun _ _ _ h => absurd h (Option.some_ne_none _)) fun _ _ => id

theorem handleSensorRxRecovered_truthful (nowMs : ℤ) {w : World} (hw : LinkTruthful config w)
    (hs : w.sensor.sensorConnected = true)
    (hframe : w.conn.connected = true → ∃ timeMs, lastFrame w.linkHistory = some timeMs ∧
      nowMs - timeMs ≤ udpRxTimeout config) :
    wp (handleSensorRxRecovered nowMs) env (fun _ w' => LinkTruthful config w')
      (fun _ w' => LinkTruthful config w') w := by
  simp only [handleSensorRxRecovered, wp_bind, wp_read, Part.wp_update, wp_emit]
  generalize hw₁ : World.said _ (.linkAlive nowMs) = w₁
  have hw₁' : LinkTruthful config w₁ := by
    rw [← hw₁]
    exact hw.found hs hframe
  simp only [clearRxTimeoutError, wp_bind, wp_get, wp_ite, Part.wp_update, wp_pure, wp_unixTs,
    wp_updateLinkHealth]
  split_ifs <;> exact hw₁'.report

instance (recording : Bool) (nowMs : ℤ) :
    Respects env (Preserving (LinkTruthful config)) (handleSensorRxTimeout recording nowMs) := by
  rw [respects_iff_wp]
  intro w
  have hlose {w' : World} (h : Missed env w w') (hw : LinkTruthful config w) :
      LinkTruthful config w' := by
    have hview : w'.linkView = { w.linkView with
        udpLinkAlive := false, linkAlive := w.linkView.sensorConnected && false } := by
      rw [World.linkView, h.sensor, h.conn, h.linkAlive, Bool.and_false, World.linkHistory,
        h.heard Event.link? fun _ => rfl]
      rfl
    unfold LinkTruthful
    rw [hview]
    exact hw.lose
  have hdisconnect : Respects env (Preserving (LinkTruthful config)) handleSensorDisconnect :=
    inferInstance
  refine wp_handleSensorRxTimeout recording nowMs (fun _ _ h => hlose h) (fun _ _ w' h hw => ?_)
    fun _ _ w' h => ?_
  · have hlost : LinkTruthful config w' := hlose h hw
    exact hlost
  exact hdisconnect.wp_of fun _ hd hw => hd (hlose h hw)

/-- A session that has been silent, polled without a frame arriving, is found to be silent for
longer than the timeout. -/
def PollHears (env : Env) (now : TimePoint) (w : World) : Prop :=
  let outcome := env.udpPoll w.taken.udpPoll
  w.conn.connected = true → w.sensor.sensorConnected = true →
    w.sensor.session.connected = true →
    ¬(w.sensor.sensorReconnectNeeded = true ∧
      (decide (w.status.state = .recording) || w.status.recordingActive) = false) →
    lastFrame w.linkHistory = none → outcome.frames = 0 → outcome.status.tolerated →
    udpRxTimeout env.config < max (w.sensor.session.lastRxAgeMs (monoMs now)) 0

theorem udpRxTimeout_lt_int64Max (config : EkinoxConfig) : udpRxTimeout config < int64Max := by
  have h := config.timeouts.udpRxTimeoutMs.toInt_lt
  unfold udpRxTimeout int64Max
  omega

/-- A frame that is young enough is a frame that arrived. -/
theorem frame_of_age {config : EkinoxConfig} {w : World} {nowMs timeMs : ℤ}
    (hlast : w.sensor.session.lastRxMs = timeMs)
    (hage : max (w.sensor.session.lastRxAgeMs nowMs) 0 ≤ udpRxTimeout config) :
    nowMs - timeMs ≤ udpRxTimeout config := by
  have hmax := udpRxTimeout_lt_int64Max config
  unfold UdpSession.lastRxAgeMs at hage
  split_ifs at hage
  · omega
  · omega

theorem pollSensor_truthful {now : TimePoint} {w : World} (hw : LinkTruthful env.config w)
    (hears : PollHears env now w) :
    wp (pollSensor now) env (fun _ w' => LinkTruthful env.config w')
      (fun _ w' => LinkTruthful env.config w') w := by
  have hdisconnect : Respects env (Preserving (LinkTruthful env.config)) handleSensorDisconnect :=
    inferInstance
  have hpoll : Respects env (Preserving (LinkTruthful env.config)) sessionPoll := inferInstance
  have hclear : Respects env (Preserving (LinkTruthful env.config)) clearRxTimeoutError :=
    inferInstance
  have herror (reason : Bytes) :
      Respects env (Preserving (LinkTruthful env.config)) (handleSensorError reason) :=
    inferInstance
  have htimeout (recording : Bool) (nowMs : ℤ) :
      Respects env (Preserving (LinkTruthful env.config))
        (handleSensorRxTimeout recording nowMs) := inferInstance
  simp only [pollSensor, wp_bind, wp_get, wp_ite, wp_pure, Part.wp_update]
  split_ifs with hs hdeferred
  · exact hw
  · exact hdisconnect.wp_of fun _ h => h hw
  refine wp_mono (wp_and (sessionPoll_polled env w) (respects_iff_wp.mp hpoll w))
    (fun err w₁ hw => ?_) fun _ _ h => h.1.elim
  obtain ⟨hpolled, hkept⟩ := hw
  have hw₁ : LinkTruthful env.config w₁ := hkept hw
  split_ifs with herr
  · simp only [wp_bind, Part.wp_update]
    refine wp_mono (respects_iff_wp.mp hclear _) (fun _ w₂ h₂ => ?_) fun _ _ h => h hw₁
    rw [wp_bind]
    exact (herror _).wp_of fun _ h => h (h₂ hw₁)
  simp only [wp_bind, wp_get, wp_read, wp_ite]
  split_ifs with hage
  · have hnone : err = none := by simpa using herr
    obtain ⟨hopen, htolerated, hframes⟩ := hpolled hnone
    have hsensor : w.sensor.sensorConnected = true := eq_true_of_ne_false hs
    have hsensor₁ : w₁.sensor.sensorConnected = true := hframes.sensorConnected.trans hsensor
    refine handleSensorRxRecovered_truthful env env.config _ hw₁ hsensor₁ fun hconn => ?_
    cases hlast : lastFrame w₁.linkHistory with
    | some timeMs =>
      exact ⟨timeMs, rfl, frame_of_age (hw₁.lastRx hsensor₁ timeMs hlast) hage⟩
    | none =>
      -- the condition excludes this poll
      obtain ⟨hzero, hsilent, hsession⟩ := hframes.silent hlast
      rw [hframes.conn] at hconn
      have hold := hears hconn hsensor hopen hdeferred hsilent hzero htolerated
      rw [hsession] at hage
      exact absurd hage (Int.not_le.mpr hold)
  · exact (htimeout _ _).wp_of fun _ h => h hw₁

instance : Respects env (Keeping World.linkView) sessionClose := by
  rw [respects_iff_wp]
  intro w
  simp only [sessionClose, modifySession, wp_bind, wp_get, wp_ite, wp_emit, Part.wp_update, wp_pure]
  split_ifs
  · rfl
  · rfl

/-- What opening a session changes. -/
def Opened (v : LinkView) (err : Option Bytes) (w' : World) : Prop :=
  ∃ timeMs, w'.linkView = { v with
    lastRxMs := timeMs, history := if err.isNone then .opened :: v.history else v.history }

theorem sessionOpen_opened (w : World) :
    wp sessionOpen env (fun err w' => Opened w.linkView err w') (fun _ _ => False) w := by
  have hclose : Respects env (Keeping World.linkView) sessionClose := inferInstance
  simp only [sessionOpen, modifySession, resetLastRx, wp_bind]
  refine wp_mono (hclose.returns inferInstance w) (fun _ w₁ (h₁ : w₁.linkView = w.linkView) => ?_)
    fun _ _ => id
  rw [← h₁]
  simp only [wp_bind, wp_get, wp_ite, wp_pure, wp_modify, wp_read, wp_emit, Part.wp_update,
    wp_monoNow]
  split_ifs
  · exact ⟨0, rfl⟩
  · exact ⟨0, rfl⟩
  · exact ⟨0, rfl⟩
  · exact ⟨_, rfl⟩

instance (now : TimePoint) :
    Respects env (Preserving (LinkTruthful config)) (ensureSensorSession now) := by
  rw [respects_iff_wp]
  intro w
  cases hsbg : env.hasSbg with
  | false =>
    simp only [ensureSensorSession, ensureSensorSessionNoSbg, setError, wp_emit, wp_bind, wp_read,
      wp_get, wp_ite, wp_pure, wp_unixTs, Part.wp_update, wp_updateLinkHealth, hsbg, Bool.false_eq_true,
      if_false]
    split_ifs
    · exact fun h => .unlinked h.honest rfl rfl rfl
    · exact fun h => .unlinked h.honest rfl rfl rfl
  | true =>
    refine wp_ensureSensorSession hsbg (fun _ => id) (fun _ _ => id) fun hclosed _ => ?_
    refine wp_mono (sessionOpen_opened env _) (fun err w₁ hw w₂ hleft h => ?_) fun _ _ => False.elim
    obtain ⟨timeMs, h₁⟩ := hw
    have hhistory : w₂.linkHistory = w₁.linkHistory := by
      cases err with
      | some text => exact hleft.heard Event.link? fun _ => rfl
      | none => exact World.heard_congr hleft.trace
    cases err with
    | some text =>
      obtain ⟨next, hsensor⟩ := hleft.sensor
      have hview : w₂.linkView = { w₁.linkView with
          udpLinkAlive := false, linkAlive := w₁.linkView.sensorConnected && false } := by
        rw [World.linkView, hsensor, hleft.conn, hleft.linkAlive, hhistory, Bool.and_false]
        rfl
      rw [LinkTruthful, hview, h₁]
      exact (h.forget hclosed timeMs).lose
    | none =>
      have hview : w₂.linkView = { w₁.linkView with sensorConnected := true } := by
        rw [World.linkView, hleft.sensor, hleft.conn, hleft.linkAlive, hhistory]
        rfl
      rw [LinkTruthful, hview, h₁]
      exact h.openSession hclosed timeMs

end Sensor

/-- A poll the step makes hears the session. -/
def Step.Hears (platform : Platform) (s : Step) (w : World) : Prop :=
  ∀ now, s.op = .pollSensor now → PollHears ⟨platform, s.inputs⟩ now w

theorem Op.run_truthful (env : Env) {op : Op} {w : World} (hw : LinkTruthful env.config w)
    (hears : ∀ now, op = .pollSensor now → PollHears env now w) :
    LinkTruthful env.config (exec op.run env w).2 := by
  cases op
  case pollSensor now => exact exec_of_wp (pollSensor_truthful env hw (hears now rfl))
  all_goals
    refine Respects.preserves ?_ hw
    unfold Op.run
    dsimp only
    infer_instance

theorem linkTruthful_initial (config : EkinoxConfig) (inputs : Inputs) :
    LinkTruthful config (initialWorld config inputs) :=
  .unlinked (honest_nil _) rfl rfl rfl

theorem execSteps_truthful {platform : Platform} {steps : List Step} {w : World}
    (hsteps : AllSteps (execStep platform) (Step.Hears platform) steps w)
    (hw : LinkTruthful platform.config w) :
    LinkTruthful platform.config (execSteps platform steps w).2 := by
  refine execAll_invariant (execStep platform) (fun s v hs hv => ?_) hsteps hw
  exact Op.run_truthful ⟨platform, s.inputs⟩ hv hs

/-- In every run whose polls hear the session, a link that is published as alive is backed by
a frame. -/
theorem link_alive_backed {platform : Platform} (inputs : Inputs) {steps : List Step}
    (hsteps : AllSteps (execStep platform) (Step.Hears platform) steps
      (initialWorld platform.config inputs)) :
    Honest (udpRxTimeout platform.config)
      (execSteps platform steps (initialWorld platform.config inputs)).2.linkHistory :=
  (execSteps_truthful hsteps (linkTruthful_initial platform.config inputs)).honest

/-- A session that is opened, polled once and reported. -/
def benchSensorSteps (inputs : Inputs) : List Step :=
  [⟨.ensureConnection (milliseconds 1000), inputs⟩, ⟨.ensureSensorSession (milliseconds 1000), inputs⟩,
    ⟨.pollSensor (milliseconds 1000), inputs⟩, ⟨.statusTimer (milliseconds 1000), inputs⟩]

/-- The sensor sends a frame with every poll. -/
def benchSending : Inputs := { benchHealthy with udpPoll := fun _ => ⟨1, .noError⟩ }

theorem link_alive_backed_sending :
    Honest (udpRxTimeout benchPlatform.config)
      (execSteps benchPlatform (benchSensorSteps benchSending)
        (initialWorld benchPlatform.config benchSending)).2.linkHistory := by
  refine link_alive_backed benchSending (allSteps_of_forall _ fun s hs v now hop => ?_)
  have hinputs : s.inputs = benchSending := by
    simp only [benchSensorSteps, List.mem_cons, List.not_mem_nil, or_false] at hs
    rcases hs with rfl | rfl | rfl | rfl <;> rfl
  intro _ _ _ _ _ hframes _
  rw [hinputs] at hframes
  cases hframes

/-- The opening of a session passes for a frame. -/
theorem silent_sensor_published_alive :
    ¬Honest (udpRxTimeout benchPlatform.config)
      (execSteps benchPlatform (benchSensorSteps benchHealthy)
        (initialWorld benchPlatform.config benchHealthy)).2.linkHistory := by
  intro h
  have hhistory : (execSteps benchPlatform (benchSensorSteps benchHealthy)
      (initialWorld benchPlatform.config benchHealthy)).2.linkHistory =
      [.published true, .alive 1000, .opened, .published false, .published false] := by
    decide +kernel
  obtain ⟨nowMs, timeMs, hlast, -⟩ := h [] _ hhistory
  cases hlast

end Ironsoft.Ekinox
