import Ironsoft.EkinoxPolls

/-!
# The flags of the sensor link

What the flags of the service say about the UDP session and about each other, between any
two operations. They disagree only if a session is opened while `udp_link_alive_` is left
over from the one before a lost connection.
-/
namespace Ironsoft.Ekinox
open Effect

set_option synthInstance.maxSize 400000
set_option synthInstance.maxHeartbeats 200000

structure SensorFlags where
  connected : Bool
  sensorConnected : Bool
  sessionOpen : Bool
  udpLinkAlive : Bool
  linkAlive : Bool
  reconnectNeeded : Bool
  rxFailStreak : ℕ

def World.sensorFlags (w : World) : SensorFlags where
  connected := w.conn.connected
  sensorConnected := w.sensor.sensorConnected
  sessionOpen := w.sensor.session.connected
  udpLinkAlive := w.sensor.udpLinkAlive
  linkAlive := w.status.linkAlive
  reconnectNeeded := w.sensor.sensorReconnectNeeded
  rxFailStreak := w.sensor.rxFailStreak

structure SensorFlags.Consistent (threshold : ℤ) (v : SensorFlags) : Prop where
  session : v.sensorConnected = v.sessionOpen
  linkAlive : v.linkAlive = (v.sensorConnected && v.udpLinkAlive)
  lost : v.connected = true → v.sensorConnected = false → v.udpLinkAlive = false
  deferred : v.reconnectNeeded = true →
    v.sensorConnected = true ∧ v.udpLinkAlive = false ∧ threshold ≤ v.rxFailStreak

/-- The flags agree. -/
def SensorConsistent (config : EkinoxConfig) (w : World) : Prop :=
  w.sensorFlags.Consistent config.timeouts.failThreshold

namespace SensorFlags

variable {threshold : ℤ} {v : SensorFlags}

def reported (v : SensorFlags) : SensorFlags :=
  { v with linkAlive := v.sensorConnected && v.udpLinkAlive }

def restarted (v : SensorFlags) : SensorFlags :=
  { v with connected := true, udpLinkAlive := false, linkAlive := false, reconnectNeeded := false }

def dropped (v : SensorFlags) : SensorFlags :=
  { v with
    connected := false, sensorConnected := false, sessionOpen := false, linkAlive := false
    reconnectNeeded := false }

def disconnected (v : SensorFlags) : SensorFlags := { v with connected := false, linkAlive := false }

/-- The sensor has been given up. -/
def givenUp (v : SensorFlags) : SensorFlags :=
  { v with
    sensorConnected := false, sessionOpen := false, udpLinkAlive := false, linkAlive := false
    reconnectNeeded := false, rxFailStreak := 0 }

/-- A poll has timed out. -/
def missed (v : SensorFlags) : SensorFlags :=
  reported { v with udpLinkAlive := false, rxFailStreak := countUp v.rxFailStreak }

/-- An attempt to open a session has failed. -/
def unopened (v : SensorFlags) : SensorFlags :=
  reported { v with sessionOpen := false, udpLinkAlive := false }

def opened (v : SensorFlags) : SensorFlags :=
  { v with sensorConnected := true, sessionOpen := true, rxFailStreak := 0 }

theorem Consistent.reported (h : v.Consistent threshold) : v.reported.Consistent threshold :=
  ⟨h.session, rfl, h.lost, h.deferred⟩

theorem Consistent.restarted (h : v.Consistent threshold) : v.restarted.Consistent threshold :=
  ⟨h.session, (Bool.and_false _).symm, fun _ _ => rfl, nofun⟩

theorem dropped_consistent : v.dropped.Consistent threshold := ⟨rfl, rfl, nofun, nofun⟩

theorem Consistent.disconnected (h : v.Consistent threshold) (hsensor : v.sensorConnected = false) :
    v.disconnected.Consistent threshold := by
  refine ⟨h.session, ?_, nofun, h.deferred⟩
  change false = (v.sensorConnected && v.udpLinkAlive)
  rw [hsensor]
  rfl

theorem givenUp_consistent : v.givenUp.Consistent threshold :=
  ⟨rfl, rfl, fun _ _ => rfl, nofun⟩

theorem Consistent.missed (h : v.Consistent threshold) : v.missed.Consistent threshold := by
  refine ⟨h.session, rfl, fun _ _ => rfl, fun hn => ⟨(h.deferred hn).1, rfl, ?_⟩⟩
  exact Int.le_trans (h.deferred hn).2.2 (Int.ofNat_le.mpr (le_countUp _))

theorem Consistent.unopened (h : v.Consistent threshold) (hsensor : v.sensorConnected = false) :
    v.unopened.Consistent threshold :=
  ⟨hsensor, rfl, fun _ _ => rfl, fun hn => ⟨(h.deferred hn).1, rfl, (h.deferred hn).2.2⟩⟩

/-- A session that opens with the link reported dead must not find it alive. -/
theorem Consistent.opened_iff (h : v.Consistent threshold) (hsensor : v.sensorConnected = false) :
    v.opened.Consistent threshold ↔ v.udpLinkAlive = false := by
  have hdown : v.linkAlive = false := by
    rw [h.linkAlive, hsensor]
    rfl
  constructor
  · intro hopened
    exact hopened.linkAlive.symm.trans hdown
  · intro hdead
    refine ⟨rfl, hdown.trans hdead.symm, fun _ hf => absurd hf.symm Bool.false_ne_true, fun hn => ?_⟩
    exact absurd (hsensor.symm.trans (h.deferred hn).1) Bool.false_ne_true

end SensorFlags

section Frames

variable (config : EkinoxConfig)

instance : IgnoresReadings (Keeping World.sensorFlags) :=
  ⟨fun _ => rfl, fun _ => rfl, fun _ => rfl, fun _ => rfl, fun _ => rfl⟩
instance : IgnoresLastRx (Keeping World.sensorFlags) := ⟨fun _ _ => rfl⟩
instance (e : Event) : Emits (Keeping World.sensorFlags) e := ⟨fun _ => rfl⟩
instance : atError.Ignored (Keeping World.sensorFlags) := ⟨fun _ _ => rfl⟩
instance : atMarker.Ignored (Keeping World.sensorFlags) := ⟨fun _ _ => rfl⟩
instance : atPresence.Ignored (Keeping World.sensorFlags) := ⟨fun _ _ => rfl⟩

instance : IgnoresReadings (Preserving (SensorConsistent config)) :=
  ⟨fun _ => id, fun _ => id, fun _ => id, fun _ => id, fun _ => id⟩
instance : IgnoresReplies (Preserving (SensorConsistent config)) := ⟨fun _ => id⟩
instance (e : Event) : Emits (Preserving (SensorConsistent config)) e := ⟨fun _ => id⟩
instance : atLogger.Ignored (Preserving (SensorConsistent config)) := ⟨fun _ _ => id⟩
instance : atError.Ignored (Preserving (SensorConsistent config)) := ⟨fun _ _ => id⟩
instance : atMarker.Ignored (Preserving (SensorConsistent config)) := ⟨fun _ _ => id⟩
instance : atRetry.Ignored (Preserving (SensorConsistent config)) := ⟨fun _ _ => id⟩
instance : atPresence.Ignored (Preserving (SensorConsistent config)) := ⟨fun _ _ => id⟩
instance : atRest.Ignored (Preserving (SensorConsistent config)) := ⟨fun _ _ => id⟩
instance : atTimers.Ignored (Preserving (SensorConsistent config)) := ⟨fun _ _ => id⟩
instance : atPending.Ignored (Preserving (SensorConsistent config)) := ⟨fun _ _ => id⟩
instance : atBatch.Ignored (Preserving (SensorConsistent config)) := ⟨fun _ _ => id⟩

end Frames

section Operations

variable (env : Env) (config : EkinoxConfig)

instance (nowMs : ℤ) : Respects env (Preserving (SensorConsistent config)) (updateLinkHealth nowMs) :=
  ⟨fun _ h => h.reported⟩

instance (nextRestPollMs : ℤ) :
    Respects env (Preserving (SensorConsistent config)) (resetSession nextRestPollMs) := by
  rw [respects_iff_wp]
  intro w
  simp only [resetSession, setNextRestPoll, wp_bind, Part.wp_update]
  exact fun h => h.restarted

theorem sessionClose_flags (w : World) :
    wp sessionClose env
      (fun _ w' => w'.sensorFlags = { w.sensorFlags with sessionOpen := false } ∧ w'.taken = w.taken)
      (fun _ _ => False) w := by
  refine wp_mono (sessionClose_closes env w) (fun _ w' h => ⟨?_, h.taken⟩) fun _ _ => id
  rw [World.sensorFlags, h.sensor, h.conn, h.status]
  rfl

theorem handleSensorDisconnect_flags (w : World) :
    wp handleSensorDisconnect env (fun _ w' => w'.sensorFlags = w.sensorFlags.givenUp)
      (fun _ _ => False) w := by
  refine wp_mono (handleSensorDisconnect_givesUp env w) (fun _ w' h => ?_) fun _ _ => id
  rw [World.sensorFlags, h.conn, h.sensorConnected, h.sessionClosed, h.udpLinkAlive, h.linkAlive,
    h.reconnectNeeded, h.rxFailStreak]
  rfl

/-- Whatever the flags were, they agree once the sensor is given up. -/
theorem handleSensorDisconnect_consistent (w : World) :
    wp handleSensorDisconnect env (fun _ w' => SensorConsistent config w')
      (fun _ w' => SensorConsistent config w') w := by
  refine wp_mono (handleSensorDisconnect_flags env w) (fun _ w' hw => ?_) fun _ _ => False.elim
  unfold SensorConsistent
  rw [hw]
  exact SensorFlags.givenUp_consistent

theorem handleSensorError_consistent (reason : Bytes) (w : World) :
    wp (handleSensorError reason) env (fun _ w' => SensorConsistent config w')
      (fun _ w' => SensorConsistent config w') w := by
  simp only [handleSensorError, setError, wp_emit, wp_bind, wp_unixTs, Part.wp_update]
  exact handleSensorDisconnect_consistent env config _

/-- `disconnect` leaves the sensor to others. -/
theorem disconnect_consistent {w : World} (hw : SensorConsistent config w)
    (hsensor : w.sensor.sensorConnected = false) :
    wp disconnect env (fun _ w' => SensorConsistent config w')
      (fun _ w' => SensorConsistent config w') w := by
  rw [wp_disconnect]
  split_ifs
  · exact hw
  · exact hw.disconnected hsensor
  · exact hw

instance : Respects env (Preserving (SensorConsistent config)) connectionLost := by
  have hpresence (nowMs : ℤ) : Respects env (Keeping World.sensorFlags)
      (updatePresenceState nowMs (bytes "mqtt offline")) := inferInstance
  rw [respects_iff_wp]
  intro w
  simp only [connectionLost, setNextRestPoll, setState, wp_bind, Part.wp_update]
  refine wp_mono (sessionClose_flags env _) (fun _ w₁ hw => ?_) fun _ _ => False.elim
  obtain ⟨h₁, -⟩ := hw
  simp only [wp_updateLinkHealth, wp_bind, Part.wp_update, wp_steadyNow]
  generalize hw₂ : Part.set atRetry _ _ = w₂
  have h₂ : w₂.sensorFlags = w.sensorFlags.dropped := by
    rw [← hw₂]
    change SensorFlags.mk w₁.sensorFlags.connected false w₁.sensorFlags.sessionOpen
      w₁.sensorFlags.udpLinkAlive false false w₁.sensorFlags.rxFailStreak = _
    rw [h₁]
    rfl
  have hstep {w' : World} (h : w'.sensorFlags = w₂.sensorFlags) : SensorConsistent config w' := by
    unfold SensorConsistent
    rw [h, h₂]
    exact SensorFlags.dropped_consistent
  exact (hpresence _).wp_of fun _ h _ => hstep h

/-- What `shutdown` does once the sensor is given up. -/
theorem closing_consistent {w : World} (hw : SensorConsistent config w)
    (hsensor : w.sensor.sensorConnected = false) :
    wp (do
      if (← get).conn.connected then
        publishPresence false (bytes "shutdown")
        publishStatus
        disconnect) env (fun _ w' => SensorConsistent config w')
      (fun _ w' => SensorConsistent config w') w := by
  have hpublish : Respects env (Keeping World.sensorFlags) (do
      publishPresence false (bytes "shutdown")
      publishStatus) := inferInstance
  have hkept {w' : World} (h : w'.sensorFlags = w.sensorFlags) : SensorConsistent config w' := by
    unfold SensorConsistent
    rw [h]
    exact hw
  rw [wp_bind, wp_get, wp_ite]
  split_ifs
  · have hrun := respects_iff_wp.mp hpublish w
    rw [wp_bind] at hrun ⊢
    refine wp_mono hrun (fun _ w₁ h₁ => ?_) fun _ _ h => hkept h
    rw [wp_bind]
    refine wp_mono h₁ (fun _ w₂ h₂ => ?_) fun _ _ h => hkept h
    exact disconnect_consistent env config (hkept h₂)
      ((congrArg SensorFlags.sensorConnected h₂).trans hsensor)
  · exact hw

instance : Respects env (Preserving (SensorConsistent config)) shutdown := by
  refine ⟨fun w hw => exec_of_wp ?_⟩
  unfold shutdown
  rw [wp_bind, wp_get]
  dsimp only
  rw [wp_ite]
  split_ifs with hsensor
  · rw [wp_bind]
    have hgiven := wp_and (handleSensorDisconnect_flags env w)
      (handleSensorDisconnect_consistent env config w)
    refine wp_mono hgiven (fun _ w₁ h₁ => ?_) fun _ _ h => h.2
    exact closing_consistent env config h₁.2 (congrArg SensorFlags.sensorConnected h₁.1)
  · exact closing_consistent env config hw (eq_false_of_ne_true hsensor)

theorem handleSensorRxRecovered_consistent (nowMs : ℤ) {w : World} (hw : SensorConsistent config w)
    (hsensor : w.sensor.sensorConnected = true) :
    wp (handleSensorRxRecovered nowMs) env (fun _ w' => SensorConsistent config w')
      (fun _ w' => SensorConsistent config w') w := by
  have hlost (w' : World) (hs : w'.sensor.sensorConnected = true) :
      w'.conn.connected = true → w'.sensor.sensorConnected = false →
        w'.sensor.udpLinkAlive = false :=
    fun _ hf => absurd (hf.symm.trans hs) Bool.false_ne_true
  simp only [handleSensorRxRecovered, clearRxTimeoutError, wp_bind, wp_read, Part.wp_update, wp_emit,
    wp_get, wp_ite, wp_pure, wp_unixTs, wp_updateLinkHealth]
  have hneeded {p : Prop} (h : false = true) : p := absurd h Bool.false_ne_true
  split_ifs
  all_goals exact ⟨hw.session, rfl, hlost _ hsensor, hneeded⟩

theorem handleSensorRxTimeout_consistent (recording : Bool) (nowMs : ℤ) {w : World}
    (hw : SensorConsistent env.config w) (hsensor : w.sensor.sensorConnected = true) :
    wp (handleSensorRxTimeout recording nowMs) env (fun _ w' => SensorConsistent env.config w')
      (fun _ w' => SensorConsistent env.config w') w := by
  have hmissed {w' : World} (h : Missed env w w') : w'.sensorFlags = w.sensorFlags.missed := by
    rw [World.sensorFlags, h.sensor, h.conn, h.linkAlive]
    exact congrArg (SensorFlags.mk _ _ _ _ · _ _) (Bool.and_false _).symm
  have hkept {w' : World} (h : Missed env w w') : SensorConsistent env.config w' := by
    unfold SensorConsistent
    rw [hmissed h]
    exact hw.missed
  refine wp_handleSensorRxTimeout recording nowMs (fun _ _ h => hkept h) (fun hreached _ w' h => ?_)
    fun _ _ w' _ => handleSensorDisconnect_consistent env env.config w'
  have hconsistent := hkept h
  refine ⟨hconsistent.session, hconsistent.linkAlive, hconsistent.lost, fun _ => ⟨?_, ?_, ?_⟩⟩
  · exact (congrArg SensorFlags.sensorConnected (hmissed h)).trans hsensor
  · exact congrArg SensorFlags.udpLinkAlive (hmissed h)
  · have hstreak : w'.sensor.rxFailStreak = countUp w.sensor.rxFailStreak := by rw [h.sensor]
    rw [← hstreak] at hreached
    exact hreached

instance (now : TimePoint) :
    Respects env (Preserving (SensorConsistent env.config)) (pollSensor now) := by
  have hclear : Respects env (Keeping World.sensorFlags) clearRxTimeoutError := inferInstance
  have hpoll : Respects env (Keeping World.sensorFlags) sessionPoll := inferInstance
  refine ⟨fun w hw => exec_of_wp ?_⟩
  have hkept {w₁ : World} (h₁ : w₁.sensorFlags = w.sensorFlags) : SensorConsistent env.config w₁ := by
    unfold SensorConsistent
    rw [h₁]
    exact hw
  have hsensor {w₁ : World} (h₁ : w₁.sensorFlags = w.sensorFlags) {verdict : PollVerdict}
      (hverdict : pollVerdict env now w = verdict) (hne : verdict ≠ .idle) :
      w₁.sensor.sensorConnected = true :=
    (congrArg SensorFlags.sensorConnected h₁).trans (connected_of_verdict (hverdict.trans_ne hne))
  refine wp_pollSensor hpoll (fun _ => hw)
    (fun _ => handleSensorDisconnect_consistent env env.config _) (fun _ err w₁ _ => ?_)
    (fun hverdict w₁ h₁ => ?_) fun hverdict w₁ h₁ => ?_
  · simp only [wp_bind, Part.wp_update]
    refine wp_mono (hclear.returns inferInstance _) (fun _ w₂ _ => ?_) fun _ _ => False.elim
    rw [wp_bind]
    exact handleSensorError_consistent env env.config err w₂
  · exact handleSensorRxRecovered_consistent env env.config _ (hkept h₁) (hsensor h₁ hverdict nofun)
  · exact handleSensorRxTimeout_consistent env _ _ (hkept h₁) (hsensor h₁ hverdict nofun)

/-- No call of `open()` fails. -/
def OpenOutcome.Succeeds (outcome : OpenOutcome) : Prop :=
  outcome.ipValid = true ∧ outcome.create = .noError ∧ outcome.init = .noError

theorem sessionOpen_flags (w : World) :
    wp sessionOpen env
      (fun err w' => w'.sensorFlags = { w.sensorFlags with sessionOpen := err.isNone } ∧
        (err = none ↔ (env.udpOpen w.taken.udpOpen).Succeeds)) (fun _ _ => False) w := by
  simp only [sessionOpen, modifySession, resetLastRx, wp_bind]
  refine wp_mono (sessionClose_flags env w) (fun _ w₁ hw => ?_) fun _ _ => id
  obtain ⟨h₁, htaken⟩ := hw
  rw [← htaken]
  simp only [wp_bind, wp_get, wp_ite, wp_pure, wp_modify, wp_read, wp_emit, Part.wp_update,
    wp_monoNow]
  split_ifs with hip hcreate hinit
  · exact ⟨h₁, False.elim, fun h => absurd (hip.symm.trans h.1) Bool.false_ne_true⟩
  · exact ⟨h₁, False.elim, fun h => absurd h.2.1 hcreate⟩
  · exact ⟨h₁, False.elim, fun h => absurd h.2.2 hinit⟩
  · refine ⟨congrArg (fun v => { v with sessionOpen := true }) h₁, fun _ => ⟨?_, ?_, ?_⟩, fun _ => trivial⟩
    · exact eq_true_of_ne_false hip
    · exact not_not.mp hcreate
    · exact not_not.mp hinit

/-- A session is opened by the pass at `now`. -/
def Opens (env : Env) (now : TimePoint) (w : World) : Prop :=
  w.sensor.sensorConnected = false ∧ w.sensor.nextSensorAttempt.getD now ≤ now ∧
    (env.udpOpen w.taken.udpOpen).Succeeds

/-- A session that opens does not find the last one alive. -/
def OpensAfresh (env : Env) (now : TimePoint) (w : World) : Prop :=
  Opens env now w → w.sensor.udpLinkAlive = false

theorem ensureSensorSession_consistent_iff (hsbg : env.hasSbg = true) {now : TimePoint} {w : World}
    (hw : SensorConsistent config w) :
    wp (ensureSensorSession now) env (fun _ w' => SensorConsistent config w' ↔ OpensAfresh env now w)
      (fun _ _ => False) w := by
  refine wp_ensureSensorSession hsbg (fun hsensor => ?_) (fun _ hearly => ?_) fun hsensor hdue => ?_
  · exact ⟨fun _ h => absurd (h.1.symm.trans hsensor) Bool.false_ne_true, fun _ => hw⟩
  · exact ⟨fun _ h => absurd h.2.1 (Int.not_le.mpr hearly), fun _ => hw⟩
  refine wp_mono (sessionOpen_flags env _) (fun err w₁ hopen w₂ hleft => ?_) fun _ _ => id
  obtain ⟨h₁, hsucceeds⟩ := hopen
  have hclosed : w.sensorFlags.sensorConnected = false := hsensor
  cases err with
  | some text =>
    have hafresh : OpensAfresh env now w :=
      fun h => absurd (hsucceeds.mpr h.2.2) (Option.some_ne_none text)
    refine ⟨fun _ => hafresh, fun _ => ?_⟩
    obtain ⟨next, hsensor₂⟩ := hleft.sensor
    have h₂ : w₂.sensorFlags = SensorFlags.reported { w₁.sensorFlags with udpLinkAlive := false } := by
      rw [World.sensorFlags, hsensor₂, hleft.conn, hleft.linkAlive]
      exact congrArg (SensorFlags.mk _ _ _ _ · _ _) (Bool.and_false _).symm
    rw [SensorConsistent, h₂, h₁]
    exact hw.unopened hclosed
  | none =>
    have hafresh : OpensAfresh env now w ↔ w.sensorFlags.udpLinkAlive = false :=
      ⟨fun h => h ⟨hclosed, hdue, hsucceeds.mp rfl⟩, fun h _ => h⟩
    have h₂ : w₂.sensorFlags =
        { w₁.sensorFlags with sensorConnected := true, rxFailStreak := 0 } := by
      rw [World.sensorFlags, hleft.sensor, hleft.conn, hleft.linkAlive]
      rfl
    rw [SensorConsistent, h₂, h₁, hafresh]
    exact hw.opened_iff hclosed

end Operations

/-- A session the step opens does not find the last one alive. -/
def Step.OpensAfresh (platform : Platform) (s : Step) (w : World) : Prop :=
  ∀ now, s.op = .ensureSensorSession now → Ekinox.OpensAfresh ⟨platform, s.inputs⟩ now w

theorem Op.run_consistent (env : Env) (hsbg : env.hasSbg = true) {op : Op} {w : World}
    (hw : SensorConsistent env.config w)
    (hafresh : ∀ now, op = .ensureSensorSession now → OpensAfresh env now w) :
    SensorConsistent env.config (exec op.run env w).2 := by
  cases op
  case ensureSensorSession now =>
    refine exec_of_wp (wp_mono (ensureSensorSession_consistent_iff env env.config hsbg hw)
      (fun _ _ h => ?_) fun _ _ => False.elim)
    exact h.mpr (hafresh now rfl)
  all_goals
    refine Respects.preserves ?_ hw
    unfold Op.run
    dsimp only
    infer_instance

theorem sensorConsistent_initial (config : EkinoxConfig) (inputs : Inputs) :
    SensorConsistent config (initialWorld config inputs) :=
  ⟨rfl, rfl, fun _ _ => rfl, nofun⟩

/-- The flags agree after opening a session exactly if the session does not find the last one
alive, and in every run whose sessions do not they agree between any two operations. -/
theorem sensor_flags_agree {platform : Platform} (hsbg : platform.hasSbg = true) :
    (∀ (inputs : Inputs) (w : World) (now : TimePoint), SensorConsistent platform.config w →
      (SensorConsistent platform.config (exec (ensureSensorSession now) ⟨platform, inputs⟩ w).2 ↔
        OpensAfresh ⟨platform, inputs⟩ now w)) ∧
    ∀ (inputs : Inputs) (steps : List Step),
      AllSteps (execStep platform) (Step.OpensAfresh platform) steps
        (initialWorld platform.config inputs) →
      SensorConsistent platform.config
        (execSteps platform steps (initialWorld platform.config inputs)).2 := by
  constructor
  · intro inputs w now hw
    let Q (w' : World) : Prop :=
      SensorConsistent platform.config w' ↔ OpensAfresh ⟨platform, inputs⟩ now w
    exact exec_of_wp (I := Q) (wp_mono
      (ensureSensorSession_consistent_iff ⟨platform, inputs⟩ platform.config hsbg hw)
      (fun _ _ => id) fun _ _ => False.elim)
  · intro inputs steps hsteps
    refine execAll_invariant (execStep platform) (fun s v hs hv => ?_) hsteps
      (sensorConsistent_initial platform.config inputs)
    exact Op.run_consistent ⟨platform, s.inputs⟩ hsbg hv hs

theorem sensor_flags_agree_sending :
    SensorConsistent benchPlatform.config (execSteps benchPlatform (benchSensorSteps benchSending)
      (initialWorld benchPlatform.config benchSending)).2 := by
  have hother {s : Step} (h : ∀ now, s.op ≠ .ensureSensorSession now) (w : World) :
      s.OpensAfresh benchPlatform w := fun now hop => absurd hop (h now)
  refine (sensor_flags_agree rfl).2 benchSending _ ?_
  refine .cons _ (hother (by simp) _) (.cons _ ?_ (.cons _ (hother (by simp) _)
    (.cons _ (hother (by simp) _) trivial)))
  intro now _ _
  decide +kernel

/-- A connection is lost between the check of the loop and the opening of the next session. -/
theorem flag_outlives_lost_connection :
    let steps := benchSensorSteps benchSending ++
      [⟨.connectionLost, benchSending⟩, ⟨.ensureSensorSession (milliseconds 1000), benchSending⟩]
    let w := (execSteps benchPlatform steps (initialWorld benchPlatform.config benchSending)).2
    w.status.linkAlive = false ∧ w.sensor.sensorConnected = true ∧ w.sensor.udpLinkAlive = true ∧
      ¬SensorConsistent benchPlatform.config w := by
  intro steps w
  have hflags : w.status.linkAlive = false ∧ w.sensor.sensorConnected = true ∧
      w.sensor.udpLinkAlive = true := by
    decide +kernel
  obtain ⟨hdown, hsensor, halive⟩ := hflags
  clear_value w
  refine ⟨hdown, hsensor, halive, fun h => ?_⟩
  have hlink : w.status.linkAlive = (w.sensor.sensorConnected && w.sensor.udpLinkAlive) := h.linkAlive
  rw [hdown, hsensor, halive] at hlink
  exact Bool.noConfusion hlink

end Ironsoft.Ekinox
