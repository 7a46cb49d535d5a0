import Ironsoft.EkinoxOutcomes
import Ironsoft.EkinoxThrows

/-!
# Connecting

`connect_once` raises the connection flag before its last publishes, and what they throw
lowers the state but not the flag. Unless one of them throws, the flag is what the function
returns, and an attempt that fails is repeated.
-/
namespace Ironsoft.Ekinox
open Effect

set_option synthInstance.maxSize 400000
set_option synthInstance.maxHeartbeats 200000

/-- The calls of `connect_once` that come before the flag is raised. -/
def SetupFails (env : Env) (w : World) : Prop :=
  let k := w.taken.mqtt
  env.mqttThrows k .connect = true ∨ env.mqttThrows (k + 1) .subscribe = true ∨
    env.mqttThrows (k + 2) .subscribe = true

/-- The presence is held back for two seconds. -/
def Limited (env : Env) (steady : ℕ) (emittedMs : ℤ) : Prop :=
  0 < emittedMs ∧ monoMs (env.steady steady) - emittedMs < presenceMinPublishInterval

instance (env : Env) (steady : ℕ) (emittedMs : ℤ) : Decidable (Limited env steady emittedMs) :=
  inferInstanceAs (Decidable (_ ∧ _))

/-- A publish of the self test throws: the status, the presence unless it is held back, and
the status again. -/
def SelfTestFails (env : Env) (steady k : ℕ) (emittedMs : ℤ) : Prop :=
  env.mqttThrows k (.publish .status) = true ∨
    if Limited env (steady + 2) emittedMs then env.mqttThrows (k + 1) (.publish .status) = true
    else env.mqttThrows (k + 1) (.publish .presence) = true ∨
      env.mqttThrows (k + 2) (.publish .status) = true

/-- A publish behind the subscriptions throws, counted from the `k`-th call and the clock
reading `steady`. -/
def PublishFails (env : Env) (steady k : ℕ) : Prop :=
  env.mqttThrows k (.publish .presence) = true ∨
    SelfTestFails env (steady + 3) (k + 1) (monoMs (env.steady (steady + 2)))

/-- What decides the next calls: the connection is up and presence is down. -/
structure Dialled (steady mqtt : ℕ) (emittedMs : ℤ) (w : World) : Prop where
  connected : w.conn.connected = true
  offline : w.presence.presenceOnline = false
  steady : w.taken.steady = steady
  mqtt : w.taken.mqtt = mqtt
  emitted : w.presence.lastPresenceEmitTsMs = emittedMs

section Publishes

variable {env : Env} {steady mqtt : ℕ} {emittedMs : ℤ} {w : World}

theorem publishStatus_dialled (h : Dialled steady mqtt emittedMs w) :
    wp publishStatus env
      (fun _ w' => Dialled steady (mqtt + 1) emittedMs w' ∧ w'.rest = w.rest ∧
        env.mqttThrows mqtt (.publish .status) = false)
      (fun e w' => e = .mqtt ∧ w'.conn.connected = true ∧
        env.mqttThrows mqtt (.publish .status) = true) w := by
  simp only [publishStatus, wp_bind, wp_get, wp_ite, wp_pure, wp_read, wp_mqttCall, h.mqtt]
  split_ifs with hoff hthrew
  · exact absurd (hoff.symm.trans h.connected) Bool.false_ne_true
  · exact ⟨trivial, h.connected, hthrew⟩
  · refine ⟨⟨h.connected, h.offline, h.steady, ?_, h.emitted⟩, rfl, eq_false_of_ne_true hthrew⟩
    exact congrArg (· + 1) h.mqtt

/-- The presence has been held back, or the next call has published it. -/
def Announced (env : Env) (steady mqtt : ℕ) (emittedMs : ℤ) (w : World) : Prop :=
  Limited env steady emittedMs ∧ Dialled (steady + 1) mqtt emittedMs w ∨
    ¬Limited env steady emittedMs ∧ env.mqttThrows mqtt (.publish .presence) = false ∧
      Dialled (steady + 1) (mqtt + 1) (monoMs (env.steady steady)) w

def AnnouncementThrew (env : Env) (steady mqtt : ℕ) (emittedMs : ℤ) (e : Exn) (w : World) : Prop :=
  e = .mqtt ∧ w.conn.connected = true ∧ ¬Limited env steady emittedMs ∧
    env.mqttThrows mqtt (.publish .presence) = true

theorem publishPresence_dialled (h : Dialled steady mqtt emittedMs w) (reason : Bytes) :
    wp (publishPresence false reason) env
      (fun _ w' => Announced env steady mqtt emittedMs w' ∧ w'.rest = w.rest)
      (AnnouncementThrew env steady mqtt emittedMs) w := by
  have hlimited : (w.presence.presenceOnline = false ∧ w.presence.lastPresenceEmitTsMs > 0 ∧
      monoMs (env.steady w.taken.steady) - w.presence.lastPresenceEmitTsMs <
        presenceMinPublishInterval) ↔ Limited env steady emittedMs := by
    rw [h.steady, h.emitted]
    exact ⟨And.right, fun hl => ⟨h.offline, hl⟩⟩
  rw [wp_publishPresence]
  split_ifs with hoff hrate hthrew
  · exact absurd (hoff.symm.trans h.connected) Bool.false_ne_true
  · exact ⟨.inl ⟨hlimited.mp hrate, h.connected, h.offline, congrArg (· + 1) h.steady, h.mqtt,
      h.emitted⟩, rfl⟩
  · exact ⟨rfl, h.connected, fun hl => hrate (hlimited.mpr hl), h.mqtt ▸ hthrew⟩
  · refine ⟨.inr ⟨fun hl => hrate (hlimited.mpr hl), h.mqtt ▸ eq_false_of_ne_true hthrew, ?_⟩, rfl⟩
    exact ⟨h.connected, rfl, congrArg (· + 1) h.steady, congrArg (· + 1) h.mqtt,
      congrArg (fun k => monoMs (env.steady k)) h.steady⟩

/-- One success does not bring presence up. -/
theorem updatePresenceState_dialled (h : Dialled steady mqtt emittedMs w)
    (hstreak : w.rest.restSuccessStreak < 2) (nowMs : ℤ) (reason : Bytes) :
    wp (updatePresenceState nowMs reason) env
      (fun _ w' => Announced env steady mqtt emittedMs w' ∧ w'.rest = w.rest)
      (AnnouncementThrew env steady mqtt emittedMs) w := by
  have hoff : shouldOnline env.config w nowMs = false := by
    refine eq_false_of_ne_true fun hon => ?_
    obtain ⟨-, -, hready | hready⟩ := shouldOnline_eq_true.mp hon
    · omega
    · exact Bool.false_ne_true (h.offline.symm.trans hready)
  simp only [updatePresenceState, wp_bind, wp_get, wp_read, hoff]
  exact publishPresence_dialled h _

theorem markRestResult_dialled (h : Dialled steady mqtt emittedMs w) (hrest : w.rest = {})
    (result : LoggerResult) (contextReason : Bytes) (nowMs : ℤ) :
    wp (markRestResult result contextReason nowMs) env
      (fun _ w' => Announced env (steady + 1) mqtt emittedMs w')
      (AnnouncementThrew env (steady + 1) mqtt emittedMs) w := by
  have hmarked (rest : RestHealth) :
      Dialled (steady + 1) mqtt emittedMs (w.resultMarked env result nowMs rest) :=
    ⟨h.connected, h.offline, congrArg (· + 1) h.steady, h.mqtt, h.emitted⟩
  rw [wp_markRestResult, hrest]
  dsimp only
  split_ifs with hsuccess hdown
  · refine wp_mono (updatePresenceState_dialled (hmarked _) ?_ _ _) (fun _ _ hw => hw.1)
      fun _ _ => id
    change countUp 0 < 2
    decide
  · refine wp_mono (updatePresenceState_dialled (hmarked _) ?_ _ _) (fun _ _ hw => hw.1)
      fun _ _ => id
    exact Nat.two_pos
  · exact absurd (restOfflineCondition_of_never rfl) hdown

theorem Dialled.stored (h : Dialled steady mqtt emittedMs w) (result : LoggerResult)
    (contextReason : Bytes) :
    wp (storeLoggerState result contextReason) env (fun _ w' => Dialled steady mqtt emittedMs w')
      (fun _ _ => False) w := by
  have hkeep {w' : World} (hconn : w'.conn = w.conn) (hpresence : w'.presence = w.presence)
      (hsteady : w'.taken.steady = w.taken.steady) (hmqtt : w'.taken.mqtt = w.taken.mqtt) :
      Dialled steady mqtt emittedMs w' :=
    ⟨hconn ▸ h.connected, hpresence ▸ h.offline, hsteady.trans h.steady, hmqtt.trans h.mqtt,
      hpresence ▸ h.emitted⟩
  simp only [storeLoggerState, setError, setState, wp_emit, wp_bind, wp_ite, wp_get, wp_unixTs,
    wp_pure, Part.wp_update]
  split_ifs
  all_goals exact hkeep rfl rfl rfl rfl

/-- A request is answered, or a JSON exception leaves it. -/
theorem dataLoggerGet_dialled (h : Dialled steady mqtt emittedMs w) :
    wp dataLoggerGet env (fun _ w' => Dialled steady mqtt emittedMs w' ∧ w'.rest = w.rest)
      (fun e _ => e ≠ .mqtt) w := by
  simp only [dataLoggerGet, callWithValidation, wp_bind, wp_read]
  split
  · exact ⟨h, rfl⟩
  · rw [wp_performRest]
    cases env.rest w.taken.rest with
    | ok result =>
      exact ⟨⟨h.connected, h.offline, h.steady, h.mqtt, h.emitted⟩, rfl⟩
    | error e => exact Exn.noConfusion

theorem requestLoggerState_dialled (h : Dialled steady mqtt emittedMs w) (hrest : w.rest = {})
    (contextReason : Bytes) (nowMs : ℤ) :
    wp (requestLoggerState contextReason nowMs) env
      (fun _ w' => Announced env (steady + 1) mqtt emittedMs w')
      (fun e w' => e = .mqtt → AnnouncementThrew env (steady + 1) mqtt emittedMs e w') w := by
  unfold requestLoggerState
  rw [wp_bind]
  refine wp_mono (dataLoggerGet_dialled h) (fun result w₁ hw => ?_)
    fun _ _ he hmqtt => absurd hmqtt he
  obtain ⟨h₁, hrest₁⟩ := hw
  rw [wp_bind]
  refine wp_mono (markRestResult_dialled h₁ (hrest₁.trans hrest) result contextReason nowMs)
    (fun _ w₂ h₂ => ?_) fun _ _ he _ => he
  rw [wp_bind]
  rcases h₂ with ⟨hl, h₂⟩ | ⟨hl, hthrows, h₂⟩
  · exact wp_mono (h₂.stored result contextReason) (fun _ _ h₃ => .inl ⟨hl, h₃⟩)
      fun _ _ => False.elim
  · exact wp_mono (h₂.stored result contextReason) (fun _ _ h₃ => .inr ⟨hl, hthrows, h₃⟩)
      fun _ _ => False.elim

theorem resetSession_dialled (nextRestPollMs : ℤ) (w : World) :
    wp (resetSession nextRestPollMs) env
      (fun _ w' => Dialled w.taken.steady w.taken.mqtt 0 w' ∧ w'.rest = {}) (fun _ _ => False) w := by
  simp only [resetSession, setNextRestPoll, wp_bind, Part.wp_update]
  exact ⟨⟨rfl, rfl, rfl, rfl, rfl⟩, rfl⟩

theorem selfTest_dialled (h : Dialled steady mqtt emittedMs w) (hrest : w.rest = {}) :
    wp selfTest env
      (fun _ w' => w'.conn.connected = true ∧ ¬SelfTestFails env steady mqtt emittedMs)
      (fun e w' => e = .mqtt → w'.conn.connected = true ∧ SelfTestFails env steady mqtt emittedMs)
      w := by
  unfold selfTest SelfTestFails
  rw [wp_bind]
  refine wp_mono (publishStatus_dialled h) (fun _ w₁ hw => ?_)
    fun _ _ he _ => ⟨he.2.1, .inl he.2.2⟩
  obtain ⟨h₁, hrest₁, hstatus⟩ := hw
  simp only [wp_bind, wp_monoNow]
  have h₂ : Dialled (steady + 1) (mqtt + 1) emittedMs w₁.tookSteady :=
    ⟨h₁.connected, h₁.offline, congrArg (· + 1) h₁.steady, h₁.mqtt, h₁.emitted⟩
  refine wp_mono (requestLoggerState_dialled h₂ (hrest₁.trans hrest) _ _) (fun _ w₃ h₃ => ?_)
    fun e w' he hmqtt => ?_
  · rcases h₃ with ⟨hl, h₃⟩ | ⟨hl, hpresence, h₃⟩
    · rw [if_pos hl]
      refine wp_mono (publishStatus_dialled h₃) (fun _ w₄ hw => ?_)
        fun _ _ he _ => ⟨he.2.1, .inr he.2.2⟩
      obtain ⟨h₄, -, hlast⟩ := hw
      rw [hstatus, hlast]
      exact ⟨h₄.connected, by decide⟩
    · rw [if_neg hl]
      refine wp_mono (publishStatus_dialled h₃) (fun _ w₄ hw => ?_)
        fun _ _ he _ => ⟨he.2.1, .inr (.inr he.2.2)⟩
      obtain ⟨h₄, -, hlast⟩ := hw
      rw [hstatus, hpresence, hlast]
      exact ⟨h₄.connected, by decide⟩
  · obtain ⟨-, hconn, hl, hthrew⟩ := he hmqtt
    rw [if_neg hl]
    exact ⟨hconn, .inr (.inl hthrew)⟩

/-- The part behind the subscriptions leaves the connection up; it returns if and only if
none of its publishes throws. -/
theorem startSession_spec (w : World) :
    wp startSession env
      (fun _ w' => w'.conn.connected = true ∧ ¬PublishFails env w.taken.steady w.taken.mqtt)
      (fun e w' => e = .mqtt →
        w'.conn.connected = true ∧ PublishFails env w.taken.steady w.taken.mqtt) w := by
  simp only [startSession, setState, wp_bind, wp_monoNow, wp_read]
  refine wp_mono (resetSession_dialled _ _) (fun _ w₁ hw => ?_) fun _ _ => False.elim
  obtain ⟨h₁, hrest₁⟩ := hw
  simp only [wp_bind, Part.wp_update, wp_monoNow]
  generalize hw₂ : World.tookSteady _ = w₂
  have h₂ : Dialled (w.taken.steady + 2) w.taken.mqtt 0 w₂ := by
    rw [← hw₂]
    exact ⟨h₁.connected, h₁.offline, congrArg (· + 1) h₁.steady, h₁.mqtt, h₁.emitted⟩
  have hrest₂ : w₂.rest = {} := by
    rw [← hw₂]
    exact hrest₁
  refine wp_mono (updatePresenceState_dialled h₂ (by rw [hrest₂]; decide) _ _)
    (fun _ w₃ hw => ?_) fun _ _ he _ => ⟨he.2.1, .inl he.2.2.2⟩
  obtain ⟨h₃, hrest₃⟩ := hw
  -- nothing holds back the first presence of a session
  obtain ⟨-, hpresence, h₃⟩ := h₃.resolve_left fun hl => absurd hl.1.1 (Int.lt_irrefl 0)
  refine wp_mono (selfTest_dialled h₃ (hrest₃.trans hrest₂)) (fun _ w₄ hw => ?_)
    fun _ _ he hmqtt => ⟨(he hmqtt).1, .inr (he hmqtt).2⟩
  obtain ⟨hconn, hlast⟩ := hw
  refine ⟨hconn, ?_⟩
  rintro (hthrew | hthrew)
  · exact Bool.false_ne_true (hpresence.symm.trans hthrew)
  · exact hlast hthrew

end Publishes

section Attempt

variable {env : Env} {w : World}

theorem cmd_topic_ne_nil (config : EkinoxConfig) : config.topics.cmd ≠ [] :=
  List.append_ne_nil_of_right_ne_nil _ (by decide)

theorem cmdLegacy_topic_ne_nil (config : EkinoxConfig) : config.topics.cmdLegacy ≠ [] :=
  List.append_ne_nil_of_right_ne_nil _ (by decide)

/-- How an attempt ends that starts without a connection. -/
def Attempted (env : Env) (w : World) (connected : Bool) (w' : World) : Prop :=
  SetupFails env w ∧ connected = false ∧ w'.conn.connected = false ∨
    ¬SetupFails env w ∧ w'.conn.connected = true ∧
      (connected = true ↔ ¬PublishFails env w.taken.steady (w.taken.mqtt + 3))

theorem connectOnce_attempted (hc : w.conn.connected = false) :
    wp connectOnce env (Attempted env w) (fun e _ => e ≠ .mqtt) w := by
  simp only [connectOnce, setState, subscribeAndLog, wp_catchMqtt, wp_bind, wp_read, wp_mqttCall,
    Part.wp_update, wp_pure, if_neg (cmd_topic_ne_nil env.config),
    if_neg (cmdLegacy_topic_ne_nil env.config), if_true]
  split_ifs with h₀ h₁ h₂
  · exact .inl ⟨.inl h₀, rfl, hc⟩
  · exact .inl ⟨.inr (.inl h₁), rfl, hc⟩
  · exact .inl ⟨.inr (.inr h₂), rfl, hc⟩
  have hsetup : ¬SetupFails env w := by
    rintro (h | h | h)
    · exact h₀ h
    · exact h₁ h
    · exact h₂ h
  refine wp_mono (startSession_spec _) (fun _ w' hw => ?_) fun e w' he => ?_
  obtain ⟨hconn, hquiet⟩ := hw
  · exact .inr ⟨hsetup, hconn, fun _ => hquiet, fun _ => rfl⟩
  · split_ifs with hmqtt
    · obtain ⟨hconn, hthrew⟩ := he hmqtt
      exact .inr ⟨hsetup, hconn, Bool.noConfusion, fun hquiet => absurd hthrew hquiet⟩
    · exact hmqtt

/-- What the calls of an attempt leave alone, the part behind the subscriptions meets. -/
theorem wp_connectOnce_of_setup {R : World → World → Prop} {I : World → Prop} [IsPreorder World R]
    [IgnoresReadings R] [atLogger.Ignored R] [∀ call threw, Emits R (.mqtt call threw)]
    [atLogger.Ignored (Preserving I)] (hI : ∀ w', R w w' → I w')
    (hstart : ¬SetupFails env w → ∀ w', R w w' →
      wp startSession env (fun _ v => I v) (fun _ v => I v) w') :
    wp connectOnce env (fun _ v => I v) (fun _ v => I v) w := by
  have hcall (call : MqttCall) (threw : Bool) {v : World} (hv : R w v) :
      R w (v.tookMqtt.said (.mqtt call threw)) :=
    trans_of R (trans_of R hv (IgnoresReadings.mqtt v)) (Emits.step _)
  refine wp_catchMqtt_invariant env inferInstance ?_
  simp only [setState, subscribeAndLog, wp_bind, wp_read, wp_mqttCall, Part.wp_update,
    if_neg (cmd_topic_ne_nil env.config), if_neg (cmdLegacy_topic_ne_nil env.config)]
  have hconnecting := Part.Ignored.step (P := atLogger) (R := R) w
    { w.status.toLoggerStatus with state := .connecting }
  split_ifs with h₀ h₁ h₂
  · exact hI _ (hcall _ _ hconnecting)
  · exact hI _ (hcall _ _ (hcall _ _ hconnecting))
  · exact hI _ (hcall _ _ (hcall _ _ (hcall _ _ hconnecting)))
  refine hstart (fun hsetup => ?_) _ (hcall _ _ (hcall _ _ (hcall _ _ hconnecting)))
  rcases hsetup with h | h | h
  · exact h₀ h
  · exact h₁ h
  · exact h₂ h

/-- `connect_once` returns true if and only if the connection is up. -/
def Atomic (env : Env) (w : World) : Prop :=
  ∃ connected w', exec connectOnce env w = (.ok connected, w') ∧
    (connected = true ↔ w'.conn.connected = true)

/-- What throws, if anything, comes before the flag is raised. -/
def Unbroken (env : Env) (w : World) : Prop :=
  SetupFails env w ∨ ¬PublishFails env w.taken.steady (w.taken.mqtt + 3)

theorem atomic_iff_unbroken (hc : w.conn.connected = false) (hreturn : env.RepliesReturn) :
    Atomic env w ↔ Unbroken env w := by
  have hthrows : Throws env (fun _ => False) connectOnce :=
    connectOnce_throws env _ (request_throws env _ (.inl hreturn))
  obtain ⟨connected, w', hrun⟩ := hthrows.returns _ w
  have hattempt : Attempted env w connected w' := by
    have h : wp connectOnce env (Attempted env w) (fun e _ => e ≠ .mqtt) w :=
      connectOnce_attempted hc
    simpa only [wp, hrun] using h
  constructor
  · rintro ⟨connected', w'', hrun', hiff⟩
    obtain ⟨rfl, rfl⟩ : connected = connected' ∧ w' = w'' := by
      rw [hrun] at hrun'
      simpa using hrun'
    rcases hattempt with ⟨hsetup, -, -⟩ | ⟨-, hconn, hquiet⟩
    · exact .inl hsetup
    · exact .inr (hquiet.mp (hiff.mpr hconn))
  · intro h
    refine ⟨connected, w', hrun, ?_⟩
    rcases hattempt with ⟨hsetup, hfalse, hconn⟩ | ⟨hsetup, hconn, hquiet⟩
    · rw [hfalse, hconn]
    · have hquiet' := h.resolve_left hsetup
      exact ⟨fun _ => hconn, fun _ => hquiet.mpr hquiet'⟩

end Attempt

/-- Under `p`, the state is not DISCONNECTED. -/
def StateShown (p : Bool → Prop) (w : World) : Prop :=
  p w.conn.connected → w.status.state ≠ .disconnected

section State

variable (env : Env) (p : Bool → Prop)

instance : IgnoresReadings (Preserving (StateShown p)) :=
  ⟨fun _ => id, fun _ => id, fun _ => id, fun _ => id, fun _ => id⟩
instance : IgnoresReplies (Preserving (StateShown p)) := ⟨fun _ => id⟩
instance (e : Event) : Emits (Preserving (StateShown p)) e := ⟨fun _ => id⟩
instance : atLink.Ignored (Preserving (StateShown p)) := ⟨fun _ _ => id⟩
instance : atError.Ignored (Preserving (StateShown p)) := ⟨fun _ _ => id⟩
instance : atMarker.Ignored (Preserving (StateShown p)) := ⟨fun _ _ => id⟩
instance : atRetry.Ignored (Preserving (StateShown p)) := ⟨fun _ _ => id⟩
instance : atPresence.Ignored (Preserving (StateShown p)) := ⟨fun _ _ => id⟩
instance : atRest.Ignored (Preserving (StateShown p)) := ⟨fun _ _ => id⟩
instance : atSensor.Ignored (Preserving (StateShown p)) := ⟨fun _ _ => id⟩
instance : atTimers.Ignored (Preserving (StateShown p)) := ⟨fun _ _ => id⟩
instance : atPending.Ignored (Preserving (StateShown p)) := ⟨fun _ _ => id⟩
instance : atBatch.Ignored (Preserving (StateShown p)) := ⟨fun _ _ => id⟩

theorem setState_shown {state : ServiceState} (h : state ≠ .disconnected) :
    Respects env (Preserving (StateShown p)) (setState state) :=
  ⟨fun _ _ _ => h⟩

instance : Respects env (Preserving (StateShown p)) (setState .idle) := setState_shown env p nofun
instance : Respects env (Preserving (StateShown p)) (setState .error) := setState_shown env p nofun
instance : Respects env (Preserving (StateShown p)) (setState .starting) :=
  setState_shown env p nofun
instance : Respects env (Preserving (StateShown p)) (setState .stopping) :=
  setState_shown env p nofun
instance : Respects env (Preserving (StateShown p)) (setState .recording) :=
  setState_shown env p nofun
instance : Respects env (Preserving (StateShown p)) (setState .connecting) :=
  setState_shown env p nofun

instance (c : Prop) [Decidable c] (a b : ServiceState)
    [Respects env (Preserving (StateShown p)) (setState a)]
    [Respects env (Preserving (StateShown p)) (setState b)] :
    Respects env (Preserving (StateShown p)) (setState (if c then a else b)) := by
  split <;> infer_instance

instance : Respects env (Preserving (StateShown p)) clearSessionName := ⟨fun _ => id⟩

instance (result : LoggerResult) (contextReason : Bytes) :
    Respects env (Preserving (StateShown p)) (storeLoggerState result contextReason) := by
  have hactive (active : Bool) : Respects env (Preserving (StateShown p))
      (atLogger.update fun s => { s with recordingActive := active } : M Unit) := ⟨fun _ => id⟩
  have hname (name : Bytes) : Respects env (Preserving (StateShown p))
      (atLogger.update fun s => { s with sessionName := name } : M Unit) := ⟨fun _ => id⟩
  have hboth (active : Bool) (name : Bytes) : Respects env (Preserving (StateShown p))
      (atLogger.update fun s => { s with recordingActive := active, sessionName := name } : M Unit) :=
    ⟨fun _ => id⟩
  unfold storeLoggerState
  dsimp only
  infer_instance

instance (id type : Bytes) (result : LoggerResult) (message : Bytes) :
    Respects env (Preserving (StateShown p)) (failLoggerCmd id type result message) := by
  unfold failLoggerCmd
  infer_instance

instance (id type : Bytes) (cmd : Json) :
    Respects env (Preserving (StateShown p)) (handleLoggerStart id type cmd) := by
  unfold handleLoggerStart concludeLoggerStart
  infer_instance

instance (id type : Bytes) :
    Respects env (Preserving (StateShown p)) (handleLoggerStop id type) := by
  unfold handleLoggerStop concludeLoggerStop ackAlreadyStopped
  dsimp only
  infer_instance

instance : Respects env (Preserving (StateShown fun _ => True)) startSession := by
  have hreset (nextRestPollMs : ℤ) :
      Respects env (Preserving (StateShown fun _ => True)) (resetSession nextRestPollMs) := by
    rw [respects_iff_wp]
    intro w
    simp only [resetSession, setNextRestPoll, wp_bind, Part.wp_update]
    exact id
  unfold startSession
  infer_instance

/-- While connected, the state is not DISCONNECTED. -/
abbrev ConnectedShown : World → Prop := StateShown (· = true)

/-- An attempt that succeeds leaves the state it has set. -/
theorem connectOnce_shown (w : World) :
    wp connectOnce env (fun connected w' => connected = true → ConnectedShown w')
      (fun _ w' => ConnectedShown w') w := by
  have hrest : Respects env (Preserving (StateShown fun _ => True)) (do
      mqttCall .connect
      let topics := (← read).config.topics
      subscribeAndLog topics.cmd
      subscribeAndLog topics.cmdLegacy
      startSession
      return true) := by
    dsimp only
    infer_instance
  rw [connectOnce, wp_catchMqtt, wp_bind, setState, Part.wp_update]
  refine wp_mono (respects_iff_wp.mp hrest _) (fun _ w' h _ _ => ?_) fun e w' h => ?_
  · exact h (fun _ hs => ServiceState.noConfusion hs) trivial
  · split_ifs
    · exact Bool.noConfusion
    · exact fun _ => h (fun _ hs => ServiceState.noConfusion hs) trivial

instance : Respects env (Preserving ConnectedShown) disconnect := by
  rw [respects_iff_wp]
  intro w
  rw [wp_disconnect]
  split_ifs
  · exact id
  · exact fun _ => nofun
  · exact id

instance : Respects env (Preserving ConnectedShown) connectionLost := by
  refine respects_iff_wp.mpr fun w => connectionLost_drops fun w₁ nowMs h => ?_
  have hdown : ConnectedShown w₁ := fun hc => absurd (h.connected.symm.trans hc) Bool.false_ne_true
  have hpresence : Respects env (Preserving ConnectedShown)
      (updatePresenceState nowMs (bytes "mqtt offline")) := inferInstance
  exact hpresence.wp_of fun _ hw _ => hw hdown

variable {env} in
/-- Unless a publish breaks it, an attempt fails without a connection. -/
theorem Attempted.disconnected {w w' : World} (h : Attempted env w false w') (hw : Unbroken env w) :
    w'.conn.connected = false := by
  rcases h with ⟨-, -, hconn⟩ | ⟨hsetup, -, hquiet⟩
  · exact hconn
  · exact absurd (hquiet.mpr (hw.resolve_left hsetup)) Bool.false_ne_true

theorem ensureConnection_shown {now : TimePoint} {w : World} (hw : ConnectedShown w)
    (hunbroken : Due now w → Unbroken env w) :
    wp (ensureConnection now) env (fun _ w' => ConnectedShown w') (fun _ w' => ConnectedShown w')
      w := by
  rw [wp_ensureConnection]
  split_ifs with hup hearly
  · exact hw
  · exact hw
  have hdown : (w.attempting now).conn.connected = false := eq_false_of_ne_true hup
  have hunbroken₁ : Unbroken env (w.attempting now) :=
    hunbroken ⟨eq_false_of_ne_true hup, Int.not_lt.mp hearly⟩
  refine wp_mono (wp_and (connectOnce_shown env _) (connectOnce_attempted hdown))
    (fun connected w₂ hw => ?_) fun _ _ h => h.1
  obtain ⟨hshown, hattempt⟩ := hw
  cases connected with
  | true => exact hshown rfl
  | false =>
    intro hup₂
    exact absurd ((hattempt.disconnected hunbroken₁).symm.trans hup₂) Bool.false_ne_true

end State

/-- There is no connection, and the next attempt is due at `t`. -/
structure Waiting (t : TimePoint) (w : World) : Prop where
  disconnected : w.conn.connected = false
  next : w.retry.nextReconnectAttempt = some t

section Retry

variable (env : Env) (t : TimePoint)

instance : IgnoresReadings (Preserving (Waiting t)) :=
  ⟨fun _ h => ⟨h.1, h.2⟩, fun _ h => ⟨h.1, h.2⟩, fun _ h => ⟨h.1, h.2⟩, fun _ h => ⟨h.1, h.2⟩,
    fun _ h => ⟨h.1, h.2⟩⟩
instance : IgnoresReplies (Preserving (Waiting t)) := ⟨fun _ h => ⟨h.1, h.2⟩⟩
instance (e : Event) : Emits (Preserving (Waiting t)) e := ⟨fun _ h => ⟨h.1, h.2⟩⟩
instance : atLink.Ignored (Preserving (Waiting t)) := ⟨fun _ _ h => ⟨h.1, h.2⟩⟩
instance : atLogger.Ignored (Preserving (Waiting t)) := ⟨fun _ _ h => ⟨h.1, h.2⟩⟩
instance : atError.Ignored (Preserving (Waiting t)) := ⟨fun _ _ h => ⟨h.1, h.2⟩⟩
instance : atMarker.Ignored (Preserving (Waiting t)) := ⟨fun _ _ h => ⟨h.1, h.2⟩⟩
instance : atPresence.Ignored (Preserving (Waiting t)) := ⟨fun _ _ h => ⟨h.1, h.2⟩⟩
instance : atRest.Ignored (Preserving (Waiting t)) := ⟨fun _ _ h => ⟨h.1, h.2⟩⟩
instance : atSensor.Ignored (Preserving (Waiting t)) := ⟨fun _ _ h => ⟨h.1, h.2⟩⟩
instance : atTimers.Ignored (Preserving (Waiting t)) := ⟨fun _ _ h => ⟨h.1, h.2⟩⟩
instance : atPending.Ignored (Preserving (Waiting t)) := ⟨fun _ _ h => ⟨h.1, h.2⟩⟩
instance : atBatch.Ignored (Preserving (Waiting t)) := ⟨fun _ _ h => ⟨h.1, h.2⟩⟩

instance : Respects env (Preserving (Waiting t)) disconnect := by
  refine ⟨fun w h => exec_of_wp ?_⟩
  simp only [disconnect, wp_bind, wp_get, wp_pure, h.disconnected, Bool.false_eq_true, if_false]
  exact h

/-- The sensor shares the backoff, not the time of the next attempt. -/
instance (now : TimePoint) : Respects env (Preserving (Waiting t)) (ensureSensorSession now) := by
  have hbackoff (config : EkinoxConfig) : Respects env (Preserving (Waiting t))
      (atRetry.update fun r =>
        { r with currentBackoffMs := doubleBackoff config r.currentBackoffMs } : M Unit) :=
    ⟨fun _ h => ⟨h.1, h.2⟩⟩
  have hreset (backoff : ℤ) : Respects env (Preserving (Waiting t))
      (atRetry.update fun r => { r with currentBackoffMs := backoff } : M Unit) :=
    ⟨fun _ h => ⟨h.1, h.2⟩⟩
  unfold ensureSensorSession ensureSensorSessionSbg ensureSensorSessionNoSbg
  dsimp only
  infer_instance

variable {env t}

theorem ensureConnection_waits {now : TimePoint} (h : now < t) {w : World} (hw : Waiting t w) :
    Waiting t (exec (ensureConnection now) env w).2 := by
  refine exec_of_wp ?_
  rw [wp_ensureConnection, hw.disconnected, if_neg Bool.false_ne_true, hw.next, Option.getD_some,
    if_pos h]
  refine ⟨hw.disconnected, ?_⟩
  change some (w.retry.nextReconnectAttempt.getD now) = some t
  rw [hw.next, Option.getD_some]

def Event.connect? : Event → Option Bool
  | .mqtt .connect threw => some threw
  | _ => none

abbrev World.attempts : World → List Bool := heard Event.connect?

instance (topic : Bytes) (threw : Bool) : Unheard Event.connect? (.mqtt (.subscribe topic) threw) :=
  ⟨rfl⟩
instance (m : Message) (threw : Bool) : Unheard Event.connect? (.mqtt (.publish m) threw) := ⟨rfl⟩
instance (r : RestRequest) : Unheard Event.connect? (.restRequest r) := ⟨rfl⟩
instance (r : LoggerResult) (t : ℤ) : Unheard Event.connect? (.restResult r t) := ⟨rfl⟩
instance (message : Bytes) : Unheard Event.connect? (.errorSet message) := ⟨rfl⟩

/-- The service calls `connect` as soon as an attempt is due. -/
theorem ensureConnection_attempts {now : TimePoint} {w : World} (hdue : Due now w) :
    ∃ threw, (exec (ensureConnection now) env w).2.attempts = threw :: w.attempts := by
  have hrest : Respects env (Keeping World.attempts) (do
      let topics := (← read).config.topics
      subscribeAndLog topics.cmd
      subscribeAndLog topics.cmdLegacy
      startSession
      return true) := by
    dsimp only
    infer_instance
  let Q (w' : World) : Prop := ∃ threw, w'.attempts = threw :: w.attempts
  refine exec_of_wp (I := Q) ?_
  rw [wp_ensureConnection_due hdue]
  have hattempt (v : World) (hv : v.attempts = w.attempts) :
      wp connectOnce env (fun _ w' => Q w') (fun _ w' => Q w') v := by
    rw [connectOnce, wp_catchMqtt, setState, wp_bind, Part.wp_update, wp_bind, wp_mqttCall]
    split_ifs with hthrew
    · exact ⟨true, congrArg _ hv⟩
    · exact ⟨true, congrArg _ hv⟩
    · refine wp_mono (respects_iff_wp.mp hrest _) (fun _ w' hw' => ?_) fun e w' hw' => ?_
      · exact ⟨false, hw'.trans (congrArg _ hv)⟩
      · split_ifs
        · exact ⟨false, hw'.trans (congrArg _ hv)⟩
        · exact ⟨false, hw'.trans (congrArg _ hv)⟩
  exact wp_mono (hattempt (w.attempting now) rfl) (fun _ _ hw' => hw') fun _ _ => id

/-- An attempt that fails sets the time of the next one. -/
theorem ensureConnection_reschedules {now : TimePoint} {w : World} (hdue : Due now w)
    (hunbroken : Unbroken env w) (hreturn : env.RepliesReturn) :
    wp (ensureConnection now) env
      (fun _ w' => w'.conn.connected = true ∨
        Waiting (now + milliseconds w'.retry.currentBackoffMs) w') (fun _ _ => False) w := by
  rw [wp_ensureConnection_due hdue]
  have hdown : (w.attempting now).conn.connected = false := hdue.1
  have hunbroken₁ : Unbroken env (w.attempting now) := hunbroken
  have hthrows : Throws env (fun _ => False) connectOnce :=
    connectOnce_throws env _ (request_throws env _ (.inl hreturn))
  have hcall := wp_and (connectOnce_attempted hdown) (hthrows.only _)
  refine wp_mono hcall (fun connected w₂ hw => ?_) fun _ _ h => h.2
  obtain ⟨hattempt, -⟩ := hw
  cases connected with
  | true =>
    rcases hattempt with ⟨-, hfalse, -⟩ | ⟨-, hup, -⟩
    · exact Bool.noConfusion hfalse
    · exact .inl hup
  | false => exact .inr ⟨hattempt.disconnected hunbroken₁, rfl⟩

end Retry

/-- Whatever happens without a connection, the attempt due at `t` is made. -/
def Retried (platform : Platform) (t : TimePoint) (w : World) : Prop :=
  ∀ between : List Step,
    (∀ s ∈ between, s.op ≠ .connectionLost ∧ ∀ now, s.op = .ensureConnection now → now < t) →
    ∀ (inputs : Inputs) (now : TimePoint), t ≤ now →
      let w' := (execSteps platform between w).2
      ∃ threw, (exec (ensureConnection now) ⟨platform, inputs⟩ w').2.attempts = threw :: w'.attempts

theorem Op.run_waits (env : Env) {t : TimePoint} {op : Op} (hlost : op ≠ .connectionLost)
    (hearly : ∀ now, op = .ensureConnection now → now < t) {w : World} (hw : Waiting t w) :
    Waiting t (exec op.run env w).2 := by
  cases op
  case ensureConnection now => exact ensureConnection_waits (hearly now rfl) hw
  case connectionLost => exact absurd rfl hlost
  all_goals
    refine Respects.preserves ?_ hw
    unfold Op.run
    dsimp only
    infer_instance

theorem Waiting.retried {platform : Platform} {t : TimePoint} {w : World} (hw : Waiting t w) :
    Retried platform t w := by
  intro between hbetween inputs now hnow w'
  have hw' : Waiting t w' := by
    refine execAll_invariant _ (C := fun s _ => s ∈ between) (fun s v hs hv => ?_)
      (allSteps_of_forall _ fun s hs _ => hs) hw
    exact Op.run_waits ⟨platform, s.inputs⟩ (hbetween s hs).1 (hbetween s hs).2 hv
  refine ensureConnection_attempts ⟨hw'.disconnected, ?_⟩
  rw [hw'.next]
  exact hnow

/-- An attempt the step makes is not broken by a publish. -/
def Step.Unbroken (platform : Platform) (s : Step) (w : World) : Prop :=
  ∀ now, s.op = .ensureConnection now → Due now w → Ekinox.Unbroken ⟨platform, s.inputs⟩ w

theorem Op.run_shown (env : Env) {op : Op} {w : World} (hw : ConnectedShown w)
    (hunbroken : ∀ now, op = .ensureConnection now → Due now w → Unbroken env w) :
    ConnectedShown (exec op.run env w).2 := by
  cases op
  case ensureConnection now =>
    exact exec_of_wp (ensureConnection_shown env hw (hunbroken now rfl))
  all_goals
    refine Respects.preserves ?_ hw
    unfold Op.run
    dsimp only
    infer_instance

/-- An attempt returns what it leaves in the flag if and only if no publish breaks it. In every
run without broken attempts the state of a connected service is not DISCONNECTED, and an
attempt that fails is made again. -/
theorem connect_once_atomic (platform : Platform) :
    (∀ (inputs : Inputs) (w : World), w.conn.connected = false → inputs.RepliesReturn →
      (Atomic ⟨platform, inputs⟩ w ↔ Unbroken ⟨platform, inputs⟩ w)) ∧
    (∀ (inputs : Inputs) (steps : List Step),
      AllSteps (execStep platform) (Step.Unbroken platform) steps
        (initialWorld platform.config inputs) →
      ConnectedShown (execSteps platform steps (initialWorld platform.config inputs)).2) ∧
    ∀ (inputs : Inputs) (w : World) (now : TimePoint), inputs.RepliesReturn → Due now w →
      Unbroken ⟨platform, inputs⟩ w →
      let w' := (exec (ensureConnection now) ⟨platform, inputs⟩ w).2
      w'.conn.connected = true ∨ Retried platform (now + milliseconds w'.retry.currentBackoffMs) w' := by
  refine ⟨fun inputs w hdown hreturn => atomic_iff_unbroken hdown hreturn,
    fun inputs steps hsteps => ?_, ?_⟩
  · refine execAll_invariant _ (fun s v hs hv => ?_) hsteps (fun h => absurd h Bool.false_ne_true)
    exact Op.run_shown ⟨platform, s.inputs⟩ hv hs
  · intro inputs w now hreturn hdue hunbroken w'
    let Q (w' : World) : Prop := w'.conn.connected = true ∨
      Waiting (now + milliseconds w'.retry.currentBackoffMs) w'
    have hend : Q w' := exec_of_wp (wp_mono (ensureConnection_reschedules hdue hunbroken hreturn)
      (fun _ _ => id) fun _ _ => False.elim)
    exact hend.imp_right Waiting.retried

theorem connect_once_atomic_healthy :
    Atomic ⟨benchPlatform, benchHealthy⟩ (initialWorld benchPlatform.config benchHealthy) := by
  refine ((connect_once_atomic benchPlatform).1 benchHealthy _ rfl (benchInputs_return _)).mpr ?_
  refine .inr ?_
  unfold PublishFails SelfTestFails
  decide

/-- A status that cannot be published fails the attempt with the flag raised, and no attempt
follows. -/
theorem failed_status_leaves_flag :
    let failing := { benchHealthy with mqttThrows := fun _ op => op = .publish .status }
    let w := initialWorld benchPlatform.config failing
    let w' := (exec (ensureConnection (milliseconds 1000)) ⟨benchPlatform, failing⟩ w).2
    ¬Atomic ⟨benchPlatform, failing⟩ w ∧
    w'.conn.connected = true ∧ w'.status.state = .disconnected ∧
    ∀ (inputs : Inputs) (now : TimePoint),
      (exec (ensureConnection now) ⟨benchPlatform, inputs⟩ w').2.attempts = w'.attempts := by
  intro failing w w'
  have hup : w'.conn.connected = true := by decide +kernel
  refine ⟨?_, hup, by decide +kernel, fun inputs now => ?_⟩
  · rintro ⟨connected, w'', hrun, hiff⟩
    have hfalse : (exec connectOnce ⟨benchPlatform, failing⟩ w).1 = .ok false ∧
        (exec connectOnce ⟨benchPlatform, failing⟩ w).2.conn.connected = true := by decide +kernel
    rw [hrun] at hfalse
    obtain ⟨hconnected, hup⟩ := hfalse
    cases hconnected
    exact absurd (hiff.mpr hup) Bool.false_ne_true
  · refine exec_of_wp (I := fun v : World => v.attempts = w'.attempts) ?_
    rw [wp_ensureConnection, hup, if_pos rfl]

end Ironsoft.Ekinox
