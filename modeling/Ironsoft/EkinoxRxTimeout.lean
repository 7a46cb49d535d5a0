import Ironsoft.EkinoxConnect
import Ironsoft.EkinoxPolls

/-!
# Reports of an rx timeout

When the service reports that the sensor has fallen silent, and how long the report stands.
A monitor beside the run keeps whether a report is owed, and how many polls in a row have
been in time since.
-/
namespace Ironsoft.Ekinox
open Effect

set_option synthInstance.maxSize 400000
set_option synthInstance.maxHeartbeats 200000

/-- What ends a report that is owed: `set_error`, or a UDP session that opens. -/
def Event.endsReport : Event → Bool
  | .errorSet _ | .sessionOpened => true
  | _ => false

def World.endings (w : World) : ℕ := w.trace.countP Event.endsReport

/-- What decides about a report. -/
def World.rx (w : World) : ErrorStatus × Bool × ℕ × ℕ × ℕ :=
  (w.status.toErrorStatus, w.rxTimeoutErrorActive, w.sensor.rxFailStreak, w.sensor.rxOkStreak,
    w.endings)

instance : IgnoresReadings (Keeping World.rx) :=
  ⟨fun _ => rfl, fun _ => rfl, fun _ => rfl, fun _ => rfl, fun _ => rfl⟩
instance : IgnoresLastRx (Keeping World.rx) := ⟨fun _ _ => rfl⟩
instance (e : SbgEvent) : Emits (Keeping World.rx) (.sbg e) := ⟨fun _ => rfl⟩
instance (call : MqttCall) (threw : Bool) : Emits (Keeping World.rx) (.mqtt call threw) :=
  ⟨fun _ => rfl⟩
instance : atLink.Ignored (Keeping World.rx) := ⟨fun _ _ => rfl⟩
instance : atLogger.Ignored (Keeping World.rx) := ⟨fun _ _ => rfl⟩
instance : atConn.Ignored (Keeping World.rx) := ⟨fun _ _ => rfl⟩
instance : atPresence.Ignored (Keeping World.rx) := ⟨fun _ _ => rfl⟩
instance : atRest.Ignored (Keeping World.rx) := ⟨fun _ _ => rfl⟩
instance : atTimers.Ignored (Keeping World.rx) := ⟨fun _ _ => rfl⟩

section Polls

variable {env : Env} {now : TimePoint} {w : World} {Q : Unit → World → Prop} {E : Exn → World → Prop}

/-- A late poll raises `rx_fail_streak_` to the threshold. -/
def Overdue (env : Env) (now : TimePoint) (w : World) : Prop :=
  pollVerdict env now w = .late ∧
    env.config.timeouts.failThreshold ≤ countUp w.sensor.rxFailStreak

instance (env : Env) (now : TimePoint) (w : World) : Decidable (Overdue env now w) :=
  inferInstanceAs (Decidable (_ ∧ _))

/-- `last_error` is `rx timeout`. -/
def Reported (w : World) : Prop := w.status.lastError = rxTimeoutText

instance (w : World) : Decidable (Reported w) := inferInstanceAs (Decidable (_ = _))

/-- The report is not taken back with the session, and it is made unless it is taken to stand
already. -/
def ReportStands (w : World) : Prop :=
  w.recording = true ∧ (w.rxTimeoutErrorActive = false ∨ Reported w)

instance (w : World) : Decidable (ReportStands w) := inferInstanceAs (Decidable (_ ∧ _))

/-- Giving up the sensor takes the report back. -/
theorem handleSensorDisconnect_clears (h : w.rxTimeoutErrorActive = true ∨ ¬Reported w) :
    wp handleSensorDisconnect env (fun _ w' => ¬Reported w') (fun _ _ => False) w :=
  wp_mono (handleSensorDisconnect_givesUp env w) (fun _ _ hw => hw.lastError h) fun _ _ => id

theorem handleSensorRxTimeout_reports (recording : Bool) (nowMs : ℤ)
    (hreached : env.config.timeouts.failThreshold ≤ countUp w.sensor.rxFailStreak) :
    wp (handleSensorRxTimeout recording nowMs) env
      (fun _ w' => Reported w' ↔ recording = true ∧ (w.rxTimeoutErrorActive = false ∨ Reported w))
      (fun _ _ => False) w := by
  have hkept {w' : World} (h : Missed env w w') :
      Reported w' ↔ w.rxTimeoutErrorActive = false ∨ Reported w := by
    by_cases hmarker : w.rxTimeoutErrorActive = false
    · exact iff_of_true (h.reported hreached hmarker).1 (.inl hmarker)
    · rw [Reported, (h.kept (.inr (eq_true_of_ne_false hmarker))).1, or_iff_right hmarker]
      rfl
  have hactive {w' : World} (h : Missed env w w') : w'.rxTimeoutErrorActive = true := by
    by_cases hmarker : w.rxTimeoutErrorActive = false
    · exact (h.reported hreached hmarker).2
    · have hset := eq_true_of_ne_false hmarker
      exact (h.kept (.inr hset)).2.trans hset
  refine wp_handleSensorRxTimeout recording nowMs (fun hlt _ _ => ?_) (fun _ hrec w' h => ?_)
    fun _ hrec w' h => ?_
  · omega
  · exact (hkept h).trans (and_iff_right hrec).symm
  · refine wp_mono (handleSensorDisconnect_clears (.inl (hactive h))) (fun _ _ hcleared => ?_)
      fun _ _ => id
    exact iff_of_false hcleared fun hr => Bool.false_ne_true (hrec.symm.trans hr.1)

theorem pollSensor_reports_iff (hover : Overdue env now w) :
    wp (pollSensor now) env (fun _ w' => Reported w' ↔ ReportStands w) (fun _ _ => False) w := by
  obtain ⟨hlate, hreached⟩ := hover
  have hother {v : PollVerdict} (h : pollVerdict env now w = v) (hv : v ≠ .late) : False :=
    hv (h.symm.trans hlate)
  have hpoll : Respects env (Keeping World.rx) sessionPoll := inferInstance
  refine wp_pollSensor hpoll (fun h => (hother h (by decide)).elim)
    (fun h => (hother h (by decide)).elim) (fun h => (hother h (by decide)).elim)
    (fun h => (hother h (by decide)).elim) fun _ w₁ (hrx : w₁.rx = w.rx) => ?_
  simp only [World.rx, Prod.mk.injEq] at hrx
  obtain ⟨herror, hmarker, hstreak, -, -⟩ := hrx
  have hreported : Reported w₁ ↔ Reported w := by
    unfold Reported
    rw [show w₁.status.lastError = w.status.lastError from congrArg ErrorStatus.lastError herror]
  rw [← hstreak] at hreached
  rw [ReportStands, ← hmarker, ← hreported]
  exact handleSensorRxTimeout_reports w.recording (monoMs now) hreached

end Polls

/-- There have been `k` endings or more. -/
def Ended (k : ℕ) (w : World) : Prop := k ≤ w.endings

theorem World.endings_said (w : World) (e : Event) :
    (w.said e).endings = w.endings + if e.endsReport then 1 else 0 := List.countP_cons

/-- The report stands with its marker, and no more than `n` polls in a row have been in time. -/
def Stands (n : ℕ) (w : World) : Prop :=
  Reported w ∧ w.rxTimeoutErrorActive = true ∧ w.sensor.rxOkStreak ≤ n

/-- A report that is owed since the `k`-th ending stands as long as there is no other. -/
def Owing (n k : ℕ) (w : World) : Prop := Ended (k + 1) w ∨ w.endings = k ∧ Stands n w

/-- So far, no reply has been taken: the `m`-th is next. -/
def Unasked (n k m : ℕ) (w : World) : Prop :=
  Ended (k + 1) w ∨ w.endings = k ∧ Stands n w ∧ w.taken.rest = m

theorem Unasked.owing {n k m : ℕ} {w : World} (h : Unasked n k m w) : Owing n k w :=
  h.imp id fun h => ⟨h.1, h.2.1⟩

theorem Owing.unasked {n k : ℕ} {w : World} (h : Owing n k w) : Unasked n k w.taken.rest w :=
  h.imp id fun h => ⟨h.1, h.2, rfl⟩

section Frames

variable (n k m : ℕ) (env : Env)

instance : IgnoresReadings (Preserving (Ended k)) :=
  ⟨fun _ => id, fun _ => id, fun _ => id, fun _ => id, fun _ => id⟩
instance : IgnoresReplies (Preserving (Ended k)) := ⟨fun _ => id⟩
instance (e : Event) : Emits (Preserving (Ended k)) e :=
  ⟨fun w h => Nat.le_trans h (w.endings_said e ▸ Nat.le_add_right _ _)⟩
instance : atLink.Ignored (Preserving (Ended k)) := ⟨fun _ _ => id⟩
instance : atLogger.Ignored (Preserving (Ended k)) := ⟨fun _ _ => id⟩
instance : atError.Ignored (Preserving (Ended k)) := ⟨fun _ _ => id⟩
instance : atMarker.Ignored (Preserving (Ended k)) := ⟨fun _ _ => id⟩
instance : atConn.Ignored (Preserving (Ended k)) := ⟨fun _ _ => id⟩
instance : atRetry.Ignored (Preserving (Ended k)) := ⟨fun _ _ => id⟩
instance : atPresence.Ignored (Preserving (Ended k)) := ⟨fun _ _ => id⟩
instance : atRest.Ignored (Preserving (Ended k)) := ⟨fun _ _ => id⟩
instance : atSensor.Ignored (Preserving (Ended k)) := ⟨fun _ _ => id⟩
instance : atTimers.Ignored (Preserving (Ended k)) := ⟨fun _ _ => id⟩
instance : atBatch.Ignored (Preserving (Ended k)) := ⟨fun _ _ => id⟩

theorem setError_ends {k : ℕ} {w : World} (hw : Ended k w) (message : Bytes) :
    wp (setError message) env (fun _ w' => Ended (k + 1) w') (fun _ _ => False) w := by
  simp only [setError, wp_bind, wp_emit, wp_unixTs, Part.wp_update]
  change k + 1 ≤ (w.said (.errorSet message)).endings
  rw [World.endings_said]
  exact Nat.succ_le_succ hw

theorem Unasked.ended {n k m : ℕ} {w : World} (h : Unasked n k m w) : Ended k w := by
  rcases h with hended | ⟨hcount, -⟩
  · exact Nat.le_of_succ_le hended
  · exact hcount.ge

instance : IgnoresReadings (Preserving (Unasked n k m)) :=
  ⟨fun _ => id, fun _ => id, fun _ => id, fun _ => id, fun _ => id⟩
instance : atLink.Ignored (Preserving (Unasked n k m)) := ⟨fun _ _ => id⟩
instance : atLogger.Ignored (Preserving (Unasked n k m)) := ⟨fun _ _ => id⟩
instance : atConn.Ignored (Preserving (Unasked n k m)) := ⟨fun _ _ => id⟩
instance : atRetry.Ignored (Preserving (Unasked n k m)) := ⟨fun _ _ => id⟩
instance : atPresence.Ignored (Preserving (Unasked n k m)) := ⟨fun _ _ => id⟩
instance : atRest.Ignored (Preserving (Unasked n k m)) := ⟨fun _ _ => id⟩
instance : atTimers.Ignored (Preserving (Unasked n k m)) := ⟨fun _ _ => id⟩
instance : atPending.Ignored (Preserving (Unasked n k m)) := ⟨fun _ _ => id⟩
instance : atBatch.Ignored (Preserving (Unasked n k m)) := ⟨fun _ _ => id⟩

instance (e : Event) : Emits (Preserving (Unasked n k m)) e where
  step w h := by
    cases hends : e.endsReport with
    | true =>
      refine .inl ?_
      rw [Ended, World.endings_said, hends]
      exact Nat.succ_le_succ h.ended
    | false =>
      have hcount : (w.said e).endings = w.endings := by rw [World.endings_said, hends]; rfl
      rcases h with hended | ⟨hk, hstands, hm⟩
      · exact .inl (hended.trans hcount.ge)
      · exact .inr ⟨hcount.trans hk, hstands, hm⟩

instance : atLogger.Ignored (Preserving (Owing n k)) := ⟨fun _ _ => id⟩
instance : atBatch.Ignored (Preserving (Owing n k)) := ⟨fun _ _ => id⟩
instance (c : CommandMessage) : Emits (Preserving (Owing n k)) (.commandHandled c) := ⟨fun _ => id⟩

instance (message : Bytes) : Respects env (Preserving (Unasked n k m)) (setError message) := by
  refine ⟨fun w hw => exec_of_wp ?_⟩
  exact wp_mono (setError_ends env hw.ended message) (fun _ _ => .inl) fun _ _ => False.elim

instance (f : UdpSession → UdpSession) :
    Respects env (Preserving (Unasked n k m)) (modifySession f) := ⟨fun _ => id⟩

theorem sensorUpdate_keeps {f : SensorLink → SensorLink}
    (hf : ∀ l, (f l).rxOkStreak ≤ l.rxOkStreak) :
    Respects env (Preserving (Unasked n k m)) (atSensor.update f : M Unit) := by
  refine ⟨fun w h => ?_⟩
  rcases h with hended | ⟨hk, hstands, hm⟩
  · exact .inl hended
  · obtain ⟨hreported, hmarker, hfew⟩ := hstands
    exact .inr ⟨hk, ⟨hreported, hmarker, Nat.le_trans (hf _) hfew⟩, hm⟩

instance : Respects env (Preserving (Unasked n k m)) sessionClose := by
  unfold sessionClose
  infer_instance

instance (nextRestPollMs : ℤ) :
    Respects env (Preserving (Unasked n k m)) (resetSession nextRestPollMs) := by
  have hsensor := sensorUpdate_keeps n k m env
    (f := fun l => { l with udpLinkAlive := false, sensorReconnectNeeded := false })
    fun _ => Nat.le_refl _
  unfold resetSession
  infer_instance

instance : Respects env (Preserving (Unasked n k m)) connectionLost := by
  have hsensor := sensorUpdate_keeps n k m env
    (f := fun l => { l with sensorConnected := false, sensorReconnectNeeded := false })
    fun _ => Nat.le_refl _
  unfold connectionLost
  infer_instance

instance : Respects env (Preserving (Unasked n k m)) sessionOpen := by
  unfold sessionOpen resetLastRx
  dsimp only
  infer_instance

/-- A session that opens is an ending. -/
theorem sessionOpen_ends {k : ℕ} {w : World} (hw : Ended k w) :
    wp sessionOpen env (fun err w' => err.isSome = false → Ended (k + 1) w') (fun _ _ => False)
      w := by
  have hclose : Respects env (Preserving (Ended k)) sessionClose := inferInstance
  simp only [sessionOpen, modifySession, resetLastRx, wp_bind]
  refine wp_mono (hclose.returns inferInstance w) (fun _ w₁ h => ?_) fun _ _ => id
  have h₁ : k ≤ w₁.endings := h hw
  simp only [wp_bind, wp_get, wp_ite, wp_pure, wp_modify, wp_read, wp_emit, Part.wp_update,
    wp_monoNow]
  split_ifs
  · exact fun h => Bool.noConfusion h
  · exact fun h => Bool.noConfusion h
  · exact fun h => Bool.noConfusion h
  · intro _
    change k + 1 ≤ List.countP Event.endsReport
      (.sessionOpened :: .sbg (.ecomInit _) :: .sbg (.interfaceCreate _) :: w₁.trace)
    simp only [List.countP_cons, Event.endsReport, Bool.false_eq_true, if_true, if_false]
    exact Nat.succ_le_succ h₁

/-- With the session the report is cleared, which has ended by then. -/
instance (now : TimePoint) :
    Respects env (Preserving (Unasked n k m)) (ensureSensorSessionSbg now) := by
  have hattempt (t : Option TimePoint) := sensorUpdate_keeps n k m env
    (f := fun l => { l with nextSensorAttempt := t }) fun _ => Nat.le_refl _
  have hlink (alive : Bool) := sensorUpdate_keeps n k m env
    (f := fun l => { l with udpLinkAlive := alive }) fun _ => Nat.le_refl _
  have hopen : Respects env (Preserving (Unasked n k m)) sessionOpen := inferInstance
  refine ⟨fun w hw => exec_of_wp ?_⟩
  unfold ensureSensorSessionSbg
  simp only [wp_bind, wp_get, wp_ite, wp_pure, Part.wp_update, wp_read]
  split_ifs with hconnected hearly
  · exact hw
  · exact (hattempt _).preserves hw
  have hw₁ := (hattempt (some (w.sensor.nextSensorAttempt.getD now))).preserves hw
  refine wp_mono (wp_and (sessionOpen_ends env hw₁.ended) (respects_iff_wp.mp hopen _))
    (fun err w₂ h => ?_) fun _ _ h => h.1.elim
  obtain ⟨hended, hkept⟩ := h
  cases hfailed : err.isSome with
  | true =>
    rw [if_pos rfl]
    refine Respects.wp_of (R := Preserving (Unasked n k m)) ?_ fun _ h => h (hkept hw₁)
    unfold setUdpLinkAlive
    infer_instance
  | false =>
    rw [if_neg Bool.false_ne_true]
    refine Respects.wp_of (R := Preserving (Ended (k + 1))) ?_ fun _ h => .inl (h (hended hfailed))
    infer_instance

instance (now : TimePoint) :
    Respects env (Preserving (Unasked n k m)) (ensureSensorSessionNoSbg now) := by
  have hmissing := sensorUpdate_keeps n k m env
    (f := fun l => { l with sensorConnected := false, udpLinkAlive := false }) fun _ => Nat.le_refl _
  have hnoSbg := sensorUpdate_keeps n k m env
    (f := fun l => { l with reportedNoSbg := true }) fun _ => Nat.le_refl _
  unfold ensureSensorSessionNoSbg
  infer_instance

instance (now : TimePoint) :
    Respects env (Preserving (Unasked n k m)) (ensureSensorSession now) := by
  unfold ensureSensorSession
  infer_instance

end Frames

/-- The `m`-th reply is a success. -/
def Succeeds (env : Env) (m : ℕ) : Prop := ∃ result, env.rest m = .ok result ∧ result.ok = true

section Replies

variable {env : Env} {n k m : ℕ} {w : World} {contextReason : Bytes}

/-- A failure that is stored under a reason is an ending. -/
theorem storeLoggerState_fails {result : LoggerResult} (hw : Owing n k w)
    (hfails : result.ok = false) :
    wp (storeLoggerState result contextReason) env
      (fun _ w' => Owing n k w' ∧ (contextReason ≠ [] → Ended (k + 1) w')) (fun _ _ => False) w := by
  have hends (message : Bytes) : wp (setError message) env (fun _ w' => Ended (k + 1) w')
      (fun _ _ => False) w := setError_ends env hw.unasked.ended message
  have hended {w' : World} (h : Ended (k + 1) w') :
      Owing n k w' ∧ (contextReason ≠ [] → Ended (k + 1) w') := ⟨.inl h, fun _ => h⟩
  simp only [storeLoggerState, setState, hfails, Bool.false_eq_true, if_false, wp_bind, wp_ite,
    Part.wp_update]
  generalize herr : (if restErrorOrHttp result = [] then contextReason else _) = err
  split_ifs with hset h404 h404
  · exact wp_mono (hends err) (fun _ _ h => hended h) fun _ _ => id
  · exact wp_mono (hends err) (fun _ _ h => hended h) fun _ _ => id
  all_goals
    refine ⟨hw, fun hreason => absurd ?_ hreason⟩
    rw [ne_eq, not_not] at hset
    rw [hset] at herr
    split_ifs at herr with hempty
    · exact herr
    · exact absurd herr hempty

/-- The request that is made next brings no success. -/
theorem dataLoggerGet_fails (hcount : w.endings = k) (hstands : Stands n w)
    (hfails : restEndpointError env.config = [] → ¬Succeeds env w.taken.rest) :
    wp dataLoggerGet env (fun result w' => result.ok = false ∧ Owing n k w')
      (fun _ w' => Owing n k w') w := by
  have hw : Owing n k w := .inr ⟨hcount, hstands⟩
  simp only [dataLoggerGet, callWithValidation, wp_bind, wp_read]
  by_cases hend : restEndpointError env.config = []
  · rw [validateRestTarget_eq_none hend, wp_performRest]
    have hasked : Owing n k (w.tookRest.said (.restRequest .get)) := hw
    cases hreply : env.rest w.taken.rest with
    | ok result =>
      exact ⟨eq_false_of_ne_true fun hok => hfails hend ⟨result, hreply, hok⟩, hasked⟩
    | error e => exact hasked
  · obtain ⟨error, htarget, hok⟩ := validateRestTarget_fails hend
    rw [htarget]
    exact ⟨hok, hw⟩

theorem requestLoggerState_owing (hw : Unasked n k m w) (contextReason : Bytes) (nowMs : ℤ)
    (hfails : restEndpointError env.config = [] → ¬Succeeds env m) :
    wp (requestLoggerState contextReason nowMs) env
      (fun _ w' => Owing n k w' ∧ (contextReason ≠ [] → Ended (k + 1) w'))
      (fun _ w' => Owing n k w') w := by
  have hended : Respects env (Preserving (Ended (k + 1))) (requestLoggerState contextReason nowMs) :=
    inferInstance
  rcases hw with hw | ⟨hcount, hstands, hnext⟩
  · exact wp_mono (respects_iff_wp.mp hended w) (fun _ _ h => ⟨.inl (h hw), fun _ => h hw⟩)
      fun _ _ h => .inl (h hw)
  subst hnext
  unfold requestLoggerState
  rw [wp_bind]
  refine wp_mono (dataLoggerGet_fails hcount hstands hfails) (fun result w₁ h => ?_) fun _ _ => id
  obtain ⟨hfailed, hw₁⟩ := h
  have hmark : Respects env (Preserving (Unasked n k w₁.taken.rest))
      (markRestResult result contextReason nowMs) := inferInstance
  rw [wp_bind]
  refine wp_mono (respects_iff_wp.mp hmark w₁) (fun _ w₂ h₂ => ?_)
    fun _ _ h₂ => (h₂ hw₁.unasked).owing
  rw [wp_bind]
  exact wp_mono (storeLoggerState_fails (h₂ hw₁.unasked).owing hfailed) (fun _ _ => id)
    fun _ _ => False.elim

/-- A logger command asks for the state first. -/
theorem checkedLoggerCmd_owing {id type : Bytes} {f : LoggerResult → M Unit} (hw : Unasked n k m w)
    (hreason : contextReason ≠ [])
    (hf : ∀ result, Respects env (Preserving (Ended (k + 1))) (f result))
    (hfails : w.conn.connected = true → restEndpointError env.config = [] → ¬Succeeds env m) :
    wp (checkedLoggerCmd id type do f (← requestLoggerState contextReason (← monoNow))) env
      (fun _ w' => Owing n k w') (fun _ w' => Owing n k w') w := by
  have hquiet {x : M Unit} (hx : Respects env (Preserving (Unasked n k m)) x) :
      wp x env (fun _ w' => Owing n k w') (fun _ w' => Owing n k w') w :=
    hx.wp_of fun _ h => (h hw).owing
  unfold checkedLoggerCmd checkedRestEndpoint
  rw [wp_bind, wp_get, wp_ite]
  split_ifs with hoff
  · exact hquiet inferInstance
  rw [wp_bind, wp_read, wp_ite]
  split_ifs with hend
  · exact hquiet inferInstance
  have hanswer := hfails (eq_true_of_ne_false hoff)
  have hread : Unasked n k m w.tookSteady := hw
  rw [wp_bind, wp_monoNow, wp_bind]
  refine wp_mono (requestLoggerState_owing hread _ _ hanswer) (fun result w₁ h => ?_) fun _ _ h => h
  exact (hf result).wp_of fun _ hkept => .inl (hkept (h.2 hreason))

end Replies

/-- The logger is asked for a state while the command is handled. -/
def Admission.Asks : Admission → Prop
  | .refused _ => False
  | .accepted command .. => command ≠ .ping ∧ command ≠ .unknown

/-- The operation asks for the state of the logger and is told it: a success clears `last_error`.
What else it asks for comes behind. -/
def Op.Clears (env : Env) (w : World) (op : Op) : Prop :=
  restEndpointError env.config = [] ∧ Succeeds env w.taken.rest ∧ match op with
    | .ensureConnection now => Due now w ∧ ¬SetupFails env w
    | .handleFront => w.conn.connected = true ∧ ∃ command ∈ w.batch.head?, ∃ root,
      env.parse command.payload = .ok root ∧ (admitParsed root).Asks
    | .restTimer nowMs => 0 < w.timers.nextRestPollMs ∧ w.timers.nextRestPollMs ≤ nowMs
    | .requestLoggerState .. => True
    | _ => False

section Operations

variable {env : Env} {n k m : ℕ} {w : World}

theorem dispatch_owing {admission : Admission} (hw : Unasked n k m w)
    (hfails : admission.Asks → w.conn.connected = true → restEndpointError env.config = [] →
      ¬Succeeds env m) :
    wp (dispatch admission) env (fun _ w' => Owing n k w') (fun _ w' => Owing n k w') w := by
  have hquiet {x : M Unit} (hx : Respects env (Preserving (Unasked n k m)) x) :
      wp x env (fun _ w' => Owing n k w') (fun _ w' => Owing n k w') w :=
    hx.wp_of fun _ h => (h hw).owing
  cases admission with
  | refused ack => exact hquiet (by unfold dispatch; infer_instance)
  | accepted command id type cmd =>
    cases command
    case ping => exact hquiet (by unfold dispatch handlePing; infer_instance)
    case unknown => exact hquiet (by unfold dispatch; infer_instance)
    case loggerStart =>
      refine checkedLoggerCmd_owing hw (by decide) (fun _ => ?_) (hfails ⟨by decide, by decide⟩)
      unfold concludeLoggerStart
      infer_instance
    case loggerStop =>
      refine checkedLoggerCmd_owing hw (by decide) (fun _ => ?_) (hfails ⟨by decide, by decide⟩)
      unfold concludeLoggerStop ackAlreadyStopped
      dsimp only
      infer_instance
    case loggerStatus =>
      refine checkedLoggerCmd_owing hw (by decide) (fun _ => ?_) (hfails ⟨by decide, by decide⟩)
      infer_instance

theorem handleFront_owing (hw : Unasked n k w.taken.rest w)
    (hclears : ¬Op.Clears env w .handleFront) :
    wp handleFront env (fun _ w' => Owing n k w') (fun _ w' => Owing n k w') w := by
  refine handleFront_leaves (fun _ h => h) hw.owing fun command hcommand => ?_
  unfold handleCommandMessage
  rw [wp_bind, wp_read, wp_bind]
  cases hparse : env.parse command.payload with
  | error e => exact hw.owing
  | ok root =>
    rw [wp_liftJson_ok]
    exact dispatch_owing hw fun hasks hconn hend hok =>
      hclears ⟨hend, hok, hconn, command, hcommand, root, hparse, hasks⟩

theorem unasked_after {α β : Type} {x : M α} {f : α → M β} (hw : Unasked n k m w)
    (hx : Respects env (Preserving (Unasked n k m)) x)
    (hf : ∀ a w', Unasked n k m w' →
      wp (f a) env (fun _ w' => Owing n k w') (fun _ w' => Owing n k w') w') :
    wp (x >>= f) env (fun _ w' => Owing n k w') (fun _ w' => Owing n k w') w := by
  rw [wp_bind]
  exact wp_mono (respects_iff_wp.mp hx w) (fun a w' h => hf a w' (h hw)) fun _ _ h => (h hw).owing

/-- The self test asks for the state before it does anything else to the report. -/
theorem startSession_owing (hw : Unasked n k m w)
    (hfails : restEndpointError env.config = [] → ¬Succeeds env m) :
    wp startSession env (fun _ w' => Owing n k w') (fun _ w' => Owing n k w') w := by
  unfold startSession selfTest
  refine unasked_after hw inferInstance fun t w₁ h₁ => ?_
  rw [wp_bind, wp_read]
  refine unasked_after h₁ inferInstance fun _ w₂ h₂ => ?_
  refine unasked_after h₂ inferInstance fun _ w₃ h₃ => ?_
  refine unasked_after h₃ inferInstance fun t' w₄ h₄ => ?_
  refine unasked_after h₄ inferInstance fun _ w₅ h₅ => ?_
  refine unasked_after h₅ inferInstance fun _ w₆ h₆ => ?_
  refine unasked_after h₆ inferInstance fun t'' w₇ h₇ => ?_
  rw [wp_bind]
  refine wp_mono (requestLoggerState_owing h₇ _ _ hfails) (fun _ w₈ h₈ => ?_) fun _ _ h => h
  have hlast : Respects env (Preserving (Unasked n k w₈.taken.rest)) publishStatus := inferInstance
  exact hlast.wp_of fun _ h => (h h₈.1.unasked).owing

theorem connectOnce_owing (hw : Unasked n k m w)
    (hfails : restEndpointError env.config = [] → ¬SetupFails env w → ¬Succeeds env m) :
    wp connectOnce env (fun _ w' => Owing n k w') (fun _ w' => Owing n k w') w := by
  refine wp_connectOnce_of_setup (R := Preserving (Unasked n k m)) (fun w' hkept => ?_)
    fun hsetup w' hkept => ?_
  · exact (hkept hw).owing
  · exact startSession_owing (hkept hw) fun hend => hfails hend hsetup

theorem ensureConnection_owing {now : TimePoint} (hw : Unasked n k w.taken.rest w)
    (hclears : ¬Op.Clears env w (.ensureConnection now)) :
    wp (ensureConnection now) env (fun _ w' => Owing n k w') (fun _ w' => Owing n k w') w := by
  rw [wp_ensureConnection]
  split_ifs with hup hearly
  · exact hw.owing
  · exact hw.owing
  · have hdue : Due now w := ⟨eq_false_of_ne_true hup, Int.not_lt.mp hearly⟩
    have hattempting : Unasked n k w.taken.rest (w.attempting now) := hw
    exact connectOnce_owing hattempting fun hend hsetup hok => hclears ⟨hend, hok, hdue, hsetup⟩

theorem restTimer_owing {nowMs : ℤ} (hw : Unasked n k w.taken.rest w)
    (hclears : ¬Op.Clears env w (.restTimer nowMs)) :
    wp (restTimer nowMs) env (fun _ w' => Owing n k w') (fun _ w' => Owing n k w') w := by
  have hpos := restPollInterval_pos env.config
  simp only [restTimer, setNextRestPoll, wp_bind, wp_get, wp_ite, wp_pure, wp_read, Part.wp_update]
  split_ifs with hunset hdue hdue
  · have hlater : nowMs + env.config.restPollInterval ≤ nowMs := hdue
    omega
  · exact hw.owing
  · have hask := requestLoggerState_owing hw (bytes "poll.timer") nowMs
      fun hend hok => hclears ⟨hend, hok, Int.not_le.mp hunset, hdue⟩
    exact wp_mono hask (fun _ _ h => h.1) fun _ _ h => h
  · exact hw.owing

/-- What no poll and no shutdown does leaves the report alone, or ends it, unless the logger
answers. -/
theorem Op.run_owing {op : Op} (hpoll : ∀ now, op ≠ .pollSensor now) (hshutdown : op ≠ .shutdown)
    (hclears : ¬op.Clears env w) (hw : Owing n k w) : Owing n k (exec op.run env w).2 := by
  have hw := hw.unasked
  cases op
  case pollSensor now => exact absurd rfl (hpoll now)
  case shutdown => exact absurd rfl hshutdown
  case handleFront => exact exec_of_wp (handleFront_owing hw hclears)
  case ensureConnection now => exact exec_of_wp (ensureConnection_owing hw hclears)
  case restTimer nowMs => exact exec_of_wp (restTimer_owing hw hclears)
  case requestLoggerState contextReason nowMs =>
    have hask := requestLoggerState_owing hw contextReason nowMs
      fun hend hok => hclears ⟨hend, hok, trivial⟩
    unfold Op.run
    refine exec_of_wp ?_
    rw [wp_bind]
    exact wp_mono hask (fun _ _ h => h.1) fun _ _ h => h
  all_goals
    refine Unasked.owing (Respects.preserves ?_ hw)
    unfold Op.run
    dsimp only
    infer_instance

end Operations

section Polls

variable {env : Env} {n : ℕ} {w : World}

theorem Stands.of_rx {w' : World} (h : Stands n w) (hrx : w'.rx = w.rx) : Stands n w' := by
  simp only [World.rx, Prod.mk.injEq] at hrx
  obtain ⟨herror, hmarker, -, hok, -⟩ := hrx
  obtain ⟨hreported, hset, hfew⟩ := h
  exact ⟨(congrArg ErrorStatus.lastError herror).trans hreported, hmarker.trans hset, hok ▸ hfew⟩

/-- A late poll below the threshold. -/
theorem handleSensorRxTimeout_stands (h : Stands n w) (recording : Bool) (nowMs : ℤ)
    (hbelow : countUp w.sensor.rxFailStreak < env.config.timeouts.failThreshold) :
    wp (handleSensorRxTimeout recording nowMs) env (fun _ w' => Stands 0 w') (fun _ _ => False)
      w := by
  obtain ⟨hreported, hset, -⟩ := h
  refine wp_handleSensorRxTimeout recording nowMs (fun _ w' hmissed => ?_) (fun hle _ _ _ => ?_)
    fun hle _ _ _ => ?_
  · obtain ⟨herror, hmarker⟩ := hmissed.kept (.inl hbelow)
    refine ⟨herror.trans hreported, hmarker.trans hset, ?_⟩
    rw [hmissed.sensor]
  · omega
  · omega

/-- A late poll that reaches it while the device records. -/
theorem handleSensorRxTimeout_recording (nowMs : ℤ)
    (hreached : env.config.timeouts.failThreshold ≤ countUp w.sensor.rxFailStreak)
    (hstands : w.rxTimeoutErrorActive = false ∨ Reported w) :
    wp (handleSensorRxTimeout true nowMs) env (fun _ w' => Stands 0 w') (fun _ _ => False) w := by
  refine wp_handleSensorRxTimeout true nowMs (fun hlt _ _ => ?_) (fun _ _ w' h => ?_)
    fun _ hrec => absurd hrec.symm Bool.false_ne_true
  · omega
  have hok : w'.sensor.rxOkStreak ≤ 0 := by rw [h.sensor]
  by_cases hmarker : w.rxTimeoutErrorActive = false
  · obtain ⟨hreported, hset⟩ := h.reported hreached hmarker
    exact ⟨hreported, hset, hok⟩
  · have hset := eq_true_of_ne_false hmarker
    obtain ⟨herror, hkept⟩ := h.kept (.inr hset)
    exact ⟨herror.trans (hstands.resolve_left hmarker), hkept.trans hset, hok⟩

/-- Only the last of enough polls in time clears the report. -/
theorem handleSensorRxRecovered_stands (h : Stands n w) (nowMs : ℤ)
    (hfew : (n + 1 : ℤ) < env.config.timeouts.okThreshold) :
    wp (handleSensorRxRecovered nowMs) env (fun _ w' => Stands (n + 1) w') (fun _ _ => False) w := by
  obtain ⟨hreported, hset, hin⟩ := h
  have hcount : countUp w.sensor.rxOkStreak ≤ n + 1 := by
    unfold countUp
    split <;> omega
  simp only [handleSensorRxRecovered, wp_bind, wp_read, Part.wp_update, wp_emit, wp_get, wp_ite]
  generalize hw₁ : World.said _ (.linkAlive nowMs) = w₁
  have h₁ : Stands (n + 1) w₁ := by
    rw [← hw₁]
    exact ⟨hreported, hset, hcount⟩
  have hin₁ := h₁.2.2
  rw [if_neg fun hclear => by omega]
  simp only [wp_updateLinkHealth]
  exact h₁

/-- A poll that fails leaves its own error. -/
theorem failedPoll_ends {k : ℕ} (hw : Ended k w) (err : Option Bytes) :
    wp (do
      atSensor.update fun l => { l with rxFailStreak := 0, rxOkStreak := 0 }
      clearRxTimeoutError
      handleSensorError (err.getD [])
      return) env (fun _ w' => Ended (k + 1) w') (fun _ w' => Ended (k + 1) w') w := by
  have hclear : Respects env (Preserving (Ended k)) clearRxTimeoutError := inferInstance
  have hclose : Respects env (Preserving (Ended (k + 1))) handleSensorDisconnect := inferInstance
  rw [wp_bind, Part.wp_update, wp_bind]
  refine wp_mono (hclear.returns inferInstance _) (fun _ w₁ h₁ => ?_) fun _ _ => False.elim
  unfold handleSensorError
  rw [wp_bind, wp_bind]
  refine wp_mono (setError_ends env (h₁ hw) _) (fun _ w₂ h₂ => ?_) fun _ _ => False.elim
  exact hclose.wp_of fun _ h => h h₂

end Polls

/-- What is owed after a step: `some n` if a report is, with `n` polls in a row in time since. A
`set_error` or a UDP session that opens ends it, and so do enough polls in time. -/
def noteReport (platform : Platform) (s : Step) (w w' : World) (owed : Option ℕ) : Option ℕ :=
  let left := if w.endings < w'.endings then none else owed
  match s.op with
  | .pollSensor now =>
    match pollVerdict ⟨platform, s.inputs⟩ now w with
    | .inTime => owed.bind fun n =>
      if platform.config.timeouts.okThreshold ≤ n + 1 then none else some (n + 1)
    | .late =>
      if platform.config.timeouts.failThreshold ≤ countUp w.sensor.rxFailStreak then some 0
      else owed.map fun _ => 0
    | _ => left
  | _ => left

def watchReports (platform : Platform) : Step → World × Option ℕ → Except Exn Unit × (World × Option ℕ) :=
  monitored (execStep platform) (noteReport platform)

/-- A report that is owed stands. -/
def ReportsOwed (p : World × Option ℕ) : Prop := p.2 ≠ none → Reported p.1

/-- The step reports what it has to, and does not take back what is owed. -/
def Step.KeepsReports (platform : Platform) (s : Step) (p : World × Option ℕ) : Prop :=
  match s.op with
  | .pollSensor now =>
    (Overdue ⟨platform, s.inputs⟩ now p.1 → ReportStands p.1) ∧
      (p.2 ≠ none → pollVerdict ⟨platform, s.inputs⟩ now p.1 ≠ .deferred)
  | .shutdown => p.2 ≠ none → p.1.sensor.sensorConnected = false
  | op => p.2 ≠ none → ¬op.Clears ⟨platform, s.inputs⟩ p.1

/-- The report that is owed stands with its marker. -/
def ReportsStand (p : World × Option ℕ) : Prop := ∀ n, p.2 = some n → Stands n p.1

/-- What is left of a report that was owed. -/
theorem reportsStand_left {w w' : World} {owed : Option ℕ}
    (h : ∀ n, owed = some n → Owing n w.endings w') :
    ReportsStand (w', if w.endings < w'.endings then none else owed) := by
  intro n hn
  obtain ⟨hsame, howed⟩ := Option.ite_none_left_eq_some.mp hn
  rcases h n howed with hended | ⟨-, hstands⟩
  · exact absurd hended hsame
  · exact hstands

theorem pollSensor_keeps {platform : Platform} {inputs : Inputs} {now : TimePoint} {w : World}
    {owed : Option ℕ} (hw : ReportsStand (w, owed))
    (hreport : Overdue ⟨platform, inputs⟩ now w → ReportStands w)
    (hdeferred : owed ≠ none → pollVerdict ⟨platform, inputs⟩ now w ≠ .deferred) :
    let w' := (exec (pollSensor now) ⟨platform, inputs⟩ w).2
    ReportsStand (w', noteReport platform ⟨.pollSensor now, inputs⟩ w w' owed) := by
  intro w'
  refine exec_of_wp (I := fun w' => ReportsStand (w', noteReport platform _ w w' owed)) ?_
  unfold noteReport
  dsimp only
  have hpoll : Respects ⟨platform, inputs⟩ (Keeping World.rx) sessionPoll := inferInstance
  refine wp_pollSensor hpoll (fun hverdict => ?_) (fun hverdict => ?_)
    (fun hverdict err w₁ (hrx : w₁.rx = w.rx) => ?_)
    (fun hverdict w₁ (hrx : w₁.rx = w.rx) => ?_) fun hverdict w₁ (hrx : w₁.rx = w.rx) => ?_
  all_goals rw [hverdict]
  all_goals dsimp only
  · exact reportsStand_left fun n howed => .inr ⟨rfl, hw n howed⟩
  · have hnone : owed = none := by
      by_contra howed
      exact hdeferred howed hverdict
    subst hnone
    exact wp_of_forall (fun _ _ => reportsStand_left nofun) fun _ _ => reportsStand_left nofun
  · have hcount : w₁.endings = w.endings := congrArg (fun r => r.2.2.2.2) hrx
    exact wp_mono (failedPoll_ends hcount.ge err) (fun _ _ h => reportsStand_left fun _ _ => .inl h)
      fun _ _ h => reportsStand_left fun _ _ => .inl h
  · cases owed with
    | none => exact wp_of_forall (fun _ _ => nofun) fun _ _ => nofun
    | some n =>
      rw [Option.bind_some]
      split_ifs with hmany
      · exact wp_of_forall (fun _ _ => nofun) fun _ _ => nofun
      · have hstands : Stands n w₁ := (hw n rfl).of_rx hrx
        refine wp_mono (handleSensorRxRecovered_stands hstands (monoMs now) (Int.not_le.mp hmany))
          (fun _ w' h m hm => ?_) fun _ _ => False.elim
        exact Option.some.inj hm ▸ h
  · have hstreak : w₁.sensor.rxFailStreak = w.sensor.rxFailStreak := congrArg (fun r => r.2.2.1) hrx
    rw [← hstreak]
    split_ifs with hreached
    · obtain ⟨hrec, hstands⟩ := hreport ⟨hverdict, hstreak ▸ hreached⟩
      have hstands₁ : w₁.rxTimeoutErrorActive = false ∨ Reported w₁ := by
        unfold Reported
        rw [show w₁.rxTimeoutErrorActive = w.rxTimeoutErrorActive from congrArg (fun r => r.2.1) hrx,
          show w₁.status.lastError = w.status.lastError from congrArg (fun r => r.1.lastError) hrx]
        exact hstands
      rw [hrec]
      refine wp_mono (handleSensorRxTimeout_recording (monoMs now) hreached hstands₁)
        (fun _ w' h m hm => ?_) fun _ _ => False.elim
      exact Option.some.inj hm ▸ h
    · cases owed with
      | none => exact wp_of_forall (fun _ _ => nofun) fun _ _ => nofun
      | some n =>
        have hstands : Stands n w₁ := (hw n rfl).of_rx hrx
        refine wp_mono (handleSensorRxTimeout_stands hstands w.recording (monoMs now)
          (Int.not_le.mp hreached)) (fun _ w' h m hm => ?_) fun _ _ => False.elim
        exact Option.some.inj hm ▸ h

/-- Without a sensor to give up, leaving the loop keeps the report. -/
theorem shutdown_rx {env : Env} {w : World} (hsensor : w.sensor.sensorConnected = false) :
    (exec shutdown env w).2.rx = w.rx := by
  have hclosing : Respects env (Keeping World.rx) (do
      if (← get).conn.connected then
        publishPresence false (bytes "shutdown")
        publishStatus
        disconnect) := inferInstance
  refine exec_of_wp (I := fun w' : World => w'.rx = w.rx) ?_
  unfold shutdown
  rw [wp_bind, wp_get]
  dsimp only
  rw [wp_ite, if_neg (by simp [hsensor])]
  exact respects_iff_wp.mp hclosing w

theorem execStep_keepsReports {platform : Platform} {s : Step} {p : World × Option ℕ}
    (hs : s.KeepsReports platform p) (hp : ReportsStand p) :
    ReportsStand (watchReports platform s p).2 := by
  obtain ⟨op, inputs⟩ := s
  obtain ⟨w, owed⟩ := p
  have hrun (hpoll : ∀ now, op ≠ .pollSensor now) (hshutdown : op ≠ .shutdown)
      (hclears : owed ≠ none → ¬op.Clears ⟨platform, inputs⟩ w) :
      let w' := (exec op.run ⟨platform, inputs⟩ w).2
      ReportsStand (w', if w.endings < w'.endings then none else owed) := by
    intro w'
    refine reportsStand_left fun n howed => ?_
    have hquiet := hclears (by rw [howed]; exact Option.some_ne_none n)
    exact Op.run_owing hpoll hshutdown hquiet (.inr ⟨rfl, hp n howed⟩)
  cases op
  case pollSensor now => exact pollSensor_keeps hp hs.1 hs.2
  case shutdown =>
    refine reportsStand_left fun n howed => .inr ?_
    have hrx : (exec shutdown ⟨platform, inputs⟩ w).2.rx = w.rx :=
      shutdown_rx (hs (by rw [show owed = some n from howed]; exact Option.some_ne_none n))
    exact ⟨congrArg (fun r => r.2.2.2.2) hrx, (hp n howed).of_rx hrx⟩
  all_goals exact hrun (fun _ => Op.noConfusion) Op.noConfusion hs

/-- A late poll that reaches the threshold reports it exactly if its report is not taken back at
once. In every run whose steps take back no report that is owed, every such report stands. -/
theorem rx_timeout_reported (platform : Platform) :
    (∀ (inputs : Inputs) (now : TimePoint) (w : World), Overdue ⟨platform, inputs⟩ now w →
      (Reported (exec (pollSensor now) ⟨platform, inputs⟩ w).2 ↔ ReportStands w)) ∧
    ∀ (inputs : Inputs) (steps : List Step),
      AllSteps (watchReports platform) (Step.KeepsReports platform) steps
        (initialWorld platform.config inputs, none) →
      ReportsOwed (execAll (watchReports platform) steps
        (initialWorld platform.config inputs, none)).2 := by
  constructor
  · intro inputs now w hover
    let Q (w' : World) : Prop := Reported w' ↔ ReportStands w
    exact exec_of_wp (I := Q) (wp_mono (pollSensor_reports_iff hover) (fun _ _ => id)
      fun _ _ => False.elim)
  · intro inputs steps hsteps howed
    have hstand : ReportsStand (execAll (watchReports platform) steps
        (initialWorld platform.config inputs, none)).2 :=
      execAll_invariant (watchReports platform) (fun _ _ => execStep_keepsReports) hsteps nofun
    obtain ⟨n, hn⟩ := Option.ne_none_iff_exists'.mp howed
    exact (hstand n hn).1

/-- A connection with a session that falls silent for six seconds; `polls` polls find out. -/
def benchSilentSteps (polls : ℕ) (inputs : Inputs) : List Step :=
  [⟨.ensureConnection (milliseconds 1000), inputs⟩, ⟨.ensureSensorSession (milliseconds 1000), inputs⟩] ++
    List.replicate polls ⟨.pollSensor (milliseconds 7000), inputs⟩

def benchSilent (polls : ℕ) (inputs : Inputs) : World :=
  (execSteps benchPlatform (benchSilentSteps polls inputs)
    (initialWorld benchPlatform.config inputs)).2

/-- A device that records. -/
def benchRecording : Inputs := benchInputs fun _ => benchFlag true

theorem rx_timeout_reported_recording : ReportsOwed (execAll (watchReports benchPlatform)
    (benchSilentSteps 3 benchRecording) (initialWorld benchPlatform.config benchRecording, none)).2 := by
  refine (rx_timeout_reported benchPlatform).2 benchRecording _ ?_
  have hpoll {p : World × Option ℕ} (hstands : ReportStands p.1) (howed : p.2 = none) :
      Step.KeepsReports benchPlatform ⟨.pollSensor (milliseconds 7000), benchRecording⟩ p :=
    ⟨fun _ => hstands, fun h => absurd howed h⟩
  refine .cons _ (fun h => absurd rfl h) (.cons _ (fun h => absurd ?_ h) (.cons _ (hpoll ?_ ?_)
    (.cons _ (hpoll ?_ ?_) (.cons _ (hpoll ?_ ?_) trivial))))
  all_goals decide +kernel

/-- Without a recording the report is taken back in the step that makes it; with one, by the next
reply of the logger. -/
theorem rx_timeout_unreported :
    (benchSilent 2 benchHealthy).conn.connected = true ∧
    Overdue ⟨benchPlatform, benchHealthy⟩ (milliseconds 7000) (benchSilent 2 benchHealthy) ∧
    ¬Reported (benchSilent 3 benchHealthy) ∧
    Overdue ⟨benchPlatform, benchRecording⟩ (milliseconds 7000) (benchSilent 2 benchRecording) ∧
    ¬Reported (exec (restTimer 7000) ⟨benchPlatform, benchRecording⟩
      (benchSilent 3 benchRecording)).2 := by
  decide +kernel

end Ironsoft.Ekinox
