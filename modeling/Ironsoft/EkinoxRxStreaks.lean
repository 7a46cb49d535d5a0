import Ironsoft.EkinoxPolls
import Ironsoft.StreakModel

/-!
# Rx streaks

The streaks of one UDP session count the polls that were late and those that were in time, and
they decide when the session is given up.
-/
namespace Ironsoft.Ekinox
open Effect StreakModel

set_option synthInstance.maxSize 400000
set_option synthInstance.maxHeartbeats 200000

/-- What the streaks have to do with the session. -/
structure RxLink where
  sensorConnected : Bool
  reconnectNeeded : Bool
  streaks : Streaks

def World.rxLink (w : World) : RxLink where
  sensorConnected := w.sensor.sensorConnected
  reconnectNeeded := w.sensor.sensorReconnectNeeded
  streaks := ⟨w.sensor.rxFailStreak, w.sensor.rxOkStreak⟩

def RxLink.closed : RxLink := ⟨false, false, ⟨0, 0⟩⟩

/-- A reconnect is deferred only while there is a session. -/
def Undeferred (w : World) : Prop :=
  w.rxLink.reconnectNeeded = true → w.rxLink.sensorConnected = true

instance : IgnoresReadings (Keeping World.rxLink) :=
  ⟨fun _ => rfl, fun _ => rfl, fun _ => rfl, fun _ => rfl, fun _ => rfl⟩
instance : IgnoresLastRx (Keeping World.rxLink) := ⟨fun _ _ => rfl⟩
instance (e : Event) : Emits (Keeping World.rxLink) e := ⟨fun _ => rfl⟩
instance : atError.Ignored (Keeping World.rxLink) := ⟨fun _ _ => rfl⟩
instance : atMarker.Ignored (Keeping World.rxLink) := ⟨fun _ _ => rfl⟩

instance : IgnoresReadings (Preserving Undeferred) :=
  ⟨fun _ => id, fun _ => id, fun _ => id, fun _ => id, fun _ => id⟩
instance : IgnoresReplies (Preserving Undeferred) := ⟨fun _ => id⟩
instance : IgnoresLastRx (Preserving Undeferred) := ⟨fun _ _ => id⟩
instance (e : Event) : Emits (Preserving Undeferred) e := ⟨fun _ => id⟩
instance : atLink.Ignored (Preserving Undeferred) := ⟨fun _ _ => id⟩
instance : atLogger.Ignored (Preserving Undeferred) := ⟨fun _ _ => id⟩
instance : atError.Ignored (Preserving Undeferred) := ⟨fun _ _ => id⟩
instance : atMarker.Ignored (Preserving Undeferred) := ⟨fun _ _ => id⟩
instance : atRetry.Ignored (Preserving Undeferred) := ⟨fun _ _ => id⟩
instance : atPresence.Ignored (Preserving Undeferred) := ⟨fun _ _ => id⟩
instance : atConn.Ignored (Preserving Undeferred) := ⟨fun _ _ => id⟩
instance : atRest.Ignored (Preserving Undeferred) := ⟨fun _ _ => id⟩
instance : atTimers.Ignored (Preserving Undeferred) := ⟨fun _ _ => id⟩
instance : atPending.Ignored (Preserving Undeferred) := ⟨fun _ _ => id⟩
instance : atBatch.Ignored (Preserving Undeferred) := ⟨fun _ _ => id⟩

section Operations

variable (env : Env)

instance (f : UdpSession → UdpSession) : Respects env (Keeping World.rxLink) (modifySession f) :=
  ⟨fun _ => rfl⟩

instance : Respects env (Keeping World.rxLink) sessionClose := by
  unfold sessionClose
  infer_instance

theorem handleSensorDisconnect_rx (w : World) :
    wp handleSensorDisconnect env (fun _ w' => w'.rxLink = .closed) (fun _ _ => False) w := by
  refine wp_mono (handleSensorDisconnect_givesUp env w) (fun _ w' h => ?_) fun _ _ => id
  rw [World.rxLink, h.sensorConnected, h.reconnectNeeded, h.rxFailStreak, h.rxOkStreak]
  rfl

/-- The streaks after one more poll. -/
def RxLink.polled (config : EkinoxConfig) (v : RxLink) (late : Bool) : Streaks :=
  v.streaks.mark intMax config.timeouts.okThreshold.toNat late

/-- An in time poll. -/
def RxLink.recovered (config : EkinoxConfig) (v : RxLink) : RxLink :=
  ⟨v.sensorConnected, false, v.polled config false⟩

/-- A late poll. -/
def RxLink.missed (config : EkinoxConfig) (v : RxLink) (recording : Bool) : RxLink :=
  if config.timeouts.failThreshold.toNat ≤ (v.polled config true).fails then
    if recording then ⟨v.sensorConnected, true, v.polled config true⟩ else .closed
  else ⟨v.sensorConnected, v.reconnectNeeded, v.polled config true⟩

theorem handleSensorRxRecovered_rx (nowMs : ℤ) (w : World) :
    wp (handleSensorRxRecovered nowMs) env (fun _ w' => w'.rxLink = w.rxLink.recovered env.config)
      (fun _ _ => False) w := by
  have hclear : Respects env (Keeping World.rxLink) clearRxTimeoutError := by
    unfold clearRxTimeoutError
    infer_instance
  have hoks : (w.rxLink.polled env.config false).oks = countUp w.sensor.rxOkStreak := rfl
  have hfails : (w.rxLink.polled env.config false).fails =
      if env.config.timeouts.okThreshold.toNat ≤ countUp w.sensor.rxOkStreak then 0
      else w.sensor.rxFailStreak := rfl
  have hend {w₁ : World} (hs : w₁.rxLink.sensorConnected = w.rxLink.sensorConnected)
      (ho : w₁.rxLink.streaks = w.rxLink.polled env.config false) :
      RxLink.mk w₁.rxLink.sensorConnected false w₁.rxLink.streaks = w.rxLink.recovered env.config := by
    rw [hs, ho]
    rfl
  simp only [handleSensorRxRecovered, wp_bind, wp_read, Part.wp_update, wp_emit, wp_get, wp_ite,
    wp_updateLinkHealth]
  split_ifs with hclears
  · refine wp_mono (hclear.returns inferInstance _) (fun _ w₁ h₁ => ?_) fun _ _ => id
    have hlink : w₁.rxLink = ⟨w.sensor.sensorConnected, w.sensor.sensorReconnectNeeded,
        ⟨0, countUp w.sensor.rxOkStreak⟩⟩ := h₁
    have hle : env.config.timeouts.okThreshold.toNat ≤ countUp w.sensor.rxOkStreak :=
      Int.toNat_le.mpr hclears.1
    rw [if_pos hle] at hfails
    apply hend
    · rw [hlink]
      rfl
    · rw [hlink, ← hfails, ← hoks]
  · have hstreaks : Streaks.mk w.sensor.rxFailStreak (countUp w.sensor.rxOkStreak) =
        w.rxLink.polled env.config false := by
      by_cases hle : env.config.timeouts.okThreshold.toNat ≤ countUp w.sensor.rxOkStreak
      · have hzero : w.sensor.rxFailStreak = 0 := by
          by_contra hne
          exact hclears ⟨Int.toNat_le.mp hle, hne⟩
        rw [if_pos hle] at hfails
        rw [hzero, ← hfails, ← hoks]
      · rw [if_neg hle] at hfails
        rw [← hfails, ← hoks]
    exact (congrArg (RxLink.mk w.sensor.sensorConnected false) hstreaks)

theorem handleSensorRxTimeout_rx (recording : Bool) (nowMs : ℤ) (w : World) :
    wp (handleSensorRxTimeout recording nowMs) env
      (fun _ w' => w'.rxLink = w.rxLink.missed env.config recording) (fun _ _ => False) w := by
  have hfails : (w.rxLink.polled env.config true).fails = countUp w.sensor.rxFailStreak := rfl
  have hlink {w' : World} (h : Missed env w w') : w'.rxLink =
      ⟨w.sensor.sensorConnected, w.sensor.sensorReconnectNeeded, w.rxLink.polled env.config true⟩ := by
    rw [World.rxLink, h.sensor]
    rfl
  refine wp_handleSensorRxTimeout recording nowMs (fun hlt w' h => ?_) (fun hle hrec w' h => ?_)
    fun hle hrec w' _ => ?_
  · rw [RxLink.missed, hfails, if_neg fun hle => Int.not_le.mpr hlt (Int.toNat_le.mp hle)]
    exact hlink h
  · rw [RxLink.missed, hfails, if_pos (Int.toNat_le.mpr hle), if_pos hrec]
    change RxLink.mk w'.rxLink.sensorConnected true w'.rxLink.streaks = _
    rw [hlink h]
    rfl
  · rw [RxLink.missed, hfails, if_pos (Int.toNat_le.mpr hle), if_neg (hrec ▸ Bool.false_ne_true)]
    exact handleSensorDisconnect_rx env w'

/-- What a poll leaves, by its verdict. -/
def RxLink.after (config : EkinoxConfig) (v : RxLink) (recording : Bool) : PollVerdict → RxLink
  | .idle => v
  | .deferred => .closed
  | .failed => .closed
  | .inTime => v.recovered config
  | .late => v.missed config recording

theorem handleSensorError_rx (reason : Bytes) (w : World) :
    wp (handleSensorError reason) env (fun _ w' => w'.rxLink = .closed) (fun _ _ => False) w := by
  simp only [handleSensorError, setError, wp_emit, wp_bind, wp_unixTs, Part.wp_update]
  exact handleSensorDisconnect_rx env _

theorem pollSensor_rx (now : TimePoint) (w : World) :
    wp (pollSensor now) env
      (fun _ w' => w'.rxLink = w.rxLink.after env.config w.recording (pollVerdict env now w))
      (fun _ _ => False) w := by
  have hpoll : Respects env (Keeping World.rxLink) sessionPoll := inferInstance
  apply wp_pollSensor hpoll
  · intro hv
    rw [hv]
    rfl
  · intro hv
    rw [hv]
    exact handleSensorDisconnect_rx env _
  · intro hv err w₁ _
    have hclear : Throws env (fun _ => False) clearRxTimeoutError := inferInstance
    rw [hv]
    simp only [wp_bind, Part.wp_update]
    refine wp_mono (hclear.only _) (fun _ w₂ _ => ?_) fun _ _ => id
    rw [wp_bind]
    exact handleSensorError_rx env err w₂
  · intro hv w₁ h₁
    have hlink : w₁.rxLink = w.rxLink := h₁
    rw [hv]
    refine wp_mono (handleSensorRxRecovered_rx env _ w₁) (fun _ w₂ h₂ => ?_) fun _ _ => id
    rw [h₂, hlink]
    rfl
  · intro hv w₁ h₁
    have hlink : w₁.rxLink = w.rxLink := h₁
    rw [hv]
    refine wp_mono (handleSensorRxTimeout_rx env _ _ w₁) (fun _ w₂ h₂ => ?_) fun _ _ => id
    rw [h₂, hlink]
    rfl

instance (f : UdpSession → UdpSession) : Respects env (Preserving Undeferred) (modifySession f) :=
  ⟨fun _ => id⟩

instance (alive : Bool) : Respects env (Preserving Undeferred) (setUdpLinkAlive alive) := by
  have hset : Respects env (Preserving Undeferred)
      (atSensor.update fun l => { l with udpLinkAlive := alive } : M Unit) := ⟨fun _ => id⟩
  unfold setUdpLinkAlive
  infer_instance

instance : Respects env (Preserving Undeferred) sessionClose := by
  unfold sessionClose
  infer_instance

theorem undeferred_of_closed {w : World} (h : w.rxLink = .closed) : Undeferred w := by
  intro hneeded
  rw [h] at hneeded
  exact absurd hneeded Bool.false_ne_true

instance : Respects env (Preserving Undeferred) handleSensorDisconnect :=
  ⟨fun w _ => exec_of_wp
    (wp_mono (handleSensorDisconnect_rx env w) (fun _ _ h => undeferred_of_closed h)
      fun _ _ => False.elim)⟩

instance (nextRestPollMs : ℤ) : Respects env (Preserving Undeferred) (resetSession nextRestPollMs) := by
  have hsensor : Respects env (Preserving Undeferred) (atSensor.update fun l =>
      { l with udpLinkAlive := false, sensorReconnectNeeded := false } : M Unit) :=
    ⟨fun _ _ h => absurd h Bool.false_ne_true⟩
  unfold resetSession
  infer_instance

instance : Respects env (Preserving Undeferred) connectionLost := by
  have hsensor : Respects env (Preserving Undeferred) (atSensor.update fun l =>
      { l with sensorConnected := false, sensorReconnectNeeded := false } : M Unit) :=
    ⟨fun _ _ h => absurd h Bool.false_ne_true⟩
  unfold connectionLost
  infer_instance

instance (now : TimePoint) : Respects env (Preserving Undeferred) (ensureSensorSessionSbg now) := by
  have hattempt (t : Option TimePoint) : Respects env (Preserving Undeferred)
      (atSensor.update fun l => { l with nextSensorAttempt := t } : M Unit) := ⟨fun _ => id⟩
  have hopened : Respects env (Preserving Undeferred) (atSensor.update fun l =>
      { l with sensorConnected := true, rxFailStreak := 0, rxOkStreak := 0 } : M Unit) :=
    ⟨fun _ _ _ => rfl⟩
  have hopen : Respects env (Preserving Undeferred) sessionOpen := by
    unfold sessionOpen
    dsimp only
    infer_instance
  unfold ensureSensorSessionSbg
  dsimp only
  infer_instance

theorem RxLink.after_undeferred {config : EkinoxConfig} {v : RxLink} (recording : Bool)
    (verdict : PollVerdict) (hv : v.sensorConnected = true) :
    (v.after config recording verdict).reconnectNeeded = true →
      (v.after config recording verdict).sensorConnected = true := by
  have hclosed : RxLink.closed.reconnectNeeded = true → RxLink.closed.sensorConnected = true := id
  cases verdict
  case late =>
    simp only [RxLink.after, RxLink.missed]
    split_ifs
    · exact fun _ => hv
    · exact hclosed
    · exact fun _ => hv
  case deferred => exact hclosed
  case failed => exact hclosed
  all_goals exact fun _ => hv

instance (now : TimePoint) : Respects env (Preserving Undeferred) (pollSensor now) := by
  refine ⟨fun w hw => exec_of_wp ?_⟩
  refine wp_mono (pollSensor_rx env now w) (fun _ w' h => ?_) fun _ _ => False.elim
  unfold Undeferred
  rw [h]
  by_cases hsensor : w.sensor.sensorConnected = false
  · rw [pollVerdict, if_pos hsensor]
    exact hw
  · exact RxLink.after_undeferred _ _ (eq_true_of_ne_false hsensor)

theorem Op.run_undeferred (hsbg : env.hasSbg = true) (op : Op) :
    Respects env (Preserving Undeferred) op.run := by
  have hsession (now : TimePoint) :
      Respects env (Preserving Undeferred) (Ekinox.ensureSensorSession now) := by
    unfold Ekinox.ensureSensorSession
    apply Respects.of_read
    rw [if_pos hsbg]
    infer_instance
  cases op
  all_goals
    unfold Op.run
    dsimp only
    infer_instance

end Operations

structure PollMark where
  recording : Bool
  late : Bool

/-- The late polls since the last point at which enough polls in a row had been in time. -/
def lateSince (config : EkinoxConfig) (marks : List PollMark) : ℕ :=
  badSince config.timeouts.okThreshold.toNat (marks.map PollMark.late)

/-- A late poll has reached the threshold during a recording, and none has been in time since. -/
def Deferred (config : EkinoxConfig) (marks : List PollMark) : Prop :=
  ∃ later mark older, marks = later ++ mark :: older ∧
    mark.late = true ∧ mark.recording = true ∧
    config.timeouts.failThreshold ≤ lateSince config (mark :: older) ∧
    ∀ m ∈ later, m.late = true

/-- The session is given up by a poll that starts with a deferred reconnect, or that is late and
reaches the threshold, if nothing is recorded. -/
def GivesUp (config : EkinoxConfig) (marks : List PollMark) (recording : Bool)
    (verdict : PollVerdict) : Prop :=
  recording = false ∧ (Deferred config marks ∨
    verdict = .late ∧ config.timeouts.failThreshold ≤ lateSince config (⟨false, true⟩ :: marks))

/-- The polls of a session that has been opened in some run, newest first. What they leave of the
streaks and the session is there at the next poll, and all the rest may have changed. -/
inductive SessionRun (platform : Platform) : List PollMark → World → Prop
  | opened {inputs₀ inputs : Inputs} {steps : List Step} {now : TimePoint} {w : World}
      (hw : w = (execSteps platform steps (initialWorld platform.config inputs₀)).2)
      (hclosed : w.sensor.sensorConnected = false)
      (hopen : (exec (ensureSensorSession now) ⟨platform, inputs⟩ w).2.sensor.sensorConnected = true) :
      SessionRun platform [] (exec (ensureSensorSession now) ⟨platform, inputs⟩ w).2
  | inTime {marks : List PollMark} {inputs : Inputs} {now : TimePoint} {w v : World}
      (hrun : SessionRun platform marks w) (hv : v.rxLink = w.rxLink)
      (hverdict : pollVerdict ⟨platform, inputs⟩ now v = .inTime) :
      SessionRun platform (⟨v.recording, false⟩ :: marks)
        (exec (pollSensor now) ⟨platform, inputs⟩ v).2
  | late {marks : List PollMark} {inputs : Inputs} {now : TimePoint} {w v : World}
      (hrun : SessionRun platform marks w) (hv : v.rxLink = w.rxLink)
      (hverdict : pollVerdict ⟨platform, inputs⟩ now v = .late) :
      SessionRun platform (⟨v.recording, true⟩ :: marks)
        (exec (pollSensor now) ⟨platform, inputs⟩ v).2

section Marks

variable {config : EkinoxConfig} {marks : List PollMark} {mark : PollMark}

theorem not_deferred_nil : ¬Deferred config [] := by
  rintro ⟨later, mark, older, h, -⟩
  cases later <;> cases h

theorem not_deferred_inTime (h : mark.late = false) : ¬Deferred config (mark :: marks) := by
  rintro ⟨later, m, older, heq, hlate, -, -, hall⟩
  have hmark : mark.late = true := by
    cases later with
    | nil =>
      cases heq
      exact hlate
    | cons m' later =>
      cases heq
      exact hall _ (List.mem_cons_self ..)
  rw [h] at hmark
  exact absurd hmark Bool.false_ne_true

theorem deferred_late (h : mark.late = true) :
    Deferred config (mark :: marks) ↔ Deferred config marks ∨
      mark.recording = true ∧ config.timeouts.failThreshold ≤ lateSince config (mark :: marks) := by
  constructor
  · rintro ⟨later, m, older, heq, hlate, hrec, hreached, hall⟩
    cases later with
    | nil =>
      cases heq
      exact .inr ⟨hrec, hreached⟩
    | cons m' later =>
      cases heq
      exact .inl ⟨later, m, older, rfl, hlate, hrec, hreached,
        fun m hm => hall m (List.mem_cons_of_mem _ hm)⟩
  · rintro (⟨later, m, older, rfl, hlate, hrec, hreached, hall⟩ | ⟨hrec, hreached⟩)
    · refine ⟨mark :: later, m, older, rfl, hlate, hrec, hreached, fun m' hm => ?_⟩
      rcases List.mem_cons.mp hm with rfl | hm
      · exact h
      · exact hall m' hm
    · exact ⟨[], mark, marks, rfl, h, hrec, hreached, fun _ hm => absurd hm List.not_mem_nil⟩

theorem threshold_le_intMax (threshold : Int32) : max 1 threshold.toInt ≤ (intMax : ℤ) := by
  have hlt := threshold.toInt_lt
  unfold intMax
  omega

theorem failThreshold_le_min {n : ℕ} : config.timeouts.failThreshold.toNat ≤ min n intMax ↔
    config.timeouts.failThreshold ≤ n := by
  have hmax : config.timeouts.failThreshold ≤ intMax := threshold_le_intMax _
  rw [Int.toNat_le]
  omega

/-- What an open session holds after its polls. -/
structure RxLink.Follows (config : EkinoxConfig) (marks : List PollMark) (v : RxLink) : Prop where
  connected : v.sensorConnected = true
  deferred : v.reconnectNeeded = true ↔ Deferred config marks
  streaks : v.streaks = ⟨min (lateSince config marks) intMax,
    min (trailing (marks.map PollMark.late)) intMax⟩

theorem RxLink.follows_opened (needed : Bool) (h : needed = false) :
    RxLink.Follows config [] ⟨true, needed, ⟨0, 0⟩⟩ :=
  ⟨rfl, ⟨fun hn => absurd (h.symm.trans hn) Bool.false_ne_true, fun hd => absurd hd not_deferred_nil⟩,
    rfl⟩

variable {v : RxLink}

theorem RxLink.Follows.polled (h : v.Follows config marks) (mark : PollMark) :
    v.polled config mark.late = ⟨min (lateSince config (mark :: marks)) intMax,
      min (trailing ((mark :: marks).map PollMark.late)) intMax⟩ := by
  have hmax : config.timeouts.okThreshold ≤ intMax := threshold_le_intMax _
  have hpos : 0 < config.timeouts.okThreshold.toNat := by
    unfold EkinoxTimeouts.okThreshold
    omega
  have hcap : config.timeouts.okThreshold.toNat ≤ intMax := by omega
  unfold RxLink.polled
  rw [h.streaks]
  exact mark_counts hpos hcap (marks.map PollMark.late) mark.late

theorem RxLink.Follows.recovered (h : v.Follows config marks) (recording : Bool) :
    (v.recovered config).Follows config (⟨recording, false⟩ :: marks) := by
  refine ⟨h.connected, ?_, h.polled ⟨recording, false⟩⟩
  constructor
  · intro hn
    exact absurd hn Bool.false_ne_true
  · intro hd
    exact absurd hd (not_deferred_inTime rfl)

/-- A late poll that leaves the session open. -/
theorem RxLink.Follows.missed (h : v.Follows config marks) (recording : Bool)
    (hstays : (v.missed config recording).sensorConnected = true) :
    (v.missed config recording).Follows config (⟨recording, true⟩ :: marks) := by
  have hstreaks := h.polled ⟨recording, true⟩
  have hfails : (v.polled config true).fails =
      min (lateSince config (⟨recording, true⟩ :: marks)) intMax := congrArg Streaks.fails hstreaks
  unfold RxLink.missed at hstays ⊢
  rw [hfails] at hstays ⊢
  by_cases hreached : config.timeouts.failThreshold.toNat ≤
      min (lateSince config (⟨recording, true⟩ :: marks)) intMax
  · rw [if_pos hreached] at hstays ⊢
    cases recording with
    | false => exact absurd hstays Bool.false_ne_true
    | true =>
      have hdeferred : Deferred config (⟨true, true⟩ :: marks) :=
        (deferred_late rfl).mpr (.inr ⟨rfl, failThreshold_le_min.mp hreached⟩)
      exact ⟨h.connected, iff_of_true rfl hdeferred, hstreaks⟩
  · rw [if_neg hreached]
    have hdeferred : Deferred config (⟨recording, true⟩ :: marks) ↔ Deferred config marks := by
      rw [deferred_late rfl]
      exact or_iff_left fun hr => hreached (failThreshold_le_min.mpr hr.2)
    exact ⟨h.connected, h.deferred.trans hdeferred.symm, hstreaks⟩

theorem RxLink.Follows.missed_closes (h : v.Follows config marks) (recording : Bool) :
    (v.missed config recording).sensorConnected = false ↔
      recording = false ∧
        config.timeouts.failThreshold ≤ lateSince config (⟨recording, true⟩ :: marks) := by
  have hfails : (v.polled config true).fails =
      min (lateSince config (⟨recording, true⟩ :: marks)) intMax :=
    congrArg Streaks.fails (h.polled ⟨recording, true⟩)
  unfold RxLink.missed
  rw [hfails]
  by_cases hreached : config.timeouts.failThreshold.toNat ≤
      min (lateSince config (⟨recording, true⟩ :: marks)) intMax
  · rw [if_pos hreached]
    cases recording with
    | false => exact iff_of_true rfl ⟨rfl, failThreshold_le_min.mp hreached⟩
    | true => simp [h.connected]
  · rw [if_neg hreached]
    have hbelow := mt failThreshold_le_min.mpr hreached
    simp [h.connected, hbelow]

end Marks

theorem ensureSensorSession_opens (env : Env) (now : TimePoint) {w : World}
    (hclosed : w.sensor.sensorConnected = false) :
    wp (ensureSensorSession now) env (fun _ w' => w'.sensor.sensorConnected = true →
        env.hasSbg = true ∧ w'.rxLink = ⟨true, w.sensor.sensorReconnectNeeded, ⟨0, 0⟩⟩)
      (fun _ _ => False) w := by
  have hopen : Respects env (Keeping World.rxLink) sessionOpen := by
    unfold sessionOpen
    dsimp only
    infer_instance
  cases hsbg : env.hasSbg with
  | false =>
    simp only [ensureSensorSession, ensureSensorSessionNoSbg, setError, wp_emit, wp_bind, wp_read,
      wp_get, wp_ite, wp_pure, wp_unixTs, Part.wp_update, wp_updateLinkHealth, hsbg, Bool.false_eq_true,
      if_false]
    split_ifs
    · exact fun h => absurd h Bool.false_ne_true
    · exact fun h => absurd h Bool.false_ne_true
  | true =>
    refine wp_ensureSensorSession hsbg (fun h => absurd (hclosed.symm.trans h) Bool.false_ne_true)
      (fun _ _ h => absurd (hclosed.symm.trans h) Bool.false_ne_true) fun _ _ => ?_
    refine wp_mono (hopen.returns inferInstance _) (fun err w₁ h₁ w₂ hleft h₂ => ?_) fun _ _ => id
    have hlink : w₁.rxLink = w.rxLink := h₁
    cases err with
    | some text =>
      obtain ⟨next, hsensor⟩ := hleft.sensor
      rw [hsensor] at h₂
      have hclosed₁ : w₁.sensor.sensorConnected = false :=
        (congrArg RxLink.sensorConnected hlink).trans hclosed
      exact absurd (hclosed₁.symm.trans h₂) Bool.false_ne_true
    | none =>
      refine ⟨rfl, ?_⟩
      have hopened : w₂.rxLink = ⟨true, w₁.rxLink.reconnectNeeded, ⟨0, 0⟩⟩ := by
        rw [World.rxLink, hleft.sensor]
        rfl
      rw [hlink] at hopened
      exact hopened

theorem undeferred_reached {platform : Platform} (hsbg : platform.hasSbg = true) (inputs : Inputs)
    (steps : List Step) :
    Undeferred (execSteps platform steps (initialWorld platform.config inputs)).2 :=
  execSteps_preserves (fun s _ => Op.run_undeferred ⟨platform, s.inputs⟩ hsbg s.op)
    fun h => absurd h Bool.false_ne_true

theorem pollSensor_leaves (env : Env) (now : TimePoint) (v : World) :
    (exec (pollSensor now) env v).2.rxLink =
      v.rxLink.after env.config v.recording (pollVerdict env now v) := by
  let I (w : World) : Prop :=
    w.rxLink = v.rxLink.after env.config v.recording (pollVerdict env now v)
  exact exec_of_wp (I := I) (wp_mono (pollSensor_rx env now v) (fun _ _ => id) fun _ _ => False.elim)

variable {platform : Platform} {marks : List PollMark} {w : World}

theorem polled_verdict {env : Env} {now : TimePoint} {v : World}
    (hopen : ¬v.sensor.sensorConnected = false)
    (hneeded : ¬(v.sensor.sensorReconnectNeeded = true ∧ v.recording = false)) :
    pollVerdict env now v = .failed ∨ pollVerdict env now v = .inTime ∨
      pollVerdict env now v = .late := by
  rw [pollVerdict, if_neg hopen, if_neg hneeded]
  split
  · split_ifs
    · exact .inr (.inl rfl)
    · exact .inr (.inr rfl)
  · exact .inl rfl

theorem idle_verdict_iff {env : Env} {now : TimePoint} {v : World} :
    pollVerdict env now v = .idle ↔ v.rxLink.sensorConnected = false := by
  by_cases hclosed : v.sensor.sensorConnected = false
  · exact iff_of_true (if_pos hclosed) hclosed
  · refine iff_of_false (fun h => ?_) hclosed
    by_cases hneeded : v.sensor.sensorReconnectNeeded = true ∧ v.recording = false
    · rw [pollVerdict, if_neg hclosed, if_pos hneeded] at h
      cases h
    · have hpolled := @polled_verdict env now v hclosed hneeded
      rw [h] at hpolled
      simp at hpolled

theorem deferred_verdict_iff {env : Env} {now : TimePoint} {v : World}
    (hconnected : v.rxLink.sensorConnected = true) :
    pollVerdict env now v = .deferred ↔ v.rxLink.reconnectNeeded = true ∧ v.recording = false := by
  have hopen : ¬v.sensor.sensorConnected = false := by
    intro hclosed
    exact absurd (hclosed.symm.trans hconnected) Bool.false_ne_true
  by_cases hneeded : v.sensor.sensorReconnectNeeded = true ∧ v.recording = false
  · rw [pollVerdict, if_neg hopen, if_pos hneeded]
    exact iff_of_true rfl hneeded
  · refine iff_of_false (fun h => ?_) hneeded
    have hpolled := @polled_verdict env now v hopen hneeded
    rw [h] at hpolled
    simp at hpolled

/-- What a session holds if its polls have left it open. -/
theorem SessionRun.follows (h : SessionRun platform marks w) :
    w.sensor.sensorConnected = true → w.rxLink.Follows platform.config marks := by
  induction h with
  | @opened inputs₀ inputs steps now w hw hclosed hopen =>
    intro _
    let I (w' : World) : Prop := w'.sensor.sensorConnected = true →
      platform.hasSbg = true ∧ w'.rxLink = ⟨true, w.sensor.sensorReconnectNeeded, ⟨0, 0⟩⟩
    have hopens : I (exec (ensureSensorSession now) ⟨platform, inputs⟩ w).2 :=
      exec_of_wp (wp_mono (ensureSensorSession_opens ⟨platform, inputs⟩ now hclosed) (fun _ _ => id)
        fun _ _ => False.elim)
    obtain ⟨hsbg, hlink⟩ := hopens hopen
    have hneeded : w.sensor.sensorReconnectNeeded = false := by
      have hundeferred : Undeferred w := hw ▸ undeferred_reached hsbg inputs₀ steps
      exact eq_false_of_ne_true fun hn =>
        absurd (hclosed.symm.trans (hundeferred hn)) Bool.false_ne_true
    rw [hlink]
    exact RxLink.follows_opened _ hneeded
  | @inTime marks inputs now w v _ hv hverdict ih =>
    intro hconnected
    have hafter := pollSensor_leaves ⟨platform, inputs⟩ now v
    rw [hverdict] at hafter
    have hbefore : v.rxLink.sensorConnected = true :=
      connected_of_verdict (hverdict.trans_ne (by decide))
    rw [hv] at hafter hbefore
    rw [hafter]
    exact (ih hbefore).recovered v.recording
  | @late marks inputs now w v _ hv hverdict ih =>
    intro hconnected
    have hafter := pollSensor_leaves ⟨platform, inputs⟩ now v
    rw [hverdict] at hafter
    have hbefore : v.rxLink.sensorConnected = true :=
      connected_of_verdict (hverdict.trans_ne (by decide))
    rw [hv] at hafter hbefore
    have hstays := (congrArg RxLink.sensorConnected hafter).symm.trans hconnected
    rw [hafter]
    exact (ih hbefore).missed v.recording hstays

/-- The streak of an open session counts the late polls, and the next poll gives the session up
exactly if it has to. -/
theorem rx_streaks_follow_polls (h : SessionRun platform marks w)
    (hconnected : w.sensor.sensorConnected = true) :
    w.sensor.rxFailStreak = min (lateSince platform.config marks) intMax ∧
    ∀ (inputs : Inputs) (now : TimePoint) (v : World), v.rxLink = w.rxLink →
      pollVerdict ⟨platform, inputs⟩ now v ≠ .failed →
      ((exec (pollSensor now) ⟨platform, inputs⟩ v).2.sensor.sensorConnected = false ↔
        GivesUp platform.config marks v.recording (pollVerdict ⟨platform, inputs⟩ now v)) := by
  have hfollows := h.follows hconnected
  constructor
  · exact congrArg Streaks.fails hfollows.streaks
  intro inputs now v hv hfailed
  rw [← hv] at hfollows
  have hdeferred : Deferred platform.config marks ∧ v.recording = false ↔
      pollVerdict ⟨platform, inputs⟩ now v = .deferred := by
    rw [deferred_verdict_iff hfollows.connected, hfollows.deferred]
  have hafter := congrArg RxLink.sensorConnected (pollSensor_leaves ⟨platform, inputs⟩ now v)
  have hgives : (exec (pollSensor now) ⟨platform, inputs⟩ v).2.sensor.sensorConnected = false ↔
      (v.rxLink.after platform.config v.recording
        (pollVerdict ⟨platform, inputs⟩ now v)).sensorConnected = false := by
    rw [← hafter]
    exact Iff.rfl
  rw [hgives]
  have hneeded (hrec : v.recording = false) (hd : Deferred platform.config marks) :
      pollVerdict ⟨platform, inputs⟩ now v = .deferred := hdeferred.mp ⟨hd, hrec⟩
  cases hverdict : pollVerdict ⟨platform, inputs⟩ now v with
  | idle =>
    have hclosed := idle_verdict_iff.mp hverdict
    exact absurd (hclosed.symm.trans hfollows.connected) Bool.false_ne_true
  | failed => exact absurd hverdict hfailed
  | deferred =>
    obtain ⟨hd, hrec⟩ := hdeferred.mpr hverdict
    exact iff_of_true rfl ⟨hrec, .inl hd⟩
  | inTime =>
    refine iff_of_false (fun hf => ?_) ?_
    · exact absurd (hf.symm.trans hfollows.connected) Bool.false_ne_true
    · rintro ⟨hrec, hd | ⟨hlate, -⟩⟩
      · cases hverdict.symm.trans (hneeded hrec hd)
      · cases hlate
  | late =>
    refine (hfollows.missed_closes v.recording).trans ?_
    constructor
    · rintro ⟨hrec, hreached⟩
      rw [hrec] at hreached
      exact ⟨hrec, .inr ⟨rfl, hreached⟩⟩
    · rintro ⟨hrec, hd | ⟨-, hreached⟩⟩
      · cases hverdict.symm.trans (hneeded hrec hd)
      · rw [hrec]
        exact ⟨rfl, hreached⟩

def benchPoll (w : World) : World :=
  (exec (pollSensor (milliseconds 7000)) ⟨benchPlatform, benchHealthy⟩ w).2

/-- A session just opened, of a sensor that sends nothing. -/
def benchOpened : World :=
  (exec (ensureSensorSession (milliseconds 1000)) ⟨benchPlatform, benchHealthy⟩
    (execSteps benchPlatform [⟨.ensureConnection (milliseconds 1000), benchHealthy⟩]
      (initialWorld benchPlatform.config benchHealthy)).2).2

theorem rx_streaks_follow_polls_silent :
    (benchPoll (benchPoll benchOpened)).sensor.rxFailStreak = 2 ∧
      (benchPoll (benchPoll (benchPoll benchOpened))).sensor.sensorConnected = false := by
  have hopened : SessionRun benchPlatform [] benchOpened :=
    .opened rfl (by decide +kernel) (by decide +kernel)
  have hlate {w : World} (h : w = benchOpened ∨ w = benchPoll benchOpened ∨
      w = benchPoll (benchPoll benchOpened)) :
      pollVerdict ⟨benchPlatform, benchHealthy⟩ (milliseconds 7000) w = .late := by
    rcases h with rfl | rfl | rfl <;> decide +kernel
  have hfirst := SessionRun.late hopened rfl (hlate (.inl rfl))
  have hsecond := SessionRun.late hfirst rfl (hlate (.inr (.inl rfl)))
  obtain ⟨hstreak, hnext⟩ := rx_streaks_follow_polls hsecond (by decide +kernel)
  have hverdict := hlate (.inr (.inr rfl))
  have hgives := hnext benchHealthy (milliseconds 7000) (benchPoll (benchPoll benchOpened)) rfl
    (by rw [hverdict]; decide)
  refine ⟨hstreak, hgives.mpr ?_⟩
  rw [hverdict]
  exact ⟨by decide +kernel, .inr ⟨rfl, by decide +kernel⟩⟩

end Ironsoft.Ekinox
