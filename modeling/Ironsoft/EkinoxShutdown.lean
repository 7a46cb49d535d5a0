import Ironsoft.EkinoxConnect
import Ironsoft.EkinoxPublishes

/-!
# Leaving the loop

What a broker shows of a service that has been stopped. The notice of the shutdown is the
last presence unless another offline presence is less than two seconds old.
-/
namespace Ironsoft.Ekinox
open Effect

set_option synthInstance.maxSize 400000
set_option synthInstance.maxHeartbeats 200000

/-- The presence a broker holds. -/
def World.retainedPresence (config : EkinoxConfig) (w : World) : Option Body :=
  retainedOn config.topics.presence w.trace

section Frames

variable (config : EkinoxConfig)

instance : IgnoresReadings (Keeping (World.retainedPresence config)) :=
  ⟨fun _ => rfl, fun _ => rfl, fun _ => rfl, fun _ => rfl, fun _ => rfl⟩
instance : atConn.Ignored (Keeping (World.retainedPresence config)) := ⟨fun _ _ => rfl⟩
instance : atLink.Ignored (Keeping (World.retainedPresence config)) := ⟨fun _ _ => rfl⟩
instance : atLogger.Ignored (Keeping (World.retainedPresence config)) := ⟨fun _ _ => rfl⟩
instance : atRest.Ignored (Keeping (World.retainedPresence config)) := ⟨fun _ _ => rfl⟩
instance : atTimers.Ignored (Keeping (World.retainedPresence config)) := ⟨fun _ _ => rfl⟩
instance : atError.Ignored (Keeping (World.retainedPresence config)) := ⟨fun _ _ => rfl⟩
instance : atMarker.Ignored (Keeping (World.retainedPresence config)) := ⟨fun _ _ => rfl⟩
instance : atSensor.Ignored (Keeping (World.retainedPresence config)) := ⟨fun _ _ => rfl⟩
instance (e : SbgEvent) : Emits (Keeping (World.retainedPresence config)) (.sbg e) := ⟨fun _ => rfl⟩
instance (threw : Bool) : Emits (Keeping (World.retainedPresence config)) (.mqtt .disconnect threw) :=
  ⟨fun _ => by cases threw <;> rfl⟩

/-- A status is held on another topic. -/
instance (s : StatusPayload) (threw : Bool) : Emits (Keeping (World.retainedPresence config))
    (.mqtt (.publish ⟨config.topics.status, .status s, 1, true⟩) threw) := by
  refine ⟨fun w => ?_⟩
  cases threw with
  | true => rfl
  | false =>
    unfold Keeping World.retainedPresence World.said
    rw [retainedOn_cons_publish, if_neg fun h => status_topic_ne_presence config h.1]

end Frames

section Closing

variable {env : Env} {w : World}

/-- What the announcement of presence depends on. -/
def World.announcing (w : World) : Presence × Connection × ℕ := (w.presence, w.conn, w.taken.steady)

/-- Giving up the sensor takes two clock readings and leaves presence alone. -/
theorem handleSensorDisconnect_announcing (w : World) :
    wp handleSensorDisconnect env
      (fun _ w' => w'.announcing = (w.presence, w.conn, w.taken.steady + 2)) (fun _ _ => False) w := by
  refine wp_mono (handleSensorDisconnect_givesUp env w) (fun _ w' h => ?_) fun _ _ => id
  rw [World.announcing, h.presence, h.conn, h.steady]

/-- An offline presence that is published `skipped` readings from now is held back. -/
def HeldBack (env : Env) (skipped : ℕ) (w : World) : Prop :=
  w.presence.presenceOnline = false ∧
    Limited env (w.taken.steady + skipped) w.presence.lastPresenceEmitTsMs

theorem publishPresence_retains (hquiet : env.QuietPublishes) (hconn : w.conn.connected = true)
    (reason : Bytes) :
    wp (publishPresence false reason) env
      (fun _ w' => HeldBack env 0 w ∧
          w'.retainedPresence env.config = w.retainedPresence env.config ∨
        ¬HeldBack env 0 w ∧ ∃ ts, w'.retainedPresence env.config =
          some (.presence ⟨false, sanitizeAndClip reason, ts⟩)) (fun _ _ => False) w := by
  rw [wp_publishPresence]
  split_ifs with hoff hheld hthrew
  · exact absurd (hoff.symm.trans hconn) Bool.false_ne_true
  · exact .inl ⟨hheld, rfl⟩
  · exact Bool.false_ne_true ((hquiet _ .presence (by decide)).symm.trans hthrew)
  · refine .inr ⟨hheld, env.system w.taken.system, ?_⟩
    exact (retainedOn_cons_publish _ _ _).trans (if_pos ⟨rfl, rfl⟩)

/-- The presence `shutdown` publishes once the sensor is given up, or none. -/
def Retains (env : Env) (held : Prop) (w w' : World) : Prop :=
  held ∧ w'.retainedPresence env.config = w.retainedPresence env.config ∨
    ¬held ∧ ∃ ts, w'.retainedPresence env.config =
      some (.presence ⟨false, sanitizeAndClip (bytes "shutdown"), ts⟩)

theorem closing_retains (hquiet : env.QuietPublishes) (hconn : w.conn.connected = true) :
    wp (do
      if (← get).conn.connected then
        publishPresence false (bytes "shutdown")
        publishStatus
        disconnect) env (fun _ w' => Retains env (HeldBack env 0 w) w w') (fun _ _ => False) w := by
  have hthrows topic s : Throws env (fun _ => False) (mqttCall (.publish ⟨topic, .status s, 1, true⟩)) :=
    publish_throws env _ (.inr hquiet) (by simp [Body.kind])
  have hrest : Respects env (Keeping (World.retainedPresence env.config)) (do
      publishStatus
      disconnect) := inferInstance
  have hreturn : Throws env (fun _ => False) (do
      publishStatus
      disconnect) := inferInstance
  rw [wp_bind, wp_get, wp_ite, if_pos hconn, wp_bind]
  refine wp_mono (publishPresence_retains hquiet hconn (bytes "shutdown")) (fun _ w₁ h₁ => ?_)
    fun _ _ => id
  refine wp_mono (hrest.returns hreturn w₁) (fun _ w₂ h₂ => ?_) fun _ _ => id
  unfold Retains
  rw [show w₂.retainedPresence env.config = _ from h₂]
  exact h₁

/-- The notice is held back, counted from the state the loop is left in. -/
def NoticeHeldBack (env : Env) (w : World) : Prop :=
  HeldBack env (if w.sensor.sensorConnected then 2 else 0) w

theorem shutdown_retains (hquiet : env.QuietPublishes) (hconn : w.conn.connected = true) :
    wp shutdown env (fun _ w' => Retains env (NoticeHeldBack env w) w w') (fun _ _ => False) w := by
  unfold shutdown NoticeHeldBack
  rw [wp_bind, wp_get]
  dsimp only
  rw [wp_ite]
  split_ifs with hsensor
  · have hretained : Respects env (Keeping (World.retainedPresence env.config))
        handleSensorDisconnect := inferInstance
    rw [wp_bind]
    refine wp_mono (wp_and (handleSensorDisconnect_announcing w) (respects_iff_wp.mp hretained w))
      (fun _ w₁ h => ?_) fun _ _ h => h.1
    obtain ⟨hann, hkept⟩ := h
    simp only [World.announcing, Prod.mk.injEq] at hann
    obtain ⟨hpresence, hconn₁, hsteady⟩ := hann
    have hheld : HeldBack env 0 w₁ = HeldBack env 2 w := by
      unfold HeldBack
      rw [hpresence, hsteady]
    refine wp_mono (closing_retains hquiet (hconn₁ ▸ hconn)) (fun _ w₂ h₂ => ?_) fun _ _ => id
    rw [Retains, hheld, show w₁.retainedPresence env.config = _ from hkept] at h₂
    exact h₂
  · exact closing_retains hquiet hconn

end Closing

/-- The broker shows the service as stopped. -/
def NoticeShown (config : EkinoxConfig) (w : World) : Prop :=
  ∃ body, w.retainedPresence config = some body ∧
    body.toJson.get (bytes "state") = .str (bytes "offline") ∧
    body.toJson.get (bytes "reason") = .str (bytes "shutdown")

theorem noticeShown_of_notice {config : EkinoxConfig} {w : World} {ts : ℤ}
    (h : w.retainedPresence config =
      some (.presence ⟨false, sanitizeAndClip (bytes "shutdown"), ts⟩)) : NoticeShown config w :=
  ⟨_, h, rfl, rfl⟩

/-- A service that is stopped while connected leaves the notice of its shutdown with the broker,
unless a recent offline presence holds the notice back and was not such a notice itself. -/
theorem shutdown_notice_shown_iff (platform : Platform) (inputs : Inputs) (steps : List Step)
    (next : Inputs) (hquiet : next.QuietPublishes) :
    let w := (execSteps platform steps (initialWorld platform.config inputs)).2
    w.conn.connected = true → ∃ w', exec shutdown ⟨platform, next⟩ w = (.ok (), w') ∧
      (NoticeShown platform.config w' ↔
        ¬NoticeHeldBack ⟨platform, next⟩ w ∨ NoticeShown platform.config w) := by
  intro w hconn
  have hrun : wp shutdown ⟨platform, next⟩ _ _ w := shutdown_retains hquiet hconn
  revert hrun
  unfold wp
  rcases exec shutdown ⟨platform, next⟩ w with ⟨e | ⟨⟩, w'⟩
  · exact False.elim
  · rintro (⟨hheld, hkept⟩ | ⟨hfree, ts, hshown⟩)
    · refine ⟨w', rfl, ?_⟩
      rw [NoticeShown, hkept]
      exact ⟨.inr, fun h => h.resolve_left fun hfree => hfree hheld⟩
    · exact ⟨w', rfl, fun _ => .inl hfree, fun _ => noticeShown_of_notice hshown⟩

/-- The service is stopped three seconds after it has connected. -/
theorem shutdown_notice_shown_later :
    let next := { benchHealthy with steady := fun _ => milliseconds 4000 }
    NoticeShown benchPlatform.config
      (exec shutdown ⟨benchPlatform, next⟩ (benchConnected benchHealthy)).2 := by
  intro next
  obtain ⟨w', hrun, hiff⟩ := shutdown_notice_shown_iff benchPlatform benchHealthy
    [⟨.ensureConnection (milliseconds 1000), benchHealthy⟩] next (fun _ _ _ => rfl) (by decide)
  have hfree : ¬NoticeHeldBack ⟨benchPlatform, next⟩ (benchConnected benchHealthy) := by
    unfold NoticeHeldBack HeldBack
    decide +kernel
  have hshown : NoticeShown benchPlatform.config w' := hiff.mpr (.inl hfree)
  have hend : exec shutdown ⟨benchPlatform, next⟩ (benchConnected benchHealthy) = (.ok (), w') := hrun
  rw [hend]
  exact hshown

/-- A service that is stopped at once is shown as connecting. -/
theorem shutdown_notice_lost :
    let w' := (exec shutdown ⟨benchPlatform, benchHealthy⟩ (benchConnected benchHealthy)).2
    (benchConnected benchHealthy).conn.connected = true ∧ ¬NoticeShown benchPlatform.config w' := by
  intro w'
  have hretained : (benchConnected benchHealthy).conn.connected = true ∧
      w'.retainedPresence benchPlatform.config =
        some (.presence ⟨false, bytes "connecting", 1700000000⟩) := by
    decide +kernel
  obtain ⟨hconn, hretained⟩ := hretained
  clear_value w'
  refine ⟨hconn, ?_⟩
  rintro ⟨body, hbody, -, hreason⟩
  obtain rfl := Option.some.inj (hretained.symm.trans hbody)
  have hsame : bytes "connecting" = bytes "shutdown" := Json.str.inj hreason
  exact absurd hsame (by decide)

end Ironsoft.Ekinox
