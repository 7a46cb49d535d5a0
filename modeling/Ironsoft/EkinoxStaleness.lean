import Ironsoft.EkinoxApiRecovery

/-!
# Staying offline

Without a success REST does not come back from `rest_offline_condition`, at that time or any later:
what could relax the condition happens together with a success, or with a reset after which there
has never been one.
-/
namespace Ironsoft.Ekinox
open Effect

set_option synthInstance.maxSize 400000
set_option synthInstance.maxHeartbeats 200000

/-- Where there has been no success in between, REST is offline whenever it was. -/
structure StaysOffline (config : EkinoxConfig) (w w' : World) : Prop where
  successes : w.successes <:+ w'.successes
  offline : w'.successes = w.successes →
    ∀ t, restOfflineCondition config w t = true → restOfflineCondition config w' t = true

section Relation

variable (config : EkinoxConfig)

instance : IsPreorder World (StaysOffline config) where
  refl w := ⟨List.suffix_rfl, fun _ _ => id⟩
  trans w₁ w₂ w₃ h h' := by
    refine ⟨h.successes.trans h'.successes, fun hnone t hoff => ?_⟩
    have hnone₂ : w₂.successes = w₁.successes :=
      (h.successes.eq_of_length_le (hnone ▸ h'.successes.length_le)).symm
    exact h'.offline (hnone.trans hnone₂.symm) t (h.offline hnone₂ t hoff)

variable {config} {w w' : World}

/-- A state in which the condition is no weaker. -/
theorem StaysOffline.of_offline (hsuccesses : w'.successes = w.successes)
    (hoff : ∀ t, restOfflineCondition config w t = true → restOfflineCondition config w' t = true) :
    StaysOffline config w w' :=
  ⟨hsuccesses ▸ List.suffix_rfl, fun _ => hoff⟩

theorem StaysOffline.of_success {newer : List LoggerResult} (hne : newer ≠ [])
    (hnew : w'.successes = newer ++ w.successes) : StaysOffline config w w' :=
  ⟨⟨newer, hnew.symm⟩, fun hnone =>
    absurd (List.self_eq_append_left.mp (hnone.symm.trans hnew)) hne⟩

/-- What the condition looks at, and the successes. -/
def World.staleView (w : World) : RestHealth × Bool × List LoggerResult :=
  (w.rest, w.status.recordingActive, w.successes)

theorem StaysOffline.of_staleView (hview : w'.staleView = w.staleView) :
    StaysOffline config w w' := by
  simp only [World.staleView, Prod.mk.injEq] at hview
  obtain ⟨hrest, hrecording, hsuccesses⟩ := hview
  refine .of_offline hsuccesses fun t hoff => ?_
  unfold restOfflineCondition at hoff ⊢
  rwa [hrest, hrecording]

variable (config)

instance : IgnoresReadings (StaysOffline config) :=
  ⟨fun _ => .of_staleView rfl, fun _ => .of_staleView rfl, fun _ => .of_staleView rfl,
    fun _ => .of_staleView rfl, fun _ => .of_staleView rfl⟩
instance : IgnoresReplies (StaysOffline config) := ⟨fun _ => .of_staleView rfl⟩
instance (e : Event) [h : Unheard Event.success? e] : Emits (StaysOffline config) e := by
  refine ⟨fun w => .of_staleView ?_⟩
  have hsuccesses : (w.said e).successes = w.successes := by
    unfold World.successes
    rw [World.heard_said, h.none]
    rfl
  unfold World.staleView
  rw [hsuccesses]
  rfl
instance : atError.Ignored (StaysOffline config) := ⟨fun _ _ => .of_staleView rfl⟩
instance : atMarker.Ignored (StaysOffline config) := ⟨fun _ _ => .of_staleView rfl⟩
instance : atLink.Ignored (StaysOffline config) := ⟨fun _ _ => .of_staleView rfl⟩
instance : atConn.Ignored (StaysOffline config) := ⟨fun _ _ => .of_staleView rfl⟩
instance : atRetry.Ignored (StaysOffline config) := ⟨fun _ _ => .of_staleView rfl⟩
instance : atPresence.Ignored (StaysOffline config) := ⟨fun _ _ => .of_staleView rfl⟩
instance : atSensor.Ignored (StaysOffline config) := ⟨fun _ _ => .of_staleView rfl⟩
instance : atTimers.Ignored (StaysOffline config) := ⟨fun _ _ => .of_staleView rfl⟩
instance : atPending.Ignored (StaysOffline config) := ⟨fun _ _ => .of_staleView rfl⟩
instance : atBatch.Ignored (StaysOffline config) := ⟨fun _ _ => .of_staleView rfl⟩

variable (env : Env)

theorem loggerUpdate_staysOffline {f : LoggerStatus → LoggerStatus}
    (hf : ∀ s, (f s).recordingActive = s.recordingActive ∨ (f s).recordingActive = false) :
    Respects env (StaysOffline config) (atLogger.update f : M Unit) :=
  ⟨fun _ => .of_offline rfl fun _ => restOfflineCondition_of_logger (hf _)⟩

instance (state : ServiceState) : Respects env (StaysOffline config) (setState state) :=
  loggerUpdate_staysOffline config env fun _ => .inl rfl

instance : Respects env (StaysOffline config) clearSessionName :=
  loggerUpdate_staysOffline config env fun _ => .inl rfl

theorem restUpdate_staysOffline {f : RestHealth → RestHealth}
    (hf : ∀ r, (f r).lastRestOkTsMs = 0 ∨
      (f r).lastRestOkTsMs = r.lastRestOkTsMs ∧ r.restFailStreak ≤ (f r).restFailStreak) :
    Respects env (StaysOffline config) (atRest.update f : M Unit) := by
  refine ⟨fun w => .of_offline rfl fun t hoff => ?_⟩
  rcases hf w.rest with hnever | ⟨hstamp, hfails⟩
  · exact restOfflineCondition_of_never hnever
  · exact restOfflineCondition_of_rest hstamp hfails hoff

instance (error : Bytes) :
    Respects env (StaysOffline config) (atRest.update (.recordFailure error) : M Unit) :=
  restUpdate_staysOffline config env fun _ => .inr ⟨rfl, le_countUp _⟩

instance (alive : Bool) :
    Respects env (StaysOffline config) (atRest.update (.setAlive alive) : M Unit) :=
  restUpdate_staysOffline config env fun _ => .inr ⟨rfl, Nat.le_refl _⟩

instance : Respects env (StaysOffline config) (atRest.update .recordTimeout : M Unit) :=
  restUpdate_staysOffline config env fun _ => .inr ⟨rfl, Nat.le_refl _⟩

/-- A new session starts without a success. -/
instance (nextRestPollMs : ℤ) : Respects env (StaysOffline config) (resetSession nextRestPollMs) := by
  have hlogger := loggerUpdate_staysOffline config env
    (f := fun s => { s with recordingActive := false }) fun _ => .inr rfl
  have hrest := restUpdate_staysOffline config env
    (f := fun _ =>
      { restAlive := false, lastRestSuccess := 0, lastRestOk := 0, lastRestOkTsMs := 0
        restFailStreak := 0, restSuccessStreak := 0, lastRestError := [] }) fun _ => .inl rfl
  unfold resetSession
  infer_instance

instance : Respects env (StaysOffline config)
    (atRest.update fun r => { r with restSuccessStreak := 0 } : M Unit) :=
  restUpdate_staysOffline config env fun _ => .inr ⟨rfl, Nat.le_refl _⟩

instance : Respects env (StaysOffline config) disconnect := by
  unfold disconnect
  infer_instance

instance : Respects env (StaysOffline config) connectionLost := by
  unfold connectionLost
  infer_instance

end Relation

section Results

variable (config : EkinoxConfig) (env : Env)

theorem storeLoggerState_staysOffline {result : LoggerResult} (h : result.ok = false)
    (contextReason : Bytes) :
    Respects env (StaysOffline config) (storeLoggerState result contextReason) := by
  have hidle := loggerUpdate_staysOffline config env
    (f := fun s => { s with recordingActive := false, sessionName := [] }) fun _ => .inr rfl
  unfold storeLoggerState
  rw [if_neg (by simp [h])]
  dsimp only
  infer_instance

variable {config env}

theorem Succeeded.staysOffline {w w' : World} (h : Succeeded w w') : StaysOffline config w w' := by
  obtain ⟨newer, hne, hnew⟩ := h.successes
  exact .of_success hne hnew

theorem StaysOffline.of_apiView {w w' : World} (h : w'.apiView = w.apiView) :
    StaysOffline config w w' :=
  .of_staleView (congrArg Prod.snd h)

variable (env)

instance (result : LoggerResult) (contextReason : Bytes) (nowMs : ℤ) :
    Respects env (StaysOffline env.config) (markRestResult result contextReason nowMs) := by
  cases hsuccess : result.restSuccess with
  | true =>
    exact ⟨fun w => exec_of_wp (wp_mono (markRestResult_succeeds hsuccess contextReason)
      (fun _ _ h => h.staysOffline) fun _ _ h => h.staysOffline)⟩
  | false =>
    have hunheard : Unheard Event.success? (.restResult result nowMs) := ⟨if_neg (by simp [hsuccess])⟩
    unfold markRestResult
    rw [hsuccess]
    simp only [Bool.false_eq_true, if_false]
    infer_instance

/-- A reply is stored as a success only where it counts as one. -/
instance [hok : env.OkIsSuccess] (contextReason : Bytes) (nowMs : ℤ) :
    Respects env (StaysOffline env.config) (requestLoggerState contextReason nowMs) := by
  rw [respects_iff_wp]
  intro w
  unfold requestLoggerState
  rw [wp_bind]
  refine wp_mono dataLoggerGet_next (fun result w₁ h => ?_) fun _ _ h => .of_apiView h.2.apiView.1
  obtain ⟨hnext, hasked⟩ := h
  obtain ⟨hview, -⟩ := hasked.apiView
  have hthen {w' : World} : StaysOffline env.config w₁ w' → StaysOffline env.config w w' :=
    trans_of (StaysOffline env.config) (.of_apiView hview)
  cases hresult : result.ok with
  | true =>
    have hsuccess : result.restSuccess = true := nextReply_success hok hnext hresult
    rw [wp_bind]
    refine wp_mono (markRestResult_succeeds hsuccess contextReason) (fun _ w₂ h₂ => ?_)
      fun _ _ h₂ => hthen h₂.staysOffline
    rw [wp_bind]
    exact wp_mono (storeLoggerState_succeeded hresult contextReason h₂)
      (fun _ _ h₃ => hthen h₃.staysOffline) fun _ _ => False.elim
  | false =>
    have hstore := storeLoggerState_staysOffline env.config env hresult contextReason
    have hrest : Respects env (StaysOffline env.config) (do
        markRestResult result contextReason nowMs
        storeLoggerState result contextReason
        return result) := inferInstance
    exact hrest.wp_of fun _ => hthen

instance (nowMs : ℤ) : Respects env (StaysOffline env.config) (refreshRestHealth nowMs) := by
  unfold refreshRestHealth
  infer_instance

theorem Op.run_staysOffline [env.OkIsSuccess] (op : Op) :
    Respects env (StaysOffline env.config) op.run := by
  cases op
  all_goals
    unfold Op.run
    dsimp only
    infer_instance

end Results

/-- The replies a step meets are results of `perform_http_request`. -/
def Step.RepliesFromApi (platform : Platform) (s : Step) : Prop :=
  ∀ k, ∃ reply, s.inputs.rest k = performHttpRequest platform.parse reply

theorem Step.RepliesFromApi.okIsSuccess {platform : Platform} {s : Step}
    (h : s.RepliesFromApi platform) : s.inputs.OkIsSuccess := by
  refine ⟨fun k result hreply hresult => ?_⟩
  obtain ⟨reply, hr⟩ := h k
  exact performHttpRequest_success (hr.symm.trans hreply) hresult

theorem execSteps_staysOffline {platform : Platform} {steps : List Step}
    (hsteps : ∀ s ∈ steps, s.RepliesFromApi platform) (w : World) :
    StaysOffline platform.config w (execSteps platform steps w).2 := by
  refine execAll_invariant (C := fun s _ => s.RepliesFromApi platform)
    (I := fun w' => StaysOffline platform.config w w') (execStep platform)
    (fun s w' hs hw' => ?_) (allSteps_of_forall _ fun s hs _ => hsteps s hs) (refl_of _ w)
  have := hs.okIsSuccess
  exact trans_of (StaysOffline platform.config) hw'
    ((Op.run_staysOffline ⟨platform, s.inputs⟩ s.op).related w')

/-- Once `rest_offline_condition` holds in a state it holds at every later time in every state the
run reaches from there, as long as no success is processed. -/
theorem offline_verdict_sticks (platform : Platform) (w : World) (steps : List Step)
    (hreplies : ∀ s ∈ steps, s.RepliesFromApi platform) {t t' : ℤ} (ht : t ≤ t')
    (hoff : restOfflineCondition platform.config w t = true)
    (hnone : (execSteps platform steps w).2.successes = w.successes) :
    restOfflineCondition platform.config (execSteps platform steps w).2 t' = true :=
  (execSteps_staysOffline hreplies w).offline hnone t' (restOfflineCondition_mono ht hoff)

/-- A session whose first request succeeds and whose next three fail. -/
def benchFailing : Inputs := benchLate 100 fun k => if k = 0 then 200 else 500

def benchOverdue : World :=
  (execSteps benchPlatform
    (⟨.ensureConnection (milliseconds 1000), benchFailing⟩ ::
      List.replicate 3 ⟨.requestLoggerState (bytes "poll.timer") 1000, benchFailing⟩)
    (initialWorld benchPlatform.config benchFailing)).2

/-- It stays offline over a connection that is lost and made again. -/
theorem offline_verdict_sticks_reconnected :
    let steps : List Step := [⟨.connectionLost, benchFailing⟩,
      ⟨.ensureConnection (milliseconds 1000), benchFailing⟩, ⟨.restTimer 4000, benchFailing⟩]
    benchOverdue.successes ≠ [] ∧
      restOfflineCondition benchPlatform.config (execSteps benchPlatform steps benchOverdue).2 9000 = true := by
  intro steps
  refine ⟨by decide +kernel, offline_verdict_sticks benchPlatform benchOverdue steps ?_ (t := 1000)
    (by decide) (by decide +kernel) (by decide +kernel)⟩
  intro s hs k
  have hinputs : s.inputs = benchFailing := by
    simp only [steps, List.mem_cons, List.not_mem_nil, or_false] at hs
    rcases hs with rfl | rfl | rfl <;> rfl
  rw [hinputs]
  exact benchLate_replies 100 _ k

end Ironsoft.Ekinox
