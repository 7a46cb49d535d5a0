import Ironsoft.EkinoxDialogue
import Ironsoft.EkinoxRxTimeout

/-!
# The marker of an rx timeout

`set_error` and `clear_rx_timeout_error` write `last_error` and its marker together;
`request_logger_state` clears `last_error` after a success and leaves the marker as it is.
-/
namespace Ironsoft.Ekinox
open Effect

set_option synthInstance.maxSize 400000
set_option synthInstance.maxHeartbeats 200000

/-- `rx_timeout_error_active_` is set exactly while `last_error` is `rx timeout`. -/
def MarkerExact (w : World) : Prop := w.rxTimeoutErrorActive = true ↔ Reported w

instance (w : World) : Decidable (MarkerExact w) := inferInstanceAs (Decidable (_ ↔ _))

/-- What decides about the marker in the rest of a command. -/
def World.report (w : World) : Bytes × Bool × ℕ :=
  (w.status.lastError, w.rxTimeoutErrorActive, w.taken.rest)

section Frames

instance : IgnoresReadings (Keeping World.report) :=
  ⟨fun _ => rfl, fun _ => rfl, fun _ => rfl, fun _ => rfl, fun _ => rfl⟩
instance (e : Event) : Emits (Keeping World.report) e := ⟨fun _ => rfl⟩
instance : atLink.Ignored (Keeping World.report) := ⟨fun _ _ => rfl⟩
instance : atLogger.Ignored (Keeping World.report) := ⟨fun _ _ => rfl⟩
instance : atConn.Ignored (Keeping World.report) := ⟨fun _ _ => rfl⟩
instance : atPresence.Ignored (Keeping World.report) := ⟨fun _ _ => rfl⟩
instance : atRest.Ignored (Keeping World.report) := ⟨fun _ _ => rfl⟩
instance : atSensor.Ignored (Keeping World.report) := ⟨fun _ _ => rfl⟩
instance : atTimers.Ignored (Keeping World.report) := ⟨fun _ _ => rfl⟩

instance : IgnoresReadings (Preserving MarkerExact) :=
  ⟨fun _ => id, fun _ => id, fun _ => id, fun _ => id, fun _ => id⟩
instance : IgnoresReplies (Preserving MarkerExact) := ⟨fun _ => id⟩
instance (e : Event) : Emits (Preserving MarkerExact) e := ⟨fun _ => id⟩
instance : atLink.Ignored (Preserving MarkerExact) := ⟨fun _ _ => id⟩
instance : atLogger.Ignored (Preserving MarkerExact) := ⟨fun _ _ => id⟩
instance : atConn.Ignored (Preserving MarkerExact) := ⟨fun _ _ => id⟩
instance : atRetry.Ignored (Preserving MarkerExact) := ⟨fun _ _ => id⟩
instance : atPresence.Ignored (Preserving MarkerExact) := ⟨fun _ _ => id⟩
instance : atRest.Ignored (Preserving MarkerExact) := ⟨fun _ _ => id⟩
instance : atSensor.Ignored (Preserving MarkerExact) := ⟨fun _ _ => id⟩
instance : atTimers.Ignored (Preserving MarkerExact) := ⟨fun _ _ => id⟩
instance : atPending.Ignored (Preserving MarkerExact) := ⟨fun _ _ => id⟩
instance : atBatch.Ignored (Preserving MarkerExact) := ⟨fun _ _ => id⟩

variable (env : Env)

theorem setError_marks (message : Bytes) (w : World) :
    wp (setError message) env
      (fun _ w' => MarkerExact w' ∧ w'.taken.rest = w.taken.rest ∧
        w'.rxTimeoutErrorActive = decide (sanitizeAndClip message = rxTimeoutText))
      (fun _ _ => False) w := by
  simp only [setError, wp_bind, wp_emit, wp_unixTs, Part.wp_update]
  exact ⟨decide_eq_true_iff, rfl, rfl⟩

instance (message : Bytes) : Respects env (Preserving MarkerExact) (setError message) := by
  rw [respects_iff_wp]
  intro w
  exact wp_mono (setError_marks env message w) (fun _ _ h _ => h.1) fun _ _ => False.elim

instance : Respects env (Preserving MarkerExact) clearRxTimeoutError := by
  rw [respects_iff_wp]
  intro w
  simp only [clearRxTimeoutError, wp_bind, wp_get, wp_ite, Part.wp_update, wp_unixTs, wp_pure]
  split_ifs with hmarker hreported
  · refine fun _ => iff_of_false nofun fun hr => ?_
    have hempty : [] = rxTimeoutText := hr
    exact absurd hempty (by decide)
  · exact fun _ => iff_of_false nofun hreported
  · exact id

end Frames

/-- A success that is stored while the marker is set. -/
def Forgets (marker : Bool) (result : LoggerResult) : Prop := marker = true ∧ result.ok = true

instance (marker : Bool) (result : LoggerResult) : Decidable (Forgets marker result) :=
  inferInstanceAs (Decidable (_ ∧ _))

/-- The marker after a reply to a request for the state. -/
def markerAfter (marker : Bool) (result : LoggerResult) : Bool :=
  if result.ok then marker else decide (sanitizeAndClip (restErrorOrHttp result) = rxTimeoutText)

section Storing

variable {env : Env} {w : World} {result : LoggerResult} {contextReason : Bytes}

/-- A success clears the error and leaves the marker. -/
theorem storeLoggerState_ok (hok : result.ok = true) :
    wp (storeLoggerState result contextReason) env
      (fun _ w' => w'.status.lastError = [] ∧ w'.rxTimeoutErrorActive = w.rxTimeoutErrorActive ∧
        w'.taken.rest = w.taken.rest) (fun _ _ => False) w := by
  simp only [storeLoggerState, setState, hok, if_true, wp_bind, wp_ite, wp_get, wp_pure,
    Part.wp_update]
  split_ifs <;> exact ⟨rfl, rfl, rfl⟩

/-- The text of a failure that is stored. -/
def stateError (result : LoggerResult) (contextReason : Bytes) : Bytes :=
  if restErrorOrHttp result = [] then contextReason else restErrorOrHttp result

theorem storeLoggerState_failed (hok : result.ok = false) :
    wp (storeLoggerState result contextReason) env
      (fun _ w' => w'.taken.rest = w.taken.rest ∧ (MarkerExact w → MarkerExact w') ∧
        (stateError result contextReason ≠ [] → w'.rxTimeoutErrorActive =
          decide (sanitizeAndClip (stateError result contextReason) = rxTimeoutText)))
      (fun _ _ => False) w := by
  have herr : (if restErrorOrHttp result = [] then contextReason else restErrorOrHttp result) =
      stateError result contextReason := rfl
  simp only [storeLoggerState, setState, hok, Bool.false_eq_true, if_false, wp_bind, wp_ite,
    Part.wp_update, herr]
  have hmarks := setError_marks env (stateError result contextReason) w
  split_ifs with hempty h404 h404
  · exact wp_mono hmarks (fun _ _ h => ⟨h.2.1, fun _ => h.1, fun _ => h.2.2⟩) fun _ _ => id
  · exact wp_mono hmarks (fun _ _ h => ⟨h.2.1, fun _ => h.1, fun _ => h.2.2⟩) fun _ _ => id
  · exact ⟨rfl, id, fun h => absurd h hempty⟩
  · exact ⟨rfl, id, fun h => absurd h hempty⟩

/-- Storing a reply keeps the marker exact unless it is a success and the marker is set. -/
theorem storeLoggerState_exact_iff (h : MarkerExact w) :
    wp (storeLoggerState result contextReason) env
      (fun _ w' => MarkerExact w' ↔ ¬ Forgets w.rxTimeoutErrorActive result) (fun _ _ => False)
      w := by
  by_cases hok : result.ok = true
  · refine wp_mono (storeLoggerState_ok hok) (fun _ w' hw' => ?_) fun _ _ => id
    obtain ⟨herror, hmarker, -⟩ := hw'
    have hcleared : ¬ Reported w' := by
      unfold Reported
      rw [herror]
      decide
    rw [MarkerExact, hmarker, iff_false_right hcleared, Forgets, hok]
    simp
  · have hfailed := eq_false_of_ne_true hok
    refine wp_mono (storeLoggerState_failed hfailed) (fun _ w' hw' => ?_) fun _ _ => id
    exact iff_of_true (hw'.2.1 h) fun hforgets => hok hforgets.2

end Storing

/-- The marker is exact and has this value, and the `n`-th reply is next. -/
structure Marked (marker : Bool) (n : ℕ) (w : World) : Prop where
  exact : MarkerExact w
  marker : w.rxTimeoutErrorActive = marker
  rest : w.taken.rest = n

theorem Marked.of_report {marker : Bool} {n : ℕ} {w w' : World} (h : Marked marker n w)
    (hkept : w'.report = w.report) : Marked marker n w' := by
  simp only [World.report, Prod.mk.injEq] at hkept
  obtain ⟨herror, hmarker, hrest⟩ := hkept
  refine ⟨?_, hmarker.trans h.marker, hrest.trans h.rest⟩
  rw [MarkerExact, Reported, herror, hmarker]
  exact h.exact

/-- A reason that is not taken for a report. -/
structure Plain (contextReason : Bytes) : Prop where
  ne_nil : contextReason ≠ []
  unlike : sanitizeAndClip contextReason ≠ rxTimeoutText

theorem Plain.marker {contextReason : Bytes} (h : Plain contextReason) (result : LoggerResult) :
    stateError result contextReason ≠ [] ∧
      (sanitizeAndClip (stateError result contextReason) = rxTimeoutText ↔
        sanitizeAndClip (restErrorOrHttp result) = rxTimeoutText) := by
  unfold stateError
  split_ifs with hempty
  · refine ⟨h.ne_nil, iff_of_false h.unlike ?_⟩
    rw [hempty]
    decide
  · exact ⟨hempty, Iff.rfl⟩

section Following

variable {env : Env} {m : Bool} {n : ℕ} {w : World} {α β : Type} {Q : β → World → Prop}

/-- `Q` holds after `x`, and the marker is exact also after an exception. -/
abbrev EndsIn (env : Env) (x : M β) (Q : β → World → Prop) (w : World) : Prop :=
  wp x env Q (fun _ w' => MarkerExact w') w

theorem endsIn_of_respects {x : M β} (hx : Respects env (Preserving MarkerExact) x)
    (h : MarkerExact w) : EndsIn env x (fun _ w' => MarkerExact w') w :=
  hx.wp_of fun _ hw => hw h

theorem marked_after {x : M α} {f : α → M β} (hw : Marked m n w)
    (hx : Respects env (Keeping World.report) x)
    (h : ∀ a w', Marked m n w' → EndsIn env (f a) Q w') : EndsIn env (x >>= f) Q w :=
  wp_bind_of_keeps hx (fun a w' hkept => h a w' (hw.of_report hkept))
    fun _ _ hkept => (hw.of_report hkept).exact

theorem marked_reply {f : LoggerResult → M β} (hw : Marked m n w)
    (hend : restEndpointError env.config = []) (request : RestRequest)
    (h : ∀ w', Marked m (n + 1) w' → EndsIn env (f (env.result n)) Q w') :
    EndsIn env (callWithValidation (performRest request) >>= f) Q w := by
  have htook : Marked m (n + 1) (w.tookRest.said (.restRequest request)) :=
    ⟨hw.exact, hw.marker, congrArg (· + 1) hw.rest⟩
  rw [EndsIn, wp_bind]
  exact wp_exchange hend request (hw.rest ▸ h _ htook) fun _ => htook.exact

theorem marked_store {result : LoggerResult} {contextReason : Bytes} (hw : Marked m n w)
    (hplain : Plain contextReason) (hforgets : ¬ Forgets m result) :
    wp (storeLoggerState result contextReason) env
      (fun _ w' => Marked (markerAfter m result) n w') (fun _ _ => False) w := by
  have hexact : wp (storeLoggerState result contextReason) env
      (fun _ w' => MarkerExact w' ↔ ¬ Forgets m result) (fun _ _ => False) w :=
    hw.marker ▸ storeLoggerState_exact_iff hw.exact
  cases hok : result.ok with
  | true =>
    refine wp_mono (wp_and hexact (storeLoggerState_ok hok)) (fun _ w' hw' => ?_) fun _ _ h => h.1
    obtain ⟨hiff, -, hmarker, hrest⟩ := hw'
    refine ⟨hiff.mpr hforgets, ?_, hrest.trans hw.rest⟩
    rw [hmarker, hw.marker, markerAfter, if_pos hok]
  | false =>
    refine wp_mono (storeLoggerState_failed hok) (fun _ w' hw' => ?_) fun _ _ => id
    obtain ⟨hrest, hkept, hmarker⟩ := hw'
    refine ⟨hkept hw.exact, ?_, hrest.trans hw.rest⟩
    rw [hmarker (hplain.marker result).1, markerAfter, if_neg (by simp [hok])]
    exact decide_eq_decide.mpr (hplain.marker result).2

theorem marked_state {f : LoggerResult → M β} (hw : Marked m n w)
    (hend : restEndpointError env.config = []) {contextReason : Bytes} (hplain : Plain contextReason)
    (nowMs : ℤ) (hforgets : ¬ Forgets m (env.result n))
    (h : ∀ w', Marked (markerAfter m (env.result n)) (n + 1) w' →
      EndsIn env (f (env.result n)) Q w') :
    EndsIn env (requestLoggerState contextReason nowMs >>= f) Q w := by
  unfold requestLoggerState dataLoggerGet
  rw [EndsIn, wp_bind]
  refine marked_reply hw hend .get fun w₁ h₁ => ?_
  refine marked_after h₁ inferInstance fun _ w₂ h₂ => ?_
  rw [EndsIn, wp_bind]
  exact wp_mono (marked_store h₂ hplain hforgets) (fun _ w₃ h₃ => h w₃ h₃) fun _ _ => False.elim

theorem marked_verified {f : LoggerResult × LoggerResult → M β} (hw : Marked m n w)
    (hend : restEndpointError env.config = []) {nowReason laterReason : Bytes}
    (hnow : Plain nowReason) (hlater : Plain laterReason) (hfirst : ¬ Forgets m (env.result n))
    (hsecond : ¬ Forgets (markerAfter m (env.result n)) (env.result (n + 1)))
    (h : ∀ w', MarkerExact w' → EndsIn env (f (env.result n, env.result (n + 1))) Q w') :
    EndsIn env (verifyLoggerState nowReason laterReason >>= f) Q w := by
  unfold verifyLoggerState
  rw [EndsIn, wp_bind]
  refine marked_after hw inferInstance fun t w₁ h₁ => ?_
  refine marked_state h₁ hend hnow _ hfirst fun w₂ h₂ => ?_
  refine marked_after h₂ inferInstance fun t' w₃ h₃ => ?_
  exact marked_state h₃ hend hlater _ hsecond fun w₄ h₄ => h w₄ h₄.exact

end Following

/-- A command whose POST is the `n`-th request forgets the marker behind it: `again` are the
failures it asks for the state after. -/
def ForgetsBehind (env : Env) (marker : Bool) (n : ℕ) (again : LoggerResult → Prop) : Prop :=
  ((env.result n).ok = true ∨ again (env.result n)) ∧ Forgets marker (env.result (n + 1)) ∨
    (env.result n).ok = true ∧
      Forgets (markerAfter marker (env.result (n + 1))) (env.result (n + 2))

/-- A command that starts with the `n`-th request, and ends there if the logger is `done`. -/
def CommandForgets (env : Env) (marker : Bool) (n : ℕ) (done : LoggerResult → Bool)
    (again : LoggerResult → Prop) : Prop :=
  Forgets marker (env.result n) ∨ done (env.result n) = false ∧
    ForgetsBehind env (markerAfter marker (env.result n)) (n + 1) again

def Admission.Forgets (env : Env) (marker : Bool) (n : ℕ) : Admission → Prop
  | .accepted .loggerStart .. =>
    CommandForgets env marker n resultReportsRecording fun r => r.httpCode = 409
  | .accepted .loggerStop .. =>
    CommandForgets env marker n resultReportsIdle fun r => r.httpCode = 500 ∨ r.httpCode = 409
  | .accepted .loggerStatus .. => Ekinox.Forgets marker (env.result n)
  | _ => False

section Handlers

variable {env : Env} {m : Bool} {n : ℕ} {w : World} {id type : Bytes}

theorem concludeLoggerStart_exact (hw : Marked m (n + 1) w) (hend : restEndpointError env.config = [])
    (hforgets : ¬ ForgetsBehind env m n fun r => r.httpCode = 409) :
    EndsIn env (concludeLoggerStart id type (env.result n)) (fun _ w' => MarkerExact w') w := by
  obtain ⟨hfirst, hsecond⟩ := not_or.mp hforgets
  unfold concludeLoggerStart
  simp only [EndsIn, wp_ite]
  split_ifs with hok hconflict
  · refine marked_after hw inferInstance fun t w₁ h₁ => ?_
    refine marked_state h₁ hend ⟨by decide, by decide⟩ _ (fun h => hfirst ⟨.inr hconflict, h⟩)
      fun w₂ h₂ => endsIn_of_respects inferInstance h₂.exact
  · exact endsIn_of_respects inferInstance hw.exact
  · have hposted : (env.result n).ok = true := eq_true_of_ne_false hok
    refine marked_verified hw hend ⟨by decide, by decide⟩ ⟨by decide, by decide⟩
      (fun h => hfirst ⟨.inl hposted, h⟩) (fun h => hsecond ⟨hposted, h⟩) fun w₁ h₁ => ?_
    exact endsIn_of_respects inferInstance h₁

theorem concludeLoggerStop_exact (hw : Marked m (n + 1) w) (hend : restEndpointError env.config = [])
    (hforgets : ¬ ForgetsBehind env m n fun r => r.httpCode = 500 ∨ r.httpCode = 409) :
    EndsIn env (concludeLoggerStop id type (env.result n)) (fun _ w' => MarkerExact w') w := by
  obtain ⟨hfirst, hsecond⟩ := not_or.mp hforgets
  unfold concludeLoggerStop ackAlreadyStopped
  simp only [EndsIn, wp_ite]
  split_ifs with hok hretry
  · refine marked_after hw inferInstance fun t w₁ h₁ => ?_
    refine marked_state h₁ hend ⟨by decide, by decide⟩ _ (fun h => hfirst ⟨.inr hretry, h⟩)
      fun w₂ h₂ => endsIn_of_respects inferInstance h₂.exact
  · exact endsIn_of_respects inferInstance hw.exact
  · have hposted : (env.result n).ok = true := eq_true_of_ne_false hok
    refine marked_verified hw hend ⟨by decide, by decide⟩ ⟨by decide, by decide⟩
      (fun h => hfirst ⟨.inl hposted, h⟩) (fun h => hsecond ⟨hposted, h⟩) fun w₁ h₁ => ?_
    exact endsIn_of_respects inferInstance h₁

theorem checkedLoggerCmd_exact {body : M Unit} (hw : MarkerExact w)
    (hbody : w.conn.connected = true → restEndpointError env.config = [] →
      EndsIn env body (fun _ w' => MarkerExact w') w) :
    EndsIn env (checkedLoggerCmd id type body) (fun _ w' => MarkerExact w') w := by
  unfold checkedLoggerCmd checkedRestEndpoint
  rw [EndsIn, wp_bind, wp_get, wp_ite]
  split_ifs with hoff
  · exact endsIn_of_respects inferInstance hw
  rw [wp_bind, wp_read, wp_ite]
  split_ifs with hend
  · exact endsIn_of_respects inferInstance hw
  · exact hbody (eq_true_of_ne_false hoff) (not_not.mp hend)

theorem handleLoggerStart_exact (hw : Marked m n w) (cmd : Json)
    (hforgets : w.conn.connected = true → restEndpointError env.config = [] →
      ¬ (Admission.accepted .loggerStart id type cmd).Forgets env m n) :
    EndsIn env (handleLoggerStart id type cmd) (fun _ w' => MarkerExact w') w := by
  unfold handleLoggerStart
  refine checkedLoggerCmd_exact hw.exact fun hconn hend => ?_
  obtain ⟨hfirst, hbehind⟩ := not_or.mp (hforgets hconn hend)
  refine marked_after hw inferInstance fun t w₁ h₁ => ?_
  refine marked_state h₁ hend ⟨by decide, by decide⟩ _ hfirst fun w₂ h₂ => ?_
  refine marked_after h₂ inferInstance fun _ w₃ h₃ => ?_
  simp only [EndsIn, wp_ite]
  split_ifs with hdone
  · exact endsIn_of_respects inferInstance h₃.exact
  refine marked_after h₃ inferInstance fun name w₄ h₄ => ?_
  refine marked_after h₄ inferInstance fun _ w₅ h₅ => ?_
  refine marked_after h₅ inferInstance fun _ w₆ h₆ => ?_
  unfold dataLoggerStart
  refine marked_reply h₆ hend _ fun w₇ h₇ => ?_
  refine marked_after h₇ inferInstance fun t' w₈ h₈ => ?_
  refine marked_after h₈ inferInstance fun _ w₉ h₉ => ?_
  exact concludeLoggerStart_exact h₉ hend fun h => hbehind ⟨eq_false_of_ne_true hdone, h⟩

theorem handleLoggerStop_exact (hw : Marked m n w) (cmd : Json)
    (hforgets : w.conn.connected = true → restEndpointError env.config = [] →
      ¬ (Admission.accepted .loggerStop id type cmd).Forgets env m n) :
    EndsIn env (handleLoggerStop id type) (fun _ w' => MarkerExact w') w := by
  unfold handleLoggerStop ackAlreadyStopped
  refine checkedLoggerCmd_exact hw.exact fun hconn hend => ?_
  obtain ⟨hfirst, hbehind⟩ := not_or.mp (hforgets hconn hend)
  refine marked_after hw inferInstance fun t w₁ h₁ => ?_
  refine marked_state h₁ hend ⟨by decide, by decide⟩ _ hfirst fun w₂ h₂ => ?_
  refine marked_after h₂ inferInstance fun _ w₃ h₃ => ?_
  simp only [EndsIn, wp_ite]
  split_ifs with hdone
  · exact endsIn_of_respects inferInstance h₃.exact
  refine marked_after h₃ inferInstance fun _ w₄ h₄ => ?_
  refine marked_after h₄ inferInstance fun _ w₅ h₅ => ?_
  unfold dataLoggerStop
  refine marked_reply h₅ hend _ fun w₆ h₆ => ?_
  refine marked_after h₆ inferInstance fun t' w₇ h₇ => ?_
  refine marked_after h₇ inferInstance fun _ w₈ h₈ => ?_
  exact concludeLoggerStop_exact h₈ hend fun h => hbehind ⟨eq_false_of_ne_true hdone, h⟩

theorem handleLoggerStatus_exact (hw : Marked m n w) (cmd : Json)
    (hforgets : w.conn.connected = true → restEndpointError env.config = [] →
      ¬ (Admission.accepted .loggerStatus id type cmd).Forgets env m n) :
    EndsIn env (handleLoggerStatus id type) (fun _ w' => MarkerExact w') w := by
  unfold handleLoggerStatus
  refine checkedLoggerCmd_exact hw.exact fun hconn hend => ?_
  refine marked_after hw inferInstance fun t w₁ h₁ => ?_
  refine marked_state h₁ hend ⟨by decide, by decide⟩ _ (hforgets hconn hend) fun w₂ h₂ => ?_
  exact endsIn_of_respects inferInstance h₂.exact

theorem dispatch_exact (hw : Marked m n w) (admission : Admission)
    (hforgets : w.conn.connected = true → restEndpointError env.config = [] →
      ¬ admission.Forgets env m n) :
    EndsIn env (dispatch admission) (fun _ w' => MarkerExact w') w := by
  cases admission with
  | refused ack => exact endsIn_of_respects (by unfold dispatch; infer_instance) hw.exact
  | accepted command id type cmd =>
    cases command
    case ping => exact endsIn_of_respects (by unfold dispatch handlePing; infer_instance) hw.exact
    case loggerStart => exact handleLoggerStart_exact hw cmd hforgets
    case loggerStop => exact handleLoggerStop_exact hw cmd hforgets
    case loggerStatus => exact handleLoggerStatus_exact hw cmd hforgets
    case unknown => exact endsIn_of_respects (by unfold dispatch; infer_instance) hw.exact

end Handlers

/-- The next reply is a success that finds the marker set. -/
def NextForgets (env : Env) (w : World) : Prop :=
  Forgets w.rxTimeoutErrorActive (env.result w.taken.rest)

/-- A reply that the operation asks for is a success that finds the marker set. -/
def Op.Forgets (env : Env) (w : World) (op : Op) : Prop :=
  restEndpointError env.config = [] ∧ match op with
    | .ensureConnection now => Due now w ∧ ¬SetupFails env w ∧ NextForgets env w
    | .handleFront => w.conn.connected = true ∧ ∃ command ∈ w.batch.head?, ∃ root,
      env.parse command.payload = .ok root ∧
        (admitParsed root).Forgets env w.rxTimeoutErrorActive w.taken.rest
    | .restTimer nowMs =>
      (0 < w.timers.nextRestPollMs ∧ w.timers.nextRestPollMs ≤ nowMs) ∧ NextForgets env w
    | .requestLoggerState .. => NextForgets env w
    | _ => False

section Operations

variable {env : Env} {w : World}

theorem MarkerExact.marked (h : MarkerExact w) : Marked w.rxTimeoutErrorActive w.taken.rest w :=
  ⟨h, rfl, rfl⟩

theorem requestLoggerState_exact (hw : MarkerExact w) (contextReason : Bytes) (nowMs : ℤ)
    (hforgets : restEndpointError env.config = [] → ¬ NextForgets env w) :
    EndsIn env (requestLoggerState contextReason nowMs) (fun _ w' => MarkerExact w') w := by
  have hstore {result : LoggerResult} {w₁ : World}
      (h₁ : Marked w.rxTimeoutErrorActive w₁.taken.rest w₁)
      (hresult : ¬ Forgets w.rxTimeoutErrorActive result) :
      EndsIn env (do
        markRestResult result contextReason nowMs
        storeLoggerState result contextReason
        return result) (fun _ w' => MarkerExact w') w₁ := by
    refine marked_after h₁ inferInstance fun _ w₂ h₂ => ?_
    rw [EndsIn, wp_bind]
    refine wp_mono (storeLoggerState_exact_iff h₂.exact) (fun _ w₃ h₃ => ?_) fun _ _ => False.elim
    rw [h₂.marker] at h₃
    exact h₃.mpr hresult
  unfold requestLoggerState dataLoggerGet
  by_cases hend : restEndpointError env.config = []
  · exact marked_reply hw.marked hend .get fun w₁ h₁ =>
      hstore ⟨h₁.exact, h₁.marker, rfl⟩ (hforgets hend)
  · obtain ⟨error, htarget, hok⟩ := validateRestTarget_fails hend
    simp only [EndsIn, callWithValidation, wp_bind, wp_read, htarget, wp_pure]
    have hfailed : ¬ Forgets w.rxTimeoutErrorActive error := by
      rintro ⟨-, hsuccess⟩
      exact Bool.false_ne_true (hok.symm.trans hsuccess)
    simpa only [EndsIn, wp_bind, wp_pure] using hstore hw.marked hfailed

theorem selfTest_exact {m : Bool} {n : ℕ} (hw : Marked m n w)
    (hforgets : restEndpointError env.config = [] → ¬ Forgets m (env.result n)) :
    EndsIn env selfTest (fun _ w' => MarkerExact w') w := by
  unfold selfTest
  refine marked_after hw inferInstance fun _ w₁ h₁ => ?_
  refine marked_after h₁ inferInstance fun t w₂ h₂ => ?_
  have hnext : restEndpointError env.config = [] → ¬ NextForgets env w₂ := by
    unfold NextForgets
    rw [h₂.marker, h₂.rest]
    exact hforgets
  rw [EndsIn, wp_bind]
  refine wp_mono (requestLoggerState_exact h₂.exact _ _ hnext) (fun _ w₃ h₃ => ?_) fun _ _ => id
  exact endsIn_of_respects inferInstance h₃

theorem startSession_exact {m : Bool} {n : ℕ} (hw : Marked m n w)
    (hforgets : restEndpointError env.config = [] → ¬ Forgets m (env.result n)) :
    EndsIn env startSession (fun _ w' => MarkerExact w') w := by
  unfold startSession
  refine marked_after hw inferInstance fun t w₁ h₁ => ?_
  rw [EndsIn, wp_bind, wp_read]
  refine marked_after h₁ (by unfold resetSession; infer_instance) fun _ w₂ h₂ => ?_
  refine marked_after h₂ inferInstance fun _ w₃ h₃ => ?_
  refine marked_after h₃ inferInstance fun t' w₄ h₄ => ?_
  refine marked_after h₄ inferInstance fun _ w₅ h₅ => ?_
  exact selfTest_exact h₅ hforgets

theorem connectOnce_exact (hw : MarkerExact w)
    (hforgets : restEndpointError env.config = [] → ¬SetupFails env w → ¬ NextForgets env w) :
    EndsIn env connectOnce (fun _ w' => MarkerExact w') w := by
  refine wp_connectOnce_of_setup (R := Keeping World.report) (fun w' hkept => ?_)
    fun hsetup w' hkept => ?_
  · exact (hw.marked.of_report hkept).exact
  · exact startSession_exact (hw.marked.of_report hkept) fun hend => hforgets hend hsetup

theorem ensureConnection_exact (hw : MarkerExact w) (now : TimePoint)
    (hforgets : ¬ Op.Forgets env w (.ensureConnection now)) :
    EndsIn env (ensureConnection now) (fun _ w' => MarkerExact w') w := by
  rw [EndsIn, wp_ensureConnection]
  split_ifs with hup hearly
  · exact hw
  · exact hw
  · have hdue : Due now w := ⟨eq_false_of_ne_true hup, Int.not_lt.mp hearly⟩
    exact connectOnce_exact (w := w.attempting now) hw fun hend hsetup hnext =>
      hforgets ⟨hend, hdue, hsetup, hnext⟩

theorem restTimer_exact (hw : MarkerExact w) (nowMs : ℤ)
    (hforgets : ¬ Op.Forgets env w (.restTimer nowMs)) :
    EndsIn env (restTimer nowMs) (fun _ w' => MarkerExact w') w := by
  have hpos := restPollInterval_pos env.config
  simp only [EndsIn, restTimer, setNextRestPoll, wp_bind, wp_get, wp_ite, wp_pure, wp_read,
    Part.wp_update]
  split_ifs with hunset hdue hdue
  · have hlater : nowMs + env.config.restPollInterval ≤ nowMs := hdue
    omega
  · exact hw
  · have hask := requestLoggerState_exact hw (bytes "poll.timer") nowMs
      fun hend hnext => hforgets ⟨hend, ⟨Int.not_le.mp hunset, hdue⟩, hnext⟩
    exact wp_mono hask (fun _ _ => id) fun _ _ => id
  · exact hw

theorem handleFront_exact (hw : MarkerExact w) (hforgets : ¬ Op.Forgets env w .handleFront) :
    EndsIn env handleFront (fun _ w' => MarkerExact w') w := by
  refine handleFront_leaves (fun _ => id) hw fun command hcommand => ?_
  unfold handleCommandMessage
  rw [wp_bind, wp_read, wp_bind]
  cases hparse : env.parse command.payload with
  | error e => exact hw
  | ok root =>
    rw [wp_liftJson_ok]
    exact dispatch_exact hw.marked _ fun hconn hend h =>
      hforgets ⟨hend, hconn, command, hcommand, root, hparse, h⟩

theorem Op.run_exact (hw : MarkerExact w) (op : Op) (hforgets : ¬ op.Forgets env w) :
    EndsIn env op.run (fun _ w' => MarkerExact w') w := by
  cases op
  case ensureConnection now => exact ensureConnection_exact hw now hforgets
  case handleFront => exact handleFront_exact hw hforgets
  case restTimer nowMs => exact restTimer_exact hw nowMs hforgets
  case requestLoggerState contextReason nowMs =>
    have hask := requestLoggerState_exact hw contextReason nowMs fun hend hnext =>
      hforgets ⟨hend, hnext⟩
    unfold Op.run
    rw [EndsIn, wp_bind]
    exact wp_mono hask (fun _ _ => id) fun _ _ => id
  all_goals
    refine endsIn_of_respects ?_ hw
    unfold Op.run
    dsimp only
    infer_instance

end Operations

theorem initialWorld_exact (config : EkinoxConfig) (inputs : Inputs) :
    MarkerExact (initialWorld config inputs) :=
  iff_of_false nofun (show ¬ [] = rxTimeoutText by decide)

/-- A reply is stored with the marker exact afterwards exactly unless it is a success that finds the
marker set. In every run in which no operation asks for such a reply the marker is exact in every
state. -/
theorem rx_marker_exact (platform : Platform) :
    (∀ (inputs : Inputs) (w : World) (result : LoggerResult) (contextReason : Bytes), MarkerExact w →
      (MarkerExact (exec (storeLoggerState result contextReason) ⟨platform, inputs⟩ w).2 ↔
        ¬ Forgets w.rxTimeoutErrorActive result)) ∧
    ∀ (inputs : Inputs) (steps : List Step),
      AllSteps (execStep platform) (fun s w => ¬ s.op.Forgets ⟨platform, s.inputs⟩ w) steps
        (initialWorld platform.config inputs) →
      MarkerExact (execSteps platform steps (initialWorld platform.config inputs)).2 := by
  constructor
  · intro inputs w result contextReason hw
    let Q (w' : World) : Prop := MarkerExact w' ↔ ¬ Forgets w.rxTimeoutErrorActive result
    exact exec_of_wp (I := Q) (wp_mono (storeLoggerState_exact_iff hw) (fun _ _ => id)
      fun _ _ => False.elim)
  · intro inputs steps hsteps
    refine execAll_invariant (execStep platform) (fun s w hforgets hw => ?_) hsteps
      (initialWorld_exact platform.config inputs)
    exact exec_of_wp (Op.run_exact hw s.op hforgets)

/-- The sensor falls silent while the device records; nothing is asked behind the report. -/
theorem rx_marker_exact_recording :
    (benchSilent 3 benchRecording).rxTimeoutErrorActive = true ∧
      MarkerExact (benchSilent 3 benchRecording) := by
  refine ⟨by decide +kernel, (rx_marker_exact benchPlatform).2 benchRecording _ ?_⟩
  refine .cons _ (fun h => ?_) (.cons _ (fun h => h.2) (.cons _ (fun h => h.2)
    (.cons _ (fun h => h.2) (.cons _ (fun h => h.2) trivial))))
  obtain ⟨-, -, -, hmarker, -⟩ := h
  exact Bool.false_ne_true hmarker

/-- The next poll of the logger clears the report and leaves its marker. -/
theorem rx_marker_left_behind :
    let steps := benchSilentSteps 3 benchRecording ++ [⟨.restTimer 7000, benchRecording⟩]
    let final := execSteps benchPlatform steps (initialWorld benchPlatform.config benchRecording)
    final.1 = .ok () ∧ final.2.rxTimeoutErrorActive = true ∧ ¬ MarkerExact final.2 := by
  decide +kernel

end Ironsoft.Ekinox
