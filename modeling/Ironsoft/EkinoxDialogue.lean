import Ironsoft.EkinoxThrows
import Ironsoft.LoggerModel

/-!
# Dialogues with the logger

The recording commands of the service do what the model of a logger command does with the
replies they get, up to a publish or a reply that throws.
-/
namespace Ironsoft.Ekinox
open Effect LoggerModel

set_option synthInstance.maxSize 400000
set_option synthInstance.maxHeartbeats 200000

def ServiceState.phase : ServiceState → Phase
  | recording => .recording
  | idle => .idle
  | starting => .starting
  | stopping => .stopping
  | error => .error
  | connecting | disconnected => .other

theorem ServiceState.transient_iff (state : ServiceState) :
    state.transient ↔ state.phase.transient := by
  cases state <;> simp [ServiceState.transient, ServiceState.phase, Phase.transient]

def LoggerStatus.view (s : LoggerStatus) : View :=
  ⟨s.state.phase, s.recordingActive, !s.sessionName.isEmpty⟩

def LoggerResult.reply (result : LoggerResult) : Reply where
  report :=
    if result.ok then
      if result.hasRecordingFlag then if result.recordingActive then .recording else .idle
      else .silent
    else if result.httpCode = 404 then .missing
    else .failed
  named := !result.sessionName.isEmpty

def LoggerResult.posted (result : LoggerResult) : Posted :=
  if result.ok then .accepted
  else if result.httpCode = 409 then .conflict
  else if result.httpCode = 404 then .missing
  else if result.httpCode = 500 then .broken
  else .failed

def Event.talk? : Event → Option Talk
  | .mqtt (.publish ⟨_, .status s, _, _⟩) false => some (.published s.view)
  | .publishAck ack => some (.acked ack.ok)
  | _ => none

abbrev World.talk : World → List Talk := heard Event.talk?

def World.desk (w : World) : Desk := ⟨w.status.view, w.talk⟩

def World.access (config : EkinoxConfig) (w : World) : Access :=
  if w.conn.connected = false then .offline
  else if restEndpointError config ≠ [] then .unconfigured
  else .granted

/-- The result of the `k`-th exchange. -/
def Inputs.result (inputs : Inputs) (k : ℕ) : LoggerResult :=
  match inputs.rest k with
  | .ok result => result
  | .error _ => {}

/-- The service is connected, `n` exchanges have been made, and this is its desk. -/
structure At (n : ℕ) (d : Desk) (w : World) : Prop where
  connected : w.conn.connected = true
  rest : w.taken.rest = n
  desk : w.desk = d

def World.dialogue (w : World) : Bool × ℕ × Desk := (w.conn.connected, w.taken.rest, w.desk)

theorem dialogue_eq_iff {w : World} {connected : Bool} {n : ℕ} {d : Desk} :
    w.dialogue = (connected, n, d) ↔ w.conn.connected = connected ∧ w.taken.rest = n ∧ w.desk = d := by
  simp only [World.dialogue, Prod.mk.injEq]

theorem At.self {w : World} (h : w.conn.connected = true) : At w.taken.rest w.desk w :=
  ⟨h, rfl, rfl⟩

theorem At.of_kept {n : ℕ} {d : Desk} {w w' : World} (h : At n d w)
    (hw : w'.dialogue = w.dialogue) : At n d w' := by
  obtain ⟨hconnected, hrest, hdesk⟩ := dialogue_eq_iff.mp hw
  exact ⟨hconnected.trans h.connected, hrest.trans h.rest, hdesk.trans h.desk⟩

theorem At.tookSteady {n : ℕ} {d : Desk} {w : World} (h : At n d w) : At n d w.tookSteady :=
  ⟨h.connected, h.rest, h.desk⟩

theorem At.withLinkHealth {n : ℕ} {d : Desk} {w : World} (h : At n d w) (config : EkinoxConfig)
    (nowMs : ℤ) : At n d (w.withLinkHealth config nowMs) :=
  ⟨h.connected, h.rest, h.desk⟩

section Frames

instance : IgnoresReadings (Keeping World.dialogue) :=
  ⟨fun _ => rfl, fun _ => rfl, fun _ => rfl, fun _ => rfl, fun _ => rfl⟩
instance : atLink.Ignored (Keeping World.dialogue) := ⟨fun _ _ => rfl⟩
instance : atError.Ignored (Keeping World.dialogue) := ⟨fun _ _ => rfl⟩
instance : atMarker.Ignored (Keeping World.dialogue) := ⟨fun _ _ => rfl⟩
instance : atPresence.Ignored (Keeping World.dialogue) := ⟨fun _ _ => rfl⟩
instance : atRest.Ignored (Keeping World.dialogue) := ⟨fun _ _ => rfl⟩
instance (topic : Bytes) (p : PresencePayload) (qos : ℕ) (retained threw : Bool) :
    Emits (Keeping World.dialogue) (.mqtt (.publish ⟨topic, .presence p, qos, retained⟩) threw) :=
  ⟨fun _ => rfl⟩
instance (topic : Bytes) (a : Ack) (ts : ℤ) (qos : ℕ) (retained threw : Bool) :
    Emits (Keeping World.dialogue) (.mqtt (.publish ⟨topic, .ack a ts, qos, retained⟩) threw) :=
  ⟨fun _ => rfl⟩
instance (m : Bytes) : Emits (Keeping World.dialogue) (.errorSet m) := ⟨fun _ => rfl⟩
instance (r : LoggerResult) (t : ℤ) : Emits (Keeping World.dialogue) (.restResult r t) :=
  ⟨fun _ => rfl⟩

end Frames

section Reports

variable (result : LoggerResult)

theorem resultReportsRecording_iff :
    resultReportsRecording result = true ↔ result.reply.report = .recording := by
  unfold resultReportsRecording LoggerResult.reply
  cases result.ok <;> cases result.hasRecordingFlag <;> cases result.recordingActive <;>
    simp <;> split_ifs <;> simp

theorem resultReportsIdle_iff :
    resultReportsIdle result = true ↔ result.reply.report = .idle := by
  unfold resultReportsIdle LoggerResult.reply
  cases result.ok <;> cases result.hasRecordingFlag <;> cases result.recordingActive <;>
    simp <;> split_ifs <;> simp

theorem LoggerResult.ok_eq : result.ok =
    decide (result.reply.report ≠ .missing ∧ result.reply.report ≠ .failed) := by
  unfold LoggerResult.reply
  cases result.ok <;> cases result.hasRecordingFlag <;> cases result.recordingActive <;> simp

theorem startConfirmed_eq (v : LoggerResult × LoggerResult) :
    startConfirmed v = decide (v.1.reply.report = .recording ∨ v.2.reply.report = .recording) := by
  rw [Bool.eq_iff_iff, decide_eq_true_eq, ← resultReportsRecording_iff,
    ← resultReportsRecording_iff, ← Bool.or_eq_true]
  simp [startConfirmed, loggerStateMatches, resultReportsRecording]

theorem stopConfirmed_iff (v : LoggerResult × LoggerResult) :
    stopConfirmed v = true ↔ v.1.reply.report = .idle ∨ v.2.reply.report = .idle := by
  rw [← resultReportsIdle_iff, ← resultReportsIdle_iff, ← Bool.or_eq_true]
  simp [stopConfirmed, loggerStateMatches, resultReportsIdle]

end Reports

section Steps

variable {env : Env} {n : ℕ} {d : Desk} {w : World}

theorem setState_at (h : At n d w) (state : ServiceState) :
    wp (setState state) env (fun _ w' => At n (d.setPhase state.phase) w') (fun _ _ => False) w := by
  simp only [setState, Part.wp_update]
  exact ⟨h.connected, h.rest, by rw [← h.desk]; rfl⟩

theorem publishStatus_at (h : At n d w) :
    wp publishStatus env (fun _ w' => At n d.publish w') (fun _ w' => w'.talk = d.talk) w := by
  simp only [publishStatus, wp_bind, wp_get, wp_ite, wp_pure, wp_read, wp_mqttCall]
  split_ifs with hoff
  · exact absurd (hoff.symm.trans h.connected) Bool.false_ne_true
  · exact congrArg Desk.talk h.desk
  · exact ⟨h.connected, h.rest, by rw [← h.desk]; rfl⟩

theorem storeLoggerState_hears (w : World) (result : LoggerResult) (contextReason : Bytes) :
    wp (storeLoggerState result contextReason) env
      (fun _ w' => w'.dialogue = (w.conn.connected, w.taken.rest, w.desk.hear result.reply))
      (fun _ _ => False) w := by
  simp only [storeLoggerState, setError, setState, wp_emit, wp_bind, wp_ite, wp_get, wp_unixTs,
    wp_pure, Part.wp_update, atLogger, atError, atMarker]
  split_ifs
  all_goals
    refine dialogue_eq_iff.mpr ⟨rfl, rfl, Desk.ext ?_ rfl⟩
    simp_all [World.desk, Desk.hear, View.hear, LoggerResult.reply, LoggerStatus.view,
      ServiceState.phase, World.tookSystem, World.said]

theorem storeLoggerState_at (h : At n d w) (result : LoggerResult) (contextReason : Bytes) :
    wp (storeLoggerState result contextReason) env (fun _ w' => At n (d.hear result.reply) w')
      (fun _ _ => False) w := by
  refine wp_mono (storeLoggerState_hears w result contextReason) (fun _ w' hw => ?_)
    fun _ _ => False.elim
  obtain ⟨hconnected, hrest, hdesk⟩ := dialogue_eq_iff.mp hw
  exact ⟨hconnected.trans h.connected, hrest.trans h.rest, by rw [hdesk, h.desk]⟩

/-- A request to an endpoint that is configured takes the next result. -/
theorem wp_exchange {Q : LoggerResult → World → Prop} {E : Exn → World → Prop}
    (hend : restEndpointError env.config = []) (request : RestRequest)
    (hQ : Q (env.result w.taken.rest) (w.tookRest.said (.restRequest request)))
    (hE : ∀ e, E (.json e) (w.tookRest.said (.restRequest request))) :
    wp (callWithValidation (performRest request)) env Q E w := by
  simp only [callWithValidation, wp_bind, wp_read, validateRestTarget_eq_none hend, wp_performRest]
  unfold Inputs.result at hQ
  cases hreply : env.rest w.taken.rest with
  | ok result =>
    rw [hreply] at hQ
    exact hQ
  | error e => exact hE e

theorem exchange_at (h : At n d w) (hend : restEndpointError env.config = [])
    (request : RestRequest) :
    wp (callWithValidation (performRest request)) env
      (fun result w' => result = env.result n ∧ At (n + 1) d w') (fun _ w' => w'.talk = d.talk)
      w := by
  have htook : At (n + 1) d (w.tookRest.said (.restRequest request)) :=
    ⟨h.connected, congrArg (· + 1) h.rest, by rw [← h.desk]; rfl⟩
  exact wp_exchange hend request ⟨congrArg env.result h.rest, htook⟩
    fun _ => congrArg Desk.talk htook.desk

theorem respected_at {α : Type} {x : M α} (h : At n d w)
    (hx : Respects env (Keeping World.dialogue) x) :
    wp x env (fun _ w' => At n d w') (fun _ w' => w'.talk = d.talk) w :=
  wp_mono (respects_iff_wp.mp hx w) (fun _ _ hw => h.of_kept hw)
    fun _ _ hw => congrArg Desk.talk (h.of_kept hw).desk

theorem requestLoggerState_at (h : At n d w) (hend : restEndpointError env.config = [])
    (contextReason : Bytes) (nowMs : ℤ) :
    wp (requestLoggerState contextReason nowMs) env
      (fun result w' => result = env.result n ∧ At (n + 1) (d.hear (env.result n).reply) w')
      (fun _ w' => w'.talk = d.talk) w := by
  unfold requestLoggerState dataLoggerGet
  rw [wp_bind]
  refine wp_mono (exchange_at h hend .get) (fun result w₁ hw => ?_) fun _ _ => id
  obtain ⟨rfl, h₁⟩ := hw
  rw [wp_bind]
  refine wp_mono (respected_at h₁ inferInstance) (fun _ w₂ h₂ => ?_) fun _ _ => id
  rw [wp_bind]
  exact wp_mono (storeLoggerState_at h₂ _ contextReason) (fun _ _ h₃ => ⟨rfl, h₃⟩)
    fun _ _ => False.elim

theorem kept_at {α : Type} {x : M α} (h : At n d w) (hx : Respects env (Keeping World.dialogue) x)
    (ht : Throws env (fun _ => False) x) :
    wp x env (fun _ w' => At n d w') (fun _ _ => False) w :=
  wp_mono (hx.returns ht w) (fun _ _ hw => h.of_kept hw) fun _ _ => id

theorem publishAck_dialogue (w : World) (ack : Ack) :
    wp (publishAck ack) env
      (fun _ w' => w'.dialogue = (w.conn.connected, w.taken.rest, w.desk.ack ack.ok))
      (fun _ _ => False) w := by
  unfold publishAck
  rw [wp_bind, wp_emit]
  refine Respects.returns (R := Keeping World.dialogue) ?_ inferInstance _
  infer_instance

theorem sendAck_at (h : At n d w) (id type : Bytes) (ok : Bool) (message err : Bytes)
    (httpCode : ℤ) :
    wp (sendAck id type ok message err httpCode) env (fun _ w' => At n (d.ack ok) w')
      (fun _ _ => False) w := by
  unfold sendAck
  refine wp_mono (publishAck_dialogue w _) (fun _ w' hw => ?_) fun _ _ => False.elim
  obtain ⟨hconnected, hrest, hdesk⟩ := dialogue_eq_iff.mp hw
  exact ⟨hconnected.trans h.connected, hrest.trans h.rest, by rw [hdesk, h.desk]⟩

theorem failLoggerCmd_at (h : At n d w) (id type : Bytes) (result : LoggerResult)
    (message : Bytes) :
    wp (failLoggerCmd id type result message) env
      (fun _ w' => At n (giveUp (if result.httpCode = 404 then .idle else .error) d) w')
      (fun _ w' => w'.talk = d.talk) w := by
  have hphase : (if result.httpCode = 404 then ServiceState.idle else .error).phase =
      if result.httpCode = 404 then Phase.idle else .error := by
    split_ifs <;> rfl
  unfold failLoggerCmd giveUp
  rw [wp_bind, ← hphase]
  refine wp_mono (setState_at h _) (fun _ w₁ h₁ => ?_) fun _ _ => False.elim
  rw [wp_bind]
  refine wp_mono (kept_at h₁ inferInstance inferInstance) (fun _ w₂ h₂ => ?_) fun _ _ => False.elim
  rw [wp_bind]
  refine wp_mono (publishStatus_at h₂) (fun _ w₃ h₃ => ?_) fun _ _ hw => hw
  exact wp_mono (sendAck_at h₃ _ _ _ _ _ _) (fun _ _ hw => hw) fun _ _ => False.elim

theorem verifyLoggerState_at (h : At n d w) (hend : restEndpointError env.config = [])
    (nowReason laterReason : Bytes) :
    wp (verifyLoggerState nowReason laterReason) env
      (fun v w' => v = (env.result n, env.result (n + 1)) ∧
        At (n + 2) ((d.hear (env.result n).reply).hear (env.result (n + 1)).reply) w')
      (fun _ w' => w'.talk = d.talk) w := by
  simp only [verifyLoggerState, wp_bind, wp_monoNow]
  refine wp_mono (requestLoggerState_at h.tookSteady hend _ _) (fun _ w₁ hw => ?_)
    fun _ _ => id
  obtain ⟨rfl, h₁⟩ := hw
  simp only [wp_bind, wp_monoNow]
  refine wp_mono (requestLoggerState_at h₁.tookSteady hend _ _) (fun _ w₂ hw => ?_)
    fun _ _ => id
  obtain ⟨rfl, h₂⟩ := hw
  exact ⟨rfl, h₂⟩

end Steps

section Commands

variable {env : Env} {n : ℕ} {d : Desk} {w : World}

theorem posted_of_ok {result : LoggerResult} (h : result.ok = true) : result.posted = .accepted := by
  simp [LoggerResult.posted, h]

theorem posted_of_conflict {result : LoggerResult} (h : result.ok = false)
    (hcode : result.httpCode = 409) : result.posted = .conflict := by
  simp [LoggerResult.posted, h, hcode]

theorem startPosted_of_failed {result : LoggerResult} (h : result.ok = false)
    (hcode : result.httpCode ≠ 409) (r₁ r₂ : Reply) (d : Desk) :
    startPosted result.posted r₁ r₂ d =
      giveUp (if result.httpCode = 404 then .idle else .error) d := by
  simp only [LoggerResult.posted, h, Bool.false_eq_true, if_false, if_neg hcode]
  split_ifs <;> rfl

theorem concludeLoggerStart_refines (h : At n d w) (hend : restEndpointError env.config = [])
    (id type : Bytes) (result : LoggerResult) :
    let d' := startPosted result.posted (env.result n).reply (env.result (n + 1)).reply d
    wp (concludeLoggerStart id type result) env (fun _ w' => w'.desk = d')
      (fun _ w' => w'.talk <:+ d'.talk.tail) w := by
  intro d'
  have hleft {w' : World} (hw : w'.talk = d.talk) : w'.talk <:+ d'.talk.tail :=
    hw ▸ (startPosted_ends _ _ _ d).unacked.grows
  unfold concludeLoggerStart
  simp only [wp_ite, wp_bind, wp_monoNow]
  split_ifs with hok hconflict
  · have hd' : d' = (d.hear (env.result n).reply).publish.ack true := by
      simp only [d', posted_of_conflict hok hconflict, startPosted]
    refine wp_mono (requestLoggerState_at h.tookSteady hend _ _) (fun _ w₁ hw => ?_)
      fun _ _ => hleft
    obtain ⟨-, h₁⟩ := hw
    rw [wp_bind]
    refine wp_mono (publishStatus_at h₁) (fun _ w₂ h₂ => ?_) fun _ _ => hleft
    rw [wp_bind, hd']
    exact wp_mono (sendAck_at h₂ _ _ _ _ _ _) (fun _ _ h₃ => h₃.desk) fun _ _ => False.elim
  · have hd' : d' = giveUp (if result.httpCode = 404 then .idle else .error) d :=
      startPosted_of_failed hok hconflict _ _ d
    rw [hd']
    refine wp_mono (failLoggerCmd_at h _ _ _ _) (fun _ _ h₁ => h₁.desk) fun _ _ hw => ?_
    rw [← hd']
    exact hleft hw
  · have hok := eq_true_of_ne_false hok
    refine wp_mono (verifyLoggerState_at h hend _ _) (fun v w₁ hw => ?_) fun _ _ => hleft
    obtain ⟨rfl, h₁⟩ := hw
    rw [wp_bind]
    refine wp_mono (publishStatus_at h₁) (fun _ w₂ h₂ => ?_) fun _ _ => hleft
    have hack (ok : Bool) (hconfirmed : startConfirmed (env.result n, env.result (n + 1)) = ok) :
        d' = (((d.hear (env.result n).reply).hear (env.result (n + 1)).reply).publish).ack ok := by
      rw [← hconfirmed, startConfirmed_eq]
      simp only [d', posted_of_ok hok, startPosted]
    rw [wp_ite]
    split_ifs with hconfirmed
    · rw [wp_bind, hack true hconfirmed]
      exact wp_mono (sendAck_at h₂ _ _ _ _ _ _) (fun _ _ h₃ => h₃.desk) fun _ _ => False.elim
    · rw [hack false (eq_false_of_ne_true hconfirmed)]
      exact wp_mono (sendAck_at h₂ _ _ _ _ _ _) (fun _ _ h₃ => h₃.desk) fun _ _ => False.elim

theorem wp_checkedLoggerCmd (h : At n d w) (hend : restEndpointError env.config = [])
    (id type : Bytes) (body : M Unit) {Q : Unit → World → Prop} {E : Exn → World → Prop} :
    wp (checkedLoggerCmd id type body) env Q E w ↔ wp body env Q E w := by
  simp only [checkedLoggerCmd, checkedRestEndpoint, wp_bind, wp_get, wp_read, h.connected, hend,
    ne_eq, not_true, Bool.true_eq_false, if_false]

theorem handleLoggerStart_granted (h : At n d w) (hend : restEndpointError env.config = [])
    (id type : Bytes) (cmd : Json) :
    let d' := start (env.result n).reply (env.result (n + 1)).posted (env.result (n + 2)).reply
      (env.result (n + 3)).reply d
    wp (handleLoggerStart id type cmd) env (fun _ w' => w'.desk = d')
      (fun _ w' => w'.talk <:+ d'.talk.tail) w := by
  intro d'
  rw [handleLoggerStart, wp_checkedLoggerCmd h hend]
  simp only [wp_bind, wp_monoNow]
  refine wp_mono (requestLoggerState_at h.tookSteady hend _ _) (fun pre w₁ hw => ?_)
    fun _ _ (hw : _ = d.talk) => hw ▸ (start_unacked _ _ _ _ d).grows
  obtain ⟨rfl, h₁⟩ := hw
  rw [wp_bind]
  refine wp_mono (publishStatus_at h₁) (fun _ w₂ h₂ => ?_)
    fun _ _ (hw : _ = d.talk) => hw ▸ (start_unacked _ _ _ _ d).grows
  rw [wp_ite]
  split_ifs with hrecording
  · have hd' : d' = (d.hear (env.result n).reply).publish.ack true :=
      start_of_recording d ((resultReportsRecording_iff _).mp hrecording) _ _ _
    rw [wp_bind, hd']
    exact wp_mono (sendAck_at h₂ _ _ _ _ _ _) (fun _ _ h₃ => h₃.desk) fun _ _ => False.elim
  generalize hd₁ : (d.hear (env.result n).reply).publish.setPhase .starting = d₁
  have hd' : d' = startPosted (env.result (n + 1)).posted (env.result (n + 2)).reply
      (env.result (n + 3)).reply d₁.publish := by
    rw [← hd₁]
    exact start_of_not_recording d (fun hr => hrecording ((resultReportsRecording_iff _).mpr hr)) _ _ _
  have hgrows : d₁.publish.talk <:+ d'.talk.tail := hd' ▸ (startPosted_ends _ _ _ _).unacked.grows
  rw [wp_bind]
  refine wp_mono (kept_at h₂ inferInstance inferInstance) (fun name w₃ h₃ => ?_)
    fun _ _ => False.elim
  rw [wp_bind]
  refine wp_mono (setState_at h₃ .starting) (fun _ w₄ h₄ => ?_) fun _ _ => False.elim
  replace h₄ : At (n + 1) d₁ w₄ := hd₁ ▸ h₄
  rw [wp_bind]
  refine wp_mono (publishStatus_at h₄) (fun _ w₅ h₅ => ?_)
    fun _ _ (hw : _ = d₁.talk) => hw ▸ (List.suffix_cons _ _).trans hgrows
  have hleft {w' : World} (hw : w'.talk = d₁.publish.talk) : w'.talk <:+ d'.talk.tail := hw ▸ hgrows
  rw [dataLoggerStart, wp_bind]
  refine wp_mono (exchange_at h₅ hend _) (fun result w₆ hw => ?_) fun _ _ => hleft
  obtain ⟨rfl, h₆⟩ := hw
  simp only [wp_bind, wp_monoNow]
  refine wp_mono (respected_at h₆.tookSteady inferInstance) (fun _ w₇ h₇ => ?_) fun _ _ => hleft
  rw [hd']
  exact concludeLoggerStart_refines h₇ hend id type _

theorem clearSessionName_at (h : At n d w) :
    At n d.clearName (atLogger.set { atLogger.get w with sessionName := [] } w) :=
  ⟨h.connected, h.rest, by rw [← h.desk]; rfl⟩

theorem ackAlreadyStopped_at (h : At n d w) (id type : Bytes) (httpCode : ℤ) :
    wp (ackAlreadyStopped id type httpCode) env (fun _ w' => At n (alreadyStopped d) w')
      (fun _ w' => w'.talk = d.talk) w := by
  have hclear := clearSessionName_at h
  unfold ackAlreadyStopped alreadyStopped clearSessionName
  rw [wp_bind, Part.wp_update, wp_bind]
  refine wp_mono (setState_at hclear .idle) (fun _ w₁ h₁ => ?_) fun _ _ => False.elim
  rw [wp_bind]
  refine wp_mono (publishStatus_at h₁) (fun _ w₂ h₂ => ?_) fun _ _ hw => hw
  exact wp_mono (sendAck_at h₂ _ _ _ _ _ _) (fun _ _ hw => hw) fun _ _ => False.elim

theorem stopPosted_of_failed {result : LoggerResult} (h : result.ok = false)
    (hcode : ¬(result.httpCode = 500 ∨ result.httpCode = 409)) (r₁ r₂ : Reply) (d : Desk) :
    stopPosted result.posted r₁ r₂ d =
      giveUp (if result.httpCode = 404 then .idle else .error) d := by
  obtain ⟨h500, h409⟩ := not_or.mp hcode
  simp only [LoggerResult.posted, h, Bool.false_eq_true, if_false, if_neg h409, if_neg h500]
  split_ifs <;> rfl

theorem stopPosted_of_asked {result : LoggerResult} (h : result.ok = false)
    (hcode : result.httpCode = 500 ∨ result.httpCode = 409) (r₁ r₂ : Reply) (d : Desk) :
    stopPosted result.posted r₁ r₂ d =
      if r₁.report = .idle then alreadyStopped (d.hear r₁).publish
      else giveUp (if result.httpCode = 404 then .idle else .error) (d.hear r₁).publish := by
  rcases hcode with hcode | hcode <;> simp [LoggerResult.posted, h, hcode, stopPosted]

theorem concludeLoggerStop_refines (h : At n d w) (hend : restEndpointError env.config = [])
    (id type : Bytes) (result : LoggerResult) :
    let d' := stopPosted result.posted (env.result n).reply (env.result (n + 1)).reply d
    wp (concludeLoggerStop id type result) env (fun _ w' => w'.desk = d')
      (fun _ w' => w'.talk <:+ d'.talk.tail) w := by
  intro d'
  have hleft {w' : World} (hw : w'.talk = d.talk) : w'.talk <:+ d'.talk.tail :=
    hw ▸ (stopPosted_ends _ _ _ d).unacked.grows
  unfold concludeLoggerStop
  simp only [wp_ite, wp_bind, wp_monoNow]
  split_ifs with hok hasked
  · have hd' : d' = _ := stopPosted_of_asked hok hasked _ _ d
    refine wp_mono (requestLoggerState_at h.tookSteady hend _ _) (fun retry w₁ hw => ?_)
      fun _ _ => hleft
    obtain ⟨rfl, h₁⟩ := hw
    rw [wp_bind]
    refine wp_mono (publishStatus_at h₁) (fun _ w₂ h₂ => ?_) fun _ _ => hleft
    rw [wp_ite]
    split_ifs with hidle
    · rw [hd', if_pos ((resultReportsIdle_iff _).mp hidle), wp_bind]
      refine wp_mono (ackAlreadyStopped_at h₂ _ _ _) (fun _ _ h₃ => h₃.desk) fun _ _ hw => ?_
      rw [hw]
      exact (alreadyStopped_unacked _).grows
    · rw [hd', if_neg fun hr => hidle ((resultReportsIdle_iff _).mpr hr), wp_bind]
      refine wp_mono (failLoggerCmd_at h₂ _ _ _ _) (fun _ _ h₃ => h₃.desk) fun _ _ hw => ?_
      rw [hw]
      exact (giveUp_unacked _ _).grows
  · have hd' : d' = giveUp (if result.httpCode = 404 then .idle else .error) d :=
      stopPosted_of_failed hok hasked _ _ d
    rw [hd']
    refine wp_mono (failLoggerCmd_at h _ _ _ _) (fun _ _ h₁ => h₁.desk) fun _ _ hw => ?_
    rw [← hd']
    exact hleft hw
  · have hok := eq_true_of_ne_false hok
    refine wp_mono (verifyLoggerState_at h hend _ _) (fun v w₁ hw => ?_) fun _ _ => hleft
    obtain ⟨rfl, h₁⟩ := hw
    have hd' : d' = stopPosted .accepted (env.result n).reply (env.result (n + 1)).reply d := by
      rw [← posted_of_ok hok]
    rw [wp_ite]
    split_ifs with hconfirmed
    · replace hd' := hd'.trans (if_pos ((stopConfirmed_iff _).mp hconfirmed))
      have hclear := clearSessionName_at h₁
      simp only [clearSessionName, wp_bind, Part.wp_update]
      refine wp_mono (publishStatus_at hclear) (fun _ w₂ h₂ => ?_) fun _ _ => hleft
      rw [wp_bind, hd']
      exact wp_mono (sendAck_at h₂ _ _ _ _ _ _) (fun _ _ h₃ => h₃.desk) fun _ _ => False.elim
    · replace hd' := hd'.trans (if_neg fun hr => hconfirmed ((stopConfirmed_iff _).mpr hr))
      rw [wp_bind]
      refine wp_mono (publishStatus_at h₁) (fun _ w₂ h₂ => ?_) fun _ _ => hleft
      rw [hd']
      exact wp_mono (sendAck_at h₂ _ _ _ _ _ _) (fun _ _ h₃ => h₃.desk) fun _ _ => False.elim

theorem handleLoggerStop_granted (h : At n d w) (hend : restEndpointError env.config = [])
    (id type : Bytes) :
    let d' := stop (env.result n).reply (env.result (n + 1)).posted (env.result (n + 2)).reply
      (env.result (n + 3)).reply d
    wp (handleLoggerStop id type) env (fun _ w' => w'.desk = d')
      (fun _ w' => w'.talk <:+ d'.talk.tail) w := by
  intro d'
  rw [handleLoggerStop, wp_checkedLoggerCmd h hend]
  simp only [wp_bind, wp_monoNow]
  refine wp_mono (requestLoggerState_at h.tookSteady hend _ _) (fun pre w₁ hw => ?_)
    fun _ _ (hw : _ = d.talk) => hw ▸ (stop_unacked _ _ _ _ d).grows
  obtain ⟨rfl, h₁⟩ := hw
  rw [wp_bind]
  refine wp_mono (publishStatus_at h₁) (fun _ w₂ h₂ => ?_)
    fun _ _ (hw : _ = d.talk) => hw ▸ (stop_unacked _ _ _ _ d).grows
  rw [wp_ite]
  split_ifs with hidle
  · have hd' : d' = alreadyStopped (d.hear (env.result n).reply).publish :=
      stop_of_idle d ((resultReportsIdle_iff _).mp hidle) _ _ _
    rw [wp_bind, hd']
    refine wp_mono (ackAlreadyStopped_at h₂ _ _ _) (fun _ _ h₃ => h₃.desk) fun _ _ hw => ?_
    rw [hw]
    exact (alreadyStopped_unacked _).grows
  generalize hd₁ : (d.hear (env.result n).reply).publish.setPhase .stopping = d₁
  have hd' : d' = stopPosted (env.result (n + 1)).posted (env.result (n + 2)).reply
      (env.result (n + 3)).reply d₁.publish := by
    rw [← hd₁]
    exact stop_of_not_idle d (fun hr => hidle ((resultReportsIdle_iff _).mpr hr)) _ _ _
  have hgrows : d₁.publish.talk <:+ d'.talk.tail := hd' ▸ (stopPosted_ends _ _ _ _).unacked.grows
  rw [wp_bind]
  refine wp_mono (setState_at h₂ .stopping) (fun _ w₃ h₃ => ?_) fun _ _ => False.elim
  replace h₃ : At (n + 1) d₁ w₃ := hd₁ ▸ h₃
  rw [wp_bind]
  refine wp_mono (publishStatus_at h₃) (fun _ w₄ h₄ => ?_)
    fun _ _ (hw : _ = d₁.talk) => hw ▸ (List.suffix_cons _ _).trans hgrows
  have hleft {w' : World} (hw : w'.talk = d₁.publish.talk) : w'.talk <:+ d'.talk.tail := hw ▸ hgrows
  rw [dataLoggerStop, wp_bind]
  refine wp_mono (exchange_at h₄ hend _) (fun result w₅ hw => ?_) fun _ _ => hleft
  obtain ⟨rfl, h₅⟩ := hw
  simp only [wp_bind, wp_monoNow]
  refine wp_mono (respected_at h₅.tookSteady inferInstance) (fun _ w₆ h₆ => ?_) fun _ _ => hleft
  rw [hd']
  exact concludeLoggerStop_refines h₆ hend id type _

theorem handleLoggerStatus_granted (h : At n d w) (hend : restEndpointError env.config = [])
    (id type : Bytes) :
    let d' := inquire (env.result n).reply d
    wp (handleLoggerStatus id type) env (fun _ w' => w'.desk = d')
      (fun _ w' => w'.talk <:+ d'.talk.tail) w := by
  intro d'
  have hleft {w' : World} (hw : w'.talk = d.talk) : w'.talk <:+ d'.talk.tail :=
    hw ▸ (publish_ack_ends (d.hear (env.result n).reply) _).unacked.grows
  rw [handleLoggerStatus, wp_checkedLoggerCmd h hend]
  simp only [wp_bind, wp_monoNow]
  refine wp_mono (requestLoggerState_at h.tookSteady hend _ _) (fun result w₁ hw => ?_)
    fun _ _ => hleft
  obtain ⟨rfl, h₁⟩ := hw
  rw [wp_bind]
  refine wp_mono (publishStatus_at h₁) (fun _ w₂ h₂ => ?_) fun _ _ => hleft
  have hack (ok : Bool) (hok : (env.result n).ok = ok) :
      d' = (d.hear (env.result n).reply).publish.ack ok := by
    rw [← hok, LoggerResult.ok_eq]
    rfl
  rw [wp_ite]
  split_ifs with hok
  · simp only [wp_bind, wp_get]
    rw [hack true hok]
    exact wp_mono (sendAck_at h₂ _ _ _ _ _ _) (fun _ _ h₃ => h₃.desk) fun _ _ => False.elim
  · rw [hack false (eq_false_of_ne_true hok)]
    exact wp_mono (sendAck_at h₂ _ _ _ _ _ _) (fun _ _ h₃ => h₃.desk) fun _ _ => False.elim

/-- `conducted` is what the body of a command makes of the desk behind the checks. -/
theorem checkedLoggerCmd_refines (id type : Bytes) {body : M Unit} {conducted : Desk}
    (h : w.access env.config = .granted → wp (checkedLoggerCmd id type body) env
      (fun _ w' => w'.desk = conducted) (fun _ w' => w'.talk <:+ conducted.talk.tail) w) :
    let d' := (w.access env.config).yields w.desk conducted
    wp (checkedLoggerCmd id type body) env (fun _ w' => w'.desk = d')
      (fun _ w' => w'.talk <:+ d'.talk.tail) w := by
  intro d'
  by_cases hoff : w.conn.connected = false
  · have hd' : d' = w.desk.ack false := by
      simp only [d', World.access, if_pos hoff, Access.yields]
    have herror : Respects env (Keeping World.dialogue) (setError mqttOfflineText) := inferInstance
    simp only [checkedLoggerCmd, wp_bind, wp_get, if_pos hoff]
    refine wp_mono (herror.returns inferInstance w) (fun _ w₁ hw₁ => ?_) fun _ _ => False.elim
    obtain ⟨hoff₁, -, hdesk₁⟩ := dialogue_eq_iff.mp hw₁
    simp only [publishStatus, wp_bind, wp_get, hoff₁, if_pos hoff, wp_pure]
    refine wp_mono (publishAck_dialogue w₁ _) (fun _ w₂ hw₂ => ?_) fun _ _ => False.elim
    rw [hd', ← hdesk₁]
    exact (dialogue_eq_iff.mp hw₂).2.2
  by_cases hend : restEndpointError env.config = []
  · have hgranted : w.access env.config = .granted := by
      simp only [World.access, if_neg hoff, hend, ne_eq, not_true, if_false]
    simp only [d', hgranted, Access.yields]
    exact h hgranted
  · have hd' : d' = w.desk.publish.ack false := by
      simp only [d', World.access, if_neg hoff, if_pos hend, Access.yields, ne_eq]
    have hat := At.self (eq_true_of_ne_false hoff)
    simp only [checkedLoggerCmd, checkedRestEndpoint, wp_bind, wp_get, wp_read, if_neg hoff,
      if_pos hend, ne_eq]
    rw [hd']
    have hleft {w' : World} (hw : w'.talk = w.desk.talk) :
        w'.talk <:+ (w.desk.publish.ack false).talk.tail := hw ▸ List.suffix_cons _ _
    refine wp_mono (kept_at hat inferInstance inferInstance) (fun _ w₁ h₁ => ?_)
      fun _ _ => False.elim
    simp only [wp_bind, wp_monoNow, wp_updateLinkHealth]
    refine wp_mono (respected_at (h₁.tookSteady.withLinkHealth _ _) inferInstance)
      (fun _ w₂ h₂ => ?_) fun _ _ => hleft
    rw [wp_bind]
    refine wp_mono (publishStatus_at h₂) (fun _ w₃ h₃ => ?_) fun _ _ => hleft
    exact wp_mono (sendAck_at h₃ _ _ _ _ _ _) (fun _ _ h₄ => h₄.desk) fun _ _ => False.elim

end Commands

theorem access_eq_granted_iff {config : EkinoxConfig} {w : World} :
    w.access config = .granted ↔ w.conn.connected = true ∧ restEndpointError config = [] := by
  unfold World.access
  split_ifs <;> simp_all

def Admission.command : Admission → Command
  | .accepted .ping .. => .ping
  | .accepted .loggerStart .. => .start
  | .accepted .loggerStop .. => .stop
  | .accepted .loggerStatus .. => .status
  | .refused _ | .accepted .unknown .. => .refused

/-- The desk a command leaves behind, with the replies it gets. -/
def Env.conduct (env : Env) (c : Command) (w : World) : Desk :=
  let n := w.taken.rest
  c.conduct (w.access env.config) (env.result n).reply (env.result (n + 1)).posted
    (env.result (n + 2)).reply (env.result (n + 3)).reply w.desk

/-- The handler has come to its end with this desk, or an exception has cut it short. -/
def Conducted (env : Env) (x : M Unit) (d : Desk) (w : World) : Prop :=
  wp x env (fun _ w' => w'.desk = d) (fun _ w' => w'.talk <:+ d.talk.tail) w

section Refinement

variable (env : Env) (w : World) (id type : Bytes)

theorem handleLoggerStart_refines (cmd : Json) :
    Conducted env (handleLoggerStart id type cmd) (env.conduct .start w) w := by
  refine checkedLoggerCmd_refines id type fun hgranted => ?_
  obtain ⟨hconnected, hend⟩ := access_eq_granted_iff.mp hgranted
  exact handleLoggerStart_granted (At.self hconnected) hend id type cmd

theorem handleLoggerStop_refines :
    Conducted env (handleLoggerStop id type) (env.conduct .stop w) w := by
  refine checkedLoggerCmd_refines id type fun hgranted => ?_
  obtain ⟨hconnected, hend⟩ := access_eq_granted_iff.mp hgranted
  exact handleLoggerStop_granted (At.self hconnected) hend id type

theorem handleLoggerStatus_refines :
    Conducted env (handleLoggerStatus id type) (env.conduct .status w) w := by
  refine checkedLoggerCmd_refines id type fun hgranted => ?_
  obtain ⟨hconnected, hend⟩ := access_eq_granted_iff.mp hgranted
  exact handleLoggerStatus_granted (At.self hconnected) hend id type

theorem publishAck_refines (ack : Ack) :
    Conducted env (publishAck ack) (w.desk.ack ack.ok) w :=
  wp_mono (publishAck_dialogue w ack) (fun _ _ hw => (dialogue_eq_iff.mp hw).2.2) fun _ _ => False.elim

/-- A command does to the desk what its model does. -/
theorem dispatch_refines {admission : Admission}
    (h : ∀ ack, admission = .refused ack → ack.ok = false) :
    Conducted env (dispatch admission) (env.conduct admission.command w) w := by
  cases admission with
  | refused ack =>
    have hack := publishAck_refines env w ack
    rw [h ack rfl] at hack
    exact hack
  | accepted command id type cmd =>
    cases command with
    | ping => exact publishAck_refines env w _
    | loggerStart => exact handleLoggerStart_refines env w id type cmd
    | loggerStop => exact handleLoggerStop_refines env w id type
    | loggerStatus => exact handleLoggerStatus_refines env w id type
    | unknown => exact publishAck_refines env w _

theorem admitParsed_refused {root : Option Json} {ack : Ack} (h : admitParsed root = .refused ack) :
    ack.ok = false := by
  revert h
  unfold admitParsed admitObject badRequest
  cases root with
  | none => rintro ⟨⟩; rfl
  | some root =>
    dsimp only
    split_ifs <;> rintro ⟨⟩ <;> rfl

theorem wp_handleCommandMessage {env : Env} {w : World} {Q : Unit → World → Prop}
    {E : Exn → World → Prop} (payload : Bytes) :
    wp (handleCommandMessage payload) env Q E w ↔ match env.parse payload with
      | .ok root => wp (dispatch (admitParsed root)) env Q E w
      | .error e => E (.json e) w := by
  unfold handleCommandMessage
  rw [wp_bind, wp_read, wp_bind]
  cases env.parse payload <;> rfl

end Refinement

end Ironsoft.Ekinox
