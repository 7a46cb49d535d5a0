import Ironsoft.EkinoxAcks
import Ironsoft.EkinoxDialogue
import Ironsoft.RecorderModel

/-!
# Conversations of the service

The requests of the service, their results, and its acks make up a conversation with the data
logger: it is told to start or to stop for a command only, right after it has said that there is
something to change, and a positive ack is true of it.
-/
namespace Ironsoft.Ekinox
open Effect HistoryModel RecorderModel

set_option synthInstance.maxSize 400000
set_option synthInstance.maxHeartbeats 200000

abbrev Remark : Type := RecorderModel.Item CommandMessage LoggerResult

def RestRequest.query : RestRequest → Query
  | .get => .look
  | .start _ => .start
  | .stop => .stop

def Event.remark? : Event → Option Remark
  | .restRequest request => some (.asked request.query)
  | .restResult result _ => some (.answered result)
  | .publishAck ack => some (.acked ack.ok)
  | .commandHandled command => some (.finished command)
  | _ => none

/-- What has been said so far, newest first. -/
abbrev World.talkLog : World → List Remark := heard Event.remark?

/-- How the service reads a result. -/
def loggerReading : Reading LoggerResult where
  reports result := if result.ok && result.hasRecordingFlag then some result.recordingActive else none
  accepts result := result.ok
  contests goal result :=
    !result.ok && (decide (result.httpCode = 409) || !goal && decide (result.httpCode = 500))

/-- What a command wants of the logger. -/
def Admission.goal : Admission → Option Bool
  | .accepted .loggerStart .. => some true
  | .accepted .loggerStop .. => some false
  | _ => none

def commandGoal (parse : JsonParser) (command : CommandMessage) : Option Bool :=
  match parse command.payload with
  | .ok root => (admitParsed root).goal
  | .error _ => none

section Frames

instance (c : MqttCall) (b : Bool) : Unheard Event.remark? (.mqtt c b) := ⟨rfl⟩
instance (m : Bytes) : Unheard Event.remark? (.errorSet m) := ⟨rfl⟩
instance (e : SbgEvent) : Unheard Event.remark? (.sbg e) := ⟨rfl⟩
instance : Unheard Event.remark? .sessionOpened := ⟨rfl⟩
instance (t : ℤ) : Unheard Event.remark? (.linkAlive t) := ⟨rfl⟩
instance (c : CommandMessage) : Unheard Event.remark? (.commandArrived c) := ⟨rfl⟩

end Frames

section Reading

variable (result : LoggerResult)

theorem meets_eq_matches (goal : Bool) :
    loggerReading.meets goal result = loggerStateMatches result goal := by
  unfold Reading.meets loggerReading loggerStateMatches
  cases hok : result.ok <;> cases hflag : result.hasRecordingFlag <;>
    simp [hok, hflag, Bool.beq_eq_decide_eq]

theorem meets_recording : loggerReading.meets true result = resultReportsRecording result := by
  rw [meets_eq_matches, loggerStateMatches, resultReportsRecording, beq_true]

theorem meets_idle : loggerReading.meets false result = resultReportsIdle result := by
  rw [meets_eq_matches, loggerStateMatches, resultReportsIdle, beq_false]

end Reading

/-- Remarks of a kind have been added. -/
def Adds (p : Remark → Prop) (w w' : World) : Prop :=
  ∃ part, (∀ item ∈ part, p item) ∧ w'.talkLog = part ++ w.talkLog

section Adding

variable {p : Remark → Prop}

theorem adds_of_kept {w w' : World} (h : w'.talkLog = w.talkLog) : Adds p w w' :=
  ⟨[], fun _ hitem => absurd hitem List.not_mem_nil, h⟩

theorem adds_said {e : Event} {item : Remark} (he : e.remark? = some item) (hitem : p item)
    (w : World) : Adds p w (w.said e) := by
  refine ⟨[item], by simpa using hitem, ?_⟩
  rw [World.talkLog, World.heard_said, he]
  rfl

instance : IsPreorder World (Adds p) where
  refl _ := adds_of_kept rfl
  trans w w' w'' h h' := by
    obtain ⟨part, hpart, htalk⟩ := h
    obtain ⟨part', hpart', htalk'⟩ := h'
    refine ⟨part' ++ part, fun item hitem => ?_, ?_⟩
    · exact (List.mem_append.mp hitem).elim (hpart' item) (hpart item)
    · rw [htalk', htalk, List.append_assoc]

instance : IgnoresReadings (Adds p) :=
  ⟨fun _ => adds_of_kept rfl, fun _ => adds_of_kept rfl, fun _ => adds_of_kept rfl,
    fun _ => adds_of_kept rfl, fun _ => adds_of_kept rfl⟩
instance : IgnoresReplies (Adds p) := ⟨fun _ => adds_of_kept rfl⟩
instance {γ : Type} (P : Part World γ) [h : P.Ignored (Keeping World.talkLog)] :
    P.Ignored (Adds p) := ⟨fun w v => adds_of_kept (h.step w v)⟩
instance (e : Event) [h : Unheard Event.remark? e] : Emits (Adds p) e := by
  refine ⟨fun w => adds_of_kept ?_⟩
  rw [World.talkLog, World.heard_said, h.none]
  rfl

instance (result : LoggerResult) (nowMs : ℤ) : Emits (Adds Item.Aside) (.restResult result nowMs) :=
  ⟨adds_said rfl trivial⟩
instance : Emits (Adds Item.Aside) (.restRequest .get) := ⟨adds_said rfl trivial⟩

instance (result : LoggerResult) (nowMs : ℤ) :
    Emits (Adds Item.Harmless) (.restResult result nowMs) := ⟨adds_said rfl trivial⟩
instance : Emits (Adds Item.Harmless) (.restRequest .get) := ⟨adds_said rfl trivial⟩
instance (ack : Ack) : Emits (Adds Item.Harmless) (.publishAck ack) := ⟨adds_said rfl trivial⟩

instance (env : Env) [Emits (Adds p) (.restRequest .get)] : Respects env (Adds p) dataLoggerGet := by
  unfold dataLoggerGet performRest
  infer_instance

end Adding

/-- The operations that do not handle a command. -/
theorem Op.run_adds {op : Op} (env : Env) (hop : op ≠ .handleFront) :
    Respects env (Adds Item.Aside) op.run := by
  cases op
  case handleFront => exact absurd rfl hop
  all_goals
    unfold Op.run
    dsimp only
    infer_instance

/-- Since `before` the command has come to this stage. -/
def AtStage (goal : Bool) (before : List Remark) (stage : Stage) (w : World) : Prop :=
  ∃ part, Errand loggerReading goal stage part ∧ w.talkLog = part ++ before

def Underway (goal : Bool) (before : List Remark) (w : World) : Prop :=
  ∃ stage, AtStage goal before stage w

section Following

variable {env : Env} {goal : Bool} {before : List Remark} {stage asked : Stage} {w w' : World}

theorem AtStage.kept (h : AtStage goal before stage w) (hkept : w'.talkLog = w.talkLog) :
    AtStage goal before stage w' := by
  obtain ⟨part, hpart, htalk⟩ := h
  exact ⟨part, hpart, hkept.trans htalk⟩

theorem AtStage.then (h : AtStage goal before stage w) {item : Remark} {next : Stage}
    (hsaid : w'.talkLog = item :: w.talkLog)
    (hnext : Leads loggerReading goal stage item next) :
    AtStage goal before next w' := by
  obtain ⟨part, hpart, htalk⟩ := h
  exact ⟨item :: part, hnext part hpart, by rw [hsaid, htalk]; rfl⟩

theorem AtStage.underway (h : AtStage goal before stage w) : Underway goal before w := ⟨stage, h⟩

variable {α β : Type} {Q : β → World → Prop}

/-- What is not heard leaves the command where it is. -/
theorem wp_unheard {x : M α} {f : α → M β} (h : AtStage goal before stage w)
    (hx : Respects env (Keeping World.talkLog) x)
    (hf : ∀ a w', AtStage goal before stage w' → wp (f a) env Q (fun _ => Underway goal before) w') :
    wp (x >>= f) env Q (fun _ => Underway goal before) w :=
  wp_bind_of_keeps hx (fun a w' hkept => hf a w' (h.kept hkept))
    fun _ _ hkept => (h.kept hkept).underway

theorem wp_posed {f : LoggerResult → M β} (h : AtStage goal before stage w)
    (hend : restEndpointError env.config = []) (request : RestRequest)
    (hask : Leads (γ := CommandMessage) loggerReading goal stage (.asked request.query) asked)
    (hf : ∀ result w', AtStage goal before asked w' →
      wp (f result) env Q (fun _ => Underway goal before) w') :
    wp (callWithValidation (performRest request) >>= f) env Q (fun _ => Underway goal before) w := by
  have hasked : AtStage goal before asked (w.tookRest.said (.restRequest request)) :=
    h.then (World.heard_said _ _ _) hask
  rw [wp_bind]
  exact wp_exchange hend request (hf _ _ hasked) fun _ => hasked.underway

theorem markRestResult_finds (result : LoggerResult) (contextReason : Bytes) (nowMs : ℤ) :
    wp (markRestResult result contextReason nowMs) env
      (fun _ w' => w'.talkLog = .answered result :: w.talkLog)
      (fun _ w' => w'.talkLog = .answered result :: w.talkLog) w := by
  unfold markRestResult
  rw [wp_bind, wp_steadyNow, wp_bind, wp_emit]
  refine Respects.wp_of (R := Keeping World.talkLog) inferInstance fun w' hkept => ?_
  exact hkept.trans (World.heard_said _ _ _)

theorem wp_marked {f : Unit → M β} {next : Stage} {result : LoggerResult}
    (h : AtStage goal before asked w) (contextReason : Bytes) (nowMs : ℤ)
    (hanswer : Leads (γ := CommandMessage) loggerReading goal asked (.answered result) next)
    (hf : ∀ w', AtStage goal before next w' → wp (f ()) env Q (fun _ => Underway goal before) w') :
    wp (markRestResult result contextReason nowMs >>= f) env Q (fun _ => Underway goal before)
      w := by
  rw [wp_bind]
  exact wp_mono (markRestResult_finds result contextReason nowMs)
    (fun _ w' hsaid => hf w' (h.then hsaid hanswer))
    fun _ _ hsaid => (h.then hsaid hanswer).underway

/-- A look takes the command on by the result it gets. -/
theorem wp_looked {f : LoggerResult → M β} {next : LoggerResult → Stage}
    (h : AtStage goal before stage w) (hend : restEndpointError env.config = [])
    (hlooks : Looks loggerReading goal CommandMessage stage asked next) (contextReason : Bytes) (nowMs : ℤ)
    (hf : ∀ result w', AtStage goal before (next result) w' →
      wp (f result) env Q (fun _ => Underway goal before) w') :
    wp (requestLoggerState contextReason nowMs >>= f) env Q (fun _ => Underway goal before) w := by
  unfold requestLoggerState dataLoggerGet
  rw [bind_assoc]
  refine wp_posed h hend .get hlooks.ask fun result w₁ h₁ => ?_
  rw [bind_assoc]
  refine wp_marked h₁ contextReason nowMs (hlooks.answer result) fun w₂ h₂ => ?_
  rw [bind_assoc]
  refine wp_unheard h₂ inferInstance fun _ w₃ h₃ => ?_
  exact hf result w₃ h₃

theorem sendAck_over (h : AtStage goal before stage w) (id type : Bytes) {ok : Bool}
    (message err : Bytes) (httpCode : ℤ)
    (hack : Leads (γ := CommandMessage) loggerReading goal stage (.acked ok) .over) :
    wp (sendAck id type ok message err httpCode) env (fun _ => AtStage goal before .over)
      (fun _ => Underway goal before) w := by
  unfold sendAck publishAck
  rw [wp_bind, wp_emit]
  generalize hack' : Ack.mk type id ok httpCode _ _ = ack
  have hacked : AtStage goal before .over (w.said (.publishAck ack)) := by
    refine h.then ?_ hack
    rw [World.talkLog, World.heard_said, ← hack']
    rfl
  refine wp_mono (Respects.wp_of (R := Keeping World.talkLog) inferInstance fun w' => hacked.kept)
    (fun _ _ h => h) fun _ _ => AtStage.underway

/-- A command that is turned away is acked with an error. -/
theorem checkedLoggerCmd_over (h : AtStage goal before .fresh w) (id type : Bytes) {body : M Unit}
    (hbody : restEndpointError env.config = [] → wp body env (fun _ => AtStage goal before .over)
      (fun _ => Underway goal before) w) :
    wp (checkedLoggerCmd id type body) env (fun _ => AtStage goal before .over)
      (fun _ => Underway goal before) w := by
  unfold checkedLoggerCmd checkedRestEndpoint
  rw [wp_bind, wp_get, wp_ite]
  split_ifs
  · refine wp_unheard h inferInstance fun _ w₁ h₁ => ?_
    refine wp_unheard h₁ inferInstance fun _ w₂ h₂ => ?_
    exact sendAck_over h₂ id type _ _ _ fun _ => .turnedAway
  · rw [wp_bind, wp_read, wp_ite]
    split_ifs with hend
    · refine wp_unheard h inferInstance fun _ w₁ h₁ => ?_
      refine wp_unheard h₁ inferInstance fun _ w₂ h₂ => ?_
      refine wp_unheard h₂ inferInstance fun _ w₃ h₃ => ?_
      refine wp_unheard h₃ inferInstance fun _ w₄ h₄ => ?_
      refine wp_unheard h₄ inferInstance fun _ w₅ h₅ => ?_
      exact sendAck_over h₅ id type _ _ _ fun _ => .turnedAway
    · exact hbody (not_not.mp hend)

theorem failLoggerCmd_over (h : AtStage goal before .failed w) (id type : Bytes)
    (result : LoggerResult) (message : Bytes) :
    wp (failLoggerCmd id type result message) env (fun _ => AtStage goal before .over)
      (fun _ => Underway goal before) w := by
  unfold failLoggerCmd
  refine wp_unheard h inferInstance fun _ w₁ h₁ => ?_
  refine wp_unheard h₁ inferInstance fun _ w₂ h₂ => ?_
  refine wp_unheard h₂ inferInstance fun _ w₃ h₃ => ?_
  exact sendAck_over h₃ id type _ _ _ fun _ => .gaveUp

theorem ackAlreadyStopped_over (h : AtStage goal before .sure w) (id type : Bytes) (httpCode : ℤ) :
    wp (ackAlreadyStopped id type httpCode) env (fun _ => AtStage goal before .over)
      (fun _ => Underway goal before) w := by
  unfold ackAlreadyStopped
  refine wp_unheard h inferInstance fun _ w₁ h₁ => ?_
  refine wp_unheard h₁ inferInstance fun _ w₂ h₂ => ?_
  refine wp_unheard h₂ inferInstance fun _ w₃ h₃ => ?_
  exact sendAck_over h₃ id type _ _ _ fun _ => .done

/-- The two looks behind a post that was accepted. -/
theorem wp_verified_over {f : LoggerResult × LoggerResult → M β} (h : AtStage goal before .accepted w)
    (hend : restEndpointError env.config = []) (nowReason laterReason : Bytes)
    (hf : ∀ v w', AtStage goal before
        (.verdict (loggerStateMatches v.1 goal || loggerStateMatches v.2 goal)) w' →
      wp (f v) env Q (fun _ => Underway goal before) w') :
    wp (verifyLoggerState nowReason laterReason >>= f) env Q (fun _ => Underway goal before) w := by
  unfold verifyLoggerState
  simp only [bind_assoc, pure_bind]
  refine wp_unheard h inferInstance fun _ w₁ h₁ => ?_
  refine wp_looked h₁ hend looks_accepted _ _ fun now w₂ h₂ => ?_
  refine wp_unheard h₂ inferInstance fun _ w₃ h₃ => ?_
  refine wp_looked h₃ hend (looks_halfway _) _ _ fun later w₄ h₄ => ?_
  rw [meets_eq_matches, meets_eq_matches] at h₄
  exact hf (now, later) w₄ h₄

theorem concludeLoggerStart_over {result : LoggerResult}
    (h : AtStage true before (.answered loggerReading true result) w)
    (hend : restEndpointError env.config = []) (id type : Bytes) :
    wp (concludeLoggerStart id type result) env (fun _ => AtStage true before .over)
      (fun _ => Underway true before) w := by
  unfold concludeLoggerStart
  unfold Stage.answered loggerReading at h
  simp only [Bool.not_true, Bool.false_and, Bool.or_false] at h
  cases hok : result.ok with
  | false =>
    simp only [hok, Bool.false_eq_true, if_false, Bool.not_false, Bool.true_and, decide_eq_true_eq] at h
    simp only [if_true, bind_pure_unit]
    split_ifs with h409
    · rw [if_pos h409] at h
      refine wp_unheard h inferInstance fun _ w₁ h₁ => ?_
      refine wp_looked h₁ hend looks_contested _ _ fun _ w₂ h₂ => ?_
      refine wp_unheard h₂ inferInstance fun _ w₃ h₃ => ?_
      exact sendAck_over h₃ id type _ _ _ fun _ => .done
    · rw [if_neg h409] at h
      exact failLoggerCmd_over h id type _ _
  | true =>
    rw [hok, if_pos rfl] at h
    simp only [Bool.true_eq_false, if_false, bind_pure_unit]
    refine wp_verified_over h hend _ _ fun v w₁ h₁ => ?_
    refine wp_unheard h₁ inferInstance fun _ w₂ h₂ => ?_
    change AtStage true before (.verdict (startConfirmed v)) w₂ at h₂
    split_ifs with hconfirmed
    · rw [hconfirmed] at h₂
      exact sendAck_over h₂ id type _ _ _ fun _ => .done
    · rw [eq_false_of_ne_true hconfirmed] at h₂
      exact sendAck_over h₂ id type _ _ _ fun _ => .gaveUp

theorem handleLoggerStart_over (h : AtStage true before .fresh w) (id type : Bytes) (cmd : Json) :
    wp (handleLoggerStart id type cmd) env (fun _ => AtStage true before .over)
      (fun _ => Underway true before) w := by
  refine checkedLoggerCmd_over h id type fun hend => ?_
  simp only [bind_pure_unit]
  refine wp_unheard h inferInstance fun _ w₁ h₁ => ?_
  refine wp_looked h₁ hend looks_fresh _ _ fun preStatus w₂ h₂ => ?_
  refine wp_unheard h₂ inferInstance fun _ w₃ h₃ => ?_
  rw [meets_recording] at h₃
  split_ifs with hrecording
  · rw [if_pos hrecording] at h₃
    exact sendAck_over h₃ id type _ _ _ fun _ => .done
  · rw [if_neg hrecording] at h₃
    refine wp_unheard h₃ inferInstance fun name w₄ h₄ => ?_
    refine wp_unheard h₄ inferInstance fun _ w₅ h₅ => ?_
    refine wp_unheard h₅ inferInstance fun _ w₆ h₆ => ?_
    refine wp_posed h₆ hend (.start name) (fun _ => .post) fun result w₇ h₇ => ?_
    refine wp_unheard h₇ inferInstance fun _ w₈ h₈ => ?_
    refine wp_marked h₈ _ _ (leads_answered result) fun w₉ h₉ => ?_
    exact concludeLoggerStart_over h₉ hend id type

theorem concludeLoggerStop_over {result : LoggerResult}
    (h : AtStage false before (.answered loggerReading false result) w)
    (hend : restEndpointError env.config = []) (id type : Bytes) :
    wp (concludeLoggerStop id type result) env (fun _ => AtStage false before .over)
      (fun _ => Underway false before) w := by
  unfold concludeLoggerStop
  unfold Stage.answered loggerReading at h
  simp only [Bool.not_false, Bool.true_and] at h
  cases hok : result.ok with
  | false =>
    simp only [hok, Bool.false_eq_true, if_false, Bool.not_false, Bool.true_and, Bool.or_eq_true,
      decide_eq_true_eq] at h
    simp only [if_true, bind_pure_unit]
    split_ifs with hasked
    · rw [if_pos hasked.symm] at h
      refine wp_unheard h inferInstance fun _ w₁ h₁ => ?_
      refine wp_looked h₁ hend looks_contested _ _ fun retry w₂ h₂ => ?_
      refine wp_unheard h₂ inferInstance fun _ w₃ h₃ => ?_
      rw [Bool.false_or, meets_idle] at h₃
      split_ifs with hidle
      · rw [hidle] at h₃
        exact ackAlreadyStopped_over h₃ id type _
      · rw [eq_false_of_ne_true hidle] at h₃
        exact failLoggerCmd_over h₃ id type _ _
    · rw [if_neg fun hr => hasked hr.symm] at h
      exact failLoggerCmd_over h id type _ _
  | true =>
    rw [hok, if_pos rfl] at h
    simp only [Bool.true_eq_false, if_false, bind_pure_unit]
    refine wp_verified_over h hend _ _ fun v w₁ h₁ => ?_
    change AtStage false before (.verdict (stopConfirmed v)) w₁ at h₁
    split_ifs with hconfirmed
    · rw [hconfirmed] at h₁
      refine wp_unheard h₁ inferInstance fun _ w₂ h₂ => ?_
      refine wp_unheard h₂ inferInstance fun _ w₃ h₃ => ?_
      exact sendAck_over h₃ id type _ _ _ fun _ => .done
    · rw [eq_false_of_ne_true hconfirmed] at h₁
      refine wp_unheard h₁ inferInstance fun _ w₂ h₂ => ?_
      exact sendAck_over h₂ id type _ _ _ fun _ => .gaveUp

theorem handleLoggerStop_over (h : AtStage false before .fresh w) (id type : Bytes) :
    wp (handleLoggerStop id type) env (fun _ => AtStage false before .over)
      (fun _ => Underway false before) w := by
  refine checkedLoggerCmd_over h id type fun hend => ?_
  simp only [bind_pure_unit]
  refine wp_unheard h inferInstance fun _ w₁ h₁ => ?_
  refine wp_looked h₁ hend looks_fresh _ _ fun preStatus w₂ h₂ => ?_
  refine wp_unheard h₂ inferInstance fun _ w₃ h₃ => ?_
  rw [meets_idle] at h₃
  split_ifs with hidle
  · rw [if_pos hidle] at h₃
    exact ackAlreadyStopped_over h₃ id type _
  · rw [if_neg hidle] at h₃
    refine wp_unheard h₃ inferInstance fun _ w₄ h₄ => ?_
    refine wp_unheard h₄ inferInstance fun _ w₅ h₅ => ?_
    refine wp_posed h₅ hend .stop (fun _ => .post) fun result w₆ h₆ => ?_
    refine wp_unheard h₆ inferInstance fun _ w₇ h₇ => ?_
    refine wp_marked h₇ _ _ (leads_answered result) fun w₈ h₈ => ?_
    exact concludeLoggerStop_over h₈ hend id type

end Following

/-- The conversation of the service. -/
abbrev InConversation (parse : JsonParser) (w : World) : Prop :=
  Conversation loggerReading (commandGoal parse) w.talkLog

/-- The command at the front may not have come to its end. -/
def Interrupted (parse : JsonParser) (w : World) : Prop :=
  InConversation parse w ∨
    ∃ command ∈ w.batch.head?, BrokenOff loggerReading (commandGoal parse) command w.talkLog

/-- How far a command has come. -/
inductive Done (parse : JsonParser) (command : CommandMessage) (before : List Remark) (ended : Bool)
    (w : World) : Prop
  | errand (goal : Bool) (stage : Stage) (hgoal : commandGoal parse command = some goal)
    (hended : ended = true → stage = .over) (h : AtStage goal before stage w)
  | chore (part : List Remark) (hgoal : commandGoal parse command = none)
    (hpart : ∀ item ∈ part, item.Harmless) (htalk : w.talkLog = part ++ before)

section Commands

variable {env : Env} {command : CommandMessage} {w : World}

theorem dispatch_harmless (env : Env) {admission : Admission} (h : admission.goal = none) :
    Respects env (Adds Item.Harmless) (dispatch admission) := by
  cases admission with
  | refused ack =>
    unfold dispatch
    infer_instance
  | accepted type id text cmd =>
    cases type with
    | loggerStart | loggerStop => cases h
    | ping | loggerStatus | unknown =>
      unfold dispatch
      dsimp only [handlePing]
      infer_instance

theorem dispatch_over {admission : Admission} {goal : Bool} (h : admission.goal = some goal) (w : World) :
    wp (dispatch admission) env (fun _ => AtStage goal w.talkLog .over)
      (fun _ => Underway goal w.talkLog) w := by
  have hfresh : AtStage goal w.talkLog .fresh w := ⟨[], .fresh, rfl⟩
  cases admission with
  | refused ack => cases h
  | accepted type id text cmd =>
    cases type with
    | loggerStart =>
      cases h
      exact handleLoggerStart_over hfresh id text cmd
    | loggerStop =>
      cases h
      exact handleLoggerStop_over hfresh id text
    | ping | loggerStatus | unknown => cases h

theorem handleCommandMessage_done (command : CommandMessage) (w : World) :
    wp (handleCommandMessage command.payload) env
      (fun _ => Done env.parse command w.talkLog true) (fun _ => Done env.parse command w.talkLog false)
      w := by
  rw [wp_handleCommandMessage]
  cases hparse : env.parse command.payload with
  | error e =>
    have hgoal : commandGoal env.parse command = none := by simp only [commandGoal, hparse]
    exact .chore [] hgoal nofun rfl
  | ok root =>
    have hgoal : commandGoal env.parse command = (admitParsed root).goal := by
      simp only [commandGoal, hparse]
    dsimp only
    cases hadmitted : (admitParsed root).goal with
    | none =>
      rw [hadmitted] at hgoal
      have hadds := respects_iff_wp.mp (dispatch_harmless env hadmitted) w
      exact wp_mono hadds (fun _ _ ⟨part, hpart, htalk⟩ => .chore part hgoal hpart htalk)
        fun _ _ ⟨part, hpart, htalk⟩ => .chore part hgoal hpart htalk
    | some goal =>
      rw [hadmitted] at hgoal
      exact wp_mono (dispatch_over hadmitted w)
        (fun _ _ h => .errand goal .over hgoal (fun _ => rfl) h)
        fun _ _ ⟨stage, h⟩ => .errand goal stage hgoal nofun h

theorem Done.conversation {before : List Remark} {parse : JsonParser}
    (h : Done parse command before true w)
    (hbefore : Conversation loggerReading (commandGoal parse) before) :
    Conversation loggerReading (commandGoal parse) (.finished command :: w.talkLog) := by
  cases h with
  | errand goal stage hgoal hended h =>
    obtain ⟨part, hpart, htalk⟩ := h
    rw [hended rfl] at hpart
    rw [htalk]
    exact .errand hgoal hpart hbefore
  | chore part hgoal hpart htalk =>
    rw [htalk]
    exact .chore hgoal hpart hbefore

theorem Done.brokenOff {before : List Remark} {parse : JsonParser} {ended : Bool}
    (h : Done parse command before ended w)
    (hbefore : Conversation loggerReading (commandGoal parse) before) :
    BrokenOff loggerReading (commandGoal parse) command w.talkLog := by
  cases h with
  | errand goal stage hgoal _ h =>
    obtain ⟨part, hpart, htalk⟩ := h
    rw [htalk]
    exact .errand hgoal hpart hbefore
  | chore part hgoal hpart htalk =>
    rw [htalk]
    exact .chore hgoal hpart hbefore

theorem handleFront_converses (h : InConversation env.parse w) :
    wp handleFront env (fun _ => InConversation env.parse) (fun _ => Interrupted env.parse) w := by
  unfold handleFront
  rw [wp_bind, wp_get]
  cases hbatch : w.batch with
  | nil => exact h
  | cons command rest =>
    have hqueues : Respects env (Keeping World.queues) (handleCommandMessage command.payload) :=
      inferInstance
    unfold handleNext
    rw [wp_bind]
    have hrun := wp_and (handleCommandMessage_done command w) (respects_iff_wp.mp hqueues w)
    refine wp_mono hrun (fun _ w₁ h₁ => ?_) fun _ w₁ h₁ => ?_
    · have hfinished := h₁.1.conversation h
      rw [wp_bind, wp_emit, Part.wp_update]
      exact hfinished
    · have hkept := h₁.2
      simp only [Keeping, World.queues, Prod.mk.injEq] at hkept
      have hfront : w₁.batch = command :: rest := hkept.2.2.1.trans hbatch
      refine .inr ⟨command, ?_, h₁.1.brokenOff h⟩
      rw [hfront]
      rfl

end Commands

theorem Adds.inConversation {parse : JsonParser} {w w' : World} (hadds : Adds Item.Aside w w')
    (h : InConversation parse w) : InConversation parse w' := by
  obtain ⟨part, hpart, htalk⟩ := hadds
  unfold InConversation
  rw [htalk]
  clear htalk
  induction part with
  | nil => exact h
  | cons item part ih =>
    obtain ⟨hitem, hpart⟩ := List.forall_mem_cons.mp hpart
    exact .aside hitem (ih hpart)

theorem execSteps_converses (platform : Platform) (inputs : Inputs) (steps : List Step) :
    Leaves (InConversation platform.parse) (Interrupted platform.parse)
      (execSteps platform steps (initialWorld platform.config inputs)) := by
  refine execAll_leaves (execStep platform) (C := fun _ _ => True) (fun s w _ hw => ?_)
    (allSteps_of_forall _ fun _ _ _ => trivial) .nil
  unfold execStep
  rw [leaves_exec_iff]
  by_cases hop : s.op = .handleFront
  · rw [hop]
    exact handleFront_converses hw
  · exact wp_mono (respects_iff_wp.mp (Op.run_adds ⟨platform, s.inputs⟩ hop) w)
      (fun _ _ hadds => hadds.inConversation hw) fun _ _ hadds => .inl (hadds.inConversation hw)

/-- However a run ends, its talk is part of a conversation. -/
theorem Leaves.interrupted {parse : JsonParser} {r : Except Exn Unit × World}
    (h : Leaves (InConversation parse) (Interrupted parse) r) : Interrupted parse r.2 := by
  rcases r with ⟨_ | _, w⟩
  · exact h
  · exact .inl h

theorem Interrupted.prudent {parse : JsonParser} {w : World} (h : Interrupted parse w) :
    Warranted (Prudent loggerReading) w.talkLog := by
  rcases h with hconversation | ⟨command, -, hbroken⟩
  · exact hconversation.prudent
  · exact hbroken.prudent

theorem Interrupted.reached {parse : JsonParser} {w : World} (h : Interrupted parse w) :
    Warranted (Reached loggerReading (commandGoal parse)) w.talkLog := by
  rcases h with hconversation | ⟨command, -, hbroken⟩
  · exact hconversation.reached
  · exact hbroken.reached

/-- Whenever a start or a stop is acked with `ok`, a logger that answers truthfully and changes only
on request is recording, or is not. -/
theorem positive_acks_true (platform : Platform) (inputs : Inputs) (steps : List Step)
    (command : CommandMessage) {goal : Bool} {before : List Remark}
    (hgoal : commandGoal platform.parse command = some goal)
    (hacked : .finished command :: .acked true :: before <:+
      (execSteps platform steps (initialWorld platform.config inputs)).2.talkLog)
    {s s' : Bool} (hlogger : Turns loggerReading s before s') : s' = goal := by
  have h := Leaves.interrupted (execSteps_converses platform inputs steps)
  exact warranted_iff.mp h.reached _ _ hacked command goal before rfl hgoal rfl s s' hlogger

/-- The service connects, and a start goes well. -/
def benchStarting : Inputs := benchInputs fun k => benchFlag (decide (2 ≤ k))

def benchStartedSteps : List Step :=
  ⟨.ensureConnection (milliseconds 1000), benchStarting⟩ ::
    benchCommandSteps (bytes "logger.start") benchStarting

/-- What is said before the ack, newest first. -/
def benchStartedTalk : List Remark :=
  [.answered (benchFlag true), .asked .look, .answered (benchFlag true), .asked .look,
    .answered (benchFlag true), .asked .start, .answered (benchFlag false), .asked .look,
    .answered (benchFlag false), .asked .look]

theorem positive_acks_true_started :
    Turns loggerReading false benchStartedTalk true ∧
      ∀ s s', Turns loggerReading s benchStartedTalk s' → s' = true := by
  constructor
  · have hfollows : Turns loggerReading false (benchStartedTalk.drop 5) true :=
      ⟨false, ⟨false, ⟨false, ⟨false, ⟨false, rfl, rfl⟩, rfl, by decide +kernel⟩, rfl⟩, rfl,
        by decide +kernel⟩, trivial⟩
    exact ⟨true, ⟨true, ⟨true, ⟨true, ⟨true, hfollows, rfl, nofun⟩, rfl⟩, rfl, by decide +kernel⟩, rfl⟩,
      rfl, by decide +kernel⟩
  · intro s s'
    refine positive_acks_true benchPlatform benchStarting benchStartedSteps
      ⟨bytes "ironsoft/uav/d1/cmd", benchPayload (bytes "logger.start")⟩ (by decide +kernel) ⟨[], ?_⟩
    decide +kernel

/-- The service tells the logger to start or to stop only right after the logger has answered
without reporting that it does so already. -/
theorem logger_told_prudently (platform : Platform) (inputs : Inputs) (steps : List Step)
    (goal : Bool) {older : List Remark}
    (htold : .asked (.post goal) :: older <:+
      (execSteps platform steps (initialWorld platform.config inputs)).2.talkLog) :
    ∃ result before, older = .answered result :: .asked .look :: before ∧
      loggerStateMatches result goal = false := by
  have h := Leaves.interrupted (execSteps_converses platform inputs steps)
  obtain ⟨result, before, rfl, hmeets⟩ := warranted_iff.mp h.prudent _ _ htold goal rfl
  exact ⟨result, before, rfl, by rw [← meets_eq_matches, hmeets]⟩

theorem logger_told_prudently_started :
    ∃ result before, benchStartedTalk.drop 6 = .answered result :: .asked .look :: before ∧
      loggerStateMatches result true = false := by
  refine logger_told_prudently benchPlatform benchStarting benchStartedSteps true
    ⟨.finished ⟨bytes "ironsoft/uav/d1/cmd", benchPayload (bytes "logger.start")⟩ ::
      .acked true :: benchStartedTalk.take 5, ?_⟩
  decide +kernel

/-- Whatever has arrived is handled, at hand, or waits. -/
def Queued (w : World) : Prop := w.arrived.reverse = w.handled.reverse ++ w.batch ++ w.pending

theorem Queued.kept {w w' : World} (h : Queued w) (hkept : w'.queues = w.queues) : Queued w' := by
  simp only [World.queues, Prod.mk.injEq] at hkept
  obtain ⟨harrived, hhandled, hbatch, hpending⟩ := hkept
  unfold Queued
  rw [harrived, hhandled, hbatch, hpending]
  exact h

theorem handleFront_queued (env : Env) : Respects env (Preserving Queued) handleFront := by
  rw [respects_iff_wp]
  intro w
  unfold handleFront
  rw [wp_bind, wp_get]
  cases hbatch : w.batch with
  | nil => exact fun h => h
  | cons command rest =>
    have hqueues : Respects env (Keeping World.queues) (handleCommandMessage command.payload) :=
      inferInstance
    unfold handleNext
    rw [wp_bind]
    refine wp_mono (respects_iff_wp.mp hqueues w) (fun _ w₁ hkept => ?_) fun _ w₁ hkept h => h.kept hkept
    intro h
    have hkept₁ : Queued w₁ := h.kept hkept
    simp only [Keeping, World.queues, Prod.mk.injEq] at hkept
    change w₁.arrived.reverse = (command :: w₁.handled).reverse ++ rest ++ w₁.pending
    rw [hkept₁, hkept.2.2.1, hbatch, List.reverse_cons]
    simp

theorem Op.run_keepsQueued (env : Env) (op : Op) : Respects env (Preserving Queued) op.run := by
  have hkeeps {x : M Unit} (h : Respects env (Keeping World.queues) x) :
      Respects env (Preserving Queued) x := h.preserving fun _ _ hkept hw => hw.kept hkept
  cases op
  case messageArrived command =>
    refine ⟨fun w h => ?_⟩
    change (command :: w.arrived).reverse = w.handled.reverse ++ w.batch ++ (w.pending ++ [command])
    rw [List.reverse_cons, h, List.append_assoc _ w.pending]
  case swapCommands =>
    refine ⟨fun w h => ?_⟩
    change w.arrived.reverse = w.handled.reverse ++ (w.batch ++ w.pending) ++ []
    rw [h, List.append_nil, List.append_assoc]
  case handleFront => exact handleFront_queued env
  all_goals
    refine hkeeps ?_
    unfold Op.run
    dsimp only
    infer_instance

theorem ordered_talkLog (parse : JsonParser) (goal : Bool) (w : World) :
    ordered (commandGoal parse) goal w.talkLog =
      w.handled.countP fun command => commandGoal parse command = some goal := by
  unfold World.talkLog World.handled World.heard
  induction w.trace with
  | nil => rfl
  | cons e trace ih =>
    unfold ordered at ih ⊢
    cases e with
    | commandHandled command => simp [Event.remark?, Event.handled?, List.countP_cons, ih]
    | _ => exact ih

theorem Interrupted.told_le {parse : JsonParser} {w : World} (h : Interrupted parse w)
    (hqueued : Queued w) (goal : Bool) :
    told goal w.talkLog ≤ w.arrived.countP fun command => commandGoal parse command = some goal := by
  have hhandled := ordered_talkLog parse goal w
  rw [← List.countP_reverse, hqueued, List.countP_append, List.countP_append, List.countP_reverse]
  rcases h with h | ⟨command, hfront, h⟩
  · have htold := h.told_le goal
    omega
  · have htold := h.told_le goal
    have hbatch : w.batch = command :: w.batch.tail := List.eq_cons_of_mem_head? hfront
    rw [hbatch, List.countP_cons]
    unfold ordered at htold hhandled
    rw [List.countP_cons] at htold
    dsimp only at htold
    omega

/-- The logger has not been told to start, or to stop, more often than it was ordered to by a
command that has arrived. -/
theorem logger_told_on_command (platform : Platform) (inputs : Inputs) (steps : List Step)
    (goal : Bool) :
    let w := (execSteps platform steps (initialWorld platform.config inputs)).2
    told goal w.talkLog ≤
      w.arrived.countP fun command => commandGoal platform.parse command = some goal := by
  intro w
  have hqueued : Queued w := execSteps_preserves (fun s _ => Op.run_keepsQueued _ s.op) rfl
  exact (Leaves.interrupted (execSteps_converses platform inputs steps)).told_le hqueued goal

end Ironsoft.Ekinox
