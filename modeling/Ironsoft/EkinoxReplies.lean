import Ironsoft.EkinoxAcks
import Ironsoft.EkinoxDialogue

/-!
# Acks and replies

What the ack of a logger command says of the replies the command has got. The error of a command
that is not confirmed is taken from one of the two replies of the verification, and not always from
one that failed.
-/
namespace Ironsoft.Ekinox
open Effect

set_option synthInstance.maxSize 400000
set_option synthInstance.maxHeartbeats 200000

/-- The connection, how many replies have been taken, and the acks. -/
def World.exchange (w : World) : Bool × ℕ × List Ack := (w.conn.connected, w.taken.rest, w.acks)

section Frames

instance : IgnoresReadings (Keeping World.exchange) :=
  ⟨fun _ => rfl, fun _ => rfl, fun _ => rfl, fun _ => rfl, fun _ => rfl⟩
instance : atLink.Ignored (Keeping World.exchange) := ⟨fun _ _ => rfl⟩
instance : atLogger.Ignored (Keeping World.exchange) := ⟨fun _ _ => rfl⟩
instance : atError.Ignored (Keeping World.exchange) := ⟨fun _ _ => rfl⟩
instance : atMarker.Ignored (Keeping World.exchange) := ⟨fun _ _ => rfl⟩
instance : atPresence.Ignored (Keeping World.exchange) := ⟨fun _ _ => rfl⟩
instance : atRest.Ignored (Keeping World.exchange) := ⟨fun _ _ => rfl⟩
instance (c : MqttCall) (b : Bool) : Emits (Keeping World.exchange) (.mqtt c b) := ⟨fun _ => rfl⟩
instance (m : Bytes) : Emits (Keeping World.exchange) (.errorSet m) := ⟨fun _ => rfl⟩
instance (r : LoggerResult) (t : ℤ) : Emits (Keeping World.exchange) (.restResult r t) :=
  ⟨fun _ => rfl⟩

end Frames

section Following

variable {env : Env} {c : Bool} {n : ℕ} {acks : List Ack} {w : World} {α β : Type}
  {Q : β → World → Prop}

theorem wp_after {x : M α} {f : α → M β} (hw : w.exchange = (c, n, acks))
    (hx : Respects env (Keeping World.exchange) x)
    (h : ∀ a w', w'.exchange = (c, n, acks) → wp (f a) env Q (fun _ _ => True) w') :
    wp (x >>= f) env Q (fun _ _ => True) w :=
  wp_bind_of_keeps hx (fun a w' hkept => h a w' (hkept.trans hw)) fun _ _ _ => trivial

theorem wp_asked {f : LoggerResult → M β} (hw : w.exchange = (c, n, acks))
    (hend : restEndpointError env.config = []) (request : RestRequest)
    (h : ∀ w', w'.exchange = (c, n + 1, acks) → wp (f (env.result n)) env Q (fun _ _ => True) w') :
    wp (callWithValidation (performRest request) >>= f) env Q (fun _ _ => True) w := by
  have htook : (w.tookRest.said (.restRequest request)).exchange = (c, n + 1, acks) := by
    simp only [World.exchange, Prod.mk.injEq] at hw ⊢
    obtain ⟨hconn, hrest, hacks⟩ := hw
    exact ⟨hconn, congrArg (· + 1) hrest, hacks⟩
  have hrest : w.taken.rest = n := congrArg (fun p => p.2.1) hw
  rw [wp_bind]
  exact wp_exchange hend request (hrest ▸ h _ htook) fun _ => trivial

theorem wp_requested {f : LoggerResult → M β} (hw : w.exchange = (c, n, acks))
    (hend : restEndpointError env.config = []) (contextReason : Bytes) (nowMs : ℤ)
    (h : ∀ w', w'.exchange = (c, n + 1, acks) → wp (f (env.result n)) env Q (fun _ _ => True) w') :
    wp (requestLoggerState contextReason nowMs >>= f) env Q (fun _ _ => True) w := by
  unfold requestLoggerState dataLoggerGet
  rw [wp_bind]
  refine wp_asked hw hend .get fun w₁ h₁ => ?_
  refine wp_after h₁ inferInstance fun _ w₂ h₂ => ?_
  exact wp_after h₂ inferInstance fun _ w₃ h₃ => h w₃ h₃

theorem wp_verified {f : LoggerResult × LoggerResult → M β} (hw : w.exchange = (c, n, acks))
    (hend : restEndpointError env.config = []) (nowReason laterReason : Bytes)
    (h : ∀ w', w'.exchange = (c, n + 2, acks) →
      wp (f (env.result n, env.result (n + 1))) env Q (fun _ _ => True) w') :
    wp (verifyLoggerState nowReason laterReason >>= f) env Q (fun _ _ => True) w := by
  unfold verifyLoggerState
  rw [wp_bind]
  refine wp_after hw inferInstance fun t w₁ h₁ => ?_
  refine wp_requested h₁ hend _ _ fun w₂ h₂ => ?_
  refine wp_after h₂ inferInstance fun t' w₃ h₃ => ?_
  exact wp_requested h₃ hend _ _ fun w₄ h₄ => h w₄ h₄

/-- The one ack since `acks` is as it should be. -/
def Acked (acks : List Ack) (P : Ack → Prop) (w' : World) : Prop :=
  ∃ ack, P ack ∧ w'.acks = ack :: acks

variable {P : Ack → Prop} {id type : Bytes}

theorem sendAck_acked (hw : w.exchange = (c, n, acks)) (ok : Bool) (message err : Bytes)
    (httpCode : ℤ)
    (h : P ⟨type, id, ok, httpCode, sanitizeAndClip (if ok ∧ message = [] then bytes "ok" else message),
      sanitizeAndClip (if ok = false ∧ err = [] then bytes "error" else err)⟩) :
    wp (sendAck id type ok message err httpCode) env (fun _ w' => Acked acks P w')
      (fun _ _ => True) w := by
  have hacks : w.acks = acks := congrArg (fun p => p.2.2) hw
  rw [← hacks]
  exact (publishAck_pushes env h).pushed w

theorem checkedLoggerCmd_acked {body : M Unit} (hw : w.exchange = (c, n, acks))
    (hoffline : P ⟨type, id, false, 503, [], mqttOfflineText⟩)
    (hconfig : restEndpointError env.config ≠ [] →
      P ⟨type, id, false, 400, restEndpointError env.config, bytes "bad_config"⟩)
    (hbody : c = true → restEndpointError env.config = [] →
      wp body env (fun _ w' => Acked acks P w') (fun _ _ => True) w) :
    wp (checkedLoggerCmd id type body) env (fun _ w' => Acked acks P w') (fun _ _ => True) w := by
  have hconn : w.conn.connected = c := congrArg Prod.fst hw
  have hreason (hend : restEndpointError env.config ≠ []) :
      sanitizeAndClip (restEndpointError env.config) = restEndpointError env.config := by
    unfold restEndpointError at hend ⊢
    split_ifs at hend ⊢ with hip hport
    · decide
    · decide
    · exact absurd rfl hend
  unfold checkedLoggerCmd checkedRestEndpoint
  rw [wp_bind, wp_get, wp_ite]
  split_ifs with hoff
  · refine wp_after hw inferInstance fun _ w₁ h₁ => ?_
    refine wp_after h₁ inferInstance fun _ w₂ h₂ => ?_
    exact sendAck_acked h₂ false [] mqttOfflineText 503 hoffline
  · rw [wp_bind, wp_read, wp_ite]
    split_ifs with hend
    · refine wp_after hw inferInstance fun _ w₁ h₁ => ?_
      refine wp_after h₁ inferInstance fun _ w₂ h₂ => ?_
      refine wp_after h₂ inferInstance fun _ w₃ h₃ => ?_
      refine wp_after h₃ inferInstance fun _ w₄ h₄ => ?_
      refine wp_after h₄ inferInstance fun _ w₅ h₅ => ?_
      refine sendAck_acked h₅ false _ _ 400 ?_
      simp only [Bool.false_eq_true, false_and, if_false]
      rw [hreason hend]
      exact hconfig hend
    · refine hbody ?_ (not_not.mp hend)
      rw [← hconn]
      exact eq_true_of_ne_false hoff

theorem failLoggerCmd_acked (hw : w.exchange = (c, n, acks)) (result : LoggerResult) (message : Bytes)
    (h : ∀ code err, P ⟨type, id, false, code, sanitizeAndClip message, err⟩) :
    wp (failLoggerCmd id type result message) env (fun _ w' => Acked acks P w') (fun _ _ => True)
      w := by
  unfold failLoggerCmd
  refine wp_after hw inferInstance fun _ w₁ h₁ => ?_
  refine wp_after h₁ inferInstance fun _ w₂ h₂ => ?_
  refine wp_after h₂ inferInstance fun _ w₃ h₃ => ?_
  refine sendAck_acked h₃ false _ _ _ ?_
  simp only [Bool.false_eq_true, false_and, if_false]
  exact h _ _

end Following

def notConfirmedText : Bytes := bytes "recording not confirmed"

def stillActiveText : Bytes := bytes "recording still active"

/-- The replies of the verification, if the command comes to it: the second request of the command
is the POST. -/
def Env.verification (env : Env) (w : World) : LoggerResult × LoggerResult :=
  (env.result (w.taken.rest + 2), env.result (w.taken.rest + 3))

/-- The code of the POST, for a reply that has none. -/
def Env.postCode (env : Env) (w : World) : ℤ :=
  httpCodeOrDefault (env.result (w.taken.rest + 1)) 500

/-- The ack tells the error and the code of `reply`. -/
def TellsReply (reply : LoggerResult) (postCode : ℤ) (ack : Ack) : Prop :=
  ack.err = sanitizeAndClip (verifyError reply) ∧ ack.httpCode = httpCodeOrDefault reply postCode

/-- It tells those of a reply that failed. -/
def TellsFailure (v : LoggerResult × LoggerResult) (postCode : ℤ) (ack : Ack) : Prop :=
  ∃ reply, (reply = v.1 ∨ reply = v.2) ∧ reply.ok = false ∧ TellsReply reply postCode ack

/-- Both replies failed, or it makes no difference which one is told. -/
def FailAlike (v : LoggerResult × LoggerResult) (postCode : ℤ) : Prop :=
  v.1.ok = false ∧ v.2.ok = false ∨
    sanitizeAndClip (verifyError v.1) = sanitizeAndClip (verifyError v.2) ∧
      httpCodeOrDefault v.1 postCode = httpCodeOrDefault v.2 postCode

theorem verifyError_ne_nil (reply : LoggerResult) : verifyError reply ≠ [] := by
  unfold verifyError
  dsimp only
  split_ifs with h
  · decide
  · exact h

/-- An ack that tells the reply the code picks tells a failure exactly if the replies fail alike. -/
theorem tellsFailure_iff {v : LoggerResult × LoggerResult} {postCode : ℤ} {ack : Ack}
    (hfails : v.1.ok = false ∨ v.2.ok = false)
    (htells : TellsReply (failingReply v.1 v.2) postCode ack) :
    TellsFailure v postCode ack ↔ FailAlike v postCode := by
  obtain ⟨herr, hcode⟩ := htells
  unfold failingReply at herr hcode
  cases hlater : v.2.ok with
  | false =>
    rw [hlater, if_neg Bool.false_ne_true] at herr hcode
    cases hnow : v.1.ok with
    | false => exact iff_of_true ⟨v.1, .inl rfl, hnow, herr, hcode⟩ (.inl ⟨hnow, hlater⟩)
    | true =>
      constructor
      · rintro ⟨reply, rfl | rfl, hreply, htold⟩
        · exact absurd (hreply.symm.trans hnow) Bool.false_ne_true
        · exact .inr ⟨herr.symm.trans htold.1, hcode.symm.trans htold.2⟩
      · rintro (⟨hf, -⟩ | ⟨hsame, hsamecode⟩)
        · exact absurd (hf.symm.trans hnow) Bool.false_ne_true
        · exact ⟨v.2, .inr rfl, hlater, herr.trans hsame, hcode.trans hsamecode⟩
  | true =>
    rw [hlater, if_pos rfl] at herr hcode
    have hnow : v.1.ok = false := hfails.resolve_right (by simp [hlater])
    constructor
    · rintro ⟨reply, rfl | rfl, hreply, htold⟩
      · exact .inr ⟨htold.1.symm.trans herr, htold.2.symm.trans hcode⟩
      · exact absurd (hreply.symm.trans hlater) Bool.false_ne_true
    · rintro (⟨-, hf⟩ | ⟨hsame, hsamecode⟩)
      · exact absurd (hf.symm.trans hlater) Bool.false_ne_true
      · exact ⟨v.1, .inl rfl, hnow, herr.trans hsame.symm, hcode.trans hsamecode.symm⟩

section Handlers

variable {env : Env} {n : ℕ} {acks : List Ack} {w : World} {id type : Bytes}

/-- An ack with this message tells the reply that is picked. -/
def TellsPicked (env : Env) (n : ℕ) (text : Bytes) (ack : Ack) : Prop :=
  ack.message = text → TellsReply (failingReply (env.result (n + 2)) (env.result (n + 3)))
    (httpCodeOrDefault (env.result (n + 1)) 500) ack

/-- No other message of a handler is the one an unconfirmed command is acked with. -/
theorem tellsPicked_of_ne {ok : Bool} {code : ℤ} {message err text : Bytes} (h : message ≠ text) :
    TellsPicked env n text ⟨type, id, ok, code, message, err⟩ := fun he => absurd he h

theorem sendAck_tells {c : Bool} {k : ℕ} (hw : w.exchange = (c, k, acks)) (message text : Bytes) :
    wp (sendAck id type false message
        (verifyError (failingReply (env.result (n + 2)) (env.result (n + 3))))
        (httpCodeOrDefault (failingReply (env.result (n + 2)) (env.result (n + 3)))
          (httpCodeOrDefault (env.result (n + 1)) 500))) env
      (fun _ w' => Acked acks (TellsPicked env n text) w') (fun _ _ => True) w := by
  have herr (err : Bytes) (h : err ≠ []) :
      (if false = false ∧ err = [] then bytes "error" else err) = err := if_neg fun he => h he.2
  refine sendAck_acked hw false _ _ _ fun _ => ⟨?_, rfl⟩
  exact congrArg sanitizeAndClip (herr _ (verifyError_ne_nil _))

theorem concludeLoggerStart_tells (hw : w.exchange = (true, n + 2, acks))
    (hend : restEndpointError env.config = []) :
    wp (concludeLoggerStart id type (env.result (n + 1))) env
      (fun _ w' => Acked acks (TellsPicked env n notConfirmedText) w') (fun _ _ => True) w := by
  unfold concludeLoggerStart
  simp only [wp_ite]
  split_ifs with hok hconflict
  · refine wp_after hw inferInstance fun t w₁ h₁ => ?_
    refine wp_requested h₁ hend _ _ fun w₂ h₂ => ?_
    refine wp_after h₂ inferInstance fun _ w₃ h₃ => ?_
    rw [wp_bind]
    exact sendAck_acked h₃ true _ [] _ (tellsPicked_of_ne (by decide))
  · rw [wp_bind]
    exact failLoggerCmd_acked hw _ _ fun _ _ => tellsPicked_of_ne (by decide)
  · refine wp_verified hw hend _ _ fun w₁ h₁ => ?_
    refine wp_after h₁ inferInstance fun _ w₂ h₂ => ?_
    simp only [wp_ite]
    split_ifs
    · rw [wp_bind]
      exact sendAck_acked h₂ true _ [] _ (tellsPicked_of_ne (by decide))
    · exact sendAck_tells h₂ _ _

theorem ackAlreadyStopped_tells {c : Bool} {k : ℕ} (hw : w.exchange = (c, k, acks)) (code : ℤ) :
    wp (ackAlreadyStopped id type code) env
      (fun _ w' => Acked acks (TellsPicked env n stillActiveText) w') (fun _ _ => True) w := by
  unfold ackAlreadyStopped
  refine wp_after hw inferInstance fun _ w₁ h₁ => ?_
  refine wp_after h₁ inferInstance fun _ w₂ h₂ => ?_
  refine wp_after h₂ inferInstance fun _ w₃ h₃ => ?_
  exact sendAck_acked h₃ true _ [] _ (tellsPicked_of_ne (by decide))

theorem concludeLoggerStop_tells (hw : w.exchange = (true, n + 2, acks))
    (hend : restEndpointError env.config = []) :
    wp (concludeLoggerStop id type (env.result (n + 1))) env
      (fun _ w' => Acked acks (TellsPicked env n stillActiveText) w') (fun _ _ => True) w := by
  unfold concludeLoggerStop
  simp only [wp_ite]
  split_ifs with hok hretry
  · refine wp_after hw inferInstance fun t w₁ h₁ => ?_
    refine wp_requested h₁ hend _ _ fun w₂ h₂ => ?_
    refine wp_after h₂ inferInstance fun _ w₃ h₃ => ?_
    simp only [wp_ite]
    split_ifs
    · rw [wp_bind]
      exact ackAlreadyStopped_tells h₃ _
    · rw [wp_bind]
      exact failLoggerCmd_acked h₃ _ _ fun _ _ => tellsPicked_of_ne (by decide)
  · rw [wp_bind]
    exact failLoggerCmd_acked hw _ _ fun _ _ => tellsPicked_of_ne (by decide)
  · refine wp_verified hw hend _ _ fun w₁ h₁ => ?_
    simp only [wp_ite]
    split_ifs
    · refine wp_after h₁ inferInstance fun _ w₂ h₂ => ?_
      refine wp_after h₂ inferInstance fun _ w₃ h₃ => ?_
      rw [wp_bind]
      exact sendAck_acked h₃ true _ [] _ (tellsPicked_of_ne (by decide))
    · refine wp_after h₁ inferInstance fun _ w₂ h₂ => ?_
      exact sendAck_tells h₂ _ _

theorem restEndpointError_ne (config : EkinoxConfig) :
    restEndpointError config ≠ notConfirmedText ∧ restEndpointError config ≠ stillActiveText := by
  unfold restEndpointError
  split_ifs <;> decide

theorem handleLoggerStart_tells (hw : w.exchange = (w.conn.connected, n, acks)) (cmd : Json) :
    wp (handleLoggerStart id type cmd) env
      (fun _ w' => Acked acks (TellsPicked env n notConfirmedText) w') (fun _ _ => True) w := by
  unfold handleLoggerStart
  refine checkedLoggerCmd_acked hw (tellsPicked_of_ne (by decide))
    (fun _ => tellsPicked_of_ne (restEndpointError_ne _).1) fun hconn hend => ?_
  rw [hconn] at hw
  refine wp_after hw inferInstance fun t w₁ h₁ => ?_
  refine wp_requested h₁ hend _ _ fun w₂ h₂ => ?_
  refine wp_after h₂ inferInstance fun _ w₃ h₃ => ?_
  simp only [wp_ite]
  split_ifs
  · rw [wp_bind]
    exact sendAck_acked h₃ true _ [] _ (tellsPicked_of_ne (by decide))
  refine wp_after h₃ inferInstance fun name w₄ h₄ => ?_
  refine wp_after h₄ inferInstance fun _ w₅ h₅ => ?_
  refine wp_after h₅ inferInstance fun _ w₆ h₆ => ?_
  unfold dataLoggerStart
  refine wp_asked h₆ hend _ fun w₇ h₇ => ?_
  refine wp_after h₇ inferInstance fun t' w₈ h₈ => ?_
  refine wp_after h₈ inferInstance fun _ w₉ h₉ => ?_
  exact concludeLoggerStart_tells h₉ hend

theorem handleLoggerStop_tells (hw : w.exchange = (w.conn.connected, n, acks)) :
    wp (handleLoggerStop id type) env
      (fun _ w' => Acked acks (TellsPicked env n stillActiveText) w') (fun _ _ => True) w := by
  unfold handleLoggerStop
  refine checkedLoggerCmd_acked hw (tellsPicked_of_ne (by decide))
    (fun _ => tellsPicked_of_ne (restEndpointError_ne _).2) fun hconn hend => ?_
  rw [hconn] at hw
  refine wp_after hw inferInstance fun t w₁ h₁ => ?_
  refine wp_requested h₁ hend _ _ fun w₂ h₂ => ?_
  refine wp_after h₂ inferInstance fun _ w₃ h₃ => ?_
  simp only [wp_ite]
  split_ifs
  · rw [wp_bind]
    exact ackAlreadyStopped_tells h₃ _
  refine wp_after h₃ inferInstance fun _ w₄ h₄ => ?_
  refine wp_after h₄ inferInstance fun _ w₅ h₅ => ?_
  unfold dataLoggerStop
  refine wp_asked h₅ hend _ fun w₆ h₆ => ?_
  refine wp_after h₆ inferInstance fun t' w₇ h₇ => ?_
  refine wp_after h₇ inferInstance fun _ w₈ h₈ => ?_
  exact concludeLoggerStop_tells h₈ hend

end Handlers

/-- The handler comes to its end and its ack has this message. -/
def EndsWith (env : Env) (handler : M Unit) (text : Bytes) (w : World) (ack : Ack) : Prop :=
  ∃ w', exec handler env w = (.ok (), w') ∧ w'.acks = ack :: w.acks ∧ ack.message = text

theorem endsWith_iff {env : Env} {handler : M Unit} {text : Bytes} {w : World} {ack : Ack} :
    EndsWith env handler text w ack ↔ (exec handler env w).1 = .ok () ∧
      (exec handler env w).2.acks = ack :: w.acks ∧ ack.message = text := by
  unfold EndsWith
  rcases exec handler env w with ⟨r, w'⟩
  simp

theorem EndsWith.tells {env : Env} {handler : M Unit} {text : Bytes} {w : World} {ack : Ack}
    (h : EndsWith env handler text w ack)
    (hhandler : wp handler env
      (fun _ w' => Acked w.acks (TellsPicked env w.taken.rest text) w') (fun _ _ => True) w) :
    TellsReply (failingReply (env.verification w).1 (env.verification w).2) (env.postCode w) ack := by
  obtain ⟨w', hrun, hacks, hmessage⟩ := h
  rw [wp, hrun] at hhandler
  obtain ⟨ack', htells, hacks'⟩ := hhandler
  obtain ⟨rfl, -⟩ := List.cons.inj (hacks.symm.trans hacks')
  exact htells hmessage

/-- An ack of a start or a stop that was not confirmed, with a reply of its verification a failure,
tells a failure exactly if the two replies fail alike. -/
theorem verification_explained_iff (env : Env) (w : World) (id type : Bytes) (cmd : Json) (ack : Ack)
    (hack : EndsWith env (handleLoggerStart id type cmd) notConfirmedText w ack ∨
      EndsWith env (handleLoggerStop id type) stillActiveText w ack)
    (hfails : (env.verification w).1.ok = false ∨ (env.verification w).2.ok = false) :
    TellsFailure (env.verification w) (env.postCode w) ack ↔
      FailAlike (env.verification w) (env.postCode w) := by
  apply tellsFailure_iff hfails
  rcases hack with hstart | hstop
  · exact hstart.tells (handleLoggerStart_tells rfl cmd)
  · exact hstop.tells (handleLoggerStop_tells rfl)

/-- A logger that is asked for its state, told to record, and asked twice more. -/
def benchVerified (now later : LoggerResult) : Inputs := benchInputs fun k =>
  if k = 3 then now else if k = 4 then later else benchFlag false

def benchStart : M Unit := handleLoggerStart (bytes "1") (bytes "logger.start") (.obj [])

/-- Both requests of the verification fail. -/
theorem verification_explained_broken :
    let inputs := benchVerified (benchResponse 500) (benchResponse 500)
    let env : Env := ⟨benchPlatform, inputs⟩
    let w := benchConnected inputs
    let ack : Ack := ⟨bytes "logger.start", bytes "1", false, 500, notConfirmedText, bytes "http_500"⟩
    EndsWith env benchStart notConfirmedText w ack ∧
      TellsFailure (env.verification w) (env.postCode w) ack := by
  intro inputs env w ack
  have hends : EndsWith env benchStart notConfirmedText w ack :=
    endsWith_iff.mpr ⟨by decide +kernel, by decide +kernel, rfl⟩
  refine ⟨hends, (verification_explained_iff env w _ _ _ ack (.inl hends) ?_).mpr (.inl ⟨?_, ?_⟩)⟩
  · exact .inl (by decide +kernel)
  · decide +kernel
  · decide +kernel

/-- The first request of the verification fails, and the second finds the logger idle. -/
theorem verification_told_by_success :
    let inputs := benchVerified (benchResponse 500) (benchFlag false)
    let env : Env := ⟨benchPlatform, inputs⟩
    let w := benchConnected inputs
    let ack : Ack := ⟨bytes "logger.start", bytes "1", false, 200, notConfirmedText,
      sanitizeAndClip (sanitizeAndClip (benchFlag false).body)⟩
    EndsWith env benchStart notConfirmedText w ack ∧
      (env.verification w).1.ok = false ∧ ¬TellsFailure (env.verification w) (env.postCode w) ack := by
  intro inputs env w ack
  refine ⟨endsWith_iff.mpr ⟨by decide +kernel, by decide +kernel, rfl⟩,
    by decide +kernel, ?_⟩
  rintro ⟨reply, rfl | rfl, hreply, -, hcode⟩
  · exact absurd hcode (by decide +kernel)
  · exact absurd hreply (by decide +kernel)

end Ironsoft.Ekinox
