import Ironsoft.EkinoxEnrichment
import Ironsoft.EkinoxRecordingFlag
import Ironsoft.EkinoxReplies

/-!
# The answer to `logger.status`

The message of the ack is the body of the reply as far as it is published. It is the status the
device reports only where the two are the same text.
-/
namespace Ironsoft.Ekinox
open Effect

set_option synthInstance.maxSize 400000
set_option synthInstance.maxHeartbeats 200000

theorem sanitizeLoop_full {maxLen : ℕ} (text : Bytes) {out : Bytes} (h : maxLen ≤ out.length) :
    sanitizeLoop maxLen text out = out := by
  cases text with
  | nil => rfl
  | cons byte text =>
    unfold sanitizeLoop
    split_ifs
    · rfl
    · omega
    · rfl
    · omega

/-- What is cut off a text that fills the output anyway does not show. -/
theorem sanitizeLoop_take {maxLen n : ℕ} {text out : Bytes} (tail : Bytes) (hn : n ≤ text.length)
    (h : maxLen ≤ out.length + n) :
    sanitizeLoop maxLen (text.take n ++ tail) out = sanitizeLoop maxLen text out := by
  induction text generalizing n out with
  | nil =>
    have hfull : maxLen ≤ out.length := by
      simp only [List.length_nil] at hn
      omega
    rw [sanitizeLoop_full _ hfull, sanitizeLoop_full _ hfull]
  | cons byte text ih =>
    cases n with
    | zero => rw [sanitizeLoop_full _ h, sanitizeLoop_full _ h]
    | succ n =>
      simp only [List.length_cons] at hn
      rw [List.take_succ_cons, List.cons_append]
      unfold sanitizeLoop
      split_ifs
      · rfl
      · apply ih
        · omega
        · simp only [List.length_append, List.length_cons, List.length_nil]
          omega
      · rfl
      · apply ih
        · omega
        · simp only [List.length_append, List.length_cons, List.length_nil]
          omega

/-- A preview is published as the body is. -/
theorem sanitizeAndClip_makePreview (body : Bytes) :
    sanitizeAndClip (makePreview body) = sanitizeAndClip body := by
  unfold makePreview
  split_ifs with h
  · rfl
  · exact sanitizeLoop_take (bytes "...") (by omega) (by simp)

theorem makePreview_ne_nil {body : Bytes} (h : body ≠ []) : makePreview body ≠ [] := by
  unfold makePreview
  split_ifs
  · exact h
  · exact List.append_ne_nil_of_right_ne_nil _ (by decide)

/-- The result is a success with this message. -/
def SucceedsWith (message : Bytes) (r : LoggerResult) : Prop := r.ok = true ∧ r.message = message

/-- A message that is there is not filled in. -/
theorem succeedsWith_unread {message : Bytes} (h : message ≠ []) : Unread (SucceedsWith message) :=
  ⟨fun _ _ => id, fun _ _ => id, fun _ _ => id, fun _ _ => id, fun _ _ => id,
    fun _ _ hempty hr => absurd (hr.2.symm.trans hempty) h⟩

theorem performHttpRequest_succeeds {parse : JsonParser} {httpCode : ℤ} {body : Bytes}
    {r : LoggerResult} (hcode : 200 ≤ httpCode ∧ httpCode < 300) (hbody : body ≠ [])
    (h : performHttpRequest parse (.response httpCode body) = .ok r) :
    SucceedsWith (makePreview body) r := by
  refine (succeedsWith_unread (makePreview_ne_nil hbody)).performHttpRequest ?_ h
  simp only [assembleResult, if_pos hcode]
  exact ⟨rfl, rfl⟩

section Handler

variable {env : Env} {w : World}

theorem handleLoggerStatus_tells (id type : Bytes) {body : Bytes} (hbody : body ≠ [])
    (hconn : w.conn.connected = true) (hend : restEndpointError env.config = [])
    (hreply : SucceedsWith (makePreview body) (env.result w.taken.rest)) :
    wp (handleLoggerStatus id type) env
      (fun _ w' => Acked w.acks (fun ack => ack.ok = true ∧ ack.message = sanitizeAndClip body) w')
      (fun _ _ => True) w := by
  obtain ⟨hok, hmessage⟩ := hreply
  have hshown (recording : Bool) :
      statusMessage (env.result w.taken.rest) recording = makePreview body := by
    rw [statusMessage, hmessage, if_pos (makePreview_ne_nil hbody)]
  have hw : w.exchange = (true, w.taken.rest, w.acks) := congrArg (·, w.taken.rest, w.acks) hconn
  have hgranted (x : M Unit) {Q : Unit → World → Prop} {E : Exn → World → Prop}
      (hx : wp x env Q E w) : wp (checkedLoggerCmd id type x) env Q E w :=
    (wp_checkedLoggerCmd (At.self hconn) hend id type x).mpr hx
  unfold handleLoggerStatus
  apply hgranted
  refine wp_after hw inferInstance fun t w₁ h₁ => ?_
  refine wp_requested h₁ hend _ _ fun w₂ h₂ => ?_
  refine wp_after h₂ inferInstance fun _ w₃ h₃ => ?_
  rw [if_pos hok, wp_bind, wp_get, hshown]
  rw [wp_bind]
  refine sendAck_acked h₃ true _ [] _ ⟨rfl, ?_⟩
  simp only [makePreview_ne_nil hbody, and_false, if_false]
  exact sanitizeAndClip_makePreview body

/-- The text of the `status` member, if the body has one. -/
def reportedStatus (parse : JsonParser) (body : Bytes) : Bytes :=
  match parse body with
  | .ok (some root) => textAt root (bytes "status")
  | _ => []

/-- The ack of `logger.status` to a 2xx reply mirrors the status of the device exactly if the body
itself is published as the status is. -/
theorem status_mirrored_iff (id type : Bytes) (hconn : w.conn.connected = true)
    (hend : restEndpointError env.config = []) {httpCode : ℤ} {body : Bytes} {r : LoggerResult}
    (hcode : 200 ≤ httpCode ∧ httpCode < 300) (hbody : body ≠ [])
    (hread : performHttpRequest env.parse (.response httpCode body) = .ok r)
    (hreply : env.rest w.taken.rest = .ok r) {w' : World}
    (hrun : exec (handleLoggerStatus id type) env w = (.ok (), w')) :
    ∃ ack, w'.acks = ack :: w.acks ∧ ack.ok = true ∧
      (ack.message = sanitizeAndClip (reportedStatus env.parse body) ↔
        sanitizeAndClip body = sanitizeAndClip (reportedStatus env.parse body)) := by
  have hresult : env.result w.taken.rest = r := by
    rw [Inputs.result, hreply]
  have hsucceeds : SucceedsWith (makePreview body) (env.result w.taken.rest) := by
    rw [hresult]
    exact performHttpRequest_succeeds hcode hbody hread
  have htells := handleLoggerStatus_tells id type hbody hconn hend hsucceeds
  rw [wp, hrun] at htells
  obtain ⟨ack, ⟨hok, hmessage⟩, hacks⟩ := htells
  refine ⟨ack, hacks, hok, ?_⟩
  rw [hmessage]

end Handler

/-- A text that begins as `text` does is published as it is. -/
theorem sanitizeAndClip_eq_of_take {text text' : Bytes} (h : 300 ≤ text.length)
    (h' : 300 ≤ text'.length) (htake : text.take 300 = text'.take 300) :
    sanitizeAndClip text = sanitizeAndClip text' := by
  have hcut {t : Bytes} (ht : 300 ≤ t.length) :
      sanitizeAndClip (t.take 300 ++ []) = sanitizeAndClip t := sanitizeLoop_take [] ht (by simp)
  rw [← hcut h, ← hcut h', htake]

/-- The start of a body, and the status in it. -/
def benchLongStatus : Bytes := bytes "\x7b\"a\":\"" ++ List.replicate 300 'x'.toUInt8

def benchLongText : Bytes :=
  benchLongStatus ++ bytes "\",\"status\":\"\x7b\\\"a\\\":\\\"" ++ List.replicate 300 'x'.toUInt8 ++
    bytes "\"\x7d"

def benchReadyText : Bytes := bytes "\x7b\"status\":\"ready\"\x7d"

/-- The reader on these texts. -/
def benchStatusParse : JsonParser := fun text =>
  if text = benchReadyText then .ok (some (.obj [(bytes "status", .str (bytes "ready"))]))
  else if text = benchLongText then
    .ok (some (.obj [(bytes "a", .str (List.replicate 300 'x'.toUInt8)),
      (bytes "status", .str benchLongStatus)]))
  else .ok none

def benchStatusPlatform : Platform := { benchPlatform with parse := benchStatusParse }

def benchReplied (body : Bytes) : Inputs :=
  { benchHealthy with rest := fun _ => performHttpRequest benchStatusParse (.response 200 body) }

theorem benchReplied_rest (body : Bytes) (k : ℕ) :
    (benchReplied body).rest k = performHttpRequest benchStatusParse (.response 200 body) := rfl

def benchAsked (body : Bytes) : Except Exn Unit × World :=
  exec (handleLoggerStatus (bytes "1") (bytes "logger.status"))
    ⟨benchStatusPlatform, benchReplied body⟩ (benchConnected (benchReplied body))

theorem status_mirrored_long :
    ∃ ack, (benchAsked benchLongText).2.acks = [ack] ∧ ack.ok = true ∧
      ack.message = sanitizeAndClip (reportedStatus benchStatusParse benchLongText) := by
  have hread : (performHttpRequest benchStatusParse
      (.response 200 benchLongText)).toOption.isSome = true := by
    decide +kernel
  cases hr : performHttpRequest benchStatusParse (.response 200 benchLongText) with
  | error e =>
    rw [hr] at hread
    exact absurd hread Bool.false_ne_true
  | ok r =>
    have hreturns : (benchAsked benchLongText).1 = .ok () := by decide +kernel
    have hrun : benchAsked benchLongText = (.ok (), (benchAsked benchLongText).2) := by
      rw [← hreturns]
    have hsame : sanitizeAndClip benchLongText =
        sanitizeAndClip (reportedStatus benchStatusParse benchLongText) := by
      refine sanitizeAndClip_eq_of_take ?_ ?_ ?_ <;> decide +kernel
    have hconn : (benchConnected (benchReplied benchLongText)).conn.connected = true := by decide +kernel
    have hend : restEndpointError benchStatusPlatform.config = [] := by decide
    have hbody : benchLongText ≠ [] := by decide +kernel
    have hreply : (benchReplied benchLongText).rest
        (benchConnected (benchReplied benchLongText)).taken.rest = .ok r :=
      (benchReplied_rest _ _).trans hr
    obtain ⟨ack, hacks, hok, hmirrors⟩ := @status_mirrored_iff
      ⟨benchStatusPlatform, benchReplied benchLongText⟩ _ (bytes "1") (bytes "logger.status") hconn hend 200
      benchLongText r (by decide) hbody hr hreply _ hrun
    have hnone : (benchConnected (benchReplied benchLongText)).acks = [] := by decide +kernel
    rw [hnone] at hacks
    exact ⟨ack, hacks, hok, hmirrors.mpr hsame⟩

theorem status_not_mirrored :
    let ack : Ack := ⟨bytes "logger.status", bytes "1", true, 200, sanitizeAndClip benchReadyText, []⟩
    (benchAsked benchReadyText).1 = .ok () ∧ (benchAsked benchReadyText).2.acks = [ack] ∧
      reportedStatus benchStatusParse benchReadyText = bytes "ready" ∧
      ack.message ≠ sanitizeAndClip (bytes "ready") := by
  decide +kernel

end Ironsoft.Ekinox
