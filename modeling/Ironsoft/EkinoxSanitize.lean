import Ironsoft.ClipModel
import Ironsoft.EkinoxAcks

/-!
# Sanitized texts

`sanitize_and_clip` writes the longest prefix of a text whose image fits. Its result is not always
left alone when it is sanitized once more, and the error texts of the REST interface are.
-/
namespace Ironsoft.Ekinox
open Effect ClipModel

set_option synthInstance.maxSize 400000
set_option synthInstance.maxHeartbeats 200000

def Special (byte : UInt8) : Prop := byte = 0x5c ∨ byte = 0x22

instance (byte : UInt8) : Decidable (Special byte) := inferInstanceAs (Decidable (_ ∨ _))

/-- Backslash and quote are written behind a backslash, a space is written for a control byte and a
question mark for a byte that is not ASCII. -/
def sanitizedByte (byte : UInt8) : Bytes :=
  if Special byte then [0x5c, byte]
  else if byte < 0x20 ∧ byte ≠ 0x0a ∧ byte ≠ 0x0d ∧ byte ≠ 0x09 then [0x20]
  else if byte ≥ 0x80 then [0x3f]
  else [byte]

/-- Every backslash of the text stands before a backslash or a quote, and no quote stands alone. -/
inductive Escaped : Bytes → Prop
  | nil : Escaped []
  | plain {byte : UInt8} {text : Bytes} (h : ¬Special byte) (htext : Escaped text) :
    Escaped (byte :: text)
  | pair {byte : UInt8} {text : Bytes} (h : Special byte) (htext : Escaped text) :
    Escaped (0x5c :: byte :: text)

section Images

variable {byte : UInt8}

theorem plainByte_cases (h : ¬Special byte) :
    ¬Special (plainByte byte) ∧ plainByte byte < 0x80 ∧ plainByte (plainByte byte) = plainByte byte := by
  have hself (hc : ¬(byte < 0x20 ∧ byte ≠ 0x0a ∧ byte ≠ 0x0d ∧ byte ≠ 0x09)) (hl : ¬byte ≥ 0x80) :
      plainByte byte = byte := by
    simp only [plainByte, if_neg hc, if_neg hl]
  by_cases hcontrol : byte < 0x20 ∧ byte ≠ 0x0a ∧ byte ≠ 0x0d ∧ byte ≠ 0x09
  · have hspace : plainByte byte = 0x20 := if_pos hcontrol
    rw [hspace]
    decide
  by_cases hhigh : byte ≥ 0x80
  · have hmark : plainByte byte = 0x3f := by simp only [plainByte, if_neg hcontrol, if_pos hhigh]
    rw [hmark]
    decide
  · rw [hself hcontrol hhigh, hself hcontrol hhigh]
    exact ⟨h, UInt8.not_le.mp hhigh, rfl⟩

theorem sanitizedByte_special (h : Special byte) : sanitizedByte byte = [0x5c, byte] := if_pos h

theorem sanitizedByte_plain (h : ¬Special byte) : sanitizedByte byte = [plainByte byte] := by
  unfold sanitizedByte plainByte
  rw [if_neg h]
  split_ifs <;> rfl

/-- A plain byte that has been written is written the same way again. -/
theorem sanitizedByte_plainByte (h : ¬Special byte) : sanitizedByte (plainByte byte) = [plainByte byte] := by
  obtain ⟨hplain, -, hagain⟩ := plainByte_cases h
  rw [sanitizedByte_plain hplain, hagain]

theorem sanitizedByte_ne_nil (byte : UInt8) : sanitizedByte byte ≠ [] := by
  unfold sanitizedByte
  split_ifs <;> simp

theorem sanitizedByte_length (byte : UInt8) : (sanitizedByte byte).length ≤ 2 := by
  unfold sanitizedByte
  split_ifs <;> simp

theorem sanitizedByte_ascii (byte : UInt8) : ∀ b ∈ sanitizedByte byte, b < 0x80 := by
  by_cases h : Special byte
  · rw [sanitizedByte_special h]
    rcases h with rfl | rfl <;> simp
  · rw [sanitizedByte_plain h]
    simpa using (plainByte_cases h).2.1

theorem escaped_flatMap (text : Bytes) : Escaped (text.flatMap sanitizedByte) := by
  induction text with
  | nil => exact .nil
  | cons byte text ih =>
    rw [List.flatMap_cons]
    by_cases h : Special byte
    · rw [sanitizedByte_special h]
      exact .pair h ih
    · rw [sanitizedByte_plain h]
      exact .plain (plainByte_cases h).1 ih

end Images

/-- The loop writes behind `out` what still has room. -/
theorem sanitizeLoop_eq {maxLen : ℕ} (text : Bytes) {out : Bytes} (hout : out.length ≤ maxLen) :
    sanitizeLoop maxLen text out = out ++ clip sanitizedByte (maxLen - out.length) text := by
  induction text generalizing out with
  | nil => simp [sanitizeLoop, clip]
  | cons byte text ih =>
    have hstep (written : Bytes) (hw : sanitizedByte byte = written) (hroom : out.length + written.length ≤ maxLen) :
        sanitizeLoop maxLen text (out ++ written) =
          out ++ clip sanitizedByte (maxLen - out.length) (byte :: text) := by
      have hnext : (out ++ written).length ≤ maxLen := by
        rw [List.length_append]
        exact hroom
      have hfits : (sanitizedByte byte).length ≤ maxLen - out.length := by
        rw [hw]
        omega
      rw [ih hnext, clip, clip, fitting_cons_of_le hfits, List.flatMap_cons, hw, List.length_append,
        List.append_assoc, Nat.sub_sub]
    have hfull (hroom : maxLen - out.length < (sanitizedByte byte).length) :
        out = out ++ clip sanitizedByte (maxLen - out.length) (byte :: text) := by
      rw [clip, fitting_cons_of_lt hroom, List.flatMap_nil, List.append_nil]
    unfold sanitizeLoop
    split_ifs with hspecial hroom hroom
    · apply hfull
      simp only [sanitizedByte_special hspecial, List.length_cons, List.length_nil]
      omega
    · apply hstep _ (sanitizedByte_special hspecial)
      simp only [List.length_cons, List.length_nil]
      omega
    · apply hfull
      rw [sanitizedByte_plain hspecial, List.length_singleton]
      omega
    · apply hstep _ (sanitizedByte_plain hspecial)
      rw [List.length_singleton]
      omega

theorem sanitizeAndClipTo_eq (maxLen : ℕ) (text : Bytes) :
    sanitizeAndClipTo maxLen text = clip sanitizedByte maxLen text :=
  sanitizeLoop_eq text (Nat.zero_le maxLen)

/-- `out` is the image of `kept`, the longest prefix of `text` with an image of at most `maxLen`
bytes. -/
structure ClippedTo (maxLen : ℕ) (text kept out : Bytes) : Prop where
  starts : kept <+: text
  fits : (kept.flatMap sanitizedByte).length ≤ maxLen
  longest : ∀ p, p <+: text → (p.flatMap sanitizedByte).length ≤ maxLen → p <+: kept
  written : out = kept.flatMap sanitizedByte
  bounded : out.length ≤ maxLen
  ascii : ∀ byte ∈ out, byte < 0x80
  escaped : Escaped out
  nonempty : text ≠ [] → 2 ≤ maxLen → out ≠ []

/-- Every text and every limit. -/
theorem sanitizeAndClip_keeps_longest (maxLen : ℕ) (text : Bytes) :
    ∃ kept, ClippedTo maxLen text kept (sanitizeAndClipTo maxLen text) := by
  rw [sanitizeAndClipTo_eq]
  refine ⟨fitting sanitizedByte maxLen text, ?_⟩
  exact {
    starts := fitting_isInitial maxLen text
    fits := clip_length maxLen text
    longest := fun _ hp hfits => fitting_longest hp hfits
    written := rfl
    bounded := clip_length maxLen text
    ascii := forall_mem_clip sanitizedByte_ascii
    escaped := escaped_flatMap _
    nonempty := fun htext hmax => clip_ne_nil sanitizedByte_ne_nil htext
      fun byte => (sanitizedByte_length byte).trans hmax }

section Again

variable {maxLen room : ℕ} {text kept : Bytes}

theorem clip_special {byte : UInt8} (h : Special byte) (text : Bytes) :
    clip sanitizedByte (room + 2) (byte :: text) = 0x5c :: byte :: clip sanitizedByte room text := by
  have himage := sanitizedByte_special h
  have hfits : (sanitizedByte byte).length ≤ room + 2 := by simp [himage]
  rw [clip, fitting_cons_of_le hfits, List.flatMap_cons, himage]
  rfl

theorem clip_plainByte {byte : UInt8} (h : ¬Special byte) (text : Bytes) :
    clip sanitizedByte (room + 1) (plainByte byte :: text) =
      plainByte byte :: clip sanitizedByte room text := by
  have himage := sanitizedByte_plainByte h
  have hfits : (sanitizedByte (plainByte byte)).length ≤ room + 1 := by simp [himage]
  rw [clip, fitting_cons_of_le hfits, List.flatMap_cons, himage]
  rfl

theorem clip_special_of_lt {byte : UInt8} (h : Special byte) (hroom : room < 2) (text : Bytes) :
    clip sanitizedByte room (byte :: text) = [] := by
  have hfull : room < (sanitizedByte byte).length := by simpa [sanitizedByte_special h] using hroom
  rw [clip, fitting_cons_of_lt hfull, List.flatMap_nil]

/-- Behind a backslash that is written twice only backslashes that fill the room come out as they
were. The induction is on the text behind it, for any number of backslashes before. -/
theorem clip_behind_backslash (hfits : (kept.flatMap sanitizedByte).length ≤ room) (j : ℕ) :
    clip sanitizedByte room (List.replicate (j + 1) 0x5c ++ kept.flatMap sanitizedByte) =
        kept.flatMap sanitizedByte ↔
      ∃ k, kept = List.replicate k 0x5c ∧ room < 2 * k + 2 := by
  have hback : Special 0x5c := .inl rfl
  induction kept generalizing room j with
  | nil =>
    rw [List.flatMap_nil, List.append_nil, List.replicate_succ]
    constructor
    · intro h
      refine ⟨0, rfl, ?_⟩
      by_contra hroom
      obtain ⟨r, rfl⟩ := Nat.exists_eq_add_of_le' (Nat.not_lt.mp hroom)
      rw [clip_special hback] at h
      cases h
    · rintro ⟨k, hk, hroom⟩
      have hzero : k = 0 := (List.replicate_eq_nil_iff 0x5c).mp hk.symm
      exact clip_special_of_lt hback (by omega) _
  | cons byte kept ih =>
    rw [List.flatMap_cons, List.length_append] at hfits
    rw [List.flatMap_cons, List.replicate_succ, List.cons_append]
    by_cases h : Special byte
    · rw [sanitizedByte_special h] at hfits ⊢
      simp only [List.length_cons, List.length_nil] at hfits
      obtain ⟨r, rfl⟩ := Nat.exists_eq_add_of_le' (Nat.le_of_add_right_le hfits)
      have hrest : (kept.flatMap sanitizedByte).length ≤ r := by omega
      have hnext := ih hrest (j + 1)
      have hmove : List.replicate j 0x5c ++ ([0x5c, 0x5c] ++ kept.flatMap sanitizedByte) =
          List.replicate (j + 1 + 1) 0x5c ++ kept.flatMap sanitizedByte := by
        have hpair : [0x5c, 0x5c] = List.replicate 2 (0x5c : UInt8) := rfl
        rw [← List.append_assoc, hpair, List.replicate_append_replicate]
      rw [clip_special hback]
      simp only [List.cons_append, List.nil_append, List.cons.injEq, true_and] at hmove ⊢
      constructor
      · rintro ⟨rfl, hrest⟩
        obtain ⟨k, rfl, hroom⟩ := hnext.mp (hmove ▸ hrest)
        exact ⟨k + 1, rfl, by omega⟩
      · rintro ⟨k, hk, hroom⟩
        cases k with
        | zero => cases hk
        | succ k =>
          obtain ⟨rfl, rfl⟩ := List.cons.inj hk
          exact ⟨rfl, hmove ▸ hnext.mpr ⟨k, rfl, by omega⟩⟩
    · have hfalse : ¬∃ k, byte :: kept = List.replicate k 0x5c ∧ room < 2 * k + 2 := by
        rintro ⟨k, hk, -⟩
        have hmem : byte ∈ List.replicate k 0x5c := hk ▸ List.mem_cons_self
        exact h (.inl (List.eq_of_mem_replicate hmem))
      refine iff_of_false (fun heq => ?_) hfalse
      rw [sanitizedByte_plain h] at heq
      by_cases hroom : room < 2
      · rw [clip_special_of_lt hback hroom] at heq
        cases heq
      · obtain ⟨r, rfl⟩ := Nat.exists_eq_add_of_le' (Nat.not_lt.mp hroom)
        rw [clip_special hback] at heq
        exact (plainByte_cases h).1 (.inl (List.cons.inj heq).1.symm)

/-- No byte of `kept` is escaped, or those that are, are backslashes at its end that leave no room
for another one. -/
def Settles (maxLen : ℕ) (kept : Bytes) : Prop :=
  ∃ p k, kept = p ++ List.replicate k 0x5c ∧ (∀ byte ∈ p, ¬Special byte) ∧
    (k = 0 ∨ maxLen < p.length + 2 * k + 2)

theorem settles_cons_plain {byte : UInt8} (h : ¬Special byte) :
    Settles (room + 1) (byte :: kept) ↔ Settles room kept := by
  constructor
  · rintro ⟨p, k, hkept, hp, hroom⟩
    cases p with
    | nil =>
      have hmem : byte ∈ List.replicate k 0x5c := by
        rw [← List.nil_append (List.replicate k 0x5c), ← hkept]
        exact List.mem_cons_self
      exact absurd (.inl (List.eq_of_mem_replicate hmem)) h
    | cons b p =>
      obtain ⟨rfl, rfl⟩ := List.cons.inj hkept
      refine ⟨p, k, rfl, fun b' hb' => hp b' (List.mem_cons_of_mem _ hb'), ?_⟩
      simp only [List.length_cons] at hroom
      omega
  · rintro ⟨p, k, rfl, hp, hroom⟩
    refine ⟨byte :: p, k, rfl, List.forall_mem_cons.mpr ⟨h, hp⟩, ?_⟩
    simp only [List.length_cons]
    omega

theorem settles_cons_special {byte : UInt8} (h : Special byte) :
    Settles (room + 2) (byte :: kept) ↔
      byte = 0x5c ∧ ∃ k, kept = List.replicate k 0x5c ∧ room < 2 * k + 2 := by
  constructor
  · rintro ⟨p, k, hkept, hp, hroom⟩
    cases p with
    | nil =>
      cases k with
      | zero => cases hkept
      | succ k =>
        obtain ⟨rfl, rfl⟩ := List.cons.inj hkept
        simp only [List.length_nil] at hroom
        exact ⟨rfl, k, rfl, by omega⟩
    | cons b p =>
      obtain ⟨rfl, -⟩ := List.cons.inj hkept
      exact absurd h (hp byte List.mem_cons_self)
  · rintro ⟨rfl, k, rfl, hroom⟩
    refine ⟨[], k + 1, rfl, by simp, .inr ?_⟩
    simp only [List.length_nil]
    omega

theorem clip_image_iff (hfits : (kept.flatMap sanitizedByte).length ≤ room) :
    clip sanitizedByte room (kept.flatMap sanitizedByte) = kept.flatMap sanitizedByte ↔
      Settles room kept := by
  induction kept generalizing room with
  | nil => exact iff_of_true rfl ⟨[], 0, rfl, by simp, .inl rfl⟩
  | cons byte kept ih =>
    rw [List.flatMap_cons, List.length_append] at hfits
    rw [List.flatMap_cons]
    by_cases h : Special byte
    · rw [sanitizedByte_special h] at hfits ⊢
      simp only [List.length_cons, List.length_nil] at hfits
      obtain ⟨r, rfl⟩ := Nat.exists_eq_add_of_le' (Nat.le_of_add_right_le hfits)
      have hrest : (kept.flatMap sanitizedByte).length ≤ r := by omega
      have hbehind := clip_behind_backslash hrest 0
      rw [settles_cons_special h, ← hbehind, List.cons_append, clip_special (.inl rfl)]
      simp only [List.cons_append, List.nil_append, List.cons.injEq, true_and]
      constructor
      · rintro ⟨rfl, hrest⟩
        exact ⟨rfl, hrest⟩
      · rintro ⟨rfl, hrest⟩
        exact ⟨rfl, hrest⟩
    · rw [sanitizedByte_plain h] at hfits ⊢
      simp only [List.length_cons, List.length_nil] at hfits
      obtain ⟨r, rfl⟩ := Nat.exists_eq_add_of_le' (Nat.le_of_add_right_le hfits)
      rw [settles_cons_plain h, ← ih (by omega), List.cons_append, clip_plainByte h]
      simp only [List.nil_append, List.cons.injEq, true_and]

theorem sanitizeAndClipTo_again (maxLen : ℕ) (text : Bytes) :
    sanitizeAndClipTo maxLen (sanitizeAndClipTo maxLen text) = sanitizeAndClipTo maxLen text ↔
      Settles maxLen (fitting sanitizedByte maxLen text) := by
  rw [sanitizeAndClipTo_eq, sanitizeAndClipTo_eq]
  exact clip_image_iff (clip_length maxLen text)

end Again

/-- The part of a text that `sanitize_and_clip` keeps settles. -/
def SanitizesOnce (text : Bytes) : Prop := Settles 300 (fitting sanitizedByte 300 text)

/-- The text `rest_error_or_http` picks, before it is sanitized. -/
def restErrorText (result : LoggerResult) : Bytes :=
  if result.body ≠ [] then result.body
  else if result.errorString ≠ [] then result.errorString
  else if result.httpCode > 0 then bytes "HTTP_" ++ decimal result.httpCode
  else if result.errorCode ≠ 0 then bytes "HTTP_" ++ decimal result.errorCode
  else []

/-- A text made from a code is not sanitized by `rest_error_or_http`. -/
def ErrorSanitizesOnce (result : LoggerResult) : Prop :=
  (result.body = [] ∧ result.errorString = []) ∨ SanitizesOnce (restErrorText result)

theorem restErrorOrHttp_sanitized_iff (result : LoggerResult) :
    sanitizeAndClip (restErrorOrHttp result) = sanitizeAndClip (restErrorText result) ↔
      ErrorSanitizesOnce result := by
  unfold restErrorOrHttp ErrorSanitizesOnce SanitizesOnce restErrorText
  by_cases hbody : result.body ≠ []
  · simp only [if_pos hbody, hbody, false_and, false_or]
    exact sanitizeAndClipTo_again 300 result.body
  by_cases herror : result.errorString ≠ []
  · simp only [if_neg hbody, if_pos herror, herror, and_false, false_or]
    exact sanitizeAndClipTo_again 300 result.errorString
  · refine iff_of_true ?_ (.inl ⟨not_not.mp hbody, not_not.mp herror⟩)
    simp only [if_neg hbody, if_neg herror]

theorem restErrorOrHttp_eq_nil {result : LoggerResult} :
    restErrorOrHttp result = [] ↔ restErrorText result = [] := by
  unfold restErrorOrHttp restErrorText
  split_ifs <;> simp

theorem setError_lastError (env : Env) (w : World) (message : Bytes) :
    (exec (setError message) env w).2.status.lastError = sanitizeAndClip message := rfl

/-- The ack `send_ack` publishes. -/
theorem sendAck_publishes (env : Env) (w : World) (id type : Bytes) (ok : Bool)
    (message err : Bytes) (httpCode : ℤ) (herr : err ≠ []) :
    ∃ ack, (exec (sendAck id type ok message err httpCode) env w).2.acks = ack :: w.acks ∧
      ack.err = sanitizeAndClip err := by
  have hpick : (if ok = false ∧ err = [] then bytes "error" else err) = err := if_neg fun h => herr h.2
  have hpushes : PushesOne env World.acks (fun ack => ack.err = sanitizeAndClip err)
      (sendAck id type ok message err httpCode) :=
    publishAck_pushes env (congrArg sanitizeAndClip hpick)
  obtain ⟨a, w', hrun⟩ := Throws.returns env
    (inferInstance : Throws env (fun _ => False) (sendAck id type ok message err httpCode)) w
  have hw := hpushes.pushed w
  rw [wp, hrun] at hw
  obtain ⟨ack, hack, hacks⟩ := hw
  exact ⟨ack, by rw [hrun]; exact hacks, hack⟩

/-- Sanitizing twice changes nothing for exactly the texts whose kept part settles, and the error of
a result is published as sanitized once by `set_error` and by `send_ack` exactly if its text is one
of these. -/
theorem sanitized_once_iff (text : Bytes) (env : Env) (w : World) (result : LoggerResult) :
    (sanitizeAndClip (sanitizeAndClip text) = sanitizeAndClip text ↔ SanitizesOnce text) ∧
    ((exec (setError (restErrorOrHttp result)) env w).2.status.lastError =
        sanitizeAndClip (restErrorText result) ↔ ErrorSanitizesOnce result) ∧
    ∀ (id type : Bytes) (ok : Bool) (message : Bytes) (httpCode : ℤ), restErrorText result ≠ [] →
      ∃ ack, (exec (sendAck id type ok message (restErrorOrHttp result) httpCode) env w).2.acks =
          ack :: w.acks ∧
        (ack.err = sanitizeAndClip (restErrorText result) ↔ ErrorSanitizesOnce result) := by
  refine ⟨sanitizeAndClipTo_again 300 text, ?_, fun id type ok message httpCode htext => ?_⟩
  · rw [setError_lastError]
    exact restErrorOrHttp_sanitized_iff result
  · have herr : restErrorOrHttp result ≠ [] := fun h => htext (restErrorOrHttp_eq_nil.mp h)
    obtain ⟨ack, hacks, hack⟩ := sendAck_publishes env w id type ok message _ httpCode herr
    refine ⟨ack, hacks, ?_⟩
    rw [hack]
    exact restErrorOrHttp_sanitized_iff result

/-- An error whose text is a JSON object. -/
def benchBusy : LoggerResult :=
  assembleResult (.response 500 (bytes "\x7b\"error\":\"busy\"\x7d"))

/-- A timeout of the exchange. -/
def benchTimedOut : LoggerResult := assembleResult (.failed 28 (bytes "Timeout was reached"))

theorem sanitized_once_timed_out :
    ∃ ack, (exec (sendAck (bytes "1") (bytes "logger.status") false [] (restErrorOrHttp benchTimedOut) 500)
        ⟨benchPlatform, benchHealthy⟩ {}).2.acks = [ack] ∧
      ack.err = sanitizeAndClip (bytes "Timeout was reached") := by
  have hkept : fitting sanitizedByte 300 (bytes "Timeout was reached") = bytes "Timeout was reached" := by
    decide +kernel
  have hplain : ∀ byte ∈ bytes "Timeout was reached", ¬Special byte := by decide +kernel
  have honce : ErrorSanitizesOnce benchTimedOut :=
    .inr ⟨bytes "Timeout was reached", 0, hkept, hplain, .inl rfl⟩
  obtain ⟨ack, hacks, htold⟩ :=
    (sanitized_once_iff [] ⟨benchPlatform, benchHealthy⟩ {} benchTimedOut).2.2 (bytes "1")
      (bytes "logger.status") false [] 500 (by decide)
  exact ⟨ack, hacks, htold.mpr honce⟩

/-- Every quote of the body is escaped twice. -/
theorem quotes_escaped_twice :
    sanitizeAndClip (sanitizeAndClip benchBusy.body) ≠ sanitizeAndClip benchBusy.body ∧
    (exec (setError (restErrorOrHttp benchBusy)) ⟨benchPlatform, benchHealthy⟩ {}).2.status.lastError ≠
      sanitizeAndClip benchBusy.body := by
  decide +kernel

end Ironsoft.Ekinox
