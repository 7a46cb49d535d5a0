import Ironsoft.EkinoxJsonSafety

/-!
# The recording flag of a reply

`enrich_from_json` takes the status of the logger from one member and the recording flag from
others. They agree only if what is found for the flag bears the status out.
-/
namespace Ironsoft.Ekinox

def recordingText : Bytes := bytes "recording"

def readyText : Bytes := bytes "ready"

/-- The status and the flag say the same. -/
def FlagAgrees (r : LoggerResult) : Prop :=
  (r.statusValue = recordingText → r.hasRecordingFlag = true ∧ r.recordingActive = true) ∧
    (r.statusValue = readyText → r.recordingActive = false)

section Members

variable (root : Json)

/-- The text of a member, empty if it is no string. -/
def textAt (key : Bytes) : Bytes := (root.get key).asString

/-- The write speed, if there is a number. -/
def speedAt : ℤ :=
  if (root.get (bytes "writeSpeed")).isNumeric then
    (root.get (bytes "writeSpeed")).asInt.toOption.getD 0
  else 0

/-- A session is named, or something is written. -/
def Busy : Prop := textAt root (bytes "sessionName") ≠ [] ∨ 0 < speedAt root

/-- Neither a status nor a write speed is there to guess from. -/
def Unguessed : Prop :=
  (root.get (bytes "status")).isString = false ∧ (root.get (bytes "writeSpeed")).isNumeric = false

def flagAt (key : Bytes) : Option Bool :=
  if (root.get key).isBool then some (root.get key).asBool else none

/-- The first flag there is. -/
def firstFlag : Option Bool :=
  [bytes "recording", bytes "isRecording", bytes "recording_active", bytes "active"].findSome?
    (flagAt root)

instance : Decidable (Busy root) := inferInstanceAs (Decidable (_ ∨ _))

instance : Decidable (Unguessed root) := inferInstanceAs (Decidable (_ ∧ _))

/-- What is found for the flag bears the status out. -/
structure StatusBorneOut : Prop where
  ready : textAt root (bytes "status") = readyText → ¬0 < speedAt root
  stateRecording : textAt root (bytes "status") = [] → textAt root (bytes "state") = recordingText →
    Busy root ∨ Unguessed root ∧ firstFlag root = some true
  stateReady : textAt root (bytes "status") = [] → textAt root (bytes "state") = readyText →
    ¬Busy root ∧ (Unguessed root → firstFlag root ≠ some true)

end Members

def LoggerResult.flags (r : LoggerResult) : Bool × Bool := (r.hasRecordingFlag, r.recordingActive)

/-- The status so far, and what the heuristics have found. -/
structure Enriched.Guesses (e : Enriched) (status : Bytes) (used recording : Prop) : Prop where
  status : e.result.statusValue = status
  unset : e.result.flags = (false, false)
  used : e.usedHeuristic = true ↔ used
  recording : e.recordingViaHeuristic = true ↔ recording

section Stages

variable {root : Json} {e e' : Enriched} {status : Bytes} {used recording : Prop}

theorem asString_of_not_isString {value : Json} (h : ¬value.isString = true) : value.asString = [] := by
  cases value with
  | str s => exact absurd rfl h
  | _ => rfl

theorem enrichStatus_guesses (root : Json) {result : LoggerResult} (hresult : result.statusValue = [])
    (hflags : result.flags = (false, false)) :
    (enrichStatus root { result := result }).Guesses (textAt root (bytes "status"))
      ((root.get (bytes "status")).isString = true)
      (textAt root (bytes "status") = recordingText) := by
  unfold enrichStatus
  dsimp only
  split_ifs with hstring
  · refine ⟨rfl, hflags, iff_of_true rfl hstring, ?_⟩
    rw [Bool.false_or]
    exact decide_eq_true_iff
  · have htext : textAt root (bytes "status") = [] := asString_of_not_isString hstring
    rw [htext]
    exact ⟨hresult, hflags, iff_of_false Bool.false_ne_true hstring,
      iff_of_false Bool.false_ne_true (by decide)⟩

theorem Enriched.Guesses.mode (h : e.Guesses status used recording) :
    (enrichMode root e).Guesses status used recording := by
  unfold enrichMode
  dsimp only
  split_ifs
  · exact ⟨h.status, h.unset, h.used, h.recording⟩
  · exact h

/-- A named session counts unless the status is `ready`. -/
def Named (root : Json) (status : Bytes) : Prop :=
  textAt root (bytes "sessionName") ≠ [] ∧ status ≠ readyText

theorem Enriched.Guesses.session (h : e.Guesses status used recording) :
    (enrichSession root e).Guesses status (used ∨ Named root status) (recording ∨ Named root status) := by
  have hnamed : Named root status ↔
      textAt root (bytes "sessionName") ≠ [] ∧ e.result.statusValue ≠ readyText := by
    rw [h.status]
    exact Iff.rfl
  have hunnamed (hn : ¬Named root status) {p : Prop} : p ∨ Named root status ↔ p := or_iff_left hn
  unfold enrichSession
  dsimp only
  split_ifs with hstring hn
  · have hname := hnamed.mpr hn
    exact ⟨h.status, h.unset, iff_of_true rfl (.inr hname), iff_of_true rfl (.inr hname)⟩
  · have hname := mt hnamed.mp hn
    rw [hunnamed hname, hunnamed hname]
    exact ⟨h.status, h.unset, h.used, h.recording⟩
  · have htext : textAt root (bytes "sessionName") = [] := asString_of_not_isString hstring
    have hname : ¬Named root status := fun hn => hn.1 htext
    rw [hunnamed hname, hunnamed hname]
    exact h

theorem Enriched.Guesses.writeSpeed (h : e.Guesses status used recording)
    (hspeed : enrichWriteSpeed root e = .ok e') :
    e'.Guesses status (used ∨ (root.get (bytes "writeSpeed")).isNumeric = true)
      (recording ∨ 0 < speedAt root) := by
  unfold enrichWriteSpeed at hspeed
  dsimp only at hspeed
  split_ifs at hspeed with hnumeric
  · cases hread : (root.get (bytes "writeSpeed")).asInt with
    | error err =>
      rw [hread] at hspeed
      cases hspeed
    | ok speed =>
      rw [hread] at hspeed
      cases hspeed
      have hvalue : speedAt root = speed := by
        rw [speedAt, if_pos hnumeric, hread]
        rfl
      rw [hvalue]
      refine ⟨h.status, h.unset, iff_of_true rfl (.inr hnumeric), ?_⟩
      simp [h.recording]
  · cases hspeed
    have hvalue : speedAt root = 0 := if_neg hnumeric
    rw [hvalue, or_iff_left hnumeric, or_iff_left (Int.lt_irrefl 0)]
    exact h

theorem enrichState_status (root : Json) (result : LoggerResult) :
    (enrichState root result).statusValue =
      if result.statusValue = [] then textAt root (bytes "state") else result.statusValue := by
  unfold enrichState
  dsimp only
  split_ifs with h hempty hempty
  · rfl
  · exact absurd h.1 hempty
  · have hstring : ¬(root.get (bytes "state")).isString = true := fun hs => h ⟨hempty, hs⟩
    rw [hempty]
    exact (asString_of_not_isString hstring).symm
  · rfl

theorem enrichState_flags (root : Json) (result : LoggerResult) :
    (enrichState root result).flags = result.flags := by
  unfold enrichState
  dsimp only
  split_ifs <;> rfl

theorem enrichMessage_status (result : LoggerResult) :
    (enrichMessage result).statusValue = result.statusValue ∧
      (enrichMessage result).flags = result.flags := by
  unfold enrichMessage
  split_ifs <;> exact ⟨rfl, rfl⟩

theorem assignBool_eq (root : Json) (key : Bytes) (result : LoggerResult) :
    assignBool (root.get key) result = (flagAt root key).map fun flag =>
      { result with hasRecordingFlag := true, recordingActive := flag } := by
  unfold assignBool flagAt
  split_ifs <;> rfl

/-- Without a guess, the flag is the first one there is. -/
theorem enrichRecording_flags (root : Json) (e : Enriched) :
    (enrichRecording root e).statusValue = e.result.statusValue ∧
    (enrichRecording root e).flags =
      if e.usedHeuristic then (true, e.recordingViaHeuristic)
      else (firstFlag root).elim e.result.flags fun flag => (true, flag) := by
  unfold enrichRecording
  split_ifs with hused
  · exact ⟨rfl, rfl⟩
  rw [assignBool_eq, assignBool_eq, assignBool_eq, assignBool_eq]
  unfold firstFlag
  simp only [List.findSome?]
  cases flagAt root (bytes "recording") with
  | some flag => exact ⟨rfl, rfl⟩
  | none =>
    cases flagAt root (bytes "isRecording") with
    | some flag => exact ⟨rfl, rfl⟩
    | none =>
      cases flagAt root (bytes "recording_active") with
      | some flag => exact ⟨rfl, rfl⟩
      | none => cases flagAt root (bytes "active") <;> exact ⟨rfl, rfl⟩

end Stages

section Reply

variable {root : Json} {result r : LoggerResult}

/-- The status that is reported. -/
def statusOf (root : Json) : Bytes :=
  if textAt root (bytes "status") = [] then textAt root (bytes "state")
  else textAt root (bytes "status")

/-- A heuristic applies. -/
def Guessed (root : Json) : Prop :=
  ((root.get (bytes "status")).isString = true ∨ Named root (textAt root (bytes "status"))) ∨
    (root.get (bytes "writeSpeed")).isNumeric = true

/-- A heuristic finds a recording. -/
def GuessesRecording (root : Json) : Prop :=
  (textAt root (bytes "status") = recordingText ∨ Named root (textAt root (bytes "status"))) ∨
    0 < speedAt root

/-- The reply is taken for that of a device that records. -/
def TakenForRecording (root : Json) : Prop :=
  Guessed root ∧ GuessesRecording root ∨ ¬Guessed root ∧ firstFlag root = some true

theorem enrichFromObject_reads (hresult : result.statusValue = [])
    (hflags : result.flags = (false, false)) (h : enrichFromObject root result = .ok r) :
    r.statusValue = statusOf root ∧ (r.recordingActive = true ↔ TakenForRecording root) ∧
      (r.recordingActive = true → r.hasRecordingFlag = true) := by
  have hguesses : (enrichMode root (enrichStatus root { result := result })).Guesses
      (textAt root (bytes "status")) ((root.get (bytes "status")).isString = true)
      (textAt root (bytes "status") = recordingText) :=
    (enrichStatus_guesses root hresult hflags).mode
  unfold enrichFromObject at h
  dsimp only at h
  cases hspeed : enrichWriteSpeed root
      (enrichSession root (enrichMode root (enrichStatus root { result := result }))) with
  | error err =>
    rw [hspeed] at h
    cases h
  | ok e =>
    rw [hspeed] at h
    have hfound := hguesses.session.writeSpeed hspeed
    have hr : r = enrichRecording root { e with result := enrichMessage (enrichState root e.result) } :=
      (Except.ok.inj h).symm
    obtain ⟨hstatus, hread⟩ :=
      enrichRecording_flags root { e with result := enrichMessage (enrichState root e.result) }
    rw [← hr] at hstatus hread
    obtain ⟨hmessage, hkept⟩ := enrichMessage_status (enrichState root e.result)
    have hunset : (enrichMessage (enrichState root e.result)).flags = (false, false) :=
      (hkept.trans (enrichState_flags root e.result)).trans hfound.unset
    constructor
    · rw [hstatus, hmessage, enrichState_status, hfound.status]
      rfl
    have hguessed : e.usedHeuristic = true ↔ Guessed root := hfound.used
    have hrecording : e.recordingViaHeuristic = true ↔ GuessesRecording root := hfound.recording
    rw [TakenForRecording, ← hguessed, ← hrecording]
    by_cases hused : e.usedHeuristic = true
    · rw [if_pos hused] at hread
      have hflag : r.hasRecordingFlag = true := congrArg Prod.fst hread
      have hactive : r.recordingActive = e.recordingViaHeuristic := congrArg Prod.snd hread
      simp [hflag, hactive, hused]
    · rw [if_neg hused, hunset] at hread
      cases hfirst : firstFlag root with
      | none =>
        rw [hfirst] at hread
        have hactive : r.recordingActive = false := congrArg Prod.snd hread
        simp [hactive, hused]
      | some flag =>
        rw [hfirst] at hread
        have hflag : r.hasRecordingFlag = true := congrArg Prod.fst hread
        have hactive : r.recordingActive = flag := congrArg Prod.snd hread
        simp [hflag, hactive, hused]

theorem speed_numeric (h : 0 < speedAt root) : (root.get (bytes "writeSpeed")).isNumeric = true := by
  by_contra hnumeric
  rw [speedAt, if_neg hnumeric] at h
  exact absurd h (Int.lt_irrefl 0)

/-- With a status text, the heuristics alone decide. -/
theorem takenForRecording_status (h : textAt root (bytes "status") ≠ []) :
    TakenForRecording root ↔ GuessesRecording root := by
  have hstring : (root.get (bytes "status")).isString = true := by
    by_contra hs
    exact h (asString_of_not_isString hs)
  have hguessed : Guessed root := .inl (.inl hstring)
  simp [TakenForRecording, hguessed]

theorem takenForRecording_noStatus (h : textAt root (bytes "status") = []) :
    TakenForRecording root ↔ Busy root ∨ Unguessed root ∧ firstFlag root = some true := by
  have hnamed : Named root (textAt root (bytes "status")) ↔ textAt root (bytes "sessionName") ≠ [] := by
    rw [h]
    exact and_iff_left (by decide)
  have hrecording : GuessesRecording root ↔ Busy root := by
    have hnot : ¬textAt root (bytes "status") = recordingText := by
      rw [h]
      decide
    rw [GuessesRecording, or_iff_right hnot, hnamed]
    exact Iff.rfl
  have hbusy : Busy root → Guessed root := by
    rintro (hn | hs)
    · exact .inl (.inr (hnamed.mpr hn))
    · exact .inr (speed_numeric hs)
  have hunguessed : ¬Guessed root ↔ Unguessed root ∧ ¬textAt root (bytes "sessionName") ≠ [] := by
    rw [Guessed, hnamed, Unguessed, ← Bool.not_eq_true, ← Bool.not_eq_true]
    tauto
  rw [TakenForRecording, hrecording, hunguessed]
  constructor
  · rintro (⟨-, hb⟩ | ⟨⟨hu, -⟩, hf⟩)
    · exact .inl hb
    · exact .inr ⟨hu, hf⟩
  · rintro (hb | ⟨hu, hf⟩)
    · exact .inl ⟨hbusy hb, hb⟩
    · by_cases hn : textAt root (bytes "sessionName") ≠ []
      · exact .inl ⟨hbusy (.inl hn), .inl hn⟩
      · exact .inr ⟨⟨hu, hn⟩, hf⟩

theorem statusBorneOut_iff :
    StatusBorneOut root ↔ (statusOf root = recordingText → TakenForRecording root) ∧
      (statusOf root = readyText → ¬TakenForRecording root) := by
  by_cases hstatus : textAt root (bytes "status") = []
  · rw [takenForRecording_noStatus hstatus, statusOf, if_pos hstatus]
    have hready : ¬textAt root (bytes "status") = readyText := by
      rw [hstatus]
      decide
    constructor
    · intro h
      refine ⟨h.stateRecording hstatus, fun hs hr => ?_⟩
      obtain ⟨hidle, hflag⟩ := h.stateReady hstatus hs
      rcases hr with hb | ⟨hu, hf⟩
      · exact hidle hb
      · exact hflag hu hf
    · rintro ⟨hrec, hrdy⟩
      exact ⟨fun h => absurd h hready, fun _ => hrec,
        fun _ hs => ⟨fun hb => hrdy hs (.inl hb), fun hu hf => hrdy hs (.inr ⟨hu, hf⟩)⟩⟩
  · rw [takenForRecording_status hstatus, statusOf, if_neg hstatus]
    have hrecording (h : textAt root (bytes "status") = recordingText) : GuessesRecording root :=
      .inl (.inl h)
    have hready (h : textAt root (bytes "status") = readyText) :
        GuessesRecording root ↔ 0 < speedAt root := by
      have hnamed : ¬Named root (textAt root (bytes "status")) := fun hn => hn.2 h
      have hnot : ¬textAt root (bytes "status") = recordingText := by
        rw [h]
        decide
      rw [GuessesRecording, or_iff_left hnamed, or_iff_right hnot]
    constructor
    · intro h
      exact ⟨hrecording, fun hs => (hready hs).not.mpr (h.ready hs)⟩
    · rintro ⟨-, hrdy⟩
      exact ⟨fun hs => (hready hs).not.mp (hrdy hs), fun h => absurd h hstatus,
        fun h => absurd h hstatus⟩

end Reply

/-- The status and the flag of a reply agree exactly if what is found for the flag bears the
status out. -/
theorem flag_agrees_iff {parse : JsonParser} (httpCode : ℤ) {body : Bytes} {root : Json}
    (hbody : body ≠ []) (hparse : parse body = .ok (some root)) (hobject : root.isObject = true)
    (hspeed : (root.get (bytes "writeSpeed")).isNumeric = true →
      (root.get (bytes "writeSpeed")).FitsInt) :
    ∃ r, performHttpRequest parse (.response httpCode body) = .ok r ∧
      (FlagAgrees r ↔ StatusBorneOut root) := by
  let result := assembleResult (.response httpCode body)
  have hkept : result.body = body ∧ result.statusValue = [] ∧ result.flags = (false, false) := by
    simp only [result, assembleResult]
    split_ifs <;> exact ⟨rfl, rfl, rfl⟩
  obtain ⟨hresult, hstatus, hflags⟩ := hkept
  obtain ⟨r, hr⟩ := (enrichFromObject_returns_iff root result).mpr hspeed
  refine ⟨r, ?_, ?_⟩
  · change enrichFromJson parse result = .ok r
    rw [enrichFromJson, hresult, if_neg hbody, hparse]
    simpa [hobject] using hr
  · obtain ⟨hvalue, hactive, hflag⟩ := enrichFromObject_reads hstatus hflags hr
    rw [statusBorneOut_iff, FlagAgrees, hvalue, ← hactive, Bool.not_eq_true]
    constructor
    · rintro ⟨hrec, hrdy⟩
      exact ⟨fun hs => (hrec hs).2, hrdy⟩
    · rintro ⟨hrec, hrdy⟩
      exact ⟨fun hs => ⟨hflag (hrec hs), hrec hs⟩, hrdy⟩

/-- A logger that says it is ready and writes. -/
def benchWritingText : Bytes := bytes "\x7b\"status\":\"ready\",\"writeSpeed\":5\x7d"

def benchRecordingText : Bytes := bytes "\x7b\"state\":\"recording\",\"recording\":true\x7d"

/-- One that says it records, without a flag. -/
def benchStateText : Bytes := bytes "\x7b\"state\":\"recording\"\x7d"

/-- The reader on these texts. -/
def benchReplyParse : JsonParser := fun text =>
  if text = benchWritingText then
    .ok (some (.obj [(bytes "status", .str (bytes "ready")), (bytes "writeSpeed", .int 5)]))
  else if text = benchRecordingText then
    .ok (some (.obj [(bytes "state", .str (bytes "recording")), (bytes "recording", .bool true)]))
  else if text = benchStateText then
    .ok (some (.obj [(bytes "state", .str (bytes "recording"))]))
  else .ok none

theorem flag_agrees_recording :
    ∃ r, performHttpRequest benchReplyParse (.response 200 benchRecordingText) = .ok r ∧
      FlagAgrees r := by
  obtain ⟨r, hr, hagrees⟩ := @flag_agrees_iff benchReplyParse 200 benchRecordingText _ (by decide) rfl
    rfl fun hnumeric => absurd hnumeric (by decide)
  refine ⟨r, hr, hagrees.mpr ⟨?_, fun _ _ => .inr ⟨?_, ?_⟩, fun _ hready => ?_⟩⟩
  · decide
  · decide
  · decide
  · exact absurd hready (by decide)

theorem status_not_borne_out :
    (∃ r, performHttpRequest benchReplyParse (.response 200 benchWritingText) = .ok r ∧
      ¬FlagAgrees r) ∧
    ∃ r, performHttpRequest benchReplyParse (.response 200 benchStateText) = .ok r ∧
      ¬FlagAgrees r := by
  constructor
  · refine ⟨_, rfl, fun h => ?_⟩
    exact absurd (h.2 (by decide +kernel)) (by decide +kernel)
  · refine ⟨_, rfl, fun h => ?_⟩
    exact absurd (h.1 (by decide +kernel)).1 (by decide +kernel)

end Ironsoft.Ekinox
