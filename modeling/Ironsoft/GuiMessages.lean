import Ironsoft.EkinoxAdmission

/-!
# Messages of the GUI

What the GUI reads from the payloads it receives, and the objects it publishes. The accessors are
those of `QJsonValue`: a value of another kind gives the default. A string is its UTF-8 text.
-/
namespace Ironsoft.Gui
open Ekinox

def toStringOr (v : Json) (default : Bytes) : Bytes :=
  match v with
  | .str s => s
  | _ => default

def toBoolOr (v : Json) (default : Bool) : Bool :=
  match v with
  | .bool b => b
  | _ => default

/-- `toInt(default)`: integral numbers that fit in an `int`. -/
def toIntOr (v : Json) (default : ℤ) : ℤ :=
  match v with
  | .int n => if (Json.int n).isInt then n.toInt else default
  | .uint n => if (Json.uint n).isInt then n.toNat else default
  | .real (some q) => if (Json.real (some q)).isInt then q.num else default
  | _ => default

/-- A mantissa of 53 bits; ties go to the even one. -/
def roundNat (n : ℕ) : ℕ :=
  let unit := Nat.pow 2 (Nat.log2 n - 52)
  let q := n / unit
  let r := n % unit
  if 2 * r < unit ∨ (2 * r = unit ∧ q % 2 = 0) then q * unit else (q + 1) * unit

/-- The double an integer is converted to. -/
def roundInt (n : ℤ) : ℤ := if n < 0 then -(roundNat n.natAbs : ℤ) else roundNat n.natAbs

def toDouble : Json → Option ℚ
  | .int n => some (roundInt n.toInt)
  | .uint n => some (roundInt n.toNat)
  | .real v => v
  | _ => none

/-- `static_cast<qint64>`. C++ leaves a double out of range undefined; this is what x86 gives. -/
def toQint64 : Option ℚ → ℤ
  | some q =>
    let n := q.num.tdiv q.den
    if -9223372036854775808 ≤ n ∧ n < 9223372036854775808 then n else -9223372036854775808
  | none => -9223372036854775808

/-- `QJsonDocument::fromJson`: the document, or the error text. -/
abbrev QJsonParser := Bytes → Except Bytes Json

structure EkinoxStatus where
  state : Bytes := []
  mode : Bytes := []
  linkAlive : Bool := false
  recordingActive : Bool := false
  sessionName : Bytes := []
  lastError : Bytes := []
  ts : ℤ := 0
  deriving DecidableEq

/-- The fields of a status object; `recording_active` is left as it was if it has no key. -/
def readEkinoxStatus (obj : Json) (out : EkinoxStatus) (currentSecs : ℤ) : EkinoxStatus :=
  let state := toStringOr (obj.get (bytes "state")) []
  let sessionField :=
    if obj.isMember (bytes "session_name") then obj.get (bytes "session_name")
    else obj.get (bytes "sessionName")
  let tsVal := obj.get (bytes "ts")
  { state := state
    mode := toStringOr (obj.get (bytes "mode")) state
    linkAlive := toBoolOr (obj.get (bytes "link_alive")) (toBoolOr (obj.get (bytes "linkAlive")) false)
    recordingActive :=
      if obj.isMember (bytes "recording_active") then
        toBoolOr (obj.get (bytes "recording_active")) false
      else if obj.isMember (bytes "recording") then toBoolOr (obj.get (bytes "recording")) false
      else out.recordingActive
    sessionName := toStringOr sessionField []
    lastError := toStringOr (obj.get (bytes "last_error")) []
    ts := if tsVal.isNumeric then toQint64 (toDouble tsVal) else currentSecs }

/-- The status, or `err`. -/
def parseEkinoxStatusJson (fromJson : QJsonParser) (payload : Bytes) (out : EkinoxStatus)
    (currentSecs : ℤ) : Except Bytes EkinoxStatus :=
  match fromJson payload with
  | .error err => .error err
  | .ok doc =>
    if doc.isObject then .ok (readEkinoxStatus doc out currentSecs)
    else .error (bytes "root is not an object")

/-- What `handleAckMessage` reads from an ack. -/
structure AckFields where
  ackId : Bytes
  ok : Bool
  message : Bytes
  errText : Bytes
  ackType : Bytes
  httpCode : ℤ
  deriving DecidableEq

def readAck (ackObj : Json) : AckFields where
  ackId := toStringOr (ackObj.get (bytes "id")) []
  ok := toBoolOr (ackObj.get (bytes "ok")) false
  message := toStringOr (ackObj.get (bytes "message")) []
  errText := toStringOr (ackObj.get (bytes "err")) (toStringOr (ackObj.get (bytes "error")) [])
  ackType := toStringOr (ackObj.get (bytes "type")) []
  httpCode := toIntOr (ackObj.get (bytes "http_code")) (-1)

/-- The ack a payload holds, if it is an object. -/
def parseAck (fromJson : QJsonParser) (payload : Bytes) : Option AckFields :=
  match fromJson payload with
  | .error _ => none
  | .ok doc => if doc.isObject then some (readAck doc) else none

def loggerStartObject (id sessionName : Bytes) (ts : Int64) : Json :=
  .obj [(bytes "id", .str id), (bytes "type", .str (bytes "logger.start")), (bytes "ts", .int ts),
    (bytes "sessionName", .str sessionName)]

def loggerStopObject (id : Bytes) : Json :=
  .obj [(bytes "id", .str id), (bytes "type", .str (bytes "logger.stop"))]

def loggerStatusObject (id : Bytes) (ts : Int64) : Json :=
  .obj [(bytes "id", .str id), (bytes "type", .str (bytes "logger.status")), (bytes "ts", .int ts)]

def pingObject (pingId : Bytes) : Json :=
  .obj [(bytes "id", .str pingId), (bytes "type", .str (bytes "ping"))]

/-- What the GUI has to know about a status. -/
structure ReadAs (st : EkinoxStatus) (payload : StatusPayload) : Prop where
  state : st.state = payload.state.name
  mode : st.mode = st.state
  linkAlive : st.linkAlive = payload.linkAlive
  recordingActive : st.recordingActive = payload.recordingActive
  sessionName : st.sessionName = payload.sessionName
  lastError : st.lastError = payload.lastError

theorem readEkinoxStatus_build (payload : StatusPayload) (out : EkinoxStatus) (currentSecs : ℤ) :
    ReadAs (readEkinoxStatus (buildStatusJson payload) out currentSecs) payload := by
  constructor <;> rfl

theorem parseEkinoxStatusJson_build {fromJson : QJsonParser} {text : Bytes} {payload : StatusPayload}
    (h : fromJson text = .ok (buildStatusJson payload)) (out : EkinoxStatus) (currentSecs : ℤ) :
    ∃ st, parseEkinoxStatusJson fromJson text out currentSecs = .ok st ∧ ReadAs st payload := by
  have hread := readEkinoxStatus_build payload out currentSecs
  refine ⟨_, ?_, hread⟩
  simp [parseEkinoxStatusJson, h, buildStatusJson, Json.isObject]

theorem loggerStartObject_admissible {id : Bytes} (hid : id ≠ []) (sessionName : Bytes) (ts : Int64) :
    Admissible (loggerStartObject id sessionName ts) .loggerStart (bytes "logger.start") id :=
  ⟨rfl, rfl, by decide, rfl, hid, fun _ => .inl rfl⟩

theorem loggerStopObject_admissible {id : Bytes} (hid : id ≠ []) :
    Admissible (loggerStopObject id) .loggerStop (bytes "logger.stop") id :=
  ⟨rfl, rfl, by decide, rfl, hid, fun h => absurd h Bool.false_ne_true⟩

theorem loggerStatusObject_admissible {id : Bytes} (hid : id ≠ []) (ts : Int64) :
    Admissible (loggerStatusObject id ts) .loggerStatus (bytes "logger.status") id :=
  ⟨rfl, rfl, by decide, rfl, hid, fun _ => .inl rfl⟩

theorem pingObject_admissible {id : Bytes} (hid : id ≠ []) :
    Admissible (pingObject id) .ping (bytes "ping") id :=
  ⟨rfl, rfl, by decide, rfl, hid, fun h => absurd h Bool.false_ne_true⟩

theorem extractSessionName_start {sessionName : Bytes} (h : sessionName ≠ []) (id : Bytes) (ts : Int64) :
    extractSessionName (loggerStartObject id sessionName ts) = sessionName := by
  have hread : readField ((loggerStartObject id sessionName ts).get (bytes "sessionName")) = sessionName :=
    rfl
  simp only [extractSessionName, hread]
  rw [if_pos h]

/-- A payload with an admissible object is handed to the handler of its type. -/
theorem exec_handleCommandMessage {env : Env} {payload id type : Bytes} {root : Json}
    {command : CommandType} (hparse : env.parse payload = .ok (some root))
    (h : Admissible root command type id) (w : World) :
    Effect.exec (handleCommandMessage payload) env w =
      Effect.exec (dispatch (.accepted command id type root)) env w := by
  unfold handleCommandMessage
  rw [Effect.exec_bind, Effect.exec_read]
  dsimp only
  rw [hparse, Effect.exec_bind]
  change Effect.exec (dispatch (admitParsed (some root))) env w = _
  rw [h.admitted]

theorem toIntOr_int64Json {n : Int32} (default : ℤ) : toIntOr (int64Json n.toInt) default = n.toInt := by
  have hlo := n.le_toInt
  have hhi := n.toInt_lt
  have hn : (Int64.ofInt n.toInt).toInt = n.toInt := Int64.toInt_ofInt_of_le (by omega) (by omega)
  have hfits : (Json.int (Int64.ofInt n.toInt)).isInt = true := by
    simp only [Json.isInt, hn, Json.minInt, Json.maxInt, decide_eq_true_eq]
    omega
  simp only [toIntOr, int64Json, hn]
  rw [if_pos hfits]

/-- A text that is left out when it is empty reads as the empty text. -/
theorem readAck_build (type id message err : Bytes) (ok : Bool) (httpCode : Int32) (ts : ℤ) :
    readAck (buildAckJson ⟨type, id, ok, httpCode.toInt, message, err⟩ ts) =
      { ackId := id, ok := ok, message := message, errText := err, ackType := type
        httpCode := if httpCode.toInt > 0 then httpCode.toInt else -1 } := by
  have hcode := toIntOr_int64Json (n := httpCode) (-1)
  by_cases hm : message = []
  all_goals by_cases he : err = []
  all_goals by_cases hc : httpCode.toInt > 0
  all_goals
    simp only [buildAckJson, hm, he, if_true, if_false]
    first
      | rw [if_pos hc, if_pos hc]
        conv => rhs; rw [← hcode]
        rfl
      | rw [if_neg hc, if_neg hc]
        rfl

theorem parseAck_build {fromJson : QJsonParser} {text type id message err : Bytes} {ok : Bool}
    {httpCode : Int32} {ts : ℤ}
    (h : fromJson text = .ok (buildAckJson ⟨type, id, ok, httpCode.toInt, message, err⟩ ts)) :
    parseAck fromJson text =
      some { ackId := id, ok := ok, message := message, errText := err, ackType := type
             httpCode := if httpCode.toInt > 0 then httpCode.toInt else -1 } := by
  have hobj : (buildAckJson ⟨type, id, ok, httpCode.toInt, message, err⟩ ts).isObject = true := rfl
  simp [parseAck, h, hobj, readAck_build]

/-- What one side writes the other reads: statuses, commands and acks. -/
theorem gui_and_service_agree (fromJson : QJsonParser) (env : Env) (w : World) (text : Bytes) :
    (∀ payload out currentSecs, fromJson text = .ok (buildStatusJson payload) →
      ∃ st, parseEkinoxStatusJson fromJson text out currentSecs = .ok st ∧ ReadAs st payload) ∧
    (∀ id, id ≠ [] →
      (∀ sessionName ts, sessionName ≠ [] →
        env.parse text = .ok (some (loggerStartObject id sessionName ts)) →
        Effect.exec (handleCommandMessage text) env w = Effect.exec
          (handleLoggerStart id (bytes "logger.start") (loggerStartObject id sessionName ts)) env w ∧
        extractSessionName (loggerStartObject id sessionName ts) = sessionName) ∧
      (env.parse text = .ok (some (loggerStopObject id)) →
        Effect.exec (handleCommandMessage text) env w =
          Effect.exec (handleLoggerStop id (bytes "logger.stop")) env w) ∧
      (∀ ts, env.parse text = .ok (some (loggerStatusObject id ts)) →
        Effect.exec (handleCommandMessage text) env w =
          Effect.exec (handleLoggerStatus id (bytes "logger.status")) env w) ∧
      (env.parse text = .ok (some (pingObject id)) →
        Effect.exec (handleCommandMessage text) env w =
          Effect.exec (handlePing id (bytes "ping")) env w)) ∧
    ∀ type id message err ok (httpCode : Int32) ts, id ≠ [] →
      fromJson text = .ok (buildAckJson ⟨type, id, ok, httpCode.toInt, message, err⟩ ts) →
      parseAck fromJson text =
        some { ackId := id, ok := ok, message := message, errText := err, ackType := type
               httpCode := if httpCode.toInt > 0 then httpCode.toInt else -1 } := by
  refine ⟨fun payload out currentSecs h => parseEkinoxStatusJson_build h out currentSecs, ?_,
    fun _ _ _ _ _ _ _ _ h => parseAck_build h⟩
  intro id hid
  refine ⟨fun sessionName ts hname h => ⟨?_, extractSessionName_start hname id ts⟩, fun h => ?_,
    fun ts h => ?_, fun h => ?_⟩
  · exact exec_handleCommandMessage h (loggerStartObject_admissible hid sessionName ts) w
  · exact exec_handleCommandMessage h (loggerStopObject_admissible hid) w
  · exact exec_handleCommandMessage h (loggerStatusObject_admissible hid ts) w
  · exact exec_handleCommandMessage h (pingObject_admissible hid) w

/-- The sensor has fallen silent during a recording. -/
def benchStatus : StatusPayload :=
  { linkAlive := false, apiOk := true, recordingActive := true, state := .recording
    lastError := rxTimeoutText, lastErrorTs := 6, sessionName := bytes "a" }

def benchStatusText : Bytes :=
  bytes "\x7b\"api_ok\":true,\"last_error\":\"rx timeout\",\"last_error_ts\":6," ++
    bytes "\"link_alive\":false,\"mode\":\"RECORDING\",\"recording\":true," ++
    bytes "\"recording_active\":true,\"sessionName\":\"a\",\"session_name\":\"a\"," ++
    bytes "\"state\":\"RECORDING\"\x7d"

def benchStartText : Bytes :=
  bytes "\x7b\"id\":\"1\",\"sessionName\":\"a\",\"ts\":5,\"type\":\"logger.start\"\x7d"

def benchAckText : Bytes :=
  bytes "\x7b\"error\":\"x\",\"http_code\":404,\"id\":\"1\",\"ok\":false,\"ts\":5," ++
    bytes "\"type\":\"logger.start\"\x7d"

def benchAck (httpCode : Int32) : Ack :=
  ⟨bytes "logger.start", bytes "1", false, httpCode.toInt, [], bytes "x"⟩

def benchFromJson : QJsonParser := fun text =>
  if text = benchStatusText then .ok (buildStatusJson benchStatus)
  else if text = benchAckText then .ok (buildAckJson (benchAck 404) 5)
  else .error (bytes "illegal value")

def benchGuiPlatform : Platform :=
  { benchPlatform with
    parse := fun text => .ok
      (if text = benchStartText then some (loggerStartObject (bytes "1") (bytes "a") 5) else none) }

theorem gui_and_service_agree_bench :
    (∃ st, parseEkinoxStatusJson benchFromJson benchStatusText {} 7 = .ok st ∧ ReadAs st benchStatus) ∧
    extractSessionName (loggerStartObject (bytes "1") (bytes "a") 5) = bytes "a" ∧
    parseAck benchFromJson benchAckText =
      some { ackId := bytes "1", ok := false, message := [], errText := bytes "x"
             ackType := bytes "logger.start", httpCode := 404 } := by
  let env : Env := ⟨benchGuiPlatform, benchHealthy⟩
  let w := benchConnected benchHealthy
  have hstatus : benchFromJson benchStatusText = .ok (buildStatusJson benchStatus) := if_pos rfl
  have hack : benchFromJson benchAckText = .ok (buildAckJson (benchAck 404) 5) :=
    (if_neg (by decide +kernel)).trans (if_pos rfl)
  have hstart : env.parse benchStartText = .ok (some (loggerStartObject (bytes "1") (bytes "a") 5)) :=
    congrArg Except.ok (if_pos rfl)
  have hid : bytes "1" ≠ [] := by decide
  exact ⟨(gui_and_service_agree benchFromJson env w benchStatusText).1 benchStatus {} 7 hstatus,
    (((gui_and_service_agree benchFromJson env w benchStartText).2.1 (bytes "1") hid).1
      (bytes "a") 5 (by decide) hstart).2,
    (gui_and_service_agree benchFromJson env w benchAckText).2.2 (bytes "logger.start") (bytes "1") []
      (bytes "x") false 404 5 hid hack⟩

end Ironsoft.Gui
