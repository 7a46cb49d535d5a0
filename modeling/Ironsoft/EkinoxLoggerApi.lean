import Ironsoft.EkinoxConfig

/-!
# REST API of the data logger

How an HTTP exchange with the Ekinox becomes a `LoggerResult`.
-/
namespace Ironsoft.Ekinox

structure LoggerResult where
  ok : Bool := false
  errorCode : ℤ := 0
  httpCode : ℤ := 0
  message : Bytes := []
  errorString : Bytes := []
  body : Bytes := []
  hasRecordingFlag : Bool := false
  recordingActive : Bool := false
  sessionName : Bytes := []
  statusValue : Bytes := []
  mode : Bytes := []
  hasWriteSpeed : Bool := false
  writeSpeed : ℤ := 0
  deriving DecidableEq

/-- A request of the service to the Ekinox. -/
inductive RestRequest
  | get
  | start (sessionName : Bytes)
  | stop
  deriving DecidableEq

/-- What libcurl makes of a request. -/
inductive HttpReply
  | initFailed
  | failed (rc : ℤ) (strerror : Bytes)
  | response (httpCode : ℤ) (body : Bytes)
  deriving DecidableEq

def makePreview (body : Bytes) : Bytes :=
  if body.length ≤ 300 then body else body.take 300 ++ bytes "..."

def makeConfigError (field : Bytes) : LoggerResult :=
  { ok := false, errorCode := -2, errorString := bytes "missing " ++ field }

/-- `none` if the REST endpoint is configured. -/
def validateRestTarget (config : EkinoxConfig) : Option LoggerResult :=
  if config.ekinox.ip = [] then some (makeConfigError (bytes "ekinox.ip"))
  else if config.ekinox.restPort ≤ 0 then some (makeConfigError (bytes "ekinox.rest_port"))
  else none

/-- `assign_bool`: the recording flag from a member, if it is a boolean. -/
def assignBool (value : Json) (result : LoggerResult) : Option LoggerResult :=
  if value.isBool then
    some { result with hasRecordingFlag := true, recordingActive := value.asBool }
  else none

/-- What `enrich_from_json` has found out so far. -/
structure Enriched where
  result : LoggerResult
  usedHeuristic : Bool := false
  recordingViaHeuristic : Bool := false

def enrichStatus (root : Json) (e : Enriched) : Enriched :=
  let status := root.get (bytes "status")
  if status.isString then
    { result := { e.result with statusValue := status.asString }
      usedHeuristic := true
      recordingViaHeuristic := e.recordingViaHeuristic || status.asString = bytes "recording" }
  else e

def enrichMode (root : Json) (e : Enriched) : Enriched :=
  let mode := root.get (bytes "mode")
  if mode.isString then { e with result := { e.result with mode := mode.asString } } else e

def enrichSession (root : Json) (e : Enriched) : Enriched :=
  let session := root.get (bytes "sessionName")
  if session.isString then
    let e := { e with result := { e.result with sessionName := session.asString } }
    if e.result.sessionName ≠ [] ∧ e.result.statusValue ≠ bytes "ready" then
      { e with usedHeuristic := true, recordingViaHeuristic := true }
    else e
  else e

def enrichWriteSpeed (root : Json) (e : Enriched) : Except JsonException Enriched :=
  let writeSpeed := root.get (bytes "writeSpeed")
  if writeSpeed.isNumeric then do
    let speed ← writeSpeed.asInt
    return { result := { e.result with hasWriteSpeed := true, writeSpeed := speed }
             usedHeuristic := true
             recordingViaHeuristic := e.recordingViaHeuristic || decide (speed > 0) }
  else return e

def enrichState (root : Json) (result : LoggerResult) : LoggerResult :=
  let state := root.get (bytes "state")
  if result.statusValue = [] ∧ state.isString then { result with statusValue := state.asString }
  else result

def enrichMessage (result : LoggerResult) : LoggerResult :=
  if result.message = [] then
    if result.statusValue ≠ [] then { result with message := result.statusValue }
    else if result.mode ≠ [] then { result with message := result.mode }
    else result
  else result

def enrichRecording (root : Json) (e : Enriched) : LoggerResult :=
  if e.usedHeuristic then
    { e.result with hasRecordingFlag := true, recordingActive := e.recordingViaHeuristic }
  else
    ((assignBool (root.get (bytes "recording")) e.result).orElse fun _ =>
      (assignBool (root.get (bytes "isRecording")) e.result).orElse fun _ =>
        (assignBool (root.get (bytes "recording_active")) e.result).orElse fun _ =>
          assignBool (root.get (bytes "active")) e.result).getD e.result

def enrichFromObject (root : Json) (result : LoggerResult) : Except JsonException LoggerResult := do
  let e := enrichSession root (enrichMode root (enrichStatus root { result := result }))
  let e ← enrichWriteSpeed root e
  return enrichRecording root { e with result := enrichMessage (enrichState root e.result) }

def enrichFromJson (parse : JsonParser) (result : LoggerResult) :
    Except JsonException LoggerResult :=
  if result.body = [] then .ok result
  else match parse result.body with
    | .error e => .error e
    | .ok none => .ok result
    | .ok (some root) => if root.isObject then enrichFromObject root result else .ok result

/-- The result of an exchange before its body is read as JSON. -/
def assembleResult : HttpReply → LoggerResult
  | .initFailed => { ok := false, errorCode := -1, errorString := bytes "curl_easy_init failed" }
  | .failed rc strerror => { ok := false, errorCode := rc, errorString := strerror }
  | .response httpCode body =>
    let message := makePreview body
    if 200 ≤ httpCode ∧ httpCode < 300 then
      { ok := true, errorCode := 0, httpCode := httpCode, body := body, message := message }
    else
      { ok := false, errorCode := httpCode, httpCode := httpCode, body := body, message := message
        errorString := if message ≠ [] then message else bytes "http_" ++ decimal httpCode }

def performHttpRequest (parse : JsonParser) : HttpReply → Except JsonException LoggerResult
  | .response httpCode body => enrichFromJson parse (assembleResult (.response httpCode body))
  | reply => .ok (assembleResult reply)

end Ironsoft.Ekinox
