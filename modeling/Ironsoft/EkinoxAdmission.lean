import Ironsoft.EffectMap
import Ironsoft.EkinoxLoop

/-!
# Admission

Which payloads reach a handler, what the others leave behind, and that a handler does the
same for a command and its alias.
-/
namespace Ironsoft.Ekinox
open Effect

set_option synthInstance.maxSize 400000
set_option synthInstance.maxHeartbeats 200000

/-- The types a command may have, with what they ask for. -/
def commandTypes : List (Bytes × CommandType) :=
  [(bytes "ping", .ping), (bytes "logger.start", .loggerStart), (bytes "logger.stop", .loggerStop),
    (bytes "logger.status", .loggerStatus), (bytes "session.start", .loggerStart),
    (bytes "session.stop", .loggerStop), (bytes "session.status", .loggerStatus)]

/-- An object that is a command with this type and id. -/
structure Admissible (root : Json) (command : CommandType) (type id : Bytes) : Prop where
  isObject : root.isObject = true
  type_eq : root.get (bytes "type") = .str type
  supported : (type, command) ∈ commandTypes
  id_eq : root.get (bytes "id") = .str id
  id_ne : id ≠ []
  ts : root.isMember (bytes "ts") = true →
    (root.get (bytes "ts")).isInt64 = true ∨ (root.get (bytes "ts")).isUInt64 = true

theorem parseCommandType_eq_iff {type : Bytes} {command : CommandType} (h : command ≠ .unknown) :
    parseCommandType type = command ↔ (type, command) ∈ commandTypes := by
  constructor
  · rintro rfl
    unfold parseCommandType at h ⊢
    split_ifs at h ⊢ with h₁ h₂ h₃ h₄ h₅ h₆ h₇
    all_goals first
      | (subst_vars; decide)
      | exact absurd rfl h
  · intro hmem
    simp only [commandTypes, List.mem_cons, Prod.mk.injEq, List.not_mem_nil, or_false] at hmem
    obtain ⟨rfl, rfl⟩ | ⟨rfl, rfl⟩ | ⟨rfl, rfl⟩ | ⟨rfl, rfl⟩ | ⟨rfl, rfl⟩ | ⟨rfl, rfl⟩ | ⟨rfl, rfl⟩ :=
      hmem
    all_goals decide

theorem not_mem_commandTypes_unknown (type : Bytes) : (type, CommandType.unknown) ∉ commandTypes := by
  simp [commandTypes]

theorem isString_iff {v : Json} : v.isString = true ↔ ∃ s, v = .str s := by
  cases v <;> simp [Json.isString]

theorem nil_not_mem_commandTypes (command : CommandType) : ([], command) ∉ commandTypes := by
  simp only [commandTypes, List.mem_cons, Prod.mk.injEq, List.not_mem_nil, or_false]
  rintro (⟨h, -⟩ | ⟨h, -⟩ | ⟨h, -⟩ | ⟨h, -⟩ | ⟨h, -⟩ | ⟨h, -⟩ | ⟨h, -⟩)
  all_goals exact absurd h (by decide)

theorem Admissible.admitted {root : Json} {command : CommandType} {type id : Bytes}
    (h : Admissible root command type id) :
    admitParsed (some root) = .accepted command id type root := by
  have htype : type ≠ [] := fun hnil => nil_not_mem_commandTypes command (hnil ▸ h.supported)
  have hknown : command ≠ .unknown := fun hu => not_mem_commandTypes_unknown type (hu ▸ h.supported)
  have hcommand := (parseCommandType_eq_iff hknown).mpr h.supported
  have hts : ¬(root.isMember (bytes "ts") = true ∧ (root.get (bytes "ts")).isInt64 = false ∧
      (root.get (bytes "ts")).isUInt64 = false) := by
    rintro ⟨hmem, hint, huint⟩
    rcases h.ts hmem with hfits | hfits
    · exact absurd (hint.symm.trans hfits) nofun
    · exact absurd (huint.symm.trans hfits) nofun
  simp only [admitParsed, admitObject, h.type_eq, h.id_eq, readField, Json.isString, Json.asString,
    if_true]
  rw [if_neg (by simp [h.isObject]), if_neg (by simp [htype]), if_neg (by simp [h.id_ne]), if_neg hts,
    hcommand, if_neg hknown]

/-- What is refused is refused with a bad request. -/
structure Refusal (ack : Ack) : Prop where
  ok : ack.ok = false
  httpCode : ack.httpCode = 400

theorem admitParsed_cases (parsed : Option Json) :
    (∃ root command type id, parsed = some root ∧ Admissible root command type id) ∨
      ∃ ack, Refusal ack ∧ admitParsed parsed = .refused ack := by
  have hrefused (type id err : Bytes) : ∃ ack, Refusal ack ∧
      Admission.refused ⟨type, id, false, 400, [], err⟩ = .refused ack := ⟨_, ⟨rfl, rfl⟩, rfl⟩
  cases parsed with
  | none => exact .inr (hrefused _ _ _)
  | some root =>
    simp only [admitParsed, admitObject]
    split_ifs with hobj htype hid hts hunknown
    · exact .inr (hrefused _ _ _)
    · exact .inr (hrefused _ _ _)
    · exact .inr (hrefused _ _ _)
    · exact .inr (hrefused _ _ _)
    · exact .inr (hrefused _ _ _)
    · obtain ⟨type, htype_eq⟩ := isString_iff.mp (eq_true_of_ne_false fun h => htype (.inl h))
      obtain ⟨id, hid_eq⟩ := isString_iff.mp (eq_true_of_ne_false fun h => hid (.inl h))
      rw [htype_eq] at hunknown
      refine .inl ⟨root, parseCommandType type, type, id, rfl, eq_true_of_ne_false hobj, htype_eq,
        (parseCommandType_eq_iff hunknown).mp rfl, hid_eq, fun h => hid (.inr ?_), fun hmem => ?_⟩
      · rw [hid_eq, h]
        rfl
      · by_contra hno
        rw [not_or, Bool.not_eq_true, Bool.not_eq_true] at hno
        exact hts ⟨hmem, hno⟩

/-- A payload is accepted if and only if it is an object that is a command. -/
theorem admitParsed_eq_accepted_iff {parsed : Option Json} {command : CommandType}
    {id type : Bytes} {cmd : Json} : admitParsed parsed = .accepted command id type cmd ↔
      parsed = some cmd ∧ Admissible cmd command type id := by
  constructor
  · intro h
    rcases admitParsed_cases parsed with ⟨root, command', type', id', rfl, hroot⟩ | ⟨ack, -, hack⟩
    · obtain ⟨rfl, rfl, rfl, rfl⟩ := Admission.accepted.inj (hroot.admitted.symm.trans h)
      exact ⟨rfl, hroot⟩
    · exact absurd (hack.symm.trans h) nofun
  · rintro ⟨rfl, hroot⟩
    exact hroot.admitted

/-- The calls of `publish_ack` on a connected client, newest first. -/
def ackCalls (topics : EkinoxTopics) (ack : Ack) (ts : ℤ) (threw : Bool × Bool) : List Event :=
  [.mqtt (.publish ⟨topics.ackLegacy, .ack ack ts, 1, false⟩) threw.2,
    .mqtt (.publish ⟨topics.ack, .ack ack ts, 1, false⟩) threw.1]

/-- Nothing has happened but one `publish_ack`. -/
def OnlyAcked (config : EkinoxConfig) (ack : Ack) (w w' : World) : Prop :=
  { w' with trace := w.trace, taken := w.taken } = w ∧ w'.taken.rest = w.taken.rest ∧
  ∃ ts threw, w'.trace =
    (if w.conn.connected then ackCalls config.topics ack ts threw else []) ++ .publishAck ack :: w.trace

theorem wp_publishAckTo {env : Env} {topic : Bytes} {ack : Ack} {ts : ℤ} {Q : Unit → World → Prop}
    {E : Exn → World → Prop} {w : World} (htopic : topic ≠ []) :
    wp (publishAckTo topic ack ts) env Q E w ↔
      Q () (if w.conn.connected then
          w.tookMqtt.said (.mqtt (.publish ⟨topic, .ack ack ts, 1, false⟩)
            (env.mqttThrows w.taken.mqtt (.publish .ack)))
        else w) := by
  unfold publishAckTo
  rw [wp_bind, wp_get, wp_ite]
  cases hconn : w.conn.connected with
  | false => rw [if_pos (.inr rfl)]; exact Iff.rfl
  | true =>
    rw [if_neg (by simp [htopic]), wp_catchMqtt, wp_mqttCall]
    simp only [MqttCall.op, Body.kind]
    cases env.mqttThrows w.taken.mqtt (.publish .ack) <;> exact Iff.rfl

theorem topics_ackLegacy_ne (droneId : Bytes) :
    (makeTopics droneId).ackLegacy ≠ (makeTopics droneId).ack := by
  intro h
  have hlength := congrArg List.length h
  simp only [makeTopics, List.length_append, Nat.add_assoc, Nat.add_left_cancel_iff] at hlength
  revert hlength
  decide

theorem wp_publishAck {env : Env} {ack : Ack} {Q : Unit → World → Prop} {E : Exn → World → Prop}
    {w : World} :
    wp (publishAck ack) env Q E w ↔
      let ts := env.system w.taken.system
      let threw (k : ℕ) := env.mqttThrows k (.publish .ack)
      let w₁ := (w.said (.publishAck ack)).tookSystem
      Q () (if w.conn.connected then
          (w₁.tookMqtt.said (.mqtt (.publish ⟨env.config.topics.ack, .ack ack ts, 1, false⟩)
            (threw w.taken.mqtt))).tookMqtt.said
            (.mqtt (.publish ⟨env.config.topics.ackLegacy, .ack ack ts, 1, false⟩)
              (threw (w.taken.mqtt + 1)))
        else w₁) := by
  have hack : env.config.topics.ack ≠ [] := List.append_ne_nil_of_right_ne_nil _ (by decide)
  have hlegacy : env.config.topics.ackLegacy ≠ [] := List.append_ne_nil_of_right_ne_nil _ (by decide)
  have hne : env.config.topics.ackLegacy ≠ env.config.topics.ack := topics_ackLegacy_ne _
  unfold publishAck
  rw [wp_bind, wp_emit, wp_bind, wp_unixTs, wp_bind, wp_read, wp_bind, wp_publishAckTo hack, wp_ite,
    if_pos ⟨hlegacy, hne⟩, wp_publishAckTo hlegacy]
  cases hconn : w.conn.connected with
  | false =>
    simp only [World.said, World.tookSystem, hconn, Bool.false_eq_true, if_false]
  | true =>
    simp only [World.said, World.tookSystem, World.tookMqtt, hconn, if_true]

theorem publishAck_only (env : Env) (ack : Ack) (w : World) :
    wp (publishAck ack) env (fun _ w' => OnlyAcked env.config ack w w') (fun _ _ => False) w := by
  rw [wp_publishAck]
  cases hconn : w.conn.connected with
  | false =>
    simp only [World.said, World.tookSystem, Bool.false_eq_true, if_false]
    exact ⟨rfl, rfl, env.system w.taken.system, (false, false), by rw [hconn]; rfl⟩
  | true =>
    simp only [World.said, World.tookSystem, World.tookMqtt, if_true]
    exact ⟨rfl, rfl, env.system w.taken.system, (_, _), by rw [hconn]; rfl⟩

def Ack.untyped (ack : Ack) : Ack := { ack with type := [] }

def Body.untyped : Body → Body
  | .ack a ts => .ack a.untyped ts
  | body => body

def MqttCall.untyped : MqttCall → MqttCall
  | .publish m => .publish { m with body := m.body.untyped }
  | call => call

def Event.untyped : Event → Event
  | .mqtt call threw => .mqtt call.untyped threw
  | .publishAck a => .publishAck a.untyped
  | event => event

/-- Forgets the types acks echo, and nothing else. -/
@[reducible] def World.untyped (w : World) : World := { w with trace := w.trace.map Event.untyped }

/-- `e'` is `e` without its type. -/
class Untypes (e e' : Event) : Prop where
  eq : e.untyped = e'

instance (r : RestRequest) : Untypes (.restRequest r) (.restRequest r) := ⟨rfl⟩
instance (r : LoggerResult) (t : ℤ) : Untypes (.restResult r t) (.restResult r t) := ⟨rfl⟩
instance (topic : Bytes) (p : PresencePayload) (qos : ℕ) (retained threw : Bool) :
    Untypes (.mqtt (.publish ⟨topic, .presence p, qos, retained⟩) threw)
      (.mqtt (.publish ⟨topic, .presence p, qos, retained⟩) threw) := ⟨rfl⟩
instance (topic : Bytes) (p : StatusPayload) (qos : ℕ) (retained threw : Bool) :
    Untypes (.mqtt (.publish ⟨topic, .status p, qos, retained⟩) threw)
      (.mqtt (.publish ⟨topic, .status p, qos, retained⟩) threw) := ⟨rfl⟩
instance (topic : Bytes) (ack : Ack) (ts : ℤ) (qos : ℕ) (retained threw : Bool) :
    Untypes (.mqtt (.publish ⟨topic, .ack ack ts, qos, retained⟩) threw)
      (.mqtt (.publish ⟨topic, .ack ack.untyped ts, qos, retained⟩) threw) := ⟨rfl⟩
instance (ack : Ack) : Untypes (.publishAck ack) (.publishAck ack.untyped) := ⟨rfl⟩
instance (m : Bytes) : Untypes (.errorSet m) (.errorSet m) := ⟨rfl⟩

theorem MqttCall.untyped_op (call : MqttCall) : call.untyped.op = call.op := by
  rcases call with _ | _ | ⟨topic, body, qos, retained⟩ | _
  all_goals try rfl
  cases body <;> rfl

section Aliases

variable (env : Env)

instance : atLogger.Apart World.untyped := ⟨fun _ => rfl, fun _ _ => rfl⟩
instance : atError.Apart World.untyped := ⟨fun _ => rfl, fun _ _ => rfl⟩
instance : atMarker.Apart World.untyped := ⟨fun _ => rfl, fun _ _ => rfl⟩
instance : atPresence.Apart World.untyped := ⟨fun _ => rfl, fun _ _ => rfl⟩
instance : atRest.Apart World.untyped := ⟨fun _ => rfl, fun _ _ => rfl⟩

instance (e e' : Event) [h : Untypes e e'] : Maps env World.untyped (emit e) (emit e') :=
  maps_modify env _ fun w => by
    rw [← h.eq]
    rfl

instance : Maps env World.untyped steadyNow steadyNow := ⟨fun _ => rfl⟩

instance : Maps env World.untyped monoNow monoNow := ⟨fun _ => rfl⟩

instance : Maps env World.untyped unixTs unixTs := ⟨fun _ => rfl⟩

instance (cmd : Json) : Maps env World.untyped (sessionNameFor cmd) (sessionNameFor cmd) := by
  unfold sessionNameFor generateSessionName
  infer_instance

instance : Maps env World.untyped (modify World.tookMqtt : M Unit) (modify World.tookMqtt) :=
  ⟨fun _ => rfl⟩

instance : Maps env World.untyped (modify World.tookRest : M Unit) (modify World.tookRest) :=
  ⟨fun _ => rfl⟩

instance {α : Type} (r : Except JsonException α) :
    Maps env World.untyped (liftJson r) (liftJson r) := by
  cases r <;> unfold liftJson <;> infer_instance

instance (call call' : MqttCall) [h : ∀ threw, Untypes (.mqtt call threw) (.mqtt call' threw)] :
    Maps env World.untyped (mqttCall call) (mqttCall call') := by
  have hcall : call.untyped = call' := (Event.mqtt.inj (h true).eq).1
  have hop : call'.op = call.op := hcall ▸ call.untyped_op
  unfold mqttCall
  rw [hop]
  infer_instance

instance {α : Type} (block block' handler handler' : M α) [Maps env World.untyped block block']
    [Maps env World.untyped handler handler'] :
    Maps env World.untyped (catchMqtt block handler) (catchMqtt block' handler') := by
  unfold catchMqtt
  infer_instance

instance (request : RestRequest) :
    Maps env World.untyped (performRest request) (performRest request) := by
  unfold performRest
  infer_instance

instance (call : M LoggerResult) [Maps env World.untyped call call] :
    Maps env World.untyped (callWithValidation call) (callWithValidation call) := by
  refine Maps.of_read env _ ?_
  cases validateRestTarget env.config
  all_goals
    dsimp only
    infer_instance

instance publishPresence_maps (online : Bool) (reason : Bytes) :
    Maps env World.untyped (publishPresence online reason) (publishPresence online reason) := by
  unfold publishPresence
  dsimp only
  infer_instance

instance : Maps env World.untyped publishStatus publishStatus := by
  unfold publishStatus
  infer_instance

instance publishAck_maps (ack : Ack) :
    Maps env World.untyped (publishAck ack) (publishAck ack.untyped) := by
  unfold publishAck publishAckTo
  dsimp only
  infer_instance

instance (id type : Bytes) (ok : Bool) (message err : Bytes) (httpCode : ℤ) :
    Maps env World.untyped (sendAck id type ok message err httpCode)
      (sendAck id [] ok message err httpCode) :=
  publishAck_maps env ⟨type, id, ok, httpCode, _, _⟩

instance (state : ServiceState) : Maps env World.untyped (setState state) (setState state) := by
  unfold setState
  infer_instance

instance : Maps env World.untyped clearSessionName clearSessionName := by
  unfold clearSessionName
  infer_instance

instance (message : Bytes) : Maps env World.untyped (setError message) (setError message) := by
  unfold setError
  infer_instance

instance (nowMs : ℤ) : Maps env World.untyped (updateLinkHealth nowMs) (updateLinkHealth nowMs) :=
  ⟨fun _ => rfl⟩

instance (nowMs : ℤ) (reasonOverride : Bytes) : Maps env World.untyped
    (updatePresenceState nowMs reasonOverride) (updatePresenceState nowMs reasonOverride) where
  maps w := by
    have honline : shouldOnline env.config w.untyped nowMs = shouldOnline env.config w nowMs := rfl
    have hreason : presenceReason env.config w.untyped nowMs reasonOverride =
        presenceReason env.config w nowMs reasonOverride := rfl
    unfold updatePresenceState
    simp only [exec_bind, exec_get, exec_read, honline, hreason]
    exact (publishPresence_maps env _ _).maps w

instance (result : LoggerResult) (contextReason : Bytes) (nowMs : ℤ) : Maps env World.untyped
    (markRestResult result contextReason nowMs) (markRestResult result contextReason nowMs) := by
  unfold markRestResult restOfflineCondition
  dsimp only
  infer_instance

instance (result : LoggerResult) (contextReason : Bytes) : Maps env World.untyped
    (storeLoggerState result contextReason) (storeLoggerState result contextReason) := by
  unfold storeLoggerState
  dsimp only
  infer_instance

instance (contextReason : Bytes) (nowMs : ℤ) : Maps env World.untyped
    (requestLoggerState contextReason nowMs) (requestLoggerState contextReason nowMs) := by
  unfold requestLoggerState dataLoggerGet
  infer_instance

instance (id type : Bytes) (body body' : M Unit) [Maps env World.untyped body body'] :
    Maps env World.untyped (checkedLoggerCmd id type body) (checkedLoggerCmd id [] body') := by
  unfold checkedLoggerCmd checkedRestEndpoint
  dsimp only
  infer_instance

instance (id type : Bytes) (result : LoggerResult) (message : Bytes) : Maps env World.untyped
    (failLoggerCmd id type result message) (failLoggerCmd id [] result message) := by
  unfold failLoggerCmd
  infer_instance

instance (nowReason laterReason : Bytes) : Maps env World.untyped
    (verifyLoggerState nowReason laterReason) (verifyLoggerState nowReason laterReason) := by
  unfold verifyLoggerState
  infer_instance

instance (id type : Bytes) (httpCode : ℤ) : Maps env World.untyped
    (ackAlreadyStopped id type httpCode) (ackAlreadyStopped id [] httpCode) := by
  unfold ackAlreadyStopped
  infer_instance

instance (id type : Bytes) (cmd : Json) : Maps env World.untyped
    (handleLoggerStart id type cmd) (handleLoggerStart id [] cmd) := by
  unfold handleLoggerStart concludeLoggerStart dataLoggerStart
  infer_instance

instance (id type : Bytes) : Maps env World.untyped
    (handleLoggerStop id type) (handleLoggerStop id []) := by
  unfold handleLoggerStop concludeLoggerStop dataLoggerStop
  dsimp only
  infer_instance

instance (id type : Bytes) : Maps env World.untyped
    (handleLoggerStatus id type) (handleLoggerStatus id []) := by
  unfold handleLoggerStatus
  infer_instance

instance (id type : Bytes) : Maps env World.untyped (handlePing id type) (handlePing id []) := by
  unfold handlePing
  infer_instance

instance (command : CommandType) (id type : Bytes) (cmd : Json) : Maps env World.untyped
    (dispatch (.accepted command id type cmd)) (dispatch (.accepted command id [] cmd)) := by
  cases command
  case unknown => exact publishAck_maps env ⟨type, id, false, 400, [], bytes "unknown_type"⟩
  all_goals
    unfold dispatch
    dsimp only
    infer_instance

end Aliases

/-- The types with their aliases. -/
def sessionAliases : List (Bytes × Bytes) :=
  [(bytes "session.start", bytes "logger.start"), (bytes "session.stop", bytes "logger.stop"),
    (bytes "session.status", bytes "logger.status")]

/-- `root'` is `root` with a type `session.*` replaced by `logger.*`. -/
structure Aliases (root root' : Json) : Prop where
  isObject : root'.isObject = root.isObject
  types : ∃ type type', (type, type') ∈ sessionAliases ∧ root.get (bytes "type") = .str type ∧
    root'.get (bytes "type") = .str type'
  get_eq : ∀ key, key ≠ bytes "type" → root'.get key = root.get key
  isMember_eq : ∀ key, key ≠ bytes "type" → root'.isMember key = root.isMember key

theorem commandTypes_of_alias {type type' : Bytes} {command : CommandType}
    (halias : (type, type') ∈ sessionAliases) (h : (type, command) ∈ commandTypes) :
    (type', command) ∈ commandTypes := by
  have hknown : command ≠ .unknown := fun hu => not_mem_commandTypes_unknown type (hu ▸ h)
  have hcommand : parseCommandType type = command := (parseCommandType_eq_iff hknown).mpr h
  refine (parseCommandType_eq_iff hknown).mp (hcommand ▸ ?_)
  simp only [sessionAliases, List.mem_cons, Prod.mk.injEq, List.not_mem_nil, or_false] at halias
  obtain ⟨rfl, rfl⟩ | ⟨rfl, rfl⟩ | ⟨rfl, rfl⟩ := halias
  all_goals decide

/-- The alias of a command is the same command. -/
theorem Admissible.aliased {root root' : Json} {command : CommandType} {type id : Bytes}
    (h : Admissible root command type id) (halias : Aliases root root') :
    ∃ type', Admissible root' command type' id := by
  obtain ⟨s, type', hmem, hs, htype'⟩ := halias.types
  obtain rfl : s = type := Json.str.inj (hs.symm.trans h.type_eq)
  have hid := halias.get_eq (bytes "id") (by decide)
  have hts := halias.get_eq (bytes "ts") (by decide)
  have htsMember := halias.isMember_eq (bytes "ts") (by decide)
  exact ⟨type', halias.isObject.trans h.isObject, htype', commandTypes_of_alias hmem h.supported,
    hid.trans h.id_eq, h.id_ne, by rw [hts, htsMember]; exact h.ts⟩

theorem Aliases.extractSessionName {root root' : Json} (h : Aliases root root') :
    extractSessionName root' = extractSessionName root := by
  unfold Ekinox.extractSessionName
  rw [h.get_eq (bytes "sessionName") (by decide), h.get_eq (bytes "session_name") (by decide),
    h.get_eq (bytes "payload") (by decide), h.get_eq (bytes "params") (by decide)]

theorem handleLoggerStart_congr {id type : Bytes} {cmd cmd' : Json}
    (h : extractSessionName cmd' = extractSessionName cmd) :
    handleLoggerStart id type cmd' = handleLoggerStart id type cmd := by
  unfold handleLoggerStart sessionNameFor
  rw [h]

/-- A handler reads nothing of its command but the session name. -/
theorem dispatch_congr {command : CommandType} {id type : Bytes} {cmd cmd' : Json}
    (h : extractSessionName cmd' = extractSessionName cmd) :
    dispatch (.accepted command id type cmd') = dispatch (.accepted command id type cmd) := by
  cases command
  case loggerStart => exact handleLoggerStart_congr h
  all_goals rfl

theorem exec_handleCommandMessage {env : Env} {payload : Bytes} {parsed : Option Json}
    (hparse : env.parse payload = .ok parsed) (w : World) :
    exec (handleCommandMessage payload) env w = exec (dispatch (admitParsed parsed)) env w := by
  unfold handleCommandMessage
  rw [exec_bind, exec_read]
  dsimp only
  rw [exec_bind, hparse]
  rfl

/-- Two calls that return alike and differ in no more than the types their acks echo. -/
def SameButTypes (r r' : Except Exn Unit × World) : Prop :=
  r.1 = r'.1 ∧ r.2.untyped = r'.2.untyped

theorem handleCommandMessage_alias {env : Env} {payload payload' : Bytes} {cmd cmd' : Json}
    {command : CommandType} {type id : Bytes} (h : Admissible cmd command type id)
    (halias : Aliases cmd cmd') (hparse : env.parse payload = .ok (some cmd))
    (hparse' : env.parse payload' = .ok (some cmd')) (w : World) :
    SameButTypes (exec (handleCommandMessage payload) env w)
      (exec (handleCommandMessage payload') env w) := by
  obtain ⟨type', h'⟩ := h.aliased halias
  rw [exec_handleCommandMessage hparse, exec_handleCommandMessage hparse', h.admitted, h'.admitted,
    dispatch_congr halias.extractSessionName]
  have hmaps (type : Bytes) : Maps env World.untyped (dispatch (.accepted command id type cmd))
      (dispatch (.accepted command id [] cmd)) := inferInstance
  exact Prod.mk.inj ((hmaps type).agree (hmaps type') w)

theorem Admissible.dispatched {root : Json} {command : CommandType} {type id : Bytes}
    (h : Admissible root command type id) :
    (type = bytes "ping" → dispatch (.accepted command id type root) = handlePing id type) ∧
    (type = bytes "logger.start" ∨ type = bytes "session.start" →
      dispatch (.accepted command id type root) = handleLoggerStart id type root) ∧
    (type = bytes "logger.stop" ∨ type = bytes "session.stop" →
      dispatch (.accepted command id type root) = handleLoggerStop id type) ∧
    (type = bytes "logger.status" ∨ type = bytes "session.status" →
      dispatch (.accepted command id type root) = handleLoggerStatus id type) := by
  have hknown : command ≠ .unknown := fun hu => not_mem_commandTypes_unknown type (hu ▸ h.supported)
  have hcommand : parseCommandType type = command := (parseCommandType_eq_iff hknown).mpr h.supported
  refine ⟨fun htype => ?ping, fun htype => ?start, fun htype => ?stop, fun htype => ?status⟩
  case ping =>
    have hping : command = .ping := by rw [← hcommand, htype]; decide
    rw [hping]
    rfl
  case start =>
    have hstart : command = .loggerStart := by
      rw [← hcommand]
      rcases htype with rfl | rfl <;> decide
    rw [hstart]
    rfl
  case stop =>
    have hstop : command = .loggerStop := by
      rw [← hcommand]
      rcases htype with rfl | rfl <;> decide
    rw [hstop]
    rfl
  case status =>
    have hstatus : command = .loggerStatus := by
      rw [← hcommand]
      rcases htype with rfl | rfl <;> decide
    rw [hstatus]
    rfl

/-- A payload reaches a handler if and only if it is an object that is a command, and its type
says which of the four; otherwise it is answered with one bad request and nothing else happens.
A command and its alias are handled in the same way but for the type their acks echo. -/
theorem command_admission (env : Env) (payload : Bytes) (parsed : Option Json) (w : World)
    (hparse : env.parse payload = .ok parsed) :
    (∀ cmd command type id, admitParsed parsed = .accepted command id type cmd ↔
      parsed = some cmd ∧ Admissible cmd command type id) ∧
    (∀ cmd command type id, parsed = some cmd → Admissible cmd command type id →
      (type = bytes "ping" → exec (handleCommandMessage payload) env w =
        exec (handlePing id type) env w) ∧
      (type = bytes "logger.start" ∨ type = bytes "session.start" →
        exec (handleCommandMessage payload) env w = exec (handleLoggerStart id type cmd) env w) ∧
      (type = bytes "logger.stop" ∨ type = bytes "session.stop" →
        exec (handleCommandMessage payload) env w = exec (handleLoggerStop id type) env w) ∧
      (type = bytes "logger.status" ∨ type = bytes "session.status" →
        exec (handleCommandMessage payload) env w = exec (handleLoggerStatus id type) env w)) ∧
    ((∀ cmd command type id, parsed = some cmd → ¬Admissible cmd command type id) →
      wp (handleCommandMessage payload) env
        (fun _ w' => ∃ ack, Refusal ack ∧ OnlyAcked env.config ack w w') (fun _ _ => False) w) ∧
    ∀ cmd cmd' command type id payload', parsed = some cmd → Admissible cmd command type id →
      Aliases cmd cmd' → env.parse payload' = .ok (some cmd') →
      SameButTypes (exec (handleCommandMessage payload) env w)
        (exec (handleCommandMessage payload') env w) := by
  refine ⟨fun _ _ _ _ => admitParsed_eq_accepted_iff, ?accepted, ?refused, ?aliased⟩
  case accepted =>
    rintro cmd command type id rfl hadmissible
    rw [exec_handleCommandMessage hparse, hadmissible.admitted]
    obtain ⟨hping, hstart, hstop, hstatus⟩ := hadmissible.dispatched
    exact ⟨fun htype => by rw [hping htype], fun htype => by rw [hstart htype],
      fun htype => by rw [hstop htype], fun htype => by rw [hstatus htype]⟩
  case refused =>
    intro hno
    unfold wp
    rw [exec_handleCommandMessage hparse]
    rcases admitParsed_cases parsed with ⟨root, command, type, id, hroot, h⟩ | ⟨ack, hack, hrefuse⟩
    · exact absurd h (hno root command type id hroot)
    · rw [hrefuse]
      exact wp_mono (publishAck_only env ack w) (fun _ _ h => ⟨ack, hack, h⟩) fun _ _ => id
  case aliased =>
    rintro cmd cmd' command type id payload' rfl h halias hparse'
    exact handleCommandMessage_alias h halias hparse hparse' w

/-- A reader that knows every type. -/
def benchAliasPlatform : Platform :=
  { benchPlatform with
    parse := fun payload =>
      .ok (((commandTypes.map Prod.fst).find? fun type => payload = benchPayload type).map benchCommand) }

theorem benchCommand_lookup (type key : Bytes) (hkey : key ≠ bytes "type") :
    [(bytes "id", Json.str (bytes "1")), (bytes "type", .str type)].lookup key =
      if key = bytes "id" then some (.str (bytes "1")) else none := by
  have htype : (key == bytes "type") = false := beq_false_of_ne hkey
  split_ifs with hid
  · rw [hid]
    rfl
  · have hid' : (key == bytes "id") = false := beq_false_of_ne hid
    simp only [List.lookup_cons, List.lookup_nil, hid', htype]

theorem benchCommand_aliases {type type' : Bytes} (h : (type, type') ∈ sessionAliases) :
    Aliases (benchCommand type) (benchCommand type') := by
  refine ⟨rfl, ⟨type, type', h, rfl, rfl⟩, fun key hkey => ?_, fun key hkey => ?_⟩
  · simp only [benchCommand, Json.get, benchCommand_lookup _ key hkey]
  · simp only [benchCommand, Json.isMember, benchCommand_lookup _ key hkey]

theorem benchAliasPlatform_parse {type : Bytes} {command : CommandType}
    (h : (type, command) ∈ commandTypes) :
    benchAliasPlatform.parse (benchPayload type) = .ok (some (benchCommand type)) := by
  simp only [commandTypes, List.mem_cons, Prod.mk.injEq, List.not_mem_nil, or_false] at h
  obtain ⟨rfl, rfl⟩ | ⟨rfl, rfl⟩ | ⟨rfl, rfl⟩ | ⟨rfl, rfl⟩ | ⟨rfl, rfl⟩ | ⟨rfl, rfl⟩ | ⟨rfl, rfl⟩ := h
  all_goals rfl

theorem session_start_is_logger_start :
    let env : Env := ⟨benchAliasPlatform, benchHealthy⟩
    let w := benchConnected benchHealthy
    let handled (type : Bytes) := exec (handleCommandMessage (benchPayload type)) env w
    handled (bytes "session.start") = exec (handleLoggerStart (bytes "1") (bytes "session.start")
      (benchCommand (bytes "session.start"))) env w ∧
    SameButTypes (handled (bytes "session.start")) (handled (bytes "logger.start")) := by
  have hsession : (bytes "session.start", CommandType.loggerStart) ∈ commandTypes := by decide
  have hlogger : (bytes "logger.start", CommandType.loggerStart) ∈ commandTypes := by decide
  have hadmissible : Admissible (benchCommand (bytes "session.start")) .loggerStart
      (bytes "session.start") (bytes "1") := ⟨rfl, rfl, hsession, rfl, by decide, by decide⟩
  have hall := command_admission ⟨benchAliasPlatform, benchHealthy⟩ _ _ (benchConnected benchHealthy)
    (benchAliasPlatform_parse hsession)
  obtain ⟨-, hhandlers, -, hsame⟩ := hall
  exact ⟨(hhandlers _ _ _ _ rfl hadmissible).2.1 (.inr rfl),
    hsame _ _ _ _ _ _ rfl hadmissible (benchCommand_aliases (by decide)) (benchAliasPlatform_parse hlogger)⟩

end Ironsoft.Ekinox
