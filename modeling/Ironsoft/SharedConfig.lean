import Ironsoft.BackendAnswers
import Ironsoft.EkinoxLoading
import Ironsoft.ServiceShown

/-!
# One configuration file, two readers

The backend and the GUI read the same file, each with the accessors of its JSON library. What the GUI
accepts names the same broker and the same drone for both.
-/

namespace Ironsoft.Backend
open Ekinox

structure MqttConfig where
  host : Bytes := []
  port : ℤ := 1883
  username : Bytes := []
  password : Bytes := []
  tlsEnabled : Bool := false
  caFile : Bytes := []
  droneId : Bytes := bytes "drone01"
  keepaliveS : ℤ := 30
  deriving DecidableEq

/-- `root[key]` -/
def member (root : Json) (key : Bytes) : Except Exn Json := getOr root key .null

/-- `asInt()` -/
def intOf (v : Json) : Except Exn ℤ := v.asInt.mapError fun _ => .logicError

/-- `asBool()` -/
def boolOf : Json → Except Exn Bool
  | .null => .ok false
  | .bool b => .ok b
  | .int n => .ok (n ≠ 0)
  | .uint n => .ok (n ≠ 0)
  | .real v => .ok (v ≠ some 0)
  | .str _ | .arr _ | .obj _ => .error .logicError

/-- Two members of an optional section. -/
def parseSection {α β : Type} (key key₁ key₂ : Bytes) (read₁ : Json → Except Exn α)
    (read₂ : Json → Except Exn β) (store : α → β → MqttConfig → MqttConfig) (root : Json)
    (cfg : MqttConfig) : Except Exn MqttConfig := do
  if ← hasMember root key then
    let a ← read₁ (← member (← member root key) key₁)
    let b ← read₂ (← member (← member root key) key₂)
    pure (store a b cfg)
  else pure cfg

section Parse

variable (realText : Option ℚ → Bytes)

def parseAuth : Json → MqttConfig → Except Exn MqttConfig :=
  parseSection (bytes "auth") (bytes "username") (bytes "password") (textOf realText) (textOf realText)
    fun username password cfg => { cfg with username := username, password := password }

def parseTls : Json → MqttConfig → Except Exn MqttConfig :=
  parseSection (bytes "tls") (bytes "enabled") (bytes "ca_file") boolOf (textOf realText)
    fun tlsEnabled caFile cfg => { cfg with tlsEnabled := tlsEnabled, caFile := caFile }

def parseClient : Json → MqttConfig → Except Exn MqttConfig :=
  parseSection (bytes "client") (bytes "drone_id") (bytes "keepalive_s") (textOf realText) intOf
    fun droneId keepaliveS cfg => { cfg with droneId := droneId, keepaliveS := keepaliveS }

def parseMqttConfig (root : Json) : Except Exn MqttConfig := do
  let host ← textOf realText (← member (← member root (bytes "broker")) (bytes "host"))
  let port ← intOf (← member (← member root (bytes "broker")) (bytes "port"))
  let cfg ← parseAuth realText root { host := host, port := port }
  let cfg ← parseTls realText root cfg
  parseClient realText root cfg

end Parse

/-- A value that can be asked for a member. -/
def HasMembers (v : Json) : Prop := v.isNull = true ∨ v.isObject = true

theorem member_eq_get {v : Json} (h : HasMembers v) (key : Bytes) : member v key = .ok (v.get key) := by
  cases v with
  | null => rfl
  | obj members => rfl
  | _ => simp [HasMembers, Json.isNull, Json.isObject] at h

theorem member_of_not {v : Json} (h : ¬ HasMembers v) (key : Bytes) :
    member v key = .error .logicError := by
  cases v with
  | null => exact absurd (.inl rfl) h
  | obj members => exact absurd (.inr rfl) h
  | _ => rfl

theorem bind_ok_iff {α β : Type} {x : Except Exn α} {f : α → Except Exn β} {b : β} :
    x >>= f = .ok b ↔ ∃ a, x = .ok a ∧ f a = .ok b := by
  cases x with
  | error e => simp [bind, Except.bind]
  | ok a => simp [bind, Except.bind]

/-- An absent section reads as one whose members are null. -/
theorem parseSection_ok_iff {α β : Type} {key key₁ key₂ : Bytes} {read₁ : Json → Except Exn α}
    {read₂ : Json → Except Exn β} {store : α → β → MqttConfig → MqttConfig} {root : Json}
    {cfg c : MqttConfig} {a₀ : α} {b₀ : β} (hroot : root.isObject = true) (h₁ : read₁ .null = .ok a₀)
    (h₂ : read₂ .null = .ok b₀) (hcfg : root.isMember key = false → store a₀ b₀ cfg = cfg) :
    parseSection key key₁ key₂ read₁ read₂ store root cfg = .ok c ↔
      HasMembers (root.get key) ∧ ∃ a b, read₁ ((root.get key).get key₁) = .ok a ∧
        read₂ ((root.get key).get key₂) = .ok b ∧ c = store a b cfg := by
  have hhas : hasMember root key = .ok (root.isMember key) := by
    cases root with
    | obj members => rfl
    | _ => cases hroot
  have hget : member root key = .ok (root.get key) := member_eq_get (.inr hroot) key
  unfold parseSection
  cases hmember : root.isMember key with
  | false =>
    have hnull : root.get key = .null := Json.get_of_not_member hmember
    have hnone (k : Bytes) : Json.null.get k = .null := rfl
    rw [hhas, hmember, hnull]
    simp only [hnone, h₁, h₂]
    constructor
    · intro hc
      obtain rfl : cfg = c := Except.ok.inj hc
      exact ⟨.inl rfl, a₀, b₀, rfl, rfl, (hcfg hmember).symm⟩
    · rintro ⟨-, a, b, ha, hb, rfl⟩
      obtain rfl := Except.ok.inj ha
      obtain rfl := Except.ok.inj hb
      rw [hcfg hmember]
      rfl
  | true =>
    rw [hhas, hmember, hget]
    by_cases hmembers : HasMembers (root.get key)
    · simp only [bind_ok_iff, Except.ok.injEq, exists_eq_left', if_true, member_eq_get hmembers]
      constructor
      · rintro ⟨a, ha, b, hb, hc⟩
        exact ⟨hmembers, a, b, ha, hb, (Except.ok.inj hc).symm⟩
      · rintro ⟨-, a, b, ha, hb, rfl⟩
        exact ⟨a, ha, b, hb, rfl⟩
    · simp only [bind_ok_iff, Except.ok.injEq, exists_eq_left', if_true, member_of_not hmembers]
      simp [hmembers]

end Ironsoft.Backend

namespace Ironsoft.Gui
open Ekinox

structure MqttGuiConfig where
  host : Bytes := []
  port : UInt16 := 1883
  user : Bytes := []
  pass : Bytes := []
  droneId : Bytes := bytes "drone01"
  tlsEnabled : Bool := false
  caFile : Bytes := []
  keepaliveS : ℤ := 20
  deriving DecidableEq

def readGuiConfig (path : Bytes) (root : Json) (outConfig : MqttGuiConfig) : Except Bytes MqttGuiConfig :=
  let broker := root.get (bytes "broker")
  let host := toStringOr (broker.get (bytes "host")) []
  let port := toIntOr (broker.get (bytes "port")) (-1)
  if host = [] then .error (bytes "Missing broker.host in " ++ path)
  else if port ≤ 0 ∨ port > 65535 then .error (bytes "Invalid broker.port in " ++ path)
  else
    let client := root.get (bytes "client")
    let droneId := toStringOr (client.get (bytes "drone_id")) []
    if droneId = [] then .error (bytes "Missing client.drone_id in " ++ path)
    else
      let auth := root.get (bytes "auth")
      let tls := root.get (bytes "tls")
      let keepalive := toIntOr (client.get (bytes "keepalive_s")) outConfig.keepaliveS
      .ok { host := host
            port := UInt16.ofNat port.toNat
            user := toStringOr (auth.get (bytes "username")) []
            pass := toStringOr (auth.get (bytes "password")) []
            tlsEnabled := toBoolOr (tls.get (bytes "enabled")) false
            caFile := toStringOr (tls.get (bytes "ca_file")) []
            droneId := droneId
            keepaliveS := if keepalive ≤ 0 then 20 else keepalive }

/-- The file: absent, or with the error of opening it, or with its content. A failed load leaves
`outConfig` as it is. -/
def loadFromJsonFile (fromJson : QJsonParser) (file : Option (Except Bytes Bytes)) (path : Bytes)
    (outConfig : MqttGuiConfig) : Except Bytes MqttGuiConfig :=
  match file with
  | none => .error (bytes "Config file " ++ path ++ bytes " not found")
  | some (.error err) => .error (bytes "Cannot open " ++ path ++ bytes ": " ++ err)
  | some (.ok content) =>
    match fromJson content with
    | .error err => .error (bytes "Invalid JSON in " ++ path ++ bytes ": " ++ err)
    | .ok root =>
      if root.isObject then readGuiConfig path root outConfig
      else .error (bytes "Root object must be an object in " ++ path)

theorem str_of_toStringOr_ne {v : Json} {default : Bytes} (h : toStringOr v default ≠ default) :
    v = .str (toStringOr v default) := by
  cases v with
  | str s => rfl
  | _ => exact absurd rfl h

/-- An integral number that fits in an `int` reads the same in both libraries. -/
theorem asInt_of_toIntOr_ne {v : Json} {default : ℤ} (h : toIntOr v default ≠ default) :
    v.asInt = .ok (toIntOr v default) := by
  cases v with
  | int n =>
    simp only [toIntOr, Json.asInt] at h ⊢
    split_ifs at h ⊢ with hfits
    · rfl
    · exact absurd rfl h
  | uint n =>
    simp only [toIntOr, Json.asInt] at h ⊢
    split_ifs at h ⊢ with hfits
    · rfl
    · exact absurd rfl h
  | real v =>
    cases v with
    | none => exact absurd rfl h
    | some q =>
      simp only [toIntOr] at h ⊢
      split_ifs at h ⊢ with hfits
      · exact Json.asInt_real hfits
      · exact absurd rfl h
  | _ => exact absurd rfl h

/-- What a file that the GUI accepts holds, and what the GUI takes from it. -/
structure Accepted (root : Json) (g : MqttGuiConfig) : Prop where
  host : (root.get (bytes "broker")).get (bytes "host") = .str g.host
  port : ((root.get (bytes "broker")).get (bytes "port")).asInt = .ok g.port.toNat
  droneId : (root.get (bytes "client")).get (bytes "drone_id") = .str g.droneId
  user : g.user = toStringOr ((root.get (bytes "auth")).get (bytes "username")) []
  pass : g.pass = toStringOr ((root.get (bytes "auth")).get (bytes "password")) []
  tlsEnabled : g.tlsEnabled = toBoolOr ((root.get (bytes "tls")).get (bytes "enabled")) false
  caFile : g.caFile = toStringOr ((root.get (bytes "tls")).get (bytes "ca_file")) []

theorem readGuiConfig_accepted {path : Bytes} {root : Json} {out g : MqttGuiConfig}
    (h : readGuiConfig path root out = .ok g) : Accepted root g := by
  simp only [readGuiConfig] at h
  split_ifs at h with hhost hport hdrone hkeepalive
  all_goals
    obtain rfl := Except.ok.inj h
    obtain ⟨hlo, hhi⟩ := not_or.mp hport
    have hne : toIntOr ((root.get (bytes "broker")).get (bytes "port")) (-1) ≠ -1 := by omega
    refine ⟨str_of_toStringOr_ne hhost, ?_, str_of_toStringOr_ne hdrone, rfl, rfl, rfl, rfl⟩
    rw [asInt_of_toIntOr_ne hne, UInt16.toNat_ofNat_of_lt' (by simp only [UInt16.size]; omega)]
    simp only [Except.ok.injEq]
    omega

theorem loadFromJsonFile_ok {fromJson : QJsonParser} {content path : Bytes} {root : Json}
    {out g : MqttGuiConfig} (hroot : fromJson content = .ok root)
    (h : loadFromJsonFile fromJson (some (.ok content)) path out = .ok g) :
    root.isObject = true ∧ Accepted root g := by
  simp only [loadFromJsonFile, hroot] at h
  split_ifs at h with hobj
  exact ⟨hobj, readGuiConfig_accepted h⟩

def tCmd (droneId : Bytes) : Bytes := topicPrefix droneId ++ bytes "/cmd"

theorem topicPrefix_append_inj {droneId a b : Bytes} :
    topicPrefix droneId ++ a = topicPrefix droneId ++ b ↔ a = b := List.append_right_inj _

/-- The GUI takes what the backend publishes for what it is. -/
theorem topicKind_makeTopics (droneId : Bytes) :
    topicKind droneId (Backend.makeTopics droneId).presence = .presence ∧
      topicKind droneId (Backend.makeTopics droneId).status = .status ∧
      topicKind droneId (Backend.makeTopics droneId).heartbeat = .heartbeat ∧
      topicKind droneId (Backend.makeTopics droneId).ack = .ack := by
  have hstatus : tStatus droneId ≠ tPresence droneId :=
    mt topicPrefix_append_inj.mp (by decide)
  have hheartbeat : tHeartbeat droneId ≠ tPresence droneId ∧ tHeartbeat droneId ≠ tStatus droneId :=
    ⟨mt topicPrefix_append_inj.mp (by decide), mt topicPrefix_append_inj.mp (by decide)⟩
  have hack : tAck droneId ≠ tPresence droneId ∧ tAck droneId ≠ tStatus droneId ∧
      tAck droneId ≠ tHeartbeat droneId :=
    ⟨mt topicPrefix_append_inj.mp (by decide), mt topicPrefix_append_inj.mp (by decide),
      mt topicPrefix_append_inj.mp (by decide)⟩
  refine ⟨if_pos rfl, ?_, ?_, ?_⟩
  · change topicKind droneId (tStatus droneId) = _
    simp [topicKind, hstatus]
  · change topicKind droneId (tHeartbeat droneId) = _
    simp [topicKind, hheartbeat]
  · change topicKind droneId (tAck droneId) = _
    simp [topicKind, hack]

end Ironsoft.Gui

namespace Ironsoft.Backend
open Ekinox

theorem hasMembers_of_get_str {v : Json} {key text : Bytes} (h : v.get key = .str text) :
    HasMembers v := by
  cases v with
  | obj members => exact .inr rfl
  | _ => cases h

theorem boolOf_returns_iff (v : Json) :
    (∃ b, boolOf v = .ok b) ↔ HasText v ∧ v.isString = false := by
  cases v with
  | arr items =>
    refine iff_of_false ?_ fun h => h.1.1 items rfl
    rintro ⟨_, h⟩
    cases h
  | obj members =>
    refine iff_of_false ?_ fun h => h.1.2 members rfl
    rintro ⟨_, h⟩
    cases h
  | str s =>
    refine iff_of_false ?_ fun h => Bool.noConfusion h.2
    rintro ⟨_, h⟩
    cases h
  | null | bool | int | uint | real =>
    exact iff_of_true ⟨_, rfl⟩
      ⟨⟨fun _ h => Json.noConfusion h, fun _ h => Json.noConfusion h⟩, rfl⟩

/-- The members that the GUI reads with a default, each of a kind that the backend can read. -/
structure Readable (root : Json) : Prop where
  auth : HasMembers (root.get (bytes "auth"))
  username : HasText ((root.get (bytes "auth")).get (bytes "username"))
  password : HasText ((root.get (bytes "auth")).get (bytes "password"))
  tls : HasMembers (root.get (bytes "tls"))
  enabled : HasText ((root.get (bytes "tls")).get (bytes "enabled")) ∧
    ((root.get (bytes "tls")).get (bytes "enabled")).isString = false
  caFile : HasText ((root.get (bytes "tls")).get (bytes "ca_file"))
  keepaliveS : ∃ n, ((root.get (bytes "client")).get (bytes "keepalive_s")).asInt = .ok n

theorem intOf_ok_iff {v : Json} {n : ℤ} : intOf v = .ok n ↔ v.asInt = .ok n := by
  unfold intOf
  cases v.asInt <;> simp [Except.mapError]

section Both

variable {realText : Option ℚ → Bytes} {root : Json} {g : Gui.MqttGuiConfig} {cfg c : MqttConfig}

theorem parseAuth_ok_iff (hroot : root.isObject = true) (husername : cfg.username = [])
    (hpassword : cfg.password = []) :
    parseAuth realText root cfg = .ok c ↔ HasMembers (root.get (bytes "auth")) ∧
      ∃ username password,
        textOf realText ((root.get (bytes "auth")).get (bytes "username")) = .ok username ∧
        textOf realText ((root.get (bytes "auth")).get (bytes "password")) = .ok password ∧
        c = { cfg with username := username, password := password } := by
  refine parseSection_ok_iff hroot rfl rfl fun _ => ?_
  cases cfg
  subst husername hpassword
  rfl

theorem parseTls_ok_iff (hroot : root.isObject = true) (henabled : cfg.tlsEnabled = false)
    (hcaFile : cfg.caFile = []) :
    parseTls realText root cfg = .ok c ↔ HasMembers (root.get (bytes "tls")) ∧
      ∃ tlsEnabled caFile,
        boolOf ((root.get (bytes "tls")).get (bytes "enabled")) = .ok tlsEnabled ∧
        textOf realText ((root.get (bytes "tls")).get (bytes "ca_file")) = .ok caFile ∧
        c = { cfg with tlsEnabled := tlsEnabled, caFile := caFile } := by
  refine parseSection_ok_iff hroot rfl rfl fun _ => ?_
  cases cfg
  subst henabled hcaFile
  rfl

/-- The drone is named, so there is a client to read. -/
theorem parseClient_ok_iff (hroot : root.isObject = true)
    (hdrone : (root.get (bytes "client")).get (bytes "drone_id") = .str g.droneId) :
    parseClient realText root cfg = .ok c ↔
      ∃ keepaliveS, intOf ((root.get (bytes "client")).get (bytes "keepalive_s")) = .ok keepaliveS ∧
        c = { cfg with droneId := g.droneId, keepaliveS := keepaliveS } := by
  have hclient : HasMembers (root.get (bytes "client")) := hasMembers_of_get_str hdrone
  have htext : textOf realText (.str g.droneId) = .ok g.droneId := rfl
  have hnullText : textOf realText .null = .ok [] := rfl
  have hnullInt : intOf .null = .ok 0 := rfl
  refine (parseSection_ok_iff hroot hnullText hnullInt fun habsent => ?_).trans ?_
  · rw [Json.get_of_not_member habsent] at hdrone
    cases hdrone
  · simp only [hclient, hdrone, htext, true_and, Except.ok.injEq, exists_eq_left', exists_and_left]

/-- Field by field, what the backend reads from a file that the GUI accepts. -/
theorem parseMqttConfig_ok_iff (hroot : root.isObject = true) (haccepted : Gui.Accepted root g)
    (b : MqttConfig) :
    parseMqttConfig realText root = .ok b ↔
      HasMembers (root.get (bytes "auth")) ∧ HasMembers (root.get (bytes "tls")) ∧
        ∃ username password tlsEnabled caFile keepaliveS,
          textOf realText ((root.get (bytes "auth")).get (bytes "username")) = .ok username ∧
          textOf realText ((root.get (bytes "auth")).get (bytes "password")) = .ok password ∧
          boolOf ((root.get (bytes "tls")).get (bytes "enabled")) = .ok tlsEnabled ∧
          textOf realText ((root.get (bytes "tls")).get (bytes "ca_file")) = .ok caFile ∧
          intOf ((root.get (bytes "client")).get (bytes "keepalive_s")) = .ok keepaliveS ∧
          b = ⟨g.host, g.port.toNat, username, password, tlsEnabled, caFile, g.droneId, keepaliveS⟩ := by
  have hbroker : HasMembers (root.get (bytes "broker")) := hasMembers_of_get_str haccepted.host
  have hget (key : Bytes) : member root key = .ok (root.get key) := member_eq_get (.inr hroot) key
  have hhost : textOf realText (.str g.host) = .ok g.host := rfl
  have hport := intOf_ok_iff.mpr haccepted.port
  unfold parseMqttConfig
  simp only [hget, member_eq_get hbroker, haccepted.host, hhost, hport, bind_ok_iff, Except.ok.injEq,
    exists_eq_left']
  constructor
  · rintro ⟨c₁, h₁, c₂, h₂, h₃⟩
    obtain ⟨hauth, username, password, hu, hp, rfl⟩ := (parseAuth_ok_iff hroot rfl rfl).mp h₁
    obtain ⟨htls, tlsEnabled, caFile, he, hf, rfl⟩ := (parseTls_ok_iff hroot rfl rfl).mp h₂
    obtain ⟨keepaliveS, hk, rfl⟩ := (parseClient_ok_iff hroot haccepted.droneId).mp h₃
    exact ⟨hauth, htls, username, password, tlsEnabled, caFile, keepaliveS, hu, hp, he, hf, hk, rfl⟩
  · rintro ⟨hauth, htls, username, password, tlsEnabled, caFile, keepaliveS, hu, hp, he, hf, hk, rfl⟩
    refine ⟨_, (parseAuth_ok_iff hroot rfl rfl).mpr ⟨hauth, username, password, hu, hp, rfl⟩, _,
      (parseTls_ok_iff hroot rfl rfl).mpr ⟨htls, tlsEnabled, caFile, he, hf, rfl⟩, ?_⟩
    exact (parseClient_ok_iff hroot haccepted.droneId).mpr ⟨keepaliveS, hk, rfl⟩

/-- The backend can read a file that the GUI accepts if and only if the members that only it insists
on are of a kind it converts. -/
theorem parseMqttConfig_returns_iff (hroot : root.isObject = true) (haccepted : Gui.Accepted root g) :
    (∃ b, parseMqttConfig realText root = .ok b) ↔ Readable root := by
  simp only [parseMqttConfig_ok_iff hroot haccepted, intOf_ok_iff]
  constructor
  · rintro ⟨b, hauth, htls, username, password, tlsEnabled, caFile, keepaliveS, hu, hp, he, hf, hk, -⟩
    exact ⟨hauth, (textOf_returns_iff realText _).mp ⟨_, hu⟩, (textOf_returns_iff realText _).mp ⟨_, hp⟩,
      htls, (boolOf_returns_iff _).mp ⟨_, he⟩, (textOf_returns_iff realText _).mp ⟨_, hf⟩, _, hk⟩
  · intro h
    obtain ⟨username, hu⟩ := (textOf_returns_iff realText _).mpr h.username
    obtain ⟨password, hp⟩ := (textOf_returns_iff realText _).mpr h.password
    obtain ⟨tlsEnabled, he⟩ := (boolOf_returns_iff _).mpr h.enabled
    obtain ⟨caFile, hf⟩ := (textOf_returns_iff realText _).mpr h.caFile
    obtain ⟨keepaliveS, hk⟩ := h.keepaliveS
    exact ⟨_, h.auth, h.tls, username, password, tlsEnabled, caFile, keepaliveS, hu, hp, he, hf, hk, rfl⟩

def TextOrNull (v : Json) : Prop := v.isString = true ∨ v.isNull = true
def BoolOrNull (v : Json) : Prop := v.isBool = true ∨ v.isNull = true

theorem textOf_eq_toStringOr {v : Json} {text : Bytes} (h : TextOrNull v)
    (htext : textOf realText v = .ok text) : text = Gui.toStringOr v [] := by
  cases v with
  | str s => exact (Except.ok.inj htext).symm
  | null => exact (Except.ok.inj htext).symm
  | _ => simp [TextOrNull, Json.isString, Json.isNull] at h

theorem boolOf_eq_toBoolOr {v : Json} {b : Bool} (h : BoolOrNull v)
    (hb : boolOf v = .ok b) : b = Gui.toBoolOr v false := by
  cases v with
  | bool s => exact (Except.ok.inj hb).symm
  | null => exact (Except.ok.inj hb).symm
  | _ => simp [BoolOrNull, Json.isBool, Json.isNull] at h

variable (realText) in
/-- The GUI accepts a file, and the backend reads the same one. It either stops at a member that only it
insists on, or serves the very broker and drone that the GUI watches: every topic it publishes to is one
that the GUI takes for what it is, and it takes commands where the GUI sends them. -/
theorem gui_and_backend_read_alike {fromJson : Gui.QJsonParser} {content path : Bytes}
    {out : Gui.MqttGuiConfig} (hroot : fromJson content = .ok root)
    (hload : Gui.loadFromJsonFile fromJson (some (.ok content)) path out = .ok g) :
    ((∃ b, parseMqttConfig realText root = .ok b) ↔ Readable root) ∧
      ∀ b, parseMqttConfig realText root = .ok b →
        (b.host = g.host ∧ b.port = g.port.toNat ∧ b.droneId = g.droneId) ∧
        (Gui.topicKind g.droneId (makeTopics b.droneId).presence = .presence ∧
          Gui.topicKind g.droneId (makeTopics b.droneId).status = .status ∧
          Gui.topicKind g.droneId (makeTopics b.droneId).heartbeat = .heartbeat ∧
          Gui.topicKind g.droneId (makeTopics b.droneId).ack = .ack ∧
          (makeTopics b.droneId).cmd = Gui.tCmd g.droneId) ∧
        (TextOrNull ((root.get (bytes "auth")).get (bytes "username")) → b.username = g.user) ∧
        (TextOrNull ((root.get (bytes "auth")).get (bytes "password")) → b.password = g.pass) ∧
        (TextOrNull ((root.get (bytes "tls")).get (bytes "ca_file")) → b.caFile = g.caFile) ∧
        (BoolOrNull ((root.get (bytes "tls")).get (bytes "enabled")) → b.tlsEnabled = g.tlsEnabled) := by
  obtain ⟨hobject, haccepted⟩ := Gui.loadFromJsonFile_ok hroot hload
  refine ⟨parseMqttConfig_returns_iff hobject haccepted, fun b hb => ?_⟩
  obtain ⟨-, -, username, password, tlsEnabled, caFile, keepaliveS, hu, hp, he, hf, -, rfl⟩ :=
    (parseMqttConfig_ok_iff hobject haccepted b).mp hb
  obtain ⟨hpresence, hstatus, hheartbeat, hack⟩ := Gui.topicKind_makeTopics g.droneId
  refine ⟨⟨rfl, rfl, rfl⟩, ⟨hpresence, hstatus, hheartbeat, hack, rfl⟩, fun h => ?_, fun h => ?_, fun h => ?_,
    fun h => ?_⟩
  · rw [haccepted.user]
    exact textOf_eq_toStringOr h hu
  · rw [haccepted.pass]
    exact textOf_eq_toStringOr h hp
  · rw [haccepted.caFile]
    exact textOf_eq_toStringOr h hf
  · rw [haccepted.tlsEnabled]
    exact boolOf_eq_toBoolOr h he

end Both

section Example

/-- A file in which the password is a number. -/
def benchShared : Json :=
  .obj [(bytes "broker", .obj [(bytes "host", .str (bytes "b1")), (bytes "port", .int 1883)]),
    (bytes "auth", .obj [(bytes "username", .str (bytes "u1")), (bytes "password", .int 7)]),
    (bytes "client", .obj [(bytes "drone_id", .str (bytes "d1"))])]

def benchSharedText : Bytes :=
  bytes "\x7b\"broker\":\x7b\"host\":\"b1\",\"port\":1883\x7d," ++
    bytes "\"auth\":\x7b\"username\":\"u1\",\"password\":7\x7d," ++
    bytes "\"client\":\x7b\"drone_id\":\"d1\"\x7d\x7d"

def benchSharedJson : Gui.QJsonParser := fun content =>
  if content = benchSharedText then .ok benchShared else .error (bytes "illegal value")

def benchSharedGui : Gui.MqttGuiConfig :=
  { host := bytes "b1", port := 1883, user := bytes "u1", pass := [], droneId := bytes "d1" }

theorem readable_benchShared : Readable benchShared where
  auth := .inr rfl
  username := (textOf_returns_iff (fun _ => []) _).mp ⟨_, rfl⟩
  password := (textOf_returns_iff (fun _ => []) _).mp ⟨_, rfl⟩
  tls := .inl rfl
  enabled := (boolOf_returns_iff _).mp ⟨_, rfl⟩
  caFile := (textOf_returns_iff (fun _ => []) _).mp ⟨_, rfl⟩
  keepaliveS := ⟨_, rfl⟩

theorem gui_and_backend_read_alike_bench :
    ∃ b, parseMqttConfig (fun _ => []) benchShared = .ok b ∧ b.droneId = bytes "d1" ∧
      b.username = bytes "u1" ∧ (makeTopics b.droneId).cmd = Gui.tCmd (bytes "d1") := by
  have hroot : benchSharedJson benchSharedText = .ok benchShared := if_pos rfl
  have hload : Gui.loadFromJsonFile benchSharedJson (some (.ok benchSharedText)) (bytes "mqtt.json")
      {} = .ok benchSharedGui := by decide +kernel
  obtain ⟨hreturns, halike⟩ := gui_and_backend_read_alike (fun _ => []) hroot hload
  obtain ⟨b, hb⟩ := hreturns.mpr readable_benchShared
  obtain ⟨⟨-, -, hdrone⟩, ⟨-, -, -, -, hcmd⟩, husername, -⟩ := halike b hb
  exact ⟨b, hb, hdrone, husername (.inl rfl), hcmd⟩

end Example

end Ironsoft.Backend
