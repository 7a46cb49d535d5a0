import Ironsoft.EkinoxLoop

/-!
# Accepted configurations

What a configuration is that `loadEkinoxConfig` returns true for: the values of the JSON document
where it has them and the defaults of the structs where it does not, all within their bounds. A
service that is built from it never finds its REST endpoint missing.
-/
namespace Ironsoft.Ekinox
open Effect

set_option synthInstance.maxSize 50000

namespace Json

/-- The value at the end of a path of members. -/
def follow (root : Json) : List Bytes → Json
  | [] => root
  | key :: keys => (root.get key).follow keys

/-- Every member of the path is there. -/
def has (root : Json) : List Bytes → Bool
  | [] => true
  | key :: keys => root.isMember key && (root.get key).has keys

theorem follow_null (path : List Bytes) : null.follow path = null := by
  induction path with
  | nil => rfl
  | cons key path ih => exact ih

theorem get_of_not_member {root : Json} {key : Bytes} (h : root.isMember key = false) :
    root.get key = null := by
  cases root with
  | obj members =>
    simp only [isMember, Option.isSome_eq_false_iff, Option.isNone_iff_eq_none] at h
    simp [get, h]
  | _ => rfl

theorem follow_of_absent {root : Json} {path : List Bytes} (h : root.has path = false) :
    root.follow path = null := by
  induction path generalizing root with
  | nil => cases h
  | cons key path ih =>
    simp only [has, Bool.and_eq_false_iff] at h
    rcases h with h | h
    · rw [follow, get_of_not_member h]
      exact follow_null path
    · exact ih h

theorem get_of_not_object {root : Json} (h : root.isObject = false) (key : Bytes) :
    root.get key = null := by
  cases root with
  | obj members => cases h
  | _ => rfl

end Json

/-- The number of a value that has passed its checks. -/
def intAt (value : Json) : Int32 :=
  match value.asInt with
  | .ok n => Int32.ofInt n
  | .error _ => 0

def intOr (value : Json) (default : Int32) : Int32 := if value.isNull then default else intAt value

def textOr (value : Json) (default : Bytes) : Bytes :=
  if value.isString then value.asString else default

def boolOr (value : Json) (default : Bool) : Bool := if value.isBool then value.asBool else default

/-- An empty text counts as none. -/
def nonemptyOr (value : Json) (default : Bytes) : Bytes :=
  if value.isString ∧ value.asString ≠ [] then value.asString else default

def readMqtt (mqtt : Json) (base : MqttCfg) : MqttCfg where
  host := (mqtt.get (bytes "host")).asString
  port := intAt (mqtt.get (bytes "port"))
  droneId := (mqtt.get (bytes "drone_id")).asString
  username := textOr ((mqtt.get (bytes "auth")).get (bytes "username")) base.username
  password := textOr ((mqtt.get (bytes "auth")).get (bytes "password")) base.password
  tlsEnabled := boolOr ((mqtt.get (bytes "tls")).get (bytes "enabled")) base.tlsEnabled
  caFile := textOr ((mqtt.get (bytes "tls")).get (bytes "ca_file")) base.caFile

def readEkinoxNet (ekinox : Json) (base : EkinoxNetCfg) : EkinoxNetCfg where
  ip := (ekinox.get (bytes "ip")).asString
  udpPort := intOr (ekinox.get (bytes "udp_port")) base.udpPort
  udpLocalPort := intOr (ekinox.get (bytes "udp_local_port")) base.udpLocalPort
  restPort := intOr (ekinox.get (bytes "rest_port")) base.restPort

def readTimeouts (timeouts : Json) (base : EkinoxTimeouts) : EkinoxTimeouts where
  rxDeadMs := intOr (timeouts.get (bytes "rx_dead_ms")) base.rxDeadMs
  udpRxTimeoutMs := intOr (timeouts.get (bytes "udp_rx_timeout_ms")) base.udpRxTimeoutMs
  udpRxFailThreshold := intOr (timeouts.get (bytes "udp_rx_fail_threshold")) base.udpRxFailThreshold
  udpRxOkToClearThreshold :=
    intOr (timeouts.get (bytes "udp_rx_ok_to_clear_threshold")) base.udpRxOkToClearThreshold
  startTimeoutMs := intOr (timeouts.get (bytes "start_timeout_ms")) base.startTimeoutMs
  stopTimeoutMs := intOr (timeouts.get (bytes "stop_timeout_ms")) base.stopTimeoutMs
  reconnectBackoffMs := intOr (timeouts.get (bytes "reconnect_backoff_ms")) base.reconnectBackoffMs
  reconnectBackoffMaxMs :=
    intOr (timeouts.get (bytes "reconnect_backoff_max_ms")) base.reconnectBackoffMaxMs
  presenceTimeoutMs := intOr (timeouts.get (bytes "presence_timeout_ms")) base.presenceTimeoutMs

def readRestApi (restApi : Json) (base : RestApiConfig) : RestApiConfig where
  basePath := nonemptyOr (restApi.get (bytes "base_path")) base.basePath
  dataloggerPath := nonemptyOr (restApi.get (bytes "datalogger_path")) base.dataloggerPath

/-- The configuration a document stands for. -/
def readConfig (root : Json) : EkinoxConfig where
  mqtt := readMqtt (root.get (bytes "mqtt")) {}
  ekinox := readEkinoxNet (root.get (bytes "ekinox")) {}
  timeouts := readTimeouts (root.get (bytes "timeouts")) {}
  restApi := readRestApi (root.get (bytes "rest_api")) {}

/-- A port of at least `lo`. -/
def PortFrom (lo : ℤ) (port : Int32) : Prop := lo ≤ port.toInt ∧ port.toInt ≤ 65535

/-- `min_port` of `validate_port`. -/
def minPort (allowZero : Bool) : ℤ := if allowZero then 0 else 1

structure MqttCfg.Valid (mqtt : MqttCfg) : Prop where
  host : mqtt.host ≠ []
  port : PortFrom 1 mqtt.port
  droneId : mqtt.droneId ≠ []

structure EkinoxNetCfg.Valid (net : EkinoxNetCfg) : Prop where
  ip : net.ip ≠ []
  udpPort : PortFrom 0 net.udpPort
  udpLocalPort : PortFrom 0 net.udpLocalPort
  restPort : PortFrom 1 net.restPort

structure RestApiConfig.Valid (api : RestApiConfig) : Prop where
  basePath : api.basePath ≠ []
  dataloggerPath : api.dataloggerPath ≠ []

structure EkinoxConfig.Valid (config : EkinoxConfig) : Prop where
  mqtt : config.mqtt.Valid
  ekinox : config.ekinox.Valid
  timeouts : config.timeouts.Positive
  restApi : config.restApi.Valid

section Checks

variable {env : LoadEnv} {cfg : EkinoxConfig}

theorem wp_requireText {value : Json} {err : Bytes} {Q : Bytes → EkinoxConfig → Prop}
    (h : value.asString ≠ [] → Q value.asString cfg) :
    wp (requireText value err) env Q (fun _ _ => True) cfg := by
  unfold requireText refuse
  simp only [wp_ite, wp_throw, wp_pure]
  split_ifs with hmissing
  exact h fun hnil => hmissing (.inr hnil)

theorem wp_requireObject {value : Json} {err : Bytes} {Q : Unit → EkinoxConfig → Prop}
    (h : value.isObject = true → Q () cfg) :
    wp (requireObject value err) env Q (fun _ _ => True) cfg := by
  unfold requireObject refuse
  simp only [wp_ite, wp_throw, wp_pure]
  split_ifs with hother
  exact h (eq_true_of_ne_false hother)

theorem wp_validatePort {value : Json} {field : Bytes} {allowZero : Bool}
    {Q : Int32 → EkinoxConfig → Prop}
    (h : PortFrom (minPort allowZero) (intAt value) → Q (intAt value) cfg) :
    wp (validatePort value field allowZero) env Q (fun _ _ => True) cfg := by
  unfold validatePort refuse
  cases hval : value.asInt with
  | error e => split_ifs <;> simp
  | ok port =>
    have hat : intAt value = Int32.ofInt port := by simp only [intAt, hval]
    have hmin : 0 ≤ minPort allowZero := by cases allowZero <;> decide
    have hport : wp (if port < minPort allowZero ∨ port > 65535 then
        throw (.failed (bytes "invalid " ++ field)) else pure (Int32.ofInt port) : Loader Int32) env Q
        (fun _ _ => True) cfg := by
      rw [wp_ite]
      split_ifs with hout
      · trivial
      rw [wp_pure, ← hat]
      apply h
      unfold PortFrom
      rw [hat, Int32.toInt_ofInt_of_le (by omega) (by omega)]
      omega
    by_cases hint : value.isInt = false
    · rw [if_pos hint]
      trivial
    · rw [if_neg hint]
      exact hport

theorem wp_validatePositiveTimeout {value : Json} {field : Bytes} {Q : Int32 → EkinoxConfig → Prop}
    (h : Q (intAt value) cfg) :
    wp (validatePositiveTimeout value field) env Q (fun _ _ => True) cfg := by
  unfold validatePositiveTimeout refuse
  cases hval : value.asInt with
  | error e => split_ifs <;> simp
  | ok val =>
    have hat : intAt value = Int32.ofInt val := by simp only [intAt, hval]
    simp only [wp_ite, wp_throw, wp_pure]
    split_ifs
    rw [← hat]
    exact h

theorem wp_readPort {value : Json} {target : Int32} {field : Bytes} {allowZero : Bool}
    {Q : Int32 → EkinoxConfig → Prop} (htarget : PortFrom (minPort allowZero) target)
    (h : PortFrom (minPort allowZero) (intOr value target) → Q (intOr value target) cfg) :
    wp (readOptional value target fun v => validatePort v field allowZero) env Q (fun _ _ => True)
      cfg := by
  unfold readOptional
  unfold intOr at h
  rw [wp_ite]
  split_ifs at h ⊢
  · exact h htarget
  · exact wp_validatePort h

end Checks

section Sections

variable {env : LoadEnv} {cfg : EkinoxConfig} {Q : Unit → EkinoxConfig → Prop}
  {E : LoadError → EkinoxConfig → Prop}

theorem wp_readText {value : Json} {store : Bytes → MqttCfg → MqttCfg} :
    wp (readText value store) env Q E cfg ↔
      Q () { cfg with mqtt := if value.isString then store value.asString cfg.mqtt else cfg.mqtt } := by
  simp only [readText, wp_ite, Part.wp_update, wp_pure]
  split_ifs <;> rfl

theorem wp_loadAuth {auth : Json}
    (h : Q () { cfg with mqtt :=
      { cfg.mqtt with
        username := textOr (auth.get (bytes "username")) cfg.mqtt.username
        password := textOr (auth.get (bytes "password")) cfg.mqtt.password } }) :
    wp (loadAuth auth) env Q E cfg := by
  unfold textOr at h
  simp only [loadAuth, wp_ite, wp_bind, wp_readText, wp_pure]
  by_cases hauth : auth.isObject = true
  · rw [if_pos hauth]
    split_ifs at h ⊢ <;> exact h
  · rw [if_neg hauth]
    have hnull := Json.get_of_not_object (eq_false_of_ne_true hauth)
    simpa only [hnull, Json.isString, Bool.false_eq_true, if_false] using h

theorem wp_loadTls {tls : Json}
    (h : Q () { cfg with mqtt :=
      { cfg.mqtt with
        tlsEnabled := boolOr (tls.get (bytes "enabled")) cfg.mqtt.tlsEnabled
        caFile := textOr (tls.get (bytes "ca_file")) cfg.mqtt.caFile } }) :
    wp (loadTls tls) env Q E cfg := by
  unfold textOr boolOr at h
  simp only [loadTls, readTlsEnabled, wp_ite, wp_bind, wp_readText, Part.wp_update, wp_pure]
  by_cases htls : tls.isObject = true
  · rw [if_pos htls]
    split_ifs at h ⊢ <;> exact h
  · rw [if_neg htls]
    have hnull := Json.get_of_not_object (eq_false_of_ne_true htls)
    simpa only [hnull, Json.isString, Json.isBool, Bool.false_eq_true, if_false] using h

theorem wp_loadMqtt {mqtt : Json}
    (h : (readMqtt mqtt cfg.mqtt).Valid → Q () { cfg with mqtt := readMqtt mqtt cfg.mqtt }) :
    wp (loadMqtt mqtt) env Q (fun _ _ => True) cfg := by
  unfold loadMqtt
  rw [wp_bind]
  refine wp_requireObject fun _ => ?_
  rw [wp_bind]
  refine wp_requireText fun hhost => ?_
  rw [wp_bind, Part.wp_update, wp_bind]
  refine wp_validatePort fun hport => ?_
  rw [wp_bind, Part.wp_update, wp_bind]
  refine wp_requireText fun hdrone => ?_
  rw [wp_bind, Part.wp_update, wp_bind]
  refine wp_loadAuth (wp_loadTls ?_)
  exact h ⟨hhost, hport, hdrone⟩

theorem wp_loadEkinox {ekinox : Json} (hports : PortFrom 0 cfg.ekinox.udpPort)
    (hlocal : PortFrom 0 cfg.ekinox.udpLocalPort) (hrest : PortFrom 1 cfg.ekinox.restPort)
    (h : (readEkinoxNet ekinox cfg.ekinox).Valid →
      Q () { cfg with ekinox := readEkinoxNet ekinox cfg.ekinox }) :
    wp (loadEkinox ekinox) env Q (fun _ _ => True) cfg := by
  unfold loadEkinox
  rw [wp_bind]
  refine wp_requireObject fun _ => ?_
  rw [wp_bind]
  refine wp_requireText fun hip => ?_
  rw [wp_bind, Part.wp_update, wp_bind, wp_get, wp_bind]
  refine wp_readPort hports fun hudp => ?_
  rw [wp_bind, Part.wp_update, wp_bind, wp_get, wp_bind]
  refine wp_readPort hlocal fun hudpLocal => ?_
  rw [wp_bind, Part.wp_update, wp_bind, wp_get, wp_bind]
  refine wp_readPort hrest fun hrestPort => ?_
  exact h ⟨hip, hudp, hudpLocal, hrestPort⟩

theorem wp_readTimeout {timeouts : Json} {field : Bytes} {target : EkinoxTimeouts → Int32}
    {store : Int32 → EkinoxTimeouts → EkinoxTimeouts}
    (h : Q () { cfg with
      timeouts := store (intOr (timeouts.get field) (target cfg.timeouts)) cfg.timeouts }) :
    wp (readTimeout timeouts field target store) env Q (fun _ _ => True) cfg := by
  unfold intOr at h
  unfold readTimeout readOptional
  rw [wp_bind, wp_get, wp_bind, wp_ite]
  split_ifs at h ⊢
  · exact h
  · exact wp_validatePositiveTimeout h

theorem wp_loadTimeouts {timeouts : Json}
    (h : Q () { cfg with timeouts := readTimeouts timeouts cfg.timeouts }) :
    wp (loadTimeouts timeouts) env Q (fun _ _ => True) cfg := by
  unfold loadTimeouts
  rw [wp_ite]
  split_ifs with hobject
  · iterate 8
      rw [wp_bind]
      refine wp_readTimeout ?_
    exact wp_readTimeout h
  · rw [wp_pure]
    have hnull := Json.get_of_not_object (eq_false_of_ne_true hobject)
    simpa only [readTimeouts, hnull, intOr, Json.isNull, if_true] using h

theorem wp_loadRestApi {restApi : Json}
    (h : Q () { cfg with restApi := readRestApi restApi cfg.restApi }) :
    wp (loadRestApi restApi) env Q (fun _ _ => True) cfg := by
  unfold readRestApi nonemptyOr at h
  simp only [loadRestApi, refuse, wp_bind, wp_ite, wp_throw, wp_pure, Part.wp_update]
  by_cases hobject : restApi.isObject = true
  · simp only [if_pos hobject]
    split_ifs at h ⊢ <;> exact h
  · have hnull := Json.get_of_not_object (eq_false_of_ne_true hobject)
    simp only [hnull, Json.isString, Bool.false_eq_true, false_and, if_false] at h
    simp only [if_neg hobject]
    split_ifs
    exact h

theorem wp_loadJsonFile {path : Bytes} {R : Json → EkinoxConfig → Prop}
    (h : ∀ content root, env.file = some content → env.parse content = .ok (some root) →
      R root cfg) :
    wp (loadJsonFile path) env R (fun _ _ => True) cfg := by
  unfold loadJsonFile refuse
  rw [wp_bind, wp_read]
  split
  · trivial
  · rename_i content hfile
    split
    · trivial
    · trivial
    · rename_i root hparse
      exact h content root hfile hparse

end Sections

/-- The document the loader has read. -/
def LoadEnv.Holds (env : LoadEnv) (root : Json) : Prop :=
  ∃ content, env.file = some content ∧ env.parse content = .ok (some root)

theorem loadEkinoxConfig_reads (env : LoadEnv) (path : Bytes) (cfg : EkinoxConfig) :
    wp (loadEkinoxConfig path) env
      (fun _ cfg' => ∃ root, env.Holds root ∧ cfg' = readConfig root ∧ cfg'.mqtt.Valid ∧
        cfg'.ekinox.Valid) (fun _ _ => True) cfg := by
  unfold loadEkinoxConfig
  rw [wp_bind]
  refine wp_loadJsonFile fun content root hfile hparse => ?_
  rw [wp_bind]
  refine wp_requireObject fun _ => ?_
  rw [wp_bind, wp_modify, wp_bind]
  refine wp_loadMqtt fun hmqtt => ?_
  rw [wp_bind]
  have hudp : PortFrom 0 ({} : EkinoxNetCfg).udpPort := by constructor <;> decide
  have hrest : PortFrom 1 ({} : EkinoxNetCfg).restPort := by constructor <;> decide
  refine wp_loadEkinox hudp hudp hrest fun hekinox => ?_
  rw [wp_bind]
  refine wp_loadTimeouts (wp_loadRestApi ?_)
  exact ⟨root, ⟨content, hfile, hparse⟩, rfl, hmqtt, hekinox⟩

theorem nonemptyOr_ne_nil {value : Json} {default : Bytes} (h : default ≠ []) :
    nonemptyOr value default ≠ [] := by
  unfold nonemptyOr
  split_ifs with hvalue
  · exact hvalue.2
  · exact h

theorem readRestApi_valid (restApi : Json) : (readRestApi restApi {}).Valid where
  basePath := nonemptyOr_ne_nil (by decide)
  dataloggerPath := nonemptyOr_ne_nil (by decide)

/-- A field of the configuration that the document may leave out, with its place there. -/
structure OptionalField where
  path : List Bytes
  Value : Type
  read : EkinoxConfig → Value

def optionalTimeout (key : Bytes) (read : EkinoxTimeouts → Int32) : OptionalField :=
  ⟨[bytes "timeouts", key], Int32, fun c => read c.timeouts⟩

def optionalFields : List OptionalField :=
  [⟨[bytes "mqtt", bytes "auth", bytes "username"], Bytes, fun c => c.mqtt.username⟩,
    ⟨[bytes "mqtt", bytes "auth", bytes "password"], Bytes, fun c => c.mqtt.password⟩,
    ⟨[bytes "mqtt", bytes "tls", bytes "enabled"], Bool, fun c => c.mqtt.tlsEnabled⟩,
    ⟨[bytes "mqtt", bytes "tls", bytes "ca_file"], Bytes, fun c => c.mqtt.caFile⟩,
    ⟨[bytes "ekinox", bytes "udp_port"], Int32, fun c => c.ekinox.udpPort⟩,
    ⟨[bytes "ekinox", bytes "udp_local_port"], Int32, fun c => c.ekinox.udpLocalPort⟩,
    ⟨[bytes "ekinox", bytes "rest_port"], Int32, fun c => c.ekinox.restPort⟩,
    optionalTimeout (bytes "rx_dead_ms") EkinoxTimeouts.rxDeadMs,
    optionalTimeout (bytes "udp_rx_timeout_ms") EkinoxTimeouts.udpRxTimeoutMs,
    optionalTimeout (bytes "udp_rx_fail_threshold") EkinoxTimeouts.udpRxFailThreshold,
    optionalTimeout (bytes "udp_rx_ok_to_clear_threshold") EkinoxTimeouts.udpRxOkToClearThreshold,
    optionalTimeout (bytes "start_timeout_ms") EkinoxTimeouts.startTimeoutMs,
    optionalTimeout (bytes "stop_timeout_ms") EkinoxTimeouts.stopTimeoutMs,
    optionalTimeout (bytes "reconnect_backoff_ms") EkinoxTimeouts.reconnectBackoffMs,
    optionalTimeout (bytes "reconnect_backoff_max_ms") EkinoxTimeouts.reconnectBackoffMaxMs,
    optionalTimeout (bytes "presence_timeout_ms") EkinoxTimeouts.presenceTimeoutMs,
    ⟨[bytes "rest_api", bytes "base_path"], Bytes, fun c => c.restApi.basePath⟩,
    ⟨[bytes "rest_api", bytes "datalogger_path"], Bytes, fun c => c.restApi.dataloggerPath⟩]

/-- What the document leaves out has the default of the structs. -/
def KeepsDefaults (root : Json) (config : EkinoxConfig) : Prop :=
  ∀ field ∈ optionalFields, root.has field.path = false → field.read config = field.read {}

theorem readConfig_keepsDefaults (root : Json) : KeepsDefaults root (readConfig root) := by
  intro field hfield habsent
  have hnull := Json.follow_of_absent habsent
  simp only [optionalFields, List.mem_cons, List.not_mem_nil, or_false] at hfield
  rcases hfield with rfl | rfl | rfl | rfl | rfl | rfl | rfl | rfl | rfl | rfl | rfl | rfl | rfl |
    rfl | rfl | rfl | rfl | rfl
  all_goals
    simp only [optionalTimeout, Json.follow] at hnull
    simp [optionalTimeout, readConfig, readMqtt, readEkinoxNet, readTimeouts, readRestApi, textOr,
      boolOr, intOr, nonemptyOr, hnull, Json.isString, Json.isBool, Json.isNull]

theorem Accepted.valid {config : EkinoxConfig} (h : Accepted config) : config.Valid := by
  have htimeouts := h.timeoutsPositive
  obtain ⟨env, path, cfg, hload⟩ := h
  have hend := loadEkinoxConfig_reads env path cfg
  rw [wp, hload] at hend
  obtain ⟨root, -, rfl, hmqtt, hekinox⟩ := hend
  exact ⟨hmqtt, hekinox, htimeouts, readRestApi_valid (root.get (bytes "rest_api"))⟩

/-- `EkinoxUdpSession::Config` -/
structure UdpSessionConfig where
  ip : Bytes
  remotePort : UInt16
  localPort : UInt16
  rxDeadMs : UInt32

/-- `udp_config_` as the constructor fills it in. -/
def udpConfig (config : EkinoxConfig) : UdpSessionConfig where
  ip := config.ekinox.ip
  remotePort := UInt16.ofInt (max config.ekinox.udpPort 0).toInt
  localPort := UInt16.ofInt (max config.ekinox.udpLocalPort 0).toInt
  rxDeadMs := UInt32.ofInt (max config.timeouts.rxDeadMs 0).toInt

structure UdpConfigExact (config : EkinoxConfig) : Prop where
  remotePort : ((udpConfig config).remotePort.toNat : ℤ) = config.ekinox.udpPort.toInt
  localPort : ((udpConfig config).localPort.toNat : ℤ) = config.ekinox.udpLocalPort.toInt
  rxDeadMs : ((udpConfig config).rxDeadMs.toNat : ℤ) = config.timeouts.rxDeadMs.toInt

theorem max_zero_toInt {n : Int32} (h : 0 ≤ n.toInt) : (max n 0).toInt = n.toInt := by
  change (if n ≤ 0 then 0 else n).toInt = n.toInt
  split_ifs with hle
  · have hzero := Int32.le_iff_toInt_le.mp hle
    rw [Int32.toInt_zero] at hzero ⊢
    omega
  · rfl

theorem port_cast {port : Int32} (h : PortFrom 0 port) :
    ((UInt16.ofInt (max port 0).toInt).toNat : ℤ) = port.toInt := by
  obtain ⟨hlo, hhi⟩ := h
  rw [max_zero_toInt hlo, UInt16.ofInt, UInt16.toNat_ofNat']
  omega

theorem timeout_cast {timeout : Int32} (h : 0 < timeout) :
    ((UInt32.ofInt (max timeout 0).toInt).toNat : ℤ) = timeout.toInt := by
  have hlo : 0 < timeout.toInt := Int32.lt_iff_toInt_lt.mp h
  have hhi := timeout.toInt_lt
  rw [max_zero_toInt (Int.le_of_lt hlo), UInt32.ofInt, UInt32.toNat_ofNat']
  omega

theorem EkinoxConfig.Valid.udpConfigExact {config : EkinoxConfig} (h : config.Valid) :
    UdpConfigExact config where
  remotePort := port_cast h.ekinox.udpPort
  localPort := port_cast h.ekinox.udpLocalPort
  rxDeadMs := timeout_cast h.timeouts.rxDeadMs

/-- A service with this configuration never refuses a command or a request for its REST
endpoint. -/
structure NeverBadConfig (config : EkinoxConfig) : Prop where
  endpoint : restEndpointError config = []
  target : validateRestTarget config = none
  commands : ∀ env w id type body, env.config = config →
    exec (checkedRestEndpoint id type body) env w = exec body env w

theorem NeverBadConfig.of_endpoint {config : EkinoxConfig} (h : config.ekinox.HasEndpoint) :
    NeverBadConfig config where
  endpoint := restEndpointError_eq_nil h
  target := validateRestTarget_eq_none (restEndpointError_eq_nil h)
  commands := by
    intro env w id type body henv
    have hempty : restEndpointError env.config = [] := henv ▸ restEndpointError_eq_nil h
    unfold checkedRestEndpoint
    rw [exec_bind, exec_read]
    simp only [hempty, ne_eq, not_true_eq_false, if_false]

/-- **Acceptance.** The configuration `loadEkinoxConfig` returns true for is valid, has the
defaults where the document is silent whatever it held before, and starts a service that never
misses its endpoint. -/
theorem accepted_is_valid {env : LoadEnv} {path : Bytes} {cfg cfg' : EkinoxConfig}
    (hload : exec (loadEkinoxConfig path) env cfg = (.ok (), cfg')) :
    cfg'.Valid ∧ (∃ root, env.Holds root ∧ cfg' = readConfig root ∧ KeepsDefaults root cfg') ∧
      NeverBadConfig cfg' ∧ UdpConfigExact cfg' := by
  have haccepted : Accepted cfg' := ⟨env, path, cfg, hload⟩
  have hend := loadEkinoxConfig_reads env path cfg
  rw [wp, hload] at hend
  obtain ⟨root, hroot, hread, -, -⟩ := hend
  refine ⟨haccepted.valid, ⟨root, hroot, hread, ?_⟩, .of_endpoint haccepted.hasEndpoint,
    haccepted.valid.udpConfigExact⟩
  rw [hread]
  exact readConfig_keepsDefaults root

/-- Whatever stood in the struct is gone. -/
theorem accepted_bench_valid : benchPlatform.config.Valid ∧ benchPlatform.config.ekinox.restPort = 80 ∧
    UdpConfigExact benchPlatform.config := by
  have hload : exec (loadEkinoxConfig (bytes "config.json")) benchLoadEnv
      { ekinox := { restPort := -1 }, restApi := { basePath := [] } } =
        (.ok (), benchPlatform.config) := rfl
  have hvalid := accepted_is_valid hload
  exact ⟨hvalid.1, rfl, hvalid.2.2.2⟩

end Ironsoft.Ekinox
