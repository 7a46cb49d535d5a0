import Ironsoft.EffectFrame
import Ironsoft.JsonValue

/-!
# Configuration

The configuration of the Ekinox service and its loader. A failed check leaves the loader
with an error text and whatever was written to the configuration before it.
-/
namespace Ironsoft.Ekinox
open Effect

structure MqttCfg where
  host : Bytes := []
  port : Int32 := 1883
  droneId : Bytes := []
  username : Bytes := []
  password : Bytes := []
  tlsEnabled : Bool := false
  caFile : Bytes := []
  deriving DecidableEq

structure EkinoxNetCfg where
  ip : Bytes := []
  udpPort : Int32 := 0
  udpLocalPort : Int32 := 0
  restPort : Int32 := 80
  deriving DecidableEq

structure RestApiConfig where
  basePath : Bytes := bytes "/api/v1"
  dataloggerPath : Bytes := bytes "/dataLogger"
  deriving DecidableEq

structure EkinoxTimeouts where
  rxDeadMs : Int32 := 1500
  udpRxTimeoutMs : Int32 := 5000
  udpRxFailThreshold : Int32 := 3
  udpRxOkToClearThreshold : Int32 := 2
  startTimeoutMs : Int32 := 10000
  stopTimeoutMs : Int32 := 10000
  reconnectBackoffMs : Int32 := 250
  reconnectBackoffMaxMs : Int32 := 2000
  presenceTimeoutMs : Int32 := 5000
  deriving DecidableEq

structure EkinoxConfig where
  mqtt : MqttCfg := {}
  ekinox : EkinoxNetCfg := {}
  timeouts : EkinoxTimeouts := {}
  restApi : RestApiConfig := {}
  deriving DecidableEq

/-- A load fails with an error text, or by an exception of the JSON reader. -/
inductive LoadError
  | failed (err : Bytes)
  | json (e : JsonException)
  deriving DecidableEq

structure LoadEnv where
  parse : JsonParser
  /-- The content of the file, if it can be opened. -/
  file : Option Bytes

abbrev Loader := Prog LoadEnv EkinoxConfig LoadError

def atMqtt : Part EkinoxConfig MqttCfg := ⟨EkinoxConfig.mqtt, fun v c => { c with mqtt := v }⟩
def atEkinoxNet : Part EkinoxConfig EkinoxNetCfg :=
  ⟨EkinoxConfig.ekinox, fun v c => { c with ekinox := v }⟩
def atTimeouts : Part EkinoxConfig EkinoxTimeouts :=
  ⟨EkinoxConfig.timeouts, fun v c => { c with timeouts := v }⟩
def atRestApi : Part EkinoxConfig RestApiConfig :=
  ⟨EkinoxConfig.restApi, fun v c => { c with restApi := v }⟩

def refuse {α : Type} (err : Bytes) : Loader α := throw (.failed err)

def validatePort (value : Json) (field : Bytes) (allowZero : Bool) : Loader Int32 :=
  if value.isInt = false then refuse (bytes "invalid " ++ field)
  else match value.asInt with
    | .error e => throw (.json e)
    | .ok port =>
      let minPort := if allowZero then 0 else 1
      if port < minPort ∨ port > 65535 then refuse (bytes "invalid " ++ field)
      else pure (Int32.ofInt port)

def validatePositiveTimeout (value : Json) (field : Bytes) : Loader Int32 :=
  if value.isInt = false then refuse (bytes "invalid " ++ field)
  else match value.asInt with
    | .error e => throw (.json e)
    | .ok val =>
      if val ≤ 0 then refuse (bytes "invalid " ++ field)
      else pure (Int32.ofInt val)

def loadJsonFile (path : Bytes) : Loader Json := do
  let env ← read
  match env.file with
  | none => refuse (bytes "failed to open " ++ path)
  | some content =>
    match env.parse content with
    | .error e => throw (.json e)
    -- the reader's own error text is not modelled
    | .ok none => refuse (bytes "parse error")
    | .ok (some root) => pure root

/-- A string member that has to be there and not be empty. -/
def requireText (value : Json) (err : Bytes) : Loader Bytes :=
  if value.isString = false ∨ value.asString = [] then refuse err else pure value.asString

/-- `value` if it is there, checked by `validate`; `target` otherwise. -/
def readOptional (value : Json) (target : Int32) (validate : Json → Loader Int32) : Loader Int32 :=
  if value.isNull then pure target else validate value

def requireObject (value : Json) (err : Bytes) : Loader Unit :=
  if value.isObject = false then refuse err else pure ()

/-- An optional string member. -/
def readText (value : Json) (store : Bytes → MqttCfg → MqttCfg) : Loader Unit :=
  if value.isString then atMqtt.update (store value.asString) else pure ()

def loadAuth (auth : Json) : Loader Unit := do
  if auth.isObject then
    readText (auth.get (bytes "username")) fun v m => { m with username := v }
    readText (auth.get (bytes "password")) fun v m => { m with password := v }

def readTlsEnabled (enabled : Json) : Loader Unit :=
  if enabled.isBool then atMqtt.update fun m => { m with tlsEnabled := enabled.asBool }
  else pure ()

def loadTls (tls : Json) : Loader Unit := do
  if tls.isObject then
    readTlsEnabled (tls.get (bytes "enabled"))
    readText (tls.get (bytes "ca_file")) fun v m => { m with caFile := v }

def loadMqtt (mqtt : Json) : Loader Unit := do
  requireObject mqtt (bytes "missing mqtt")
  let host ← requireText (mqtt.get (bytes "host")) (bytes "missing mqtt.host")
  atMqtt.update fun m => { m with host := host }
  let port ← validatePort (mqtt.get (bytes "port")) (bytes "mqtt.port") false
  atMqtt.update fun m => { m with port := port }
  let droneId ← requireText (mqtt.get (bytes "drone_id")) (bytes "missing mqtt.drone_id")
  atMqtt.update fun m => { m with droneId := droneId }
  loadAuth (mqtt.get (bytes "auth"))
  loadTls (mqtt.get (bytes "tls"))

def loadEkinox (ekinox : Json) : Loader Unit := do
  requireObject ekinox (bytes "missing ekinox")
  let ip ← requireText (ekinox.get (bytes "ip")) (bytes "missing ekinox.ip")
  atEkinoxNet.update fun e => { e with ip := ip }
  let udpPort ← readOptional (ekinox.get (bytes "udp_port")) (← get).ekinox.udpPort
    fun v => validatePort v (bytes "ekinox.udp_port") true
  atEkinoxNet.update fun e => { e with udpPort := udpPort }
  let udpLocalPort ← readOptional (ekinox.get (bytes "udp_local_port")) (← get).ekinox.udpLocalPort
    fun v => validatePort v (bytes "ekinox.udp_local_port") true
  atEkinoxNet.update fun e => { e with udpLocalPort := udpLocalPort }
  let restPort ← readOptional (ekinox.get (bytes "rest_port")) (← get).ekinox.restPort
    fun v => validatePort v (bytes "ekinox.rest_port") false
  atEkinoxNet.update fun e => { e with restPort := restPort }

/-- One timeout field, kept at its value if it is absent. -/
def readTimeout (timeouts : Json) (field : Bytes) (target : EkinoxTimeouts → Int32)
    (store : Int32 → EkinoxTimeouts → EkinoxTimeouts) : Loader Unit := do
  let val ← readOptional (timeouts.get field) (target (← get).timeouts)
    fun v => validatePositiveTimeout v field
  atTimeouts.update (store val)

def loadTimeouts (timeouts : Json) : Loader Unit := do
  if timeouts.isObject then
    readTimeout timeouts (bytes "rx_dead_ms") EkinoxTimeouts.rxDeadMs
      fun v t => { t with rxDeadMs := v }
    readTimeout timeouts (bytes "udp_rx_timeout_ms") EkinoxTimeouts.udpRxTimeoutMs
      fun v t => { t with udpRxTimeoutMs := v }
    readTimeout timeouts (bytes "udp_rx_fail_threshold") EkinoxTimeouts.udpRxFailThreshold
      fun v t => { t with udpRxFailThreshold := v }
    readTimeout timeouts (bytes "udp_rx_ok_to_clear_threshold")
      EkinoxTimeouts.udpRxOkToClearThreshold fun v t => { t with udpRxOkToClearThreshold := v }
    readTimeout timeouts (bytes "start_timeout_ms") EkinoxTimeouts.startTimeoutMs
      fun v t => { t with startTimeoutMs := v }
    readTimeout timeouts (bytes "stop_timeout_ms") EkinoxTimeouts.stopTimeoutMs
      fun v t => { t with stopTimeoutMs := v }
    readTimeout timeouts (bytes "reconnect_backoff_ms") EkinoxTimeouts.reconnectBackoffMs
      fun v t => { t with reconnectBackoffMs := v }
    readTimeout timeouts (bytes "reconnect_backoff_max_ms") EkinoxTimeouts.reconnectBackoffMaxMs
      fun v t => { t with reconnectBackoffMaxMs := v }
    readTimeout timeouts (bytes "presence_timeout_ms") EkinoxTimeouts.presenceTimeoutMs
      fun v t => { t with presenceTimeoutMs := v }

def loadRestApi (restApi : Json) : Loader Unit := do
  if restApi.isNull = false ∧ restApi.isObject = false then
    refuse (bytes "rest_api must be object")
  if restApi.isObject then
    let basePath := restApi.get (bytes "base_path")
    if basePath.isString ∧ basePath.asString ≠ [] then
      atRestApi.update fun r => { r with basePath := basePath.asString }
    let dataloggerPath := restApi.get (bytes "datalogger_path")
    if dataloggerPath.isString ∧ dataloggerPath.asString ≠ [] then
      atRestApi.update fun r => { r with dataloggerPath := dataloggerPath.asString }

def loadEkinoxConfig (path : Bytes) : Loader Unit := do
  let root ← loadJsonFile path
  requireObject root (bytes "config root must be object")
  modify fun _ => {}
  loadMqtt (root.get (bytes "mqtt"))
  loadEkinox (root.get (bytes "ekinox"))
  loadTimeouts (root.get (bytes "timeouts"))
  loadRestApi (root.get (bytes "rest_api"))

/-- The configurations the service is started with: `main` gives up unless the loader
returns true. -/
def Accepted (config : EkinoxConfig) : Prop :=
  ∃ env path cfg, exec (loadEkinoxConfig path) env cfg = (.ok (), config)

structure EkinoxNetCfg.HasEndpoint (net : EkinoxNetCfg) : Prop where
  ip : net.ip ≠ []
  restPort : 0 < net.restPort

section Endpoint

set_option synthInstance.maxSize 50000

variable (env : LoadEnv)

instance : atMqtt.Ignored (Keeping EkinoxConfig.ekinox) := ⟨fun _ _ => rfl⟩
instance : atTimeouts.Ignored (Keeping EkinoxConfig.ekinox) := ⟨fun _ _ => rfl⟩
instance : atRestApi.Ignored (Keeping EkinoxConfig.ekinox) := ⟨fun _ _ => rfl⟩

section Checks

variable (R : EkinoxConfig → EkinoxConfig → Prop) [IsPreorder EkinoxConfig R]

instance {α : Type} (err : Bytes) : Respects env R (refuse err : Loader α) := by
  unfold refuse
  infer_instance

instance (value : Json) (err : Bytes) : Respects env R (requireText value err) := by
  unfold requireText
  infer_instance

instance (value : Json) (field : Bytes) (allowZero : Bool) :
    Respects env R (validatePort value field allowZero) := by
  unfold validatePort
  cases value.asInt <;> infer_instance

instance (value : Json) (field : Bytes) : Respects env R (validatePositiveTimeout value field) := by
  unfold validatePositiveTimeout
  cases value.asInt <;> infer_instance

instance (value : Json) (target : Int32) (validate : Json → Loader Int32)
    [∀ v, Respects env R (validate v)] : Respects env R (readOptional value target validate) := by
  unfold readOptional
  infer_instance

instance (value : Json) (err : Bytes) : Respects env R (requireObject value err) := by
  unfold requireObject
  infer_instance

instance (path : Bytes) : Respects env R (loadJsonFile path) := by
  unfold loadJsonFile
  apply Respects.of_read
  split
  · infer_instance
  · split <;> infer_instance

end Checks

instance (value : Json) (store : Bytes → MqttCfg → MqttCfg) :
    Respects env (Keeping EkinoxConfig.ekinox) (readText value store) := by
  unfold readText
  infer_instance

instance (mqtt : Json) : Respects env (Keeping EkinoxConfig.ekinox) (loadMqtt mqtt) := by
  unfold loadMqtt loadAuth loadTls readTlsEnabled
  infer_instance

instance (timeouts : Json) (field : Bytes) (target : EkinoxTimeouts → Int32)
    (store : Int32 → EkinoxTimeouts → EkinoxTimeouts) :
    Respects env (Keeping EkinoxConfig.ekinox) (readTimeout timeouts field target store) := by
  unfold readTimeout
  infer_instance

instance (timeouts : Json) : Respects env (Keeping EkinoxConfig.ekinox) (loadTimeouts timeouts) := by
  unfold loadTimeouts
  infer_instance

instance (restApi : Json) : Respects env (Keeping EkinoxConfig.ekinox) (loadRestApi restApi) := by
  unfold loadRestApi
  dsimp only
  infer_instance

theorem validatePort_pos (value : Json) (field : Bytes) (cfg : EkinoxConfig) :
    wp (validatePort value field false) env (fun port cfg' => 0 < port ∧ cfg' = cfg)
      (fun _ _ => True) cfg := by
  unfold validatePort refuse
  cases value.asInt with
  | error e => split_ifs <;> simp
  | ok port =>
    simp only [Bool.false_eq_true, if_false, wp_ite, wp_throw, wp_pure]
    split_ifs with hint hrange
    refine ⟨?_, trivial⟩
    rw [Int32.lt_iff_toInt_lt, Int32.toInt_ofInt_of_le (by omega) (by omega)]
    change (0 : ℤ) < port
    omega

theorem requireText_ne_nil (value : Json) (err : Bytes) (cfg : EkinoxConfig) :
    wp (requireText value err) env (fun text cfg' => text ≠ [] ∧ cfg' = cfg) (fun _ _ => True)
      cfg := by
  unfold requireText refuse
  simp only [wp_ite, wp_throw, wp_pure]
  split_ifs with h
  exact ⟨fun hnil => h (.inr hnil), trivial⟩

theorem readOptional_pos (value : Json) {target : Int32} (htarget : 0 < target) (field : Bytes)
    (cfg : EkinoxConfig) :
    wp (readOptional value target fun v => validatePort v field false) env
      (fun port cfg' => 0 < port ∧ cfg' = cfg) (fun _ _ => True) cfg := by
  unfold readOptional
  rw [wp_ite]
  split_ifs
  · exact ⟨htarget, rfl⟩
  · exact validatePort_pos env value field cfg

/-- What only looks at the configuration leaves it as it is. -/
theorem wp_same {α : Type} {x : Loader α} (h : Respects env (Keeping id) x) (cfg : EkinoxConfig) :
    wp x env (fun _ cfg' => cfg' = cfg) (fun _ _ => True) cfg :=
  wp_mono (respects_iff_wp.mp h cfg) (fun _ _ hcfg => hcfg) fun _ _ _ => trivial

/-- The `ekinox` section the loader leaves behind names an endpoint. -/
theorem loadEkinox_endpoint (ekinox : Json) {cfg : EkinoxConfig} (hcfg : 0 < cfg.ekinox.restPort) :
    wp (loadEkinox ekinox) env (fun _ cfg' => cfg'.ekinox.HasEndpoint) (fun _ _ => True) cfg := by
  unfold loadEkinox
  rw [wp_bind]
  refine wp_mono (wp_same env inferInstance cfg) (fun _ c hc => ?_) fun _ _ => id
  subst hc
  rw [wp_bind]
  refine wp_mono (requireText_ne_nil env _ _ c) (fun ip c₁ hw => ?_) fun _ _ => id
  obtain ⟨hip, rfl⟩ := hw
  rw [wp_bind, Part.wp_update, wp_bind, wp_get, wp_bind]
  refine wp_mono (wp_same env inferInstance _) (fun udpPort c₂ hc₂ => ?_) fun _ _ => id
  rw [wp_bind, Part.wp_update, wp_bind, wp_get, wp_bind]
  refine wp_mono (wp_same env inferInstance _) (fun udpLocalPort c₃ hc₃ => ?_) fun _ _ => id
  rw [wp_bind, Part.wp_update, wp_bind, wp_get, wp_bind]
  have hport : 0 < (atEkinoxNet.set { (atEkinoxNet.get c₃) with udpLocalPort } c₃).ekinox.restPort := by
    rw [hc₃, hc₂]
    exact hcfg
  refine wp_mono (readOptional_pos env _ hport _ _) (fun restPort c₄ hw => ?_) fun _ _ => id
  obtain ⟨hpos, hc₄⟩ := hw
  rw [Part.wp_update]
  refine ⟨?_, hpos⟩
  rw [hc₄, hc₃, hc₂]
  exact hip

theorem loadEkinoxConfig_endpoint (path : Bytes) (cfg : EkinoxConfig) :
    wp (loadEkinoxConfig path) env (fun _ cfg' => cfg'.ekinox.HasEndpoint) (fun _ _ => True) cfg := by
  unfold loadEkinoxConfig
  rw [wp_bind]
  refine wp_mono (wp_same env inferInstance cfg) (fun root c _ => ?_) fun _ _ => id
  rw [wp_bind]
  refine wp_mono (wp_same env inferInstance c) (fun _ c₁ _ => ?_) fun _ _ => id
  rw [wp_bind, wp_modify, wp_bind]
  have hmqtt : Respects env (Keeping EkinoxConfig.ekinox) (loadMqtt (root.get (bytes "mqtt"))) :=
    inferInstance
  refine wp_mono (respects_iff_wp.mp hmqtt {}) (fun _ c₂ hc₂ => ?_) fun _ _ _ => trivial
  rw [wp_bind]
  have hport : 0 < c₂.ekinox.restPort := by
    rw [show c₂.ekinox = {} from hc₂]
    decide
  refine wp_mono (loadEkinox_endpoint env _ hport) (fun _ c₃ hc₃ => ?_) fun _ _ => id
  have hrest : Respects env (Keeping EkinoxConfig.ekinox) (do
      loadTimeouts (root.get (bytes "timeouts"))
      loadRestApi (root.get (bytes "rest_api"))) := inferInstance
  refine wp_mono (respects_iff_wp.mp hrest c₃) (fun _ c₄ hc₄ => ?_) fun _ _ _ => trivial
  rw [show c₄.ekinox = c₃.ekinox from hc₄]
  exact hc₃

end Endpoint

theorem Accepted.hasEndpoint {config : EkinoxConfig} (h : Accepted config) :
    config.ekinox.HasEndpoint := by
  obtain ⟨env, path, cfg, hload⟩ := h
  have hend := loadEkinoxConfig_endpoint env path cfg
  rwa [wp, hload] at hend

structure EkinoxTimeouts.Positive (t : EkinoxTimeouts) : Prop where
  rxDeadMs : 0 < t.rxDeadMs
  udpRxTimeoutMs : 0 < t.udpRxTimeoutMs
  udpRxFailThreshold : 0 < t.udpRxFailThreshold
  udpRxOkToClearThreshold : 0 < t.udpRxOkToClearThreshold
  startTimeoutMs : 0 < t.startTimeoutMs
  stopTimeoutMs : 0 < t.stopTimeoutMs
  reconnectBackoffMs : 0 < t.reconnectBackoffMs
  reconnectBackoffMaxMs : 0 < t.reconnectBackoffMaxMs
  presenceTimeoutMs : 0 < t.presenceTimeoutMs

theorem EkinoxTimeouts.positive_default : EkinoxTimeouts.Positive {} := by
  constructor <;> decide

theorem Json.asInt_le {value : Json} {val : ℤ} (hint : value.isInt = true)
    (hval : value.asInt = .ok val) : val ≤ maxInt := by
  cases value with
  | int n =>
    simp only [asInt, hint, if_true, Except.ok.injEq] at hval
    simp only [isInt, decide_eq_true_eq] at hint
    omega
  | uint n =>
    simp only [asInt, hint, if_true, Except.ok.injEq] at hval
    simp only [isInt, decide_eq_true_eq] at hint
    omega
  | real v =>
    cases v with
    | none => simp [isInt] at hint
    | some q =>
      simp only [isInt, decide_eq_true_eq] at hint
      simp only [asInt, hint.1, Int.natCast_one, Int.tdiv_one] at hval
      split_ifs at hval
      simp only [Except.ok.injEq] at hval
      omega
  | _ => simp [isInt] at hint

section Timeouts

set_option synthInstance.maxSize 50000

variable (env : LoadEnv)

theorem validatePositiveTimeout_pos (value : Json) (field : Bytes) (cfg : EkinoxConfig) :
    wp (validatePositiveTimeout value field) env (fun val cfg' => 0 < val ∧ cfg' = cfg)
      (fun _ _ => True) cfg := by
  unfold validatePositiveTimeout refuse
  cases hval : value.asInt with
  | error e => split_ifs <;> simp
  | ok val =>
    simp only [wp_ite, wp_throw, wp_pure]
    split_ifs with hint hrange
    have hmax : val ≤ 2147483647 := Json.asInt_le (eq_true_of_ne_false hint) hval
    refine ⟨?_, trivial⟩
    rw [Int32.lt_iff_toInt_lt, Int32.toInt_ofInt_of_le (by omega) (by omega)]
    change (0 : ℤ) < val
    omega

/-- `target` reads a timeout that has to be positive, `store` writes it. -/
class TimeoutField (target : EkinoxTimeouts → Int32) (store : Int32 → EkinoxTimeouts → EkinoxTimeouts) :
    Prop where
  pos : ∀ {t : EkinoxTimeouts}, t.Positive → 0 < target t
  stored : ∀ {t : EkinoxTimeouts} {v : Int32}, t.Positive → 0 < v → (store v t).Positive

instance : TimeoutField EkinoxTimeouts.rxDeadMs fun v t => { t with rxDeadMs := v } :=
  ⟨fun h => h.rxDeadMs, fun h hv => { h with rxDeadMs := hv }⟩
instance : TimeoutField EkinoxTimeouts.udpRxTimeoutMs fun v t => { t with udpRxTimeoutMs := v } :=
  ⟨fun h => h.udpRxTimeoutMs, fun h hv => { h with udpRxTimeoutMs := hv }⟩
instance :
    TimeoutField EkinoxTimeouts.udpRxFailThreshold fun v t => { t with udpRxFailThreshold := v } :=
  ⟨fun h => h.udpRxFailThreshold, fun h hv => { h with udpRxFailThreshold := hv }⟩
instance : TimeoutField EkinoxTimeouts.udpRxOkToClearThreshold
    fun v t => { t with udpRxOkToClearThreshold := v } :=
  ⟨fun h => h.udpRxOkToClearThreshold, fun h hv => { h with udpRxOkToClearThreshold := hv }⟩
instance : TimeoutField EkinoxTimeouts.startTimeoutMs fun v t => { t with startTimeoutMs := v } :=
  ⟨fun h => h.startTimeoutMs, fun h hv => { h with startTimeoutMs := hv }⟩
instance : TimeoutField EkinoxTimeouts.stopTimeoutMs fun v t => { t with stopTimeoutMs := v } :=
  ⟨fun h => h.stopTimeoutMs, fun h hv => { h with stopTimeoutMs := hv }⟩
instance :
    TimeoutField EkinoxTimeouts.reconnectBackoffMs fun v t => { t with reconnectBackoffMs := v } :=
  ⟨fun h => h.reconnectBackoffMs, fun h hv => { h with reconnectBackoffMs := hv }⟩
instance : TimeoutField EkinoxTimeouts.reconnectBackoffMaxMs
    fun v t => { t with reconnectBackoffMaxMs := v } :=
  ⟨fun h => h.reconnectBackoffMaxMs, fun h hv => { h with reconnectBackoffMaxMs := hv }⟩
instance :
    TimeoutField EkinoxTimeouts.presenceTimeoutMs fun v t => { t with presenceTimeoutMs := v } :=
  ⟨fun h => h.presenceTimeoutMs, fun h hv => { h with presenceTimeoutMs := hv }⟩

def TimeoutsPositive (cfg : EkinoxConfig) : Prop := cfg.timeouts.Positive

instance : atMqtt.Ignored (Preserving TimeoutsPositive) := ⟨fun _ _ => id⟩
instance : atEkinoxNet.Ignored (Preserving TimeoutsPositive) := ⟨fun _ _ => id⟩
instance : atRestApi.Ignored (Preserving TimeoutsPositive) := ⟨fun _ _ => id⟩

instance (value : Json) (store : Bytes → MqttCfg → MqttCfg) :
    Respects env (Preserving TimeoutsPositive) (readText value store) := by
  unfold readText
  infer_instance

instance (timeouts : Json) (field : Bytes) (target : EkinoxTimeouts → Int32)
    (store : Int32 → EkinoxTimeouts → EkinoxTimeouts) [hfield : TimeoutField target store] :
    Respects env (Preserving TimeoutsPositive) (readTimeout timeouts field target store) := by
  rw [respects_iff_wp]
  intro cfg
  simp only [readTimeout, readOptional, wp_bind, wp_get, wp_ite, wp_pure, Part.wp_update]
  split_ifs
  · exact fun hcfg => hfield.stored hcfg (hfield.pos hcfg)
  · refine wp_mono (wp_and (validatePositiveTimeout_pos env _ _ cfg)
      (respects_iff_wp.mp inferInstance cfg)) (fun val cfg' hval => ?_) fun _ _ h => h.2
    obtain ⟨⟨hpos, rfl⟩, -⟩ := hval
    exact fun hcfg => hfield.stored hcfg hpos

theorem loadEkinoxConfig_timeouts (path : Bytes) (cfg : EkinoxConfig) :
    wp (loadEkinoxConfig path) env (fun _ cfg' => TimeoutsPositive cfg') (fun _ _ => True) cfg := by
  unfold loadEkinoxConfig
  rw [wp_bind]
  refine wp_mono (wp_same env inferInstance cfg) (fun root c _ => ?_) fun _ _ => id
  rw [wp_bind]
  refine wp_mono (wp_same env inferInstance c) (fun _ c₁ _ => ?_) fun _ _ => id
  rw [wp_bind, wp_modify]
  have hrest : Respects env (Preserving TimeoutsPositive) (do
      loadMqtt (root.get (bytes "mqtt"))
      loadEkinox (root.get (bytes "ekinox"))
      loadTimeouts (root.get (bytes "timeouts"))
      loadRestApi (root.get (bytes "rest_api"))) := by
    unfold loadMqtt loadAuth loadTls readTlsEnabled loadEkinox loadTimeouts loadRestApi
    dsimp only
    infer_instance
  refine wp_mono (respects_iff_wp.mp hrest {}) (fun _ c₂ hc₂ => ?_) fun _ _ _ => trivial
  exact hc₂ EkinoxTimeouts.positive_default

end Timeouts

theorem Accepted.timeoutsPositive {config : EkinoxConfig} (h : Accepted config) :
    config.timeouts.Positive := by
  obtain ⟨env, path, cfg, hload⟩ := h
  have hend := loadEkinoxConfig_timeouts env path cfg
  rwa [wp, hload] at hend

end Ironsoft.Ekinox
