import Ironsoft.EkinoxAcceptance
import Ironsoft.RuleModel
import Mathlib.Data.List.Nodup

/-!
# The rules of a configuration

The loader checks and stores field by field. It comes to the same as judging the document by a table of
rules, in their order, and reading all of it if none is broken.
-/
namespace Ironsoft.Ekinox
open Effect RuleModel

/-- An integer within bounds. -/
def Json.intWithin (lo hi : ℤ) (value : Json) : Bool :=
  match value.asInt with
  | .ok n => value.isInt && decide (lo ≤ n ∧ n ≤ hi)
  | .error _ => false

def Json.nonemptyText (value : Json) : Bool := value.isString && decide (value.asString ≠ [])

/-- A check of a field that may be absent. -/
def Json.orAbsent (meets : Json → Bool) (value : Json) : Bool := value.isNull || meets value

/-- What the document has to have at a path, and the error text where it does not. -/
def fieldRule (path : List Bytes) (meets : Json → Bool) (text : Bytes) : Rule Json LoadError :=
  ⟨fun root => meets (root.follow path), .failed text⟩

def mqttRules : List (Rule Json LoadError) :=
  [fieldRule [bytes "mqtt"] Json.isObject (bytes "missing mqtt"),
    fieldRule [bytes "mqtt", bytes "host"] Json.nonemptyText (bytes "missing mqtt.host"),
    fieldRule [bytes "mqtt", bytes "port"] (Json.intWithin 1 65535) (bytes "invalid mqtt.port"),
    fieldRule [bytes "mqtt", bytes "drone_id"] Json.nonemptyText (bytes "missing mqtt.drone_id")]

def ekinoxRules : List (Rule Json LoadError) :=
  [fieldRule [bytes "ekinox"] Json.isObject (bytes "missing ekinox"),
    fieldRule [bytes "ekinox", bytes "ip"] Json.nonemptyText (bytes "missing ekinox.ip"),
    fieldRule [bytes "ekinox", bytes "udp_port"] (Json.orAbsent (Json.intWithin 0 65535))
      (bytes "invalid ekinox.udp_port"),
    fieldRule [bytes "ekinox", bytes "udp_local_port"] (Json.orAbsent (Json.intWithin 0 65535))
      (bytes "invalid ekinox.udp_local_port"),
    fieldRule [bytes "ekinox", bytes "rest_port"] (Json.orAbsent (Json.intWithin 1 65535))
      (bytes "invalid ekinox.rest_port")]

def timeoutRule (field : Bytes) : Rule Json LoadError :=
  fieldRule [bytes "timeouts", field] (Json.orAbsent (Json.intWithin 1 Json.maxInt))
    (bytes "invalid " ++ field)

def timeoutRules : List (Rule Json LoadError) :=
  [timeoutRule (bytes "rx_dead_ms"), timeoutRule (bytes "udp_rx_timeout_ms"),
    timeoutRule (bytes "udp_rx_fail_threshold"), timeoutRule (bytes "udp_rx_ok_to_clear_threshold"),
    timeoutRule (bytes "start_timeout_ms"), timeoutRule (bytes "stop_timeout_ms"),
    timeoutRule (bytes "reconnect_backoff_ms"), timeoutRule (bytes "reconnect_backoff_max_ms"),
    timeoutRule (bytes "presence_timeout_ms")]

def configRules : List (Rule Json LoadError) :=
  fieldRule [] Json.isObject (bytes "config root must be object") :: mqttRules ++ ekinoxRules ++
    timeoutRules ++ [fieldRule [bytes "rest_api"] (Json.orAbsent Json.isObject)
      (bytes "rest_api must be object")]

theorem Json.asInt_real {q : ℚ} (h : (Json.real (some q)).isInt = true) :
    (Json.real (some q)).asInt = .ok q.num := by
  obtain ⟨hden, hlo, hhi⟩ : q.den = 1 ∧ minInt ≤ q.num ∧ q.num ≤ maxInt := of_decide_eq_true h
  have hq : (q.num : ℚ) = q := Rat.coe_int_num_of_den_eq_one hden
  have hrange : inIntRange q = true := by
    unfold inIntRange
    rw [← hq]
    exact decide_eq_true ⟨Rat.intCast_le_intCast.mpr hlo, Rat.intCast_le_intCast.mpr hhi⟩
  simp [asInt, hrange, hden]

theorem Json.asInt_of_isInt {value : Json} (h : value.isInt = true) :
    ∃ n, value.asInt = .ok n ∧ minInt ≤ n ∧ n ≤ maxInt := by
  cases value with
  | int n =>
    have hn : minInt ≤ n.toInt ∧ n.toInt ≤ maxInt := of_decide_eq_true h
    exact ⟨n.toInt, if_pos h, hn⟩
  | uint n =>
    have hn : (n.toNat : ℤ) ≤ maxInt := of_decide_eq_true h
    refine ⟨n.toNat, if_pos h, ?_, hn⟩
    unfold minInt
    omega
  | real v =>
    cases v with
    | none => cases h
    | some q =>
      obtain ⟨-, hlo, hhi⟩ : q.den = 1 ∧ minInt ≤ q.num ∧ q.num ≤ maxInt := of_decide_eq_true h
      exact ⟨q.num, asInt_real h, hlo, hhi⟩
  | _ => cases h

theorem Json.intWithin_of_isInt {value : Json} {lo hi n : ℤ} (h : value.isInt = true)
    (hn : value.asInt = .ok n) : value.intWithin lo hi = decide (lo ≤ n ∧ n ≤ hi) := by
  simp [intWithin, hn, h]

theorem Json.intWithin_of_not_isInt {value : Json} (lo hi : ℤ) (h : value.isInt = false) :
    value.intWithin lo hi = false := by
  unfold intWithin
  cases value.asInt <;> simp [h]

section Checks

variable {env : LoadEnv} {cfg : EkinoxConfig}

@[simp] theorem outcome_refuse {α : Type} (text : Bytes) :
    outcome (refuse text : Loader α) env cfg = throw (.failed text) := rfl

theorem outcome_requireText (value : Json) (text : Bytes) :
    outcome (requireText value text) env cfg =
      demand value.nonemptyText (.failed text) >>= fun _ => pure (value.asString, cfg) := by
  unfold requireText Json.nonemptyText
  cases hstring : value.isString with
  | false => rfl
  | true =>
    by_cases hempty : value.asString = []
    · simp [hempty, demand]
      rfl
    · simp [hempty, demand]

theorem outcome_requireObject (value : Json) (text : Bytes) :
    outcome (requireObject value text) env cfg =
      demand value.isObject (.failed text) >>= fun _ => pure ((), cfg) := by
  unfold requireObject
  cases value.isObject <;> rfl

theorem outcome_validatePort (value : Json) (field : Bytes) (allowZero : Bool) :
    outcome (validatePort value field allowZero) env cfg =
      demand (value.intWithin (minPort allowZero) 65535) (.failed (bytes "invalid " ++ field)) >>=
        fun _ => pure (intAt value, cfg) := by
  unfold validatePort
  cases hint : value.isInt with
  | false =>
    rw [Json.intWithin_of_not_isInt _ _ hint]
    rfl
  | true =>
    obtain ⟨n, hn, -, -⟩ := Json.asInt_of_isInt hint
    have hat : intAt value = Int32.ofInt n := by simp only [intAt, hn]
    have hcheck : outcome (if n < minPort allowZero ∨ n > 65535 then refuse (bytes "invalid " ++ field)
        else pure (Int32.ofInt n) : Loader Int32) env cfg =
        demand (decide (minPort allowZero ≤ n ∧ n ≤ 65535)) (.failed (bytes "invalid " ++ field)) >>=
          fun _ => pure (Int32.ofInt n, cfg) := by
      split_ifs with hout
      · rw [decide_eq_false (by omega)]
        rfl
      · rw [decide_eq_true (by omega)]
        rfl
    rw [Json.intWithin_of_isInt hint hn, hat, ← hcheck]
    simp only [Bool.true_eq_false, if_false, hn]
    rfl

theorem outcome_validatePositiveTimeout (value : Json) (field : Bytes) :
    outcome (validatePositiveTimeout value field) env cfg =
      demand (value.intWithin 1 Json.maxInt) (.failed (bytes "invalid " ++ field)) >>=
        fun _ => pure (intAt value, cfg) := by
  unfold validatePositiveTimeout
  cases hint : value.isInt with
  | false =>
    rw [Json.intWithin_of_not_isInt _ _ hint]
    rfl
  | true =>
    obtain ⟨n, hn, -, hmax⟩ := Json.asInt_of_isInt hint
    have hat : intAt value = Int32.ofInt n := by simp only [intAt, hn]
    have hcheck : outcome (if n ≤ 0 then refuse (bytes "invalid " ++ field)
        else pure (Int32.ofInt n) : Loader Int32) env cfg =
        demand (decide (1 ≤ n ∧ n ≤ Json.maxInt)) (.failed (bytes "invalid " ++ field)) >>=
          fun _ => pure (Int32.ofInt n, cfg) := by
      split_ifs with hout
      · rw [decide_eq_false (by omega)]
        rfl
      · rw [decide_eq_true (by omega)]
        rfl
    rw [Json.intWithin_of_isInt hint hn, hat, ← hcheck]
    simp only [Bool.true_eq_false, if_false, hn]

theorem outcome_readOptional {value : Json} {target : Int32} {validate : Json → Loader Int32}
    {meets : Json → Bool} {text : Bytes}
    (hvalidate : outcome (validate value) env cfg =
      demand (meets value) (.failed text) >>= fun _ => pure (intAt value, cfg)) :
    outcome (readOptional value target validate) env cfg =
      demand (value.orAbsent meets) (.failed text) >>= fun _ => pure (intOr value target, cfg) := by
  unfold readOptional intOr Json.orAbsent
  cases value.isNull with
  | true => rfl
  | false => exact hvalidate

theorem outcome_update {γ : Type} (P : Part EkinoxConfig γ) (f : γ → γ) :
    outcome (P.update f : Loader PUnit) env cfg = pure (⟨⟩, P.set (f (P.get cfg)) cfg) := rfl

theorem outcome_readText (value : Json) (store : Bytes → MqttCfg → MqttCfg) :
    outcome (readText value store) env cfg = pure ((), if value.isString then
      { cfg with mqtt := store value.asString cfg.mqtt } else cfg) := by
  unfold readText
  split_ifs <;> rfl

theorem outcome_loadAuth (auth : Json) :
    outcome (loadAuth auth) env cfg = pure ((), { cfg with mqtt := { cfg.mqtt with
      username := textOr (auth.get (bytes "username")) cfg.mqtt.username
      password := textOr (auth.get (bytes "password")) cfg.mqtt.password } }) := by
  unfold loadAuth
  by_cases hobject : auth.isObject = true
  · rw [if_pos hobject, outcome_bind, outcome_readText, pure_bind, outcome_readText]
    unfold textOr
    split_ifs <;> rfl
  · have hnull := Json.get_of_not_object (eq_false_of_ne_true hobject)
    rw [if_neg hobject, hnull, hnull]
    rfl

theorem outcome_loadTls (tls : Json) :
    outcome (loadTls tls) env cfg = pure ((), { cfg with mqtt := { cfg.mqtt with
      tlsEnabled := boolOr (tls.get (bytes "enabled")) cfg.mqtt.tlsEnabled
      caFile := textOr (tls.get (bytes "ca_file")) cfg.mqtt.caFile } }) := by
  have henabled (enabled : Json) : outcome (readTlsEnabled enabled) env cfg = pure ((), if enabled.isBool then
      { cfg with mqtt := { cfg.mqtt with tlsEnabled := enabled.asBool } } else cfg) := by
    unfold readTlsEnabled
    split_ifs <;> rfl
  unfold loadTls
  by_cases hobject : tls.isObject = true
  · rw [if_pos hobject, outcome_bind, henabled, pure_bind, outcome_readText]
    unfold textOr boolOr
    split_ifs <;> rfl
  · have hnull := Json.get_of_not_object (eq_false_of_ne_true hobject)
    rw [if_neg hobject, hnull, hnull]
    rfl

theorem outcome_loadMqtt (root : Json) :
    outcome (loadMqtt (root.get (bytes "mqtt"))) env cfg = judge mqttRules root >>= fun _ =>
      pure ((), { cfg with mqtt := readMqtt (root.get (bytes "mqtt")) cfg.mqtt }) := by
  unfold loadMqtt mqttRules
  simp only [outcome_bind, outcome_requireObject, outcome_requireText, outcome_validatePort, outcome_update,
    outcome_loadAuth, outcome_loadTls, bind_assoc, pure_bind, judge_cons, judge_nil]
  rfl

theorem outcome_readPort (value : Json) (target : Int32) (field : Bytes) (allowZero : Bool) :
    outcome (readOptional value target fun v => validatePort v field allowZero) env cfg =
      demand (value.orAbsent (Json.intWithin (minPort allowZero) 65535))
        (.failed (bytes "invalid " ++ field)) >>= fun _ => pure (intOr value target, cfg) :=
  outcome_readOptional (outcome_validatePort value field allowZero)

theorem outcome_loadEkinox (root : Json) :
    outcome (loadEkinox (root.get (bytes "ekinox"))) env cfg = judge ekinoxRules root >>= fun _ =>
      pure ((), { cfg with ekinox := readEkinoxNet (root.get (bytes "ekinox")) cfg.ekinox }) := by
  unfold loadEkinox ekinoxRules
  simp only [outcome_bind, outcome_get, outcome_requireObject, outcome_requireText, outcome_readPort,
    outcome_update, bind_assoc, pure_bind, judge_cons, judge_nil]
  rfl

theorem outcome_readTimeout (root : Json) (field : Bytes) (target : EkinoxTimeouts → Int32)
    (store : Int32 → EkinoxTimeouts → EkinoxTimeouts) :
    outcome (readTimeout (root.get (bytes "timeouts")) field target store) env cfg =
      demand ((timeoutRule field).meets root) (timeoutRule field).err >>= fun _ =>
        pure ((), { cfg with
          timeouts := store (intOr ((root.get (bytes "timeouts")).get field) (target cfg.timeouts))
            cfg.timeouts }) := by
  have hread (value : Json) (t : Int32) :
      outcome (readOptional value t fun v => validatePositiveTimeout v field) env cfg =
        demand (value.orAbsent (Json.intWithin 1 Json.maxInt)) (.failed (bytes "invalid " ++ field)) >>=
          fun _ => pure (intOr value t, cfg) :=
    outcome_readOptional (outcome_validatePositiveTimeout value field)
  unfold readTimeout
  rw [outcome_bind, outcome_get, pure_bind, outcome_bind, hread, bind_assoc]
  rfl

theorem outcome_loadTimeouts (root : Json) :
    outcome (loadTimeouts (root.get (bytes "timeouts"))) env cfg = judge timeoutRules root >>= fun _ =>
      pure ((), { cfg with timeouts := readTimeouts (root.get (bytes "timeouts")) cfg.timeouts }) := by
  unfold loadTimeouts timeoutRules
  by_cases hobject : (root.get (bytes "timeouts")).isObject = true
  · rw [if_pos hobject]
    simp only [outcome_bind, outcome_readTimeout, bind_assoc, pure_bind, judge_cons, judge_nil]
    rfl
  · have hnull := Json.get_of_not_object (eq_false_of_ne_true hobject)
    have hmeets (field : Bytes) : (timeoutRule field).meets root = true := by
      simp [timeoutRule, fieldRule, Json.follow, hnull, Json.orAbsent, Json.isNull]
    rw [if_neg hobject]
    simp only [judge_cons, judge_nil, hmeets, demand, if_true, pure_bind, readTimeouts, hnull, intOr,
      Json.isNull]
    rfl

theorem outcome_loadRestApi (root : Json) :
    outcome (loadRestApi (root.get (bytes "rest_api"))) env cfg =
      demand ((root.get (bytes "rest_api")).orAbsent Json.isObject)
        (.failed (bytes "rest_api must be object")) >>= fun _ =>
      pure ((), { cfg with restApi := readRestApi (root.get (bytes "rest_api")) cfg.restApi }) := by
  generalize root.get (bytes "rest_api") = restApi
  unfold loadRestApi Json.orAbsent readRestApi nonemptyOr
  by_cases hobject : restApi.isObject = true
  · simp only [hobject, Bool.or_true, demand, if_true, pure_bind, Bool.true_eq_false, and_false, if_false]
    split_ifs <;> rfl
  · have hother := eq_false_of_ne_true hobject
    have hnull := Json.get_of_not_object hother
    cases hn : restApi.isNull with
    | true => simp [hother, hnull, demand, Json.isString]
    | false =>
      simp only [hother, demand, Bool.false_or, Bool.false_eq_true, and_self, if_true, if_false, outcome_bind,
        outcome_refuse]
      rfl

/-- The document of the file. -/
def document (env : LoadEnv) (path : Bytes) : Except LoadError Json :=
  match env.file with
  | none => throw (.failed (bytes "failed to open " ++ path))
  | some content =>
    match env.parse content with
    | .error e => throw (.json e)
    | .ok none => throw (.failed (bytes "parse error"))
    | .ok (some root) => pure root

theorem outcome_loadJsonFile (path : Bytes) :
    outcome (loadJsonFile path) env cfg = document env path >>= fun root => pure (root, cfg) := by
  unfold loadJsonFile document
  rw [outcome_bind, outcome_read, pure_bind]
  cases hfile : env.file with
  | none => rfl
  | some content =>
    dsimp only
    cases hparse : env.parse content with
    | error e => rfl
    | ok root => cases root <;> rfl

end Checks

/-- **Loading.** Whatever the configuration held before, the loader comes to what the document stands for
if the document breaks none of the rules, and otherwise to the error of the first one it breaks. -/
theorem loader_judges (env : LoadEnv) (path : Bytes) (cfg : EkinoxConfig) :
    Prod.snd <$> outcome (loadEkinoxConfig path) env cfg =
      document env path >>= fun root => judge configRules root >>= fun _ => pure (readConfig root) := by
  unfold loadEkinoxConfig configRules
  simp only [outcome_bind, outcome_loadJsonFile, outcome_requireObject, outcome_modify, outcome_loadMqtt,
    outcome_loadEkinox, outcome_loadTimeouts, outcome_loadRestApi, bind_assoc, pure_bind, judge_cons,
    judge_append, judge_nil]
  simp only [map_bind, map_pure]
  rfl

theorem document_of_holds {env : LoadEnv} {root : Json} (h : env.Holds root) (path : Bytes) :
    document env path = pure root := by
  obtain ⟨content, hfile, hparse⟩ := h
  simp [document, hfile, hparse]

/-- Different rules have different texts, so a text tells which rule is broken. -/
theorem configRules_errors_nodup : (configRules.map Rule.err).Nodup := by decide +kernel

/-- **Acceptance.** The loader returns true for exactly the documents that break no rule, whatever the
configuration held before, and leaves what they stand for; otherwise its error is that of the first
broken rule, and of no other. -/
theorem config_accepted_iff {env : LoadEnv} {root : Json} (h : env.Holds root) (path : Bytes)
    (cfg : EkinoxConfig) :
    (∀ cfg', exec (loadEkinoxConfig path) env cfg = (.ok (), cfg') ↔
      (∀ rule ∈ configRules, rule.meets root = true) ∧ cfg' = readConfig root) ∧
    (∀ err, (∃ cfg', exec (loadEkinoxConfig path) env cfg = (.error err, cfg')) ↔
      ∃ earlier rule later, configRules = earlier ++ rule :: later ∧
        (∀ r ∈ earlier, r.meets root = true) ∧ rule.meets root = false ∧ rule.err = err) ∧
    ∀ rule ∈ configRules, ∀ rule' ∈ configRules, rule.err = rule'.err → rule = rule' := by
  have hjudged := loader_judges env path cfg
  rw [document_of_holds h, pure_bind] at hjudged
  refine ⟨fun cfg' => ?_, fun err => ?_, ?_⟩
  · rw [← judge_ok_iff]
    cases hexec : exec (loadEkinoxConfig path) env cfg with
    | mk result cfg₁ =>
      rw [outcome, hexec] at hjudged
      cases result with
      | ok a =>
        cases hj : judge configRules root with
        | ok u =>
          rw [hj] at hjudged
          have hread : cfg₁ = readConfig root := Except.ok.inj hjudged
          simp [hread, eq_comm]
        | error e =>
          rw [hj] at hjudged
          cases hjudged
      | error e =>
        cases hj : judge configRules root with
        | ok u =>
          rw [hj] at hjudged
          cases hjudged
        | error e' => simp
  · rw [← judge_error_iff]
    cases hexec : exec (loadEkinoxConfig path) env cfg with
    | mk result cfg₁ =>
      rw [outcome, hexec] at hjudged
      cases result with
      | ok a =>
        cases hj : judge configRules root with
        | ok u => simp
        | error e =>
          rw [hj] at hjudged
          cases hjudged
      | error e =>
        cases hj : judge configRules root with
        | ok u =>
          rw [hj] at hjudged
          cases hjudged
        | error e' =>
          rw [hj] at hjudged
          have herr : e = e' := Except.error.inj hjudged
          simp [herr]
  · exact fun rule hr rule' hr' => List.inj_on_of_nodup_map configRules_errors_nodup hr hr'

def benchBrokenJson : Json :=
  .obj [(bytes "mqtt", .obj [(bytes "host", .str (bytes "broker")), (bytes "port", .int 70000)])]

def benchBrokenText : Bytes :=
  bytes "\x7b\"mqtt\":\x7b\"host\":\"broker\",\"port\":70000\x7d\x7d"

def benchBrokenEnv : LoadEnv where
  parse content := .ok (if content = benchBrokenText then some benchBrokenJson else none)
  file := some benchBrokenText

/-- Of the port that is out of range, the drone and the endpoint that are missing, the first is told. -/
theorem config_accepted_iff_broken :
    ∃ cfg', exec (loadEkinoxConfig (bytes "config.json")) benchBrokenEnv {} =
      (.error (.failed (bytes "invalid mqtt.port")), cfg') := by
  have hholds : benchBrokenEnv.Holds benchBrokenJson :=
    ⟨benchBrokenText, rfl, congrArg Except.ok (if_pos rfl)⟩
  rw [(config_accepted_iff hholds (bytes "config.json") {}).2.1]
  refine ⟨configRules.take 3, _, configRules.drop 4, rfl, by decide, by decide, rfl⟩

end Ironsoft.Ekinox
