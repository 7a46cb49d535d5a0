import Ironsoft.EkinoxThrows

/-!
# JSON exceptions

The exceptions of jsoncpp come from the reader, when a text nests too deep, and from
`asInt` behind a test of the kind only. Which texts let one escape is decided by the text.
-/
namespace Ironsoft.Ekinox
open Effect

set_option synthInstance.maxSize 50000
set_option synthInstance.maxHeartbeats 200000

/-- A number that `int` can hold, after truncation if it is a real. -/
def Json.FitsInt : Json → Prop
  | .int n => minInt ≤ n.toInt ∧ n.toInt ≤ maxInt
  | .uint n => (n.toNat : ℤ) ≤ maxInt
  | .real (some q) => minInt ≤ q ∧ q ≤ maxInt
  | .real none => False
  | _ => True

/-- `isNumeric()` says nothing about the range `asInt()` needs. -/
theorem Json.asInt_returns_iff {v : Json} (h : v.isNumeric = true) :
    (∃ n, v.asInt = .ok n) ↔ v.FitsInt := by
  cases v with
  | int n =>
    by_cases hn : minInt ≤ n.toInt ∧ n.toInt ≤ maxInt
    · simp [asInt, isInt, FitsInt, hn]
    · simp [asInt, isInt, FitsInt, hn]
  | uint n =>
    by_cases hn : (n.toNat : ℤ) ≤ maxInt
    · simp [asInt, isInt, FitsInt, hn]
    · simp [asInt, isInt, FitsInt, hn]
  | real r =>
    cases r with
    | none => simp [asInt, FitsInt]
    | some q =>
      by_cases hq : (minInt : ℚ) ≤ q ∧ q ≤ maxInt
      · simp [asInt, inIntRange, FitsInt, hq]
      · simp [asInt, inIntRange, FitsInt, hq]
  | null | bool | str | arr | obj => cases h

/-- A body that is read without an exception: the reader returns, and the `writeSpeed` of an
object, if it is a number, is one `int` can hold. -/
def BodySafe (parse : JsonParser) (body : Bytes) : Prop :=
  body = [] ∨ ∃ root, parse body = .ok root ∧
    ∀ o, root = some o → o.isObject = true → (o.get (bytes "writeSpeed")).isNumeric = true →
      (o.get (bytes "writeSpeed")).FitsInt

theorem enrichWriteSpeed_returns_iff (root : Json) (e : Enriched) :
    (∃ e', enrichWriteSpeed root e = .ok e') ↔
      ((root.get (bytes "writeSpeed")).isNumeric = true →
        (root.get (bytes "writeSpeed")).FitsInt) := by
  unfold enrichWriteSpeed
  dsimp only
  split_ifs with h
  · rw [← Json.asInt_returns_iff h]
    cases (root.get (bytes "writeSpeed")).asInt with
    | ok n => exact ⟨fun _ _ => ⟨n, rfl⟩, fun _ => ⟨_, rfl⟩⟩
    | error e => exact ⟨fun ⟨_, hr⟩ => (nomatch hr), fun hr => (nomatch (hr h).choose_spec)⟩
  · exact ⟨fun _ hn => absurd hn h, fun _ => ⟨_, rfl⟩⟩

theorem enrichFromObject_returns_iff (root : Json) (result : LoggerResult) :
    (∃ r, enrichFromObject root result = .ok r) ↔
      ((root.get (bytes "writeSpeed")).isNumeric = true →
        (root.get (bytes "writeSpeed")).FitsInt) := by
  rw [← enrichWriteSpeed_returns_iff root
    (enrichSession root (enrichMode root (enrichStatus root { result := result })))]
  unfold enrichFromObject
  dsimp only
  cases enrichWriteSpeed root
    (enrichSession root (enrichMode root (enrichStatus root { result := result }))) with
  | ok e => exact ⟨fun _ => ⟨e, rfl⟩, fun _ => ⟨_, rfl⟩⟩
  | error e => exact ⟨fun ⟨_, h⟩ => (nomatch h), fun ⟨_, h⟩ => (nomatch h)⟩

theorem enrichFromJson_returns_iff (parse : JsonParser) (result : LoggerResult) :
    (∃ r, enrichFromJson parse result = .ok r) ↔ BodySafe parse result.body := by
  unfold enrichFromJson BodySafe
  split_ifs with hbody
  · exact ⟨fun _ => .inl hbody, fun _ => ⟨result, rfl⟩⟩
  rw [or_iff_right hbody]
  cases parse result.body with
  | error e => exact ⟨fun ⟨_, h⟩ => (nomatch h), fun ⟨_, h, _⟩ => (nomatch h)⟩
  | ok root =>
    have hread (P : Option Json → Prop) :
        (∃ r, (.ok root : Except JsonException (Option Json)) = .ok r ∧ P r) ↔ P root := by
      simp
    rw [hread]
    cases root with
    | none => exact ⟨fun _ _ => nofun, fun _ => ⟨result, rfl⟩⟩
    | some o =>
      simp only [Option.some.injEq, forall_eq']
      split_ifs with hobj
      · rw [enrichFromObject_returns_iff]
        exact ⟨fun h _ => h, fun h => h hobj⟩
      · exact ⟨fun _ h => absurd h hobj, fun _ => ⟨result, rfl⟩⟩

/-- An exchange lets an exception escape through the body of a response only. -/
theorem performHttpRequest_returns_iff (parse : JsonParser) (reply : HttpReply) :
    (∃ r, performHttpRequest parse reply = .ok r) ↔
      ∀ httpCode body, reply = .response httpCode body → BodySafe parse body := by
  cases reply with
  | response httpCode body =>
    have hbody : (assembleResult (.response httpCode body)).body = body := by
      simp only [assembleResult]
      split_ifs <;> rfl
    simp only [performHttpRequest, enrichFromJson_returns_iff, hbody]
    exact ⟨fun h _ _ he => (HttpReply.response.inj he).2 ▸ h, fun h => h httpCode body rfl⟩
  | initFailed | failed => exact ⟨fun _ _ _ => nofun, fun _ => ⟨_, rfl⟩⟩

/-- Once the payload has been read, nothing a handler does with it throws. -/
theorem handleCommandMessage_returns_iff {env : Env} (hreturn : env.RepliesReturn) (payload : Bytes)
    (w : World) :
    (∀ e w', exec (handleCommandMessage payload) env w ≠ (.error (.json e), w')) ↔
      ∃ root, env.parse payload = .ok root := by
  cases hparse : env.parse payload with
  | error e =>
    have hrun : exec (handleCommandMessage payload) env w = (.error (.json e), w) := by
      simp only [handleCommandMessage, exec_bind, exec_read, hparse]
      rfl
    exact ⟨fun h => absurd hrun (h e w), fun ⟨_, h⟩ => (nomatch h)⟩
  | ok root =>
    refine ⟨fun _ => ⟨root, rfl⟩, fun _ e w' hrun => ?_⟩
    have hread : Throws env (· = .mqtt) (liftJson (env.parse payload)) :=
      liftJson_throws env _ fun e he => (nomatch hparse.symm.trans he)
    have hthrows :=
      handleCommandMessage_throws_of_read (p := (· = .mqtt)) (.inl rfl) (.inl hreturn) hread
    exact nomatch hthrows.error env _ hrun

/-- No JSON exception escapes if and only if the reader returns and a numeric `writeSpeed` of a
reply fits in `int`. -/
theorem json_exceptions_contained_iff (platform : Platform) :
    (∀ result, (∃ r, enrichFromJson platform.parse result = .ok r) ↔
      BodySafe platform.parse result.body) ∧
    (∀ reply, (∃ r, performHttpRequest platform.parse reply = .ok r) ↔
      ∀ httpCode body, reply = .response httpCode body → BodySafe platform.parse body) ∧
    ∀ inputs : Inputs, inputs.RepliesReturn → ∀ (payload : Bytes) (w : World),
      (∀ e w', exec (handleCommandMessage payload) ⟨platform, inputs⟩ w ≠ (.error (.json e), w')) ↔
        ∃ root, platform.parse payload = .ok root :=
  ⟨enrichFromJson_returns_iff platform.parse, performHttpRequest_returns_iff platform.parse,
    fun _ hreturn => handleCommandMessage_returns_iff hreturn⟩

theorem json_exceptions_contained_ping :
    ∀ e w', exec (handleCommandMessage (benchPayload (bytes "ping"))) ⟨benchPlatform, benchHealthy⟩
      (initialWorld benchPlatform.config benchHealthy) ≠ (.error (.json e), w') :=
  ((json_exceptions_contained_iff benchPlatform).2.2 benchHealthy (benchInputs_return _) _ _).mpr
    (benchPlatform_returns _)

/-- 1001 opening brackets. -/
def benchDeepText : Bytes := List.replicate 1001 '['.toUInt8

def benchSpeedText : Bytes := bytes "\x7b\"writeSpeed\":3000000000\x7d"

/-- The reader on these two texts. -/
def benchStrictParse : JsonParser := fun text =>
  if text = benchDeepText then .error .stackLimit
  else if text = benchSpeedText then
    .ok (some (.obj [(bytes "writeSpeed", .uint 3000000000)]))
  else .ok none

/-- A payload that nests too deep and a reply with a large number let an exception escape. -/
theorem json_exceptions_escape :
    let platform := { benchPlatform with parse := benchStrictParse }
    exec (handleCommandMessage benchDeepText) ⟨platform, benchHealthy⟩
        (initialWorld platform.config benchHealthy) =
      (.error (.json .stackLimit), initialWorld platform.config benchHealthy) ∧
    performHttpRequest benchStrictParse (.response 200 benchSpeedText) = .error .notConvertible := by
  refine ⟨?_, by decide +kernel⟩
  simp only [handleCommandMessage, exec_bind, exec_read, benchStrictParse, if_true]
  rfl

end Ironsoft.Ekinox
