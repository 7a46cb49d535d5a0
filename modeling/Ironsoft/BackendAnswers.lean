import Ironsoft.BackendLoop
import Ironsoft.EkinoxLoop

/-!
# What the backend answers

A command is acked and the message loop goes on if and only if the handler returns, that is, if
the type it looks for can be read.
-/
namespace Ironsoft.Backend
open Effect Ekinox

/-- A value that is neither an array nor an object. -/
def HasText (v : Json) : Prop := (∀ items, v ≠ .arr items) ∧ ∀ members, v ≠ .obj members

/-- Null, or an object whose type, if it has one, is neither an array nor an object. -/
def TypeReadable (root : Json) : Prop :=
  root = .null ∨ root.isObject = true ∧ HasText (root.get (bytes "type"))

/-- The reader returns, without a value or with one whose type can be read. -/
def Answerable (json : JsonCpp) (payload : Bytes) : Prop :=
  ∃ parsed, json.parse payload = .ok parsed ∧ ∀ root ∈ parsed, TypeReadable root

theorem textOf_returns_iff (realText : Option ℚ → Bytes) (v : Json) :
    (∃ text, textOf realText v = .ok text) ↔ HasText v := by
  cases v with
  | arr items =>
    refine iff_of_false ?_ fun h => h.1 items rfl
    rintro ⟨_, h⟩
    cases h
  | obj members =>
    refine iff_of_false ?_ fun h => h.2 members rfl
    rintro ⟨_, h⟩
    cases h
  | null | bool | int | uint | real | str =>
    exact iff_of_true ⟨_, rfl⟩ ⟨fun _ h => Json.noConfusion h, fun _ h => Json.noConfusion h⟩

theorem readType_returns_iff (json : JsonCpp) (root : Json) :
    (∃ type, readType json root = .ok type) ↔ TypeReadable root := by
  cases root with
  | null => exact iff_of_true ⟨[], rfl⟩ (.inl rfl)
  | obj members =>
    have htype : (∃ type, textOf json.realText ((members.lookup (bytes "type")).getD (.str [])) =
        .ok type) ↔ HasText ((members.lookup (bytes "type")).getD .null) := by
      rw [textOf_returns_iff]
      cases members.lookup (bytes "type") with
      | none =>
        exact iff_of_true ⟨fun _ h => Json.noConfusion h, fun _ h => Json.noConfusion h⟩
          ⟨fun _ h => Json.noConfusion h, fun _ h => Json.noConfusion h⟩
      | some v => exact Iff.rfl
    refine htype.trans ⟨fun h => .inr ⟨rfl, h⟩, fun h => ?_⟩
    exact (h.resolve_left fun hnull => Json.noConfusion hnull).2
  | bool | int | uint | real | str | arr =>
    refine iff_of_false ?_ ?_
    · rintro ⟨_, h⟩
      cases h
    · rintro (h | ⟨h, -⟩)
      · cases h
      · cases h

theorem handleCmdPingOnly_of_parse {json : JsonCpp} {payload : Bytes} {root : Json}
    (h : json.parse payload = .ok (some root)) :
    handleCmdPingOnly json payload = answerType <$> readType json root := by
  unfold handleCmdPingOnly JsonCpp.parseFromStream
  rw [h]
  rfl

/-- The handler returns exactly for the payloads that can be read. -/
theorem handleCmdPingOnly_returns_iff (json : JsonCpp) (payload : Bytes) :
    (∃ res, handleCmdPingOnly json payload = .ok res) ↔ Answerable json payload := by
  cases hparse : json.parse payload with
  | error e =>
    refine iff_of_false ?_ ?_
    · rintro ⟨_, h⟩
      unfold handleCmdPingOnly JsonCpp.parseFromStream at h
      rw [hparse] at h
      cases h
    · rintro ⟨_, h, -⟩
      cases hparse.symm.trans h
  | ok parsed =>
    cases parsed with
    | none =>
      refine iff_of_true ⟨⟨false, [], bytes "BAD_JSON"⟩, ?_⟩ ⟨none, hparse, fun _ h => by cases h⟩
      unfold handleCmdPingOnly JsonCpp.parseFromStream
      rw [hparse]
      rfl
    | some root =>
      rw [handleCmdPingOnly_of_parse hparse]
      constructor
      · rintro ⟨res, h⟩
        refine ⟨_, hparse, fun _ hmem => ?_⟩
        obtain rfl := Option.some.inj hmem
        rw [← readType_returns_iff json]
        cases htype : readType json root with
        | error e =>
          rw [htype] at h
          cases h
        | ok type => exact ⟨type, rfl⟩
      · rintro ⟨parsed, h, hreadable⟩
        obtain rfl := Except.ok.inj (hparse.symm.trans h)
        obtain ⟨type, htype⟩ := (readType_returns_iff json root).mpr (hreadable root rfl)
        rw [htype]
        exact ⟨_, rfl⟩

section Loop

variable {env : Env} {w : World}

/-- A command in the message loop publishes exactly one ack, and the loop goes on to the next
message without resetting `connected`. -/
def AnsweredOnce (env : Env) (payload : Bytes) (w : World) : Prop :=
  ∃ w' cmdId res, w'.published = ⟨env.topics.ack, .ack cmdId res, 1, false⟩ :: w.published ∧
    w'.connected = w.connected ∧
    ∀ msgs, exec (messageLoop (some ⟨env.topics.cmd, payload⟩ :: msgs)) env w =
      exec (messageLoop msgs) env w'

/-- What an answered command leaves. -/
def World.answered (w : World) (env : Env) (payload : Bytes) (res : CmdHandlerResult) : World :=
  { w with
    calls := w.calls + 1
    published := ⟨env.topics.ack, .ack (commandId env.json payload) res, 1, false⟩ :: w.published }

theorem exec_publish (m : Message) :
    exec (publish m) env w =
      if env.throws w.calls .publish then (.error .mqtt, { w with calls := w.calls + 1 })
      else (.ok (), { w with calls := w.calls + 1, published := m :: w.published }) := by
  unfold publish mqttCall
  simp only [exec_bind, exec_read, exec_get]
  cases env.throws w.calls .publish <;> rfl

theorem exec_handleMessage {onCmd : CmdHandler} (hcmd : env.onCmd = some onCmd) (payload : Bytes) :
    exec (handleMessage ⟨env.topics.cmd, payload⟩) env w = match onCmd payload with
      | .error e => (.error e, w)
      | .ok res =>
        if env.throws w.calls .publish then (.error .mqtt, { w with calls := w.calls + 1 })
        else (.ok (), w.answered env payload res) := by
  unfold handleMessage
  rw [exec_bind, exec_read]
  dsimp only
  rw [if_pos rfl, hcmd, exec_bind]
  cases onCmd payload with
  | error e => rfl
  | ok res => exact exec_publish _

theorem exec_handleMessage_ignored {msg : CommandMessage} (htopic : msg.topic ≠ env.topics.cmd) :
    exec (handleMessage msg) env w = (.ok (), w) := by
  unfold handleMessage
  rw [exec_bind, exec_read]
  dsimp only
  rw [if_neg htopic]
  rfl

theorem exec_messageLoop_cons (msg : CommandMessage) (msgs : List (Option CommandMessage)) :
    exec (messageLoop (some msg :: msgs)) env w = match exec (handleMessage msg) env w with
      | (.ok _, w') => exec (messageLoop msgs) env w'
      | (.error e, w') => (.error e, w') := by
  rw [messageLoop, exec_bind]
  rcases exec (handleMessage msg) env w with ⟨_ | _, _⟩ <;> rfl

theorem answeredOnce_iff {onCmd : CmdHandler} (hcmd : env.onCmd = some onCmd) (payload : Bytes) :
    AnsweredOnce env payload w ↔
      (∃ res, onCmd payload = .ok res) ∧ env.throws w.calls .publish = false := by
  constructor
  · rintro ⟨w', _, _, -, -, hgoes⟩
    have hreturns := hgoes []
    rw [exec_messageLoop_cons, exec_handleMessage hcmd] at hreturns
    cases hres : onCmd payload with
    | error e =>
      rw [hres] at hreturns
      cases (Prod.mk.inj hreturns).1
    | ok res =>
      refine ⟨⟨res, rfl⟩, eq_false_of_ne_true fun hthrows => ?_⟩
      rw [hres] at hreturns
      dsimp only at hreturns
      rw [if_pos hthrows] at hreturns
      cases (Prod.mk.inj hreturns).1
  · rintro ⟨⟨res, hres⟩, hquiet⟩
    refine ⟨w.answered env payload res, _, res, rfl, rfl, fun msgs => ?_⟩
    have hhandled : exec (handleMessage ⟨env.topics.cmd, payload⟩) env w =
        (.ok (), w.answered env payload res) := by
      rw [exec_handleMessage hcmd, hres]
      exact if_neg (by rw [hquiet]; exact Bool.false_ne_true)
    rw [exec_messageLoop_cons, hhandled]

/-- The ack of a command whose handler returns. -/
def ackOf (env : Env) (result : Bytes → CmdHandlerResult) (msg : CommandMessage) : Message :=
  ⟨env.topics.ack, .ack (commandId env.json msg.payload) (result msg.payload), 1, false⟩

/-- As long as the handler returns and nothing is thrown, every command is acked once, in the order
of arrival. -/
theorem messageLoop_acks {onCmd : CmdHandler} (hcmd : env.onCmd = some onCmd)
    (hquiet : ∀ k, env.throws k .publish = false) {result : Bytes → CmdHandlerResult}
    {msgs : List CommandMessage}
    (hreturns : ∀ msg ∈ msgs, msg.topic = env.topics.cmd → onCmd msg.payload = .ok (result msg.payload)) :
    ∃ w', exec (messageLoop (msgs.map some)) env w = (.ok (), w') ∧ w'.connected = w.connected ∧
      w'.published = ((msgs.filter (·.topic = env.topics.cmd)).map (ackOf env result)).reverse ++
        w.published := by
  induction msgs generalizing w with
  | nil => exact ⟨w, rfl, rfl, rfl⟩
  | cons msg msgs ih =>
    have hlater : ∀ later ∈ msgs, later.topic = env.topics.cmd →
        onCmd later.payload = .ok (result later.payload) :=
      fun later hmem => hreturns later (List.mem_cons_of_mem msg hmem)
    rw [List.map_cons, exec_messageLoop_cons]
    obtain ⟨topic, payload⟩ := msg
    by_cases htopic : topic = env.topics.cmd
    · subst htopic
      have hhandled : exec (handleMessage ⟨env.topics.cmd, payload⟩) env w =
          (.ok (), w.answered env payload (result payload)) := by
        rw [exec_handleMessage hcmd, hreturns _ List.mem_cons_self rfl]
        exact if_neg (by rw [hquiet]; exact Bool.false_ne_true)
      obtain ⟨w', hrun, hconn, hacks⟩ := ih (w := w.answered env payload (result payload)) hlater
      rw [hhandled]
      refine ⟨w', hrun, hconn, ?_⟩
      simp [hacks, World.answered, ackOf]
    · have hignored : exec (handleMessage ⟨topic, payload⟩) env w = (.ok (), w) :=
        exec_handleMessage_ignored htopic
      obtain ⟨w', hrun, hconn, hacks⟩ := ih (w := w) hlater
      rw [hignored]
      refine ⟨w', hrun, hconn, ?_⟩
      simp [hacks, htopic]

end Loop

/-- The backend answers a command if and only if its type can be read and the ack gets out. -/
theorem command_answered_iff (droneId : Bytes) (json : JsonCpp) (now : ℤ) (throws : ℕ → Call → Bool)
    (payload : Bytes) (w : World) :
    AnsweredOnce (.pingOnly droneId json now throws) payload w ↔
      Answerable json payload ∧ throws w.calls .publish = false := by
  rw [answeredOnce_iff rfl, handleCmdPingOnly_returns_iff]
  exact Iff.rfl

/-- A reader that knows a list and a ping. -/
def benchJson : JsonCpp where
  parse := fun text =>
    .ok (if text = bytes "[]" then some (.arr [])
      else if text = benchPayload (bytes "ping") then some (benchCommand (bytes "ping")) else none)
  realText := fun _ => []

/-- A list leaves the message loop, and the ping behind it is not answered. -/
theorem list_unanswered :
    let env := Env.pingOnly (bytes "d1") benchJson 1700000000 fun _ _ => false
    let msgs := [some ⟨env.topics.cmd, bytes "[]"⟩, some ⟨env.topics.cmd, benchPayload (bytes "ping")⟩]
    ¬AnsweredOnce env (bytes "[]") { connected := true } ∧
      exec (messageLoop msgs) env { connected := true } = (.error .logicError, { connected := true }) ∧
      (exec (connectRound msgs) env {}).2.connected = false := by
  intro env msgs
  refine ⟨fun h => ?_, by rfl, by rfl⟩
  obtain ⟨⟨res, hres⟩, -⟩ := (answeredOnce_iff rfl _).mp h
  cases hres

end Ironsoft.Backend
