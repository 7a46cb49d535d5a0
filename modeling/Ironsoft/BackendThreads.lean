import Ironsoft.BackendAnswers
import Ironsoft.WillModel

/-!
# The threads of the backend

The connect thread, the heartbeat thread and the thread that stops them come between one another at
every call and every access to a shared flag. The broker may lose the session at any time, and the
process may die.
-/
namespace Ironsoft.Backend
open Effect Ekinox BrokerModel

/-- What the client is built with. -/
structure Setup where
  droneId : Bytes
  json : JsonCpp
  onCmd : Option CmdHandler
  /-- the time of the will -/
  builtAt : ℤ

def Setup.topics (setup : Setup) : Topics := makeTopics setup.droneId

theorem Setup.status_ne (setup : Setup) : setup.topics.status ≠ setup.topics.presence :=
  fun h => absurd (List.append_cancel_left h) (by decide)

theorem Setup.heartbeat_ne (setup : Setup) : setup.topics.heartbeat ≠ setup.topics.presence :=
  fun h => absurd (List.append_cancel_left h) (by decide)

theorem Setup.presence_ne_ack (setup : Setup) : setup.topics.presence ≠ setup.topics.ack :=
  fun h => absurd (List.append_cancel_left h) (by decide)

theorem Setup.status_ne_ack (setup : Setup) : setup.topics.status ≠ setup.topics.ack :=
  fun h => absurd (List.append_cancel_left h) (by decide)

/-- What a step meets. -/
def Setup.env (setup : Setup) (now : ℤ) (threw : Bool) : Env where
  topics := setup.topics
  json := setup.json
  onCmd := setup.onCmd
  now := now
  throws _ _ := threw

/-- Where `run_connect_loop` is. -/
inductive ConnectAt
  /-- `while (!stop_requested_)` -/
  | outer
  | connect
  | connected
  | presence
  | status
  | subscribe
  /-- the `while` of the message loop -/
  | inner
  | consume
  | handle (msg : CommandMessage)
  /-- the exception handler -/
  | caught
  | left
  | done
  deriving DecidableEq

/-- Where `publish_heartbeat_loop` is. -/
inductive HeartbeatAt
  | test
  | check
  | publish
  | done
  deriving DecidableEq

/-- Where the thread is that calls `stop`. -/
inductive MainAt
  | serving
  | joinConnect
  | joinHeartbeat
  | check
  | disconnect
  | stopped
  deriving DecidableEq

/-- What the connect thread does at a location. -/
def ConnectAt.call : ConnectAt → M Unit
  | .connect => mqttCall .connect
  | .connected => setConnected true
  | .presence => publishPresenceOnline
  | .status => publishStatusRetained
  | .subscribe => mqttCall .subscribe
  | .handle msg => handleMessage msg
  | .caught | .left => setConnected false
  | .outer | .inner | .consume | .done => pure ()

/-- Where the connect thread goes when nothing is thrown; `msg` is what `consume_message` returns. -/
def ConnectAt.next (stopRequested : Bool) (msg : Option CommandMessage) : ConnectAt → ConnectAt
  | .outer => if stopRequested then .done else .connect
  | .connect => .connected
  | .connected => .presence
  | .presence => .status
  | .status => .subscribe
  | .subscribe => .inner
  | .inner => if stopRequested then .left else .consume
  | .consume => match msg with
    | some msg => .handle msg
    -- disconnected
    | none => .left
  | .handle _ => .inner
  | .caught => .left
  | .left => .outer
  | .done => .done

/-- What the client publishes, or leaves to the broker. -/
inductive Content
  | said (body : Body)
  | heartbeat (seq : Int32) (uptimeS : ℤ)
  /-- the will -/
  | lwt (ts : ℤ)

def Content.toJson : Content → Json
  | .said body => body.toJson
  | .heartbeat seq uptimeS => .obj [(bytes "seq", .int (seq.toInt64)), (bytes "uptime_s", int64Json uptimeS)]
  | .lwt ts =>
    .obj [(bytes "state", .str (bytes "offline")), (bytes "ts", int64Json ts),
      (bytes "reason", .str (bytes "lwt"))]

/-- The message has the state `online`. -/
def Content.isOnline (content : Content) : Bool :=
  (content.toJson.get (bytes "state")).asString = bytes "online"

def Message.letter (m : Message) : Letter Bytes Content := ⟨m.topic, .said m.body, m.retained⟩

def Setup.will (setup : Setup) : Letter Bytes Content :=
  ⟨setup.topics.presence, .lwt setup.builtAt, true⟩

/-- What the threads have done. -/
inductive Happening
  | connecting
  | consumed (msg : CommandMessage)
  | published (m : Message)
  /-- an exception has ended the session; `threw` if a call of the client has thrown it -/
  | failed (threw : Bool)
  /-- a heartbeat, of the other thread -/
  | beat (seq : Int32) (uptimeS : ℤ)
  deriving DecidableEq

structure System where
  connectAt : ConnectAt := .outer
  heartbeatAt : HeartbeatAt := .test
  mainAt : MainAt := .serving
  stopRequested : Bool := false
  world : World := {}
  heartbeatSeq : Int32 := 0
  /-- newest first -/
  log : List Happening := []
  broker : Broker Bytes Content := .empty
  alive : Bool := true

/-- What `w'` has published since `w`, oldest first. -/
def World.sent (w w' : World) : List Message :=
  (w'.published.take (w'.published.length - w.published.length)).reverse

/-- What a call at a location tells the broker when it returns. -/
def ConnectAt.signals (setup : Setup) (sent : List Message) : ConnectAt → List (Signal Bytes Content)
  | .connect => [.opened (some setup.will)]
  | _ => sent.map fun m => .published m.letter

/-- What is logged of a step at a location, but for an exception. -/
def ConnectAt.happenings (msg : Option CommandMessage) (sent : List Message) :
    ConnectAt → List Happening
  | .connect => [.connecting]
  | .consume => (msg.map .consumed).toList
  | _ => sent.map .published

/-- A step of the connect thread. -/
def System.connectStep (setup : Setup) (now : ℤ) (threw : Bool) (msg : Option CommandMessage)
    (s : System) : System :=
  let r := exec s.connectAt.call (setup.env now threw) s.world
  let sent := s.world.sent r.2
  let log := (s.connectAt.happenings msg sent).reverse ++ s.log
  match r.1 with
  | .ok _ =>
    { s with
      world := r.2, log := log
      connectAt := s.connectAt.next s.stopRequested msg
      broker := s.broker.run (s.connectAt.signals setup sent) }
  | .error _ => { s with world := r.2, log := .failed threw :: log, connectAt := .caught }

/-- The end of the process. -/
def System.die (s : System) : System := { s with alive := false, broker := s.broker.receive .broken }

/-- A step of the heartbeat thread. Nothing catches what `publish` throws. -/
def System.heartbeatStep (setup : Setup) (uptimeS : ℤ) (threw : Bool) (s : System) : System :=
  match s.heartbeatAt with
  | .test => { s with heartbeatAt := if s.stopRequested then .done else .check }
  | .check => { s with heartbeatAt := if s.world.connected then .publish else .test }
  | .publish =>
    if threw then s.die
    else
      { s with
        heartbeatAt := .test, heartbeatSeq := s.heartbeatSeq + 1
        log := .beat s.heartbeatSeq uptimeS :: s.log
        broker := s.broker.receive
          (.published ⟨setup.topics.heartbeat, .heartbeat s.heartbeatSeq uptimeS, false⟩) }
  | .done => s

/-- A step of the thread that calls `stop`, which the destructor calls again. -/
def System.mainStep (threw : Bool) (s : System) : System :=
  match s.mainAt with
  | .serving | .stopped => { s with stopRequested := true, mainAt := .joinConnect }
  | .joinConnect => if s.connectAt = .done then { s with mainAt := .joinHeartbeat } else s
  | .joinHeartbeat => if s.heartbeatAt = .done then { s with mainAt := .check } else s
  | .check => { s with mainAt := if s.world.connected then .disconnect else .stopped }
  | .disconnect =>
    { s with mainAt := .stopped, broker := if threw then s.broker else s.broker.receive .closed }

inductive Action
  | connectThread (now : ℤ) (threw : Bool) (msg : Option CommandMessage)
  | heartbeatThread (uptimeS : ℤ) (threw : Bool)
  | mainThread (threw : Bool)
  /-- the broker loses the session -/
  | broken
  | died

def System.step (setup : Setup) (s : System) (action : Action) : System :=
  if s.alive then
    match action with
    | .connectThread now threw msg => s.connectStep setup now threw msg
    | .heartbeatThread uptimeS threw => s.heartbeatStep setup uptimeS threw
    | .mainThread threw => s.mainStep threw
    | .broken => { s with broker := s.broker.receive .broken }
    | .died => s.die
  else s

def System.run (setup : Setup) (actions : List Action) (s : System) : System :=
  actions.foldl (System.step setup) s

/-- What a step tells the broker. -/
def System.tells (setup : Setup) (s : System) (action : Action) : List (Signal Bytes Content) :=
  if s.alive then
    match action with
    | .connectThread now threw _ =>
      match exec s.connectAt.call (setup.env now threw) s.world with
      | (.ok _, w') => s.connectAt.signals setup (s.world.sent w')
      | (.error _, _) => []
    | .heartbeatThread uptimeS threw =>
      if s.heartbeatAt = .publish then
        if threw then [.broken]
        else [.published ⟨setup.topics.heartbeat, .heartbeat s.heartbeatSeq uptimeS, false⟩]
      else []
    | .mainThread threw => if s.mainAt = .disconnect ∧ threw = false then [.closed] else []
    | .broken | .died => [.broken]
  else []

/-- What the broker is told in a run, oldest first. -/
def System.told (setup : Setup) (s : System) : List Action → List (Signal Bytes Content)
  | [] => []
  | action :: actions => s.tells setup action ++ (s.step setup action).told setup actions

/-- What the handler returns for a payload. -/
def Setup.answer (setup : Setup) (payload : Bytes) : Except Exn CmdHandlerResult :=
  match setup.onCmd with
  | some onCmd => onCmd payload
  | none => .ok ⟨true, bytes "ok", []⟩

/-- The message is the ack of the command. -/
def Setup.Acks (setup : Setup) (msg : CommandMessage) (m : Message) : Prop :=
  ∃ res, setup.answer msg.payload = .ok res ∧
    m = ⟨setup.topics.ack, .ack (commandId setup.json msg.payload) res, 1, false⟩

/-- The handler throws, or the call that sends the ack has thrown. -/
def Setup.Fails (setup : Setup) (threw : Bool) (msg : CommandMessage) : Prop :=
  threw = true ∨ ∃ e, setup.answer msg.payload = .error e

section Calls

variable {setup : Setup} {now : ℤ} {threw : Bool} {w : World}

@[simp] theorem sent_of_eq {w' : World} (h : w'.published = w.published) : w.sent w' = [] := by
  simp [World.sent, h]

@[simp] theorem sent_of_cons {w' : World} {m : Message} (h : w'.published = m :: w.published) :
    w.sent w' = [m] := by
  simp [World.sent, h]

theorem exec_publish_env (m : Message) :
    exec (publish m) (setup.env now threw) w =
      if threw then (.error .mqtt, { w with calls := w.calls + 1 })
      else (.ok (), { w with calls := w.calls + 1, published := m :: w.published }) := exec_publish m

/-- A message is not for the client, it is acked, or what it makes throw leaves no trace. -/
inductive Handled (setup : Setup) (threw : Bool) (msg : CommandMessage) (w : World) :
    Except Exn Unit × World → Prop
  | ignored (htopic : msg.topic ≠ setup.topics.cmd) : Handled setup threw msg w (.ok (), w)
  | acked (htopic : msg.topic = setup.topics.cmd) (m : Message) (hm : setup.Acks msg m) :
    Handled setup threw msg w (.ok (), { w with calls := w.calls + 1, published := m :: w.published })
  | failed (e : Exn) (calls : ℕ) (htopic : msg.topic = setup.topics.cmd)
    (hfails : setup.Fails threw msg) : Handled setup threw msg w (.error e, { w with calls := calls })

theorem handleMessage_handled (setup : Setup) (now : ℤ) (threw : Bool) (msg : CommandMessage)
    (w : World) : Handled setup threw msg w (exec (handleMessage msg) (setup.env now threw) w) := by
  by_cases htopic : msg.topic = setup.topics.cmd
  · have hexec : exec (handleMessage msg) (setup.env now threw) w = exec (do
        let res ← liftExcept (setup.answer msg.payload)
        publish ⟨setup.topics.ack, .ack (commandId setup.json msg.payload) res, 1, false⟩)
          (setup.env now threw) w := by
      have hown : msg.topic = (setup.env now threw).topics.cmd := htopic
      have honCmd : (setup.env now threw).onCmd = setup.onCmd := rfl
      unfold handleMessage Setup.answer
      rw [exec_bind, exec_read]
      dsimp only
      rw [if_pos hown, honCmd]
      cases setup.onCmd with
      | none => rfl
      | some onCmd => rfl
    rw [hexec]
    cases hanswer : setup.answer msg.payload with
    | error e => exact .failed e w.calls htopic (.inr ⟨e, hanswer⟩)
    | ok res =>
      change Handled setup threw msg w (exec (publish ⟨setup.topics.ack,
        .ack (commandId setup.json msg.payload) res, 1, false⟩) (setup.env now threw) w)
      rw [exec_publish_env]
      split_ifs with hthrew
      · exact .failed _ _ htopic (.inl hthrew)
      · exact .acked htopic _ ⟨res, hanswer, rfl⟩
  · rw [exec_handleMessage_ignored htopic]
    exact .ignored htopic

/-- What a step at the handler comes to. -/
theorem handled_of_exec {msg : CommandMessage} {r : Except Exn Unit × World}
    (h : exec (ConnectAt.handle msg).call (setup.env now threw) w = r) : Handled setup threw msg w r :=
  h ▸ handleMessage_handled setup now threw msg w

end Calls

/-- The flag may be set. -/
def ConnectAt.mayBeConnected : ConnectAt → Bool
  | .outer | .connect | .connected | .done => false
  | _ => true

/-- The connect thread has been joined. -/
def MainAt.joined : MainAt → Bool
  | .joinHeartbeat | .check | .disconnect | .stopped => true
  | _ => false

/-- The flag is reset before the connect thread ends, and `stop` looks at it afterwards. -/
structure Reset (s : System) : Prop where
  flag : s.world.connected = true → s.connectAt.mayBeConnected = true
  joined : s.mainAt.joined = true → s.connectAt = .done
  quiet : s.mainAt ≠ .disconnect

section ConnectThread

variable {setup : Setup} {now : ℤ} {threw : Bool} {msg : Option CommandMessage} {s : System} {w' : World}

theorem connectStep_of_ok
    (h : exec s.connectAt.call (setup.env now threw) s.world = (.ok (), w')) :
    s.connectStep setup now threw msg =
      { s with
        world := w'
        log := (s.connectAt.happenings msg (s.world.sent w')).reverse ++ s.log
        connectAt := s.connectAt.next s.stopRequested msg
        broker := s.broker.run (s.connectAt.signals setup (s.world.sent w')) } := by
  unfold System.connectStep
  rw [h]

theorem connectStep_of_error {e : Exn}
    (h : exec s.connectAt.call (setup.env now threw) s.world = (.error e, w')) :
    s.connectStep setup now threw msg =
      { s with
        world := w'
        log := .failed threw :: ((s.connectAt.happenings msg (s.world.sent w')).reverse ++ s.log)
        connectAt := .caught } := by
  unfold System.connectStep
  rw [h]

theorem connectStep_mainAt : (s.connectStep setup now threw msg).mainAt = s.mainAt := by
  unfold System.connectStep
  dsimp only
  split <;> rfl

/-- The calls that can throw leave the flag, and publish nothing when they do. -/
theorem call_error {l : ConnectAt} {w : World} {e : Exn}
    (h : exec l.call (setup.env now threw) w = (.error e, w')) :
    w'.connected = w.connected ∧ w'.published = w.published := by
  cases l with
  | handle msg =>
    cases handled_of_exec h
    exact ⟨rfl, rfl⟩
  | connect | subscribe | presence | status =>
    cases threw
    · cases h
    · cases h
      exact ⟨rfl, rfl⟩
  | outer | connected | inner | consume | caught | left | done => cases h

end ConnectThread

section Flag

variable {setup : Setup} {s : System}

/-- The flag is set after a call that sets it, or that leaves it. -/
theorem call_flag {now : ℤ} {threw : Bool} {l : ConnectAt} {w w' : World}
    (h : exec l.call (setup.env now threw) w = (.ok (), w')) (hconnected : w'.connected = true) :
    l = .connected ∨ w.connected = true ∧ l ≠ .left := by
  cases l with
  | handle msg =>
    cases handled_of_exec h <;> exact .inr ⟨hconnected, nofun⟩
  | connect | subscribe | presence | status =>
    cases threw
    · cases h
      exact .inr ⟨hconnected, nofun⟩
    · cases h
  | outer | inner | consume | done =>
    cases h
    exact .inr ⟨hconnected, nofun⟩
  | connected => exact .inl rfl
  | caught | left =>
    cases h
    cases hconnected

theorem next_mayBeConnected {l : ConnectAt} (stopRequested : Bool) (msg : Option CommandMessage)
    (h : l.mayBeConnected = true) (hleft : l ≠ .left) :
    (l.next stopRequested msg).mayBeConnected = true := by
  cases l with
  | outer | connect | connected | done => cases h
  | inner => cases stopRequested <;> rfl
  | consume => cases msg <;> rfl
  | left => exact absurd rfl hleft
  | presence | status | subscribe | handle | caught => rfl

theorem Reset.connectStep (h : Reset s) (now : ℤ) (threw : Bool) (msg : Option CommandMessage) :
    Reset (s.connectStep setup now threw msg) := by
  refine ⟨?_, fun hjoined => ?_, ?_⟩
  · intro hconnected
    rcases hexec : exec s.connectAt.call (setup.env now threw) s.world with ⟨_ | _, w'⟩
    · rw [connectStep_of_error hexec]
      rfl
    · rw [connectStep_of_ok hexec] at hconnected ⊢
      rcases call_flag hexec hconnected with hset | ⟨hbefore, hleft⟩
      · rw [hset]
        rfl
      · exact next_mayBeConnected _ _ (h.flag hbefore) hleft
  · rw [connectStep_mainAt] at hjoined
    have hdone := h.joined hjoined
    have hexec : exec s.connectAt.call (setup.env now threw) s.world = (.ok (), s.world) := by
      rw [hdone]
      rfl
    rw [connectStep_of_ok hexec, hdone]
    rfl
  · rw [connectStep_mainAt]
    exact h.quiet

theorem Reset.heartbeatStep (h : Reset s) (uptimeS : ℤ) (threw : Bool) :
    Reset (s.heartbeatStep setup uptimeS threw) := by
  unfold System.heartbeatStep
  split
  · exact ⟨h.flag, h.joined, h.quiet⟩
  · exact ⟨h.flag, h.joined, h.quiet⟩
  · split_ifs <;> exact ⟨h.flag, h.joined, h.quiet⟩
  · exact h

/-- When `stop` looks at the flag, the thread that has reset it is over. -/
theorem Reset.mainStep (h : Reset s) (threw : Bool) : Reset (s.mainStep threw) := by
  have hdone (hat : s.mainAt.joined = true) : s.world.connected = false := by
    have hover := h.joined hat
    refine eq_false_of_ne_true fun hconnected => ?_
    have hmay := h.flag hconnected
    rw [hover] at hmay
    cases hmay
  unfold System.mainStep
  split
  · exact ⟨h.flag, nofun, nofun⟩
  · exact ⟨h.flag, nofun, nofun⟩
  · split_ifs with hover
    · exact ⟨h.flag, fun _ => hover, nofun⟩
    · exact h
  · rename_i hat
    split_ifs
    · exact ⟨h.flag, fun _ => h.joined (by rw [hat]; rfl), nofun⟩
    · exact h
  · rename_i hat
    have hreset := hdone (by rw [hat]; rfl)
    rw [hreset]
    exact ⟨h.flag, fun _ => h.joined (by rw [hat]; rfl), nofun⟩
  · rename_i hat
    exact absurd hat h.quiet

theorem Reset.step (h : Reset s) (action : Action) : Reset (s.step setup action) := by
  unfold System.step
  split_ifs
  · cases action with
    | connectThread now threw msg => exact h.connectStep now threw msg
    | heartbeatThread uptimeS threw => exact h.heartbeatStep uptimeS threw
    | mainThread threw => exact h.mainStep threw
    | broken | died => exact ⟨h.flag, h.joined, h.quiet⟩
  · exact h

end Flag

end Ironsoft.Backend
