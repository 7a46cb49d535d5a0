import Ironsoft.EpochModel
import Ironsoft.GuiMessages

/-!
# Session buttons of the GUI

The worker thread, the UI thread, and the queue of signals between them. A thread has a list of
atomic actions to do and a place at which it goes on; the other thread may act in between. Which
messages come and which calls fail is open.
-/
namespace Ironsoft.Gui
open Ekinox EpochModel

inductive MqttConnectionState
  | disconnected
  | connecting
  | connected
  | stopping
  deriving DecidableEq

/-- The branch of the worker that a message takes. -/
inductive TopicKind
  | presence
  | status
  | heartbeat
  | ack
  | ekinoxPresence
  | ekinoxStatus
  | ekinoxHeartbeat
  | unknown
  deriving DecidableEq

structure GuiMessage where
  kind : TopicKind
  payload : Bytes
  deriving DecidableEq

inductive Signal
  | connectedChanged (connected : Bool)
  | presenceChanged (online : Bool)
  | stateChanged (state : MqttConnectionState)
  | ekinoxPresenceChanged (online : Bool)
  | ekinoxStatusChanged (st : EkinoxStatus)
  /-- log lines, heartbeats, acks, pings and the status of the backend, which change no button -/
  | other
  deriving DecidableEq

/-- A signal in the queue, with the number of the connection it was posted in and the message it
was posted for. -/
structure Post where
  conn : ℕ
  origin : Option GuiMessage
  signal : Signal
  deriving DecidableEq

structure Window where
  clientState : MqttConnectionState := .disconnected
  presenceOnline : Bool := false
  ekinoxPresenceOnline : Bool := false
  hasEkinoxStatus : Bool := false
  lastEkinoxStatus : EkinoxStatus := {}
  btnPing : Bool := false
  btnLoggerStart : Bool := false
  btnLoggerStop : Bool := false
  deriving DecidableEq

namespace Window

def updateLoggerControls (w : Window) : Window :=
  let connected := decide (w.clientState = .connected)
  let backendReady := connected && w.ekinoxPresenceOnline
  let recording := w.hasEkinoxStatus && w.lastEkinoxStatus.recordingActive
  { w with btnLoggerStart := backendReady && !recording, btnLoggerStop := backendReady && recording }

def onConnectedChanged (w : Window) (connected : Bool) : Window :=
  let w := { w with btnPing := connected }
  let w := if connected then w
    else { w with presenceOnline := false, ekinoxPresenceOnline := false, hasEkinoxStatus := false }
  w.updateLoggerControls

def onPresenceChanged (w : Window) (online : Bool) : Window := { w with presenceOnline := online }

def onClientStateChanged (w : Window) (state : MqttConnectionState) : Window :=
  { w with clientState := state }.updateLoggerControls

def onEkinoxPresenceChanged (w : Window) (online : Bool) : Window :=
  { w with ekinoxPresenceOnline := online }.updateLoggerControls

def onEkinoxStatusChanged (w : Window) (st : EkinoxStatus) : Window :=
  { w with hasEkinoxStatus := true, lastEkinoxStatus := st }.updateLoggerControls

def handle (w : Window) : Signal → Window
  | .connectedChanged connected => w.onConnectedChanged connected
  | .presenceChanged online => w.onPresenceChanged online
  | .stateChanged state => w.onClientStateChanged state
  | .ekinoxPresenceChanged online => w.onEkinoxPresenceChanged online
  | .ekinoxStatusChanged st => w.onEkinoxStatusChanged st
  | .other => w

end Window

/-- What a thread does without being interrupted. A setter exchanges the value, and posts the
signal in an action of its own. -/
inductive GuiAct
  | setConnected (v : Bool)
  | setPresence (v : Bool)
  | setState (state : MqttConnectionState)
  /-- `setState(stop_ ? Stopping : Disconnected)` -/
  | setLastState
  | post (origin : Option GuiMessage) (signal : Signal)
  deriving DecidableEq

/-- What the threads share. -/
structure Core where
  stop : Bool := false
  connected : Bool := false
  presence : Bool := false
  state : MqttConnectionState := .disconnected
  /-- how often a connection was made -/
  conns : ℕ := 0
  queue : List Post := []
  /-- newest first -/
  delivered : List Post := []
  deriving DecidableEq

namespace Core

def exchangeState (c : Core) (state : MqttConnectionState) : Core × List GuiAct :=
  ({ c with state := state }, if c.state = state then [] else [.post none (.stateChanged state)])

/-- The core after an action, and what the action leaves to do. -/
def exec (c : Core) : GuiAct → Core × List GuiAct
  | .setConnected v =>
    ({ c with connected := v }, if c.connected = v then [] else [.post none (.connectedChanged v)])
  | .setPresence v =>
    ({ c with presence := v }, if c.presence = v then [] else [.post none (.presenceChanged v)])
  | .setState state => c.exchangeState state
  | .setLastState => c.exchangeState (if c.stop then .stopping else .disconnected)
  | .post origin signal => ({ c with queue := c.queue ++ [⟨c.conns, origin, signal⟩] }, [])

end Core

def readObject (fromJson : QJsonParser) (payload : Bytes) : Option Json :=
  match fromJson payload with
  | .error _ => none
  | .ok doc => if doc.isObject then some doc else none

/-- What the worker does with a message. Acks and messages of the backend post signals that change
no button. -/
def messageActs (fromJson : QJsonParser) (msg : GuiMessage) (currentSecs : ℤ) : List GuiAct :=
  let log : GuiAct := .post (some msg) .other
  log :: match msg.kind with
    | .presence =>
      match readObject fromJson msg.payload with
      | some obj =>
        let state := toStringOr (obj.get (bytes "state")) []
        if state = bytes "online" then [.setPresence true]
        else if state = bytes "offline" then [.setPresence false]
        else []
      | none => []
    | .ekinoxPresence =>
      match readObject fromJson msg.payload with
      | some obj =>
        let state := toStringOr (obj.get (bytes "state")) []
        [.post (some msg) (.ekinoxPresenceChanged (state = bytes "online"))]
      | none => [log]
    | .ekinoxStatus =>
      match parseEkinoxStatusJson fromJson msg.payload {} currentSecs with
      | .ok st => [log, .post (some msg) (.ekinoxStatusChanged st)]
      | .error _ => [log]
    | .status | .heartbeat | .ack | .ekinoxHeartbeat => [log]
    | .unknown => []

inductive WorkerPhase
  | top
  | connecting
  | subscribing
  /-- at `while (!stop_)` -/
  | looping
  /-- in `consume_message()` -/
  | consuming
  /-- behind the `try` -/
  | afterTry
  | waiting
  | finished
  deriving DecidableEq

structure Worker where
  todo : List GuiAct
  phase : WorkerPhase
  deriving DecidableEq

namespace Worker

def failed : Worker := ⟨[.setConnected false, .setPresence false, .post none .other], .afterTry⟩

/-- The end of the `try`. -/
def closed : Worker := ⟨[.setConnected false, .setPresence false], .afterTry⟩

def finish : Worker := ⟨[.setConnected false, .setPresence false, .setLastState], .finished⟩

end Worker

inductive UiPhase
  | idle
  /-- in `connectToBroker()`, before the thread is made -/
  | starting
  /-- in `stop()`, up to `worker_.join()` -/
  | joining
  deriving DecidableEq

structure GuiState where
  core : Core := {}
  worker : Option Worker := none
  uiTodo : List GuiAct := []
  uiPhase : UiPhase := .idle
  window : Window := {}
  deriving DecidableEq

/-- How the worker goes on at the end of its list. -/
inductive WorkerMove
  /-- the loop conditions and the `if (stop_) break` -/
  | loop
  | callFails
  | callReturns
  | consume (msg : GuiMessage) (currentSecs : ℤ)
  /-- `consume_message` returns null -/
  | consumeEnds
  deriving DecidableEq

inductive Move
  | uiAct
  | workerAct
  | workerMove (move : WorkerMove)
  /-- some thread posts a signal that changes no button -/
  | chatter
  | deliver
  /-- the connect button in a window that shows no connection -/
  | connectToBroker
  | startWorker
  /-- the same button in another state, or the end of the program -/
  | stop
  | join
  deriving DecidableEq

/-- The part of `workerLoop` up to the next point where another thread is waited for. -/
def Core.workerMove (fromJson : QJsonParser) (c : Core) (phase : WorkerPhase) (move : WorkerMove) :
    Option (Core × Worker) :=
  match phase, move with
  | .top, .loop =>
    if c.stop then some (c, .finish)
    else some (c, ⟨[.setState .connecting, .post none .other], .connecting⟩)
  | .connecting, .callFails => some (c, .failed)
  | .connecting, .callReturns =>
    some ({ c with conns := c.conns + 1 },
      ⟨[.setConnected true, .setState .connected, .post none .other], .subscribing⟩)
  | .subscribing, .callFails => some (c, .failed)
  | .subscribing, .callReturns => some (c, ⟨[.post none .other, .post none .other], .looping⟩)
  -- `start_consuming()` throws
  | .looping, .callFails => some (c, .failed)
  | .looping, .loop => if c.stop then some (c, .closed) else some (c, ⟨[], .consuming⟩)
  | .consuming, .callFails => some (c, .failed)
  -- `stop_` is not looked at again before the message is handled
  | .consuming, .consume msg currentSecs =>
    some (c, ⟨messageActs fromJson msg currentSecs, .looping⟩)
  | .consuming, .consumeEnds => some (c, .closed)
  | .afterTry, .loop =>
    if c.stop then some (c, .finish)
    else some (c, ⟨[.setState .disconnected, .post none .other], .waiting⟩)
  | .waiting, .loop => if c.stop then some (c, .finish) else some (c, ⟨[], .top⟩)
  | _, _ => none

def GuiState.idle (s : GuiState) : Bool := s.uiTodo = [] ∧ s.uiPhase = .idle

def GuiState.step (fromJson : QJsonParser) (s : GuiState) : Move → Option GuiState
  | .uiAct =>
    match s.uiTodo with
    | [] => none
    | a :: rest => some { s with core := (s.core.exec a).1, uiTodo := (s.core.exec a).2 ++ rest }
  | .workerAct =>
    match s.worker with
    | some ⟨a :: rest, phase⟩ =>
      some { s with core := (s.core.exec a).1, worker := some ⟨(s.core.exec a).2 ++ rest, phase⟩ }
    | _ => none
  | .workerMove move =>
    match s.worker with
    | some ⟨[], phase⟩ =>
      (s.core.workerMove fromJson phase move).map fun next =>
        { s with core := next.1, worker := some next.2 }
    | _ => none
  | .chatter => some { s with core := (s.core.exec (.post none .other)).1 }
  | .deliver =>
    match s.core.queue with
    | e :: queue =>
      if s.idle then
        some { s with
          core := { s.core with queue := queue, delivered := e :: s.core.delivered }
          window := s.window.handle e.signal }
      else none
    | [] => none
  | .connectToBroker =>
    if s.idle ∧ s.window.clientState = .disconnected ∧ s.worker = none then
      some { s with
        core := { s.core with stop := false }
        uiTodo := [.setConnected false, .setPresence false, .setState .connecting]
        uiPhase := .starting }
    else none
  | .startWorker =>
    if s.uiTodo = [] ∧ s.uiPhase = .starting then
      some { s with worker := some ⟨[], .top⟩, uiPhase := .idle }
    else none
  | .stop =>
    if s.idle then
      some { s with
        core := { s.core with stop := true }, uiTodo := [.setState .stopping], uiPhase := .joining }
    else none
  | .join =>
    if s.uiTodo = [] ∧ s.uiPhase = .joining ∧ (s.worker = none ∨ s.worker = some ⟨[], .finished⟩) then
      some { s with
        worker := none
        uiTodo := [.setConnected false, .setPresence false, .setState .disconnected]
        uiPhase := .idle }
    else none

def GuiState.run (fromJson : QJsonParser) (s : GuiState) (moves : List Move) : Option GuiState :=
  moves.foldlM (GuiState.step fromJson) s

def Signal.clears : Signal → Bool
  | .connectedChanged false => true
  | _ => false

def Signal.data : Signal → Bool
  | .ekinoxPresenceChanged _ => true
  | .ekinoxStatusChanged _ => true
  | _ => false

def channel : Channel Post := ⟨Post.conn, fun e => e.signal.clears, fun e => e.signal.data⟩

/-- All signals posted so far, newest first. -/
def Core.log (c : Core) : List Post := c.queue.reverse ++ c.delivered

def Core.live (c : Core) : Bool := channel.live c.log

/-- The message of an ekinox presence. -/
def Post.presence? (e : Post) : Option GuiMessage :=
  match e.signal with
  | .ekinoxPresenceChanged _ => e.origin
  | _ => none

def Post.status? (e : Post) : Option GuiMessage :=
  match e.signal with
  | .ekinoxStatusChanged _ => e.origin
  | _ => none

theorem presence?_data (e : Post) (msg : GuiMessage) (h : e.presence? = some msg) :
    channel.data e = true := by
  obtain ⟨conn, origin, signal⟩ := e
  cases signal <;> simp_all [Post.presence?, channel, Signal.data]

theorem status?_data (e : Post) (msg : GuiMessage) (h : e.status? = some msg) :
    channel.data e = true := by
  obtain ⟨conn, origin, signal⟩ := e
  cases signal <;> simp_all [Post.status?, channel, Signal.data]

section Controls

variable (fromJson : QJsonParser)

def PresenceMessage (msg : GuiMessage) (online : Bool) : Prop :=
  msg.kind = .ekinoxPresence ∧ ∃ obj, readObject fromJson msg.payload = some obj ∧
    online = decide (toStringOr (obj.get (bytes "state")) [] = bytes "online")

def StatusMessage (msg : GuiMessage) (st : EkinoxStatus) : Prop :=
  msg.kind = .ekinoxStatus ∧
    ∃ currentSecs, parseEkinoxStatusJson fromJson msg.payload {} currentSecs = .ok st

/-- Data is sent for a message that says so. -/
def Signal.SentFor (origin : Option GuiMessage) : Signal → Prop
  | .ekinoxPresenceChanged online => ∃ msg, origin = some msg ∧ PresenceMessage fromJson msg online
  | .ekinoxStatusChanged st => ∃ msg, origin = some msg ∧ StatusMessage fromJson msg st
  | _ => True

def GuiAct.Sound : GuiAct → Prop
  | .post origin signal => signal.SentFor fromJson origin
  | _ => True

def GuiAct.NoData : GuiAct → Prop
  | .post _ signal => signal.data = false
  | _ => True

def GuiAct.Keeps (a : GuiAct) : Prop := ∀ v, a ≠ .setConnected v

theorem GuiAct.NoData.sound {a : GuiAct} (h : a.NoData) : a.Sound fromJson := by
  cases a with
  | post origin signal => cases signal <;> trivial
  | _ => trivial

/-- What holds of the signals posted so far. -/
structure CoreOk (c : Core) : Prop where
  steady : channel.Steady c.log
  current : c.live = true → ∃ e, c.log.head? = some e ∧ e.conn = c.conns
  sent : ∀ e ∈ c.log, e.signal.SentFor fromJson e.origin

end Controls

theorem exec_post_log (c : Core) (origin : Option GuiMessage) (signal : Signal) :
    (c.exec (.post origin signal)).1.log = ⟨c.conns, origin, signal⟩ :: c.log := by
  simp [Core.exec, Core.log]

theorem exec_delivered (c : Core) (a : GuiAct) : (c.exec a).1.delivered = c.delivered := by
  cases a <;> rfl

theorem exec_connected {a : GuiAct} (c : Core) (h : a.Keeps) : (c.exec a).1.connected = c.connected := by
  cases a with
  | setConnected v => exact absurd rfl (h v)
  | _ => rfl

/-- What an action leaves to do posts a signal of its own. -/
theorem exec_rest {c : Core} {a a' : GuiAct} (h : a' ∈ (c.exec a).2) : a'.NoData ∧ a'.Keeps := by
  have hpost (signal : Signal) (hs : signal.data = false) (ha : a' = .post none signal) :
      a'.NoData ∧ a'.Keeps := by
    subst ha
    exact ⟨hs, fun v => by simp⟩
  have hstate (state : MqttConnectionState) (hm : a' ∈ (c.exchangeState state).2) :
      a'.NoData ∧ a'.Keeps := by
    simp only [Core.exchangeState] at hm
    split_ifs at hm
    · exact absurd hm List.not_mem_nil
    · exact hpost _ rfl (List.mem_singleton.mp hm)
  cases a with
  | setConnected v =>
    simp only [Core.exec] at h
    split_ifs at h
    · exact absurd h List.not_mem_nil
    · exact hpost _ rfl (List.mem_singleton.mp h)
  | setPresence v =>
    simp only [Core.exec] at h
    split_ifs at h
    · exact absurd h List.not_mem_nil
    · exact hpost _ rfl (List.mem_singleton.mp h)
  | setState state => exact hstate state h
  | setLastState => exact hstate _ h
  | post origin signal => exact absurd h List.not_mem_nil

/-- An action without data starts no data. -/
theorem exec_live {c : Core} {a : GuiAct} (h : a.NoData) (hl : (c.exec a).1.live = true) :
    c.live = true := by
  cases a with
  | post origin signal =>
    have hdata : signal.data = false := h
    rw [Core.live, exec_post_log] at hl
    change (if signal.clears then false else signal.data || c.live) = true at hl
    rw [hdata] at hl
    split_ifs at hl
    exact hl
  | _ => exact hl

theorem exec_clears (c : Core) (origin : Option GuiMessage) :
    (c.exec (.post origin (.connectedChanged false))).1.live = false := by
  rw [Core.live, exec_post_log]
  rfl

theorem CoreOk.exec {fromJson : QJsonParser} {c : Core} {a : GuiAct} (hc : CoreOk fromJson c)
    (ha : a.Sound fromJson) : CoreOk fromJson (c.exec a).1 := by
  cases a with
  | post origin signal =>
    have hlog := exec_post_log c origin signal
    constructor
    · rw [hlog]
      exact ⟨hc.current, hc.steady⟩
    · intro _
      rw [hlog]
      exact ⟨_, rfl, rfl⟩
    · rw [hlog]
      intro e he
      obtain rfl | he := List.mem_cons.mp he
      · exact ha
      · exact hc.sent e he
  | _ => exact ⟨hc.steady, hc.current, hc.sent⟩

/-- The connection has been announced, or is the next thing to be. -/
def Opening (connected : Bool) (todo : List GuiAct) : Prop :=
  (∃ rest, todo = .setConnected true :: rest ∧ ∀ a ∈ rest, a.Keeps) ∨
    (connected = true ∧ ∀ a ∈ todo, a.Keeps)

/-- The next thing is the end of the connection. -/
def Closing (connected : Bool) (todo : List GuiAct) : Prop :=
  (connected = true ∧ ∃ rest, todo = .setConnected false :: rest) ∨
    ∃ rest, todo = .post none (.connectedChanged false) :: rest

/-- The worker is in the loop that takes messages. -/
def WorkerPhase.receives : WorkerPhase → Bool
  | .looping => true
  | .consuming => true
  | _ => false

structure Worker.Ok (connected live : Bool) (w : Worker) : Prop where
  noData : w.phase.receives = false → ∀ a ∈ w.todo, a.NoData
  subscribing : w.phase = .subscribing → Opening connected w.todo
  receiving : w.phase.receives = true → connected = true ∧ ∀ a ∈ w.todo, a.Keeps
  live : live = true → w.phase.receives = true ∨ (w.phase = .afterTry ∧ Closing connected w.todo)

namespace Worker.Ok

variable {connected live live' : Bool} {w : Worker}

theorem mono (h : w.Ok connected live) (hl : live' = true → live = true) : w.Ok connected live' :=
  ⟨h.noData, h.subscribing, h.receiving, fun h' => h.live (hl h')⟩

theorem of_dead {todo : List GuiAct} {phase : WorkerPhase} (hl : live = false)
    (hn : ∀ a ∈ todo, a.NoData) (hs : phase ≠ .subscribing) (hc : phase.receives = false) :
    Ok connected live ⟨todo, phase⟩ :=
  ⟨fun _ => hn, fun h => absurd h hs, fun h => absurd (hc.symm.trans h) Bool.false_ne_true,
    fun h => absurd (hl.symm.trans h) Bool.false_ne_true⟩

theorem ends {rest : List GuiAct} (hl : live = true → connected = true) (hn : ∀ a ∈ rest, a.NoData) :
    Ok connected live ⟨.setConnected false :: rest, .afterTry⟩ := by
  refine ⟨fun _ a ha => ?_, fun h => ?_, fun h => ?_, fun h => .inr ⟨rfl, .inl ⟨hl h, rest, rfl⟩⟩⟩
  rotate_left
  · simp at h
  · exact absurd h Bool.false_ne_true
  obtain rfl | ha := List.mem_cons.mp ha
  · trivial
  · exact hn a ha

end Worker.Ok

theorem Opening.exec {c : Core} {a : GuiAct} {rest : List GuiAct} (h : Opening c.connected (a :: rest)) :
    Opening (c.exec a).1.connected ((c.exec a).2 ++ rest) := by
  have hkeeps (hr : ∀ x ∈ rest, x.Keeps) : ∀ x ∈ (c.exec a).2 ++ rest, x.Keeps := by
    intro x hx
    obtain hx | hx := List.mem_append.mp hx
    · exact (exec_rest hx).2
    · exact hr x hx
  obtain ⟨rest', heq, hr⟩ | ⟨hc, hr⟩ := h
  · obtain ⟨rfl, rfl⟩ := List.cons.inj heq
    exact .inr ⟨rfl, hkeeps hr⟩
  · right
    refine ⟨?_, hkeeps fun x hx => hr x (List.mem_cons_of_mem _ hx)⟩
    rw [exec_connected c (hr a (by simp))]
    exact hc

theorem Worker.Ok.act {c : Core} {a : GuiAct} {rest : List GuiAct} {phase : WorkerPhase}
    (h : Worker.Ok c.connected c.live ⟨a :: rest, phase⟩) :
    Worker.Ok (c.exec a).1.connected (c.exec a).1.live ⟨(c.exec a).2 ++ rest, phase⟩ := by
  constructor
  · intro hp x hx
    obtain hx | hx := List.mem_append.mp hx
    · exact (exec_rest hx).1
    · exact h.noData hp x (List.mem_cons_of_mem _ hx)
  · intro hp
    exact (h.subscribing hp).exec
  · intro hp
    obtain ⟨hc, hr⟩ := h.receiving hp
    rw [exec_connected c (hr a (by simp))]
    refine ⟨hc, fun x hx => ?_⟩
    obtain hx | hx := List.mem_append.mp hx
    · exact (exec_rest hx).2
    · exact hr x (List.mem_cons_of_mem _ hx)
  · intro hl
    by_cases hp : phase.receives = true
    · exact .inl hp
    · have hlive := exec_live (h.noData (eq_false_of_ne_true hp) a (by simp)) hl
      obtain hp' | ⟨hp', hclosing⟩ := h.live hlive
      · exact absurd hp' hp
      · obtain ⟨hc, rest', heq⟩ | ⟨rest', heq⟩ := hclosing
        · obtain ⟨rfl, rfl⟩ := List.cons.inj heq
          exact .inr ⟨hp', .inr ⟨rest, by simp [Core.exec, hc]⟩⟩
        · obtain ⟨rfl, rfl⟩ := List.cons.inj heq
          rw [exec_clears] at hl
          exact absurd hl Bool.false_ne_true

/-- What the worker may do with a message. -/
theorem mem_messageActs {fromJson : QJsonParser} {msg : GuiMessage} {currentSecs : ℤ} {a : GuiAct}
    (h : a ∈ messageActs fromJson msg currentSecs) :
    a = .post (some msg) .other ∨ (∃ v, a = .setPresence v) ∨
      (∃ online, a = .post (some msg) (.ekinoxPresenceChanged online) ∧
        PresenceMessage fromJson msg online) ∨
      ∃ st, a = .post (some msg) (.ekinoxStatusChanged st) ∧ StatusMessage fromJson msg st := by
  obtain rfl | h := List.mem_cons.mp h
  · exact .inl rfl
  cases hk : msg.kind with
  | presence =>
    rw [hk] at h
    right; left
    cases ho : readObject fromJson msg.payload with
    | none => simp [ho] at h
    | some obj =>
      simp only [ho] at h
      split_ifs at h
      · exact ⟨true, List.mem_singleton.mp h⟩
      · exact ⟨false, List.mem_singleton.mp h⟩
      · exact absurd h List.not_mem_nil
  | ekinoxPresence =>
    rw [hk] at h
    cases ho : readObject fromJson msg.payload with
    | none =>
      simp only [ho] at h
      exact .inl (List.mem_singleton.mp h)
    | some obj =>
      simp only [ho] at h
      exact .inr (.inr (.inl ⟨_, List.mem_singleton.mp h, hk, obj, ho, rfl⟩))
  | ekinoxStatus =>
    rw [hk] at h
    cases hp : parseEkinoxStatusJson fromJson msg.payload {} currentSecs with
    | error err =>
      simp only [hp] at h
      exact .inl (List.mem_singleton.mp h)
    | ok st =>
      simp only [hp, List.mem_cons, List.not_mem_nil, or_false] at h
      obtain h | h := h
      · exact .inl h
      · exact .inr (.inr (.inr ⟨st, h, hk, currentSecs, hp⟩))
  | unknown => simp [hk] at h
  | _ =>
    rw [hk] at h
    exact .inl (List.mem_singleton.mp h)

theorem messageActs_keeps {fromJson : QJsonParser} {msg : GuiMessage} {currentSecs : ℤ} {a : GuiAct}
    (h : a ∈ messageActs fromJson msg currentSecs) : a.Keeps := by
  obtain rfl | ⟨v, rfl⟩ | ⟨online, rfl, -⟩ | ⟨st, rfl, -⟩ := mem_messageActs h
  all_goals exact fun _ => by simp

theorem messageActs_sound {fromJson : QJsonParser} {msg : GuiMessage} {currentSecs : ℤ} {a : GuiAct}
    (h : a ∈ messageActs fromJson msg currentSecs) : a.Sound fromJson := by
  obtain rfl | ⟨v, rfl⟩ | ⟨online, rfl, hp⟩ | ⟨st, rfl, hs⟩ := mem_messageActs h
  · trivial
  · trivial
  · exact ⟨msg, rfl, hp⟩
  · exact ⟨msg, rfl, hs⟩

/-- The end of a list: the connection number only grows where nothing is kept. -/
structure Moved (fromJson : QJsonParser) (c c' : Core) (w' : Worker) : Prop where
  conns : c' = c ∨ (c.live = false ∧ c' = { c with conns := c.conns + 1 })
  ok : w'.Ok c'.connected c'.live
  sound : ∀ a ∈ w'.todo, a.Sound fromJson

theorem Moved.of_dead (fromJson : QJsonParser) {c : Core} {todo : List GuiAct} {phase : WorkerPhase}
    (hl : c.live = false) (hn : ∀ a ∈ todo, a.NoData) (hs : phase ≠ .subscribing)
    (hc : phase.receives = false) : Moved fromJson c c ⟨todo, phase⟩ :=
  ⟨.inl rfl, .of_dead hl hn hs hc, fun a ha => (hn a ha).sound fromJson⟩

theorem Moved.ends (fromJson : QJsonParser) {c : Core} {rest : List GuiAct}
    (hl : c.live = true → c.connected = true) (hn : ∀ a ∈ rest, a.NoData) :
    Moved fromJson c c ⟨.setConnected false :: rest, .afterTry⟩ := by
  refine ⟨.inl rfl, .ends hl hn, fun a ha => ?_⟩
  obtain rfl | ha := List.mem_cons.mp ha
  · trivial
  · exact (hn a ha).sound fromJson

theorem Moved.receives {fromJson : QJsonParser} {c : Core} {todo : List GuiAct} {phase : WorkerPhase}
    (hp : phase.receives = true) (hs : phase ≠ .subscribing) (hc : c.connected = true)
    (hk : ∀ a ∈ todo, a.Keeps) (hsound : ∀ a ∈ todo, a.Sound fromJson) :
    Moved fromJson c c ⟨todo, phase⟩ := by
  refine ⟨.inl rfl, ⟨fun h => ?_, fun h => absurd h hs, fun _ => ⟨hc, hk⟩, fun _ => .inl hp⟩, hsound⟩
  exact absurd (h.symm.trans hp) Bool.false_ne_true

theorem finish_noData : ∀ a ∈ Worker.finish.todo, a.NoData := by simp [Worker.finish, GuiAct.NoData]

theorem failed_noData : ∀ a ∈ [GuiAct.setPresence false, .post none .other], a.NoData := by
  simp [GuiAct.NoData, Signal.data]

/-- A loop condition either ends the worker or goes on without data. -/
theorem Moved.of_loop {fromJson : QJsonParser} {c c' : Core} {w w' : Worker} (hl : c.live = false)
    (hn : ∀ a ∈ w.todo, a.NoData) (hs : w.phase ≠ .subscribing) (hc : w.phase.receives = false)
    (hm : (if c.stop then some (c, Worker.finish) else some (c, w)) = some (c', w')) :
    Moved fromJson c c' w' := by
  split_ifs at hm
  · obtain ⟨rfl, rfl⟩ := Prod.mk.inj (Option.some.inj hm)
    exact .of_dead fromJson hl finish_noData (by decide) rfl
  · obtain ⟨rfl, rfl⟩ := Prod.mk.inj (Option.some.inj hm)
    exact .of_dead fromJson hl hn hs hc

theorem Worker.Ok.move {fromJson : QJsonParser} {c c' : Core} {phase : WorkerPhase} {move : WorkerMove}
    {w' : Worker} (h : Worker.Ok c.connected c.live ⟨[], phase⟩)
    (hm : c.workerMove fromJson phase move = some (c', w')) : Moved fromJson c c' w' := by
  have hdead (hp : phase.receives = false) : c.live = false := by
    apply eq_false_of_ne_true
    intro hl
    obtain hp' | ⟨-, ⟨-, rest, hr⟩ | ⟨rest, hr⟩⟩ := h.live hl
    · exact absurd (hp.symm.trans hp') Bool.false_ne_true
    · exact List.cons_ne_nil _ _ hr.symm
    · exact List.cons_ne_nil _ _ hr.symm
  cases phase with
  | top =>
    have hl := hdead rfl
    cases move with
    | loop => exact .of_loop hl (by simp [GuiAct.NoData, Signal.data]) (by simp) rfl hm
    | _ => simp [Core.workerMove] at hm
  | connecting =>
    have hl := hdead rfl
    cases move with
    | callFails =>
      obtain ⟨rfl, rfl⟩ := Prod.mk.inj (Option.some.inj hm)
      exact .ends fromJson (fun h => absurd (hl.symm.trans h) Bool.false_ne_true) failed_noData
    | callReturns =>
      obtain ⟨rfl, rfl⟩ := Prod.mk.inj (Option.some.inj hm)
      have hn : ∀ a ∈ [GuiAct.setConnected true, .setState .connected, .post none .other], a.NoData := by
        simp [GuiAct.NoData, Signal.data]
      refine ⟨.inr ⟨hl, rfl⟩, ⟨fun _ => hn, fun _ => .inl ⟨_, rfl, ?_⟩, fun h => ?_, fun h => ?_⟩,
        fun a ha => (hn a ha).sound fromJson⟩
      · simp [GuiAct.Keeps]
      · exact absurd h Bool.false_ne_true
      · exact absurd (hl.symm.trans h) Bool.false_ne_true
    | _ => simp [Core.workerMove] at hm
  | subscribing =>
    have hl := hdead rfl
    have hc : c.connected = true := by
      obtain ⟨rest, hr, -⟩ | ⟨hc, -⟩ := h.subscribing rfl
      · exact absurd hr.symm (List.cons_ne_nil _ _)
      · exact hc
    cases move with
    | callFails =>
      obtain ⟨rfl, rfl⟩ := Prod.mk.inj (Option.some.inj hm)
      exact .ends fromJson (fun _ => hc) failed_noData
    | callReturns =>
      obtain ⟨rfl, rfl⟩ := Prod.mk.inj (Option.some.inj hm)
      exact .receives rfl (by simp) hc (by simp [GuiAct.Keeps]) (by simp [GuiAct.Sound, Signal.SentFor])
    | _ => simp [Core.workerMove] at hm
  | looping =>
    obtain ⟨hc, -⟩ := h.receiving rfl
    cases move with
    | callFails =>
      obtain ⟨rfl, rfl⟩ := Prod.mk.inj (Option.some.inj hm)
      exact .ends fromJson (fun _ => hc) failed_noData
    | loop =>
      simp only [Core.workerMove] at hm
      split_ifs at hm
      · obtain ⟨rfl, rfl⟩ := Prod.mk.inj (Option.some.inj hm)
        exact .ends fromJson (fun _ => hc) (by simp [GuiAct.NoData])
      · obtain ⟨rfl, rfl⟩ := Prod.mk.inj (Option.some.inj hm)
        exact .receives rfl (by simp) hc (by simp) (by simp)
    | _ => simp [Core.workerMove] at hm
  | consuming =>
    obtain ⟨hc, -⟩ := h.receiving rfl
    cases move with
    | callFails =>
      obtain ⟨rfl, rfl⟩ := Prod.mk.inj (Option.some.inj hm)
      exact .ends fromJson (fun _ => hc) failed_noData
    | consume msg currentSecs =>
      obtain ⟨rfl, rfl⟩ := Prod.mk.inj (Option.some.inj hm)
      exact .receives rfl (by simp) hc (fun a => messageActs_keeps) fun a => messageActs_sound
    | consumeEnds =>
      obtain ⟨rfl, rfl⟩ := Prod.mk.inj (Option.some.inj hm)
      exact .ends fromJson (fun _ => hc) (by simp [GuiAct.NoData])
    | _ => simp [Core.workerMove] at hm
  | afterTry =>
    have hl := hdead rfl
    cases move with
    | loop => exact .of_loop hl (by simp [GuiAct.NoData, Signal.data]) (by simp) rfl hm
    | _ => simp [Core.workerMove] at hm
  | waiting =>
    have hl := hdead rfl
    cases move with
    | loop => exact .of_loop hl (by simp) (by simp) rfl hm
    | _ => simp [Core.workerMove] at hm
  | finished => cases move <;> simp [Core.workerMove] at hm

/-- What the window shows was sent by the last messages that were not cleared. -/
structure Window.Shows (fromJson : QJsonParser) (w : Window) (delivered : List Post) : Prop where
  presence : w.ekinoxPresenceOnline = true → ∃ msg, channel.cached Post.presence? delivered = some msg ∧
    PresenceMessage fromJson msg true
  status : w.hasEkinoxStatus = true → ∃ msg, channel.cached Post.status? delivered = some msg ∧
    StatusMessage fromJson msg w.lastEkinoxStatus
  buttons : w.updateLoggerControls = w

theorem Window.updateLoggerControls_handle {w : Window} (h : w.updateLoggerControls = w)
    (signal : Signal) : (w.handle signal).updateLoggerControls = w.handle signal := by
  cases signal with
  | presenceChanged online => exact congrArg (·.onPresenceChanged online) h
  | other => exact h
  | _ => rfl

theorem Window.Shows.handle {fromJson : QJsonParser} {w : Window} {delivered : List Post} {e : Post}
    (h : w.Shows fromJson delivered) (he : e.signal.SentFor fromJson e.origin) :
    (w.handle e.signal).Shows fromJson (e :: delivered) := by
  have hbuttons := Window.updateLoggerControls_handle h.buttons e.signal
  obtain ⟨conn, origin, signal⟩ := e
  cases signal with
  | connectedChanged connected =>
    cases connected with
    | true => exact ⟨h.presence, h.status, hbuttons⟩
    | false =>
      refine ⟨fun hp => ?_, fun hs => ?_, hbuttons⟩
      · exact absurd hp Bool.false_ne_true
      · exact absurd hs Bool.false_ne_true
  | ekinoxPresenceChanged online =>
    obtain ⟨msg, rfl, hmsg⟩ := he
    refine ⟨fun hp => ⟨msg, rfl, ?_⟩, h.status, hbuttons⟩
    have honline : online = true := hp
    rwa [honline] at hmsg
  | ekinoxStatusChanged st =>
    obtain ⟨msg, rfl, hmsg⟩ := he
    exact ⟨h.presence, fun _ => ⟨msg, rfl, hmsg⟩, hbuttons⟩
  | _ => exact ⟨h.presence, h.status, hbuttons⟩

structure GuiState.Inv (fromJson : QJsonParser) (s : GuiState) : Prop where
  core : CoreOk fromJson s.core
  worker : ∀ w, s.worker = some w →
    w.Ok s.core.connected s.core.live ∧ ∀ a ∈ w.todo, a.Sound fromJson
  dead : s.worker = none → s.core.live = false
  uiNoData : ∀ a ∈ s.uiTodo, a.NoData
  /-- the UI thread leaves the connection to a running worker -/
  uiKeeps : s.worker ≠ none → (∀ a ∈ s.uiTodo, a.Keeps) ∧ s.uiPhase ≠ .starting
  window : s.window.Shows fromJson s.core.delivered

theorem inv_init (fromJson : QJsonParser) : GuiState.Inv fromJson {} := by
  have hlive : channel.live [] = false := rfl
  refine ⟨⟨trivial, fun h => ?_, by simp [Core.log]⟩, by simp, fun _ => rfl, by simp, by simp,
    ⟨fun h => ?_, fun h => ?_, rfl⟩⟩
  · exact absurd (hlive.symm.trans h) Bool.false_ne_true
  · exact absurd h Bool.false_ne_true
  · exact absurd h Bool.false_ne_true

namespace GuiState.Inv

variable {fromJson : QJsonParser} {s s' : GuiState}

/-- An action of the UI thread, or a signal that changes no button. -/
theorem uiExec {a : GuiAct} {todo : List GuiAct} (h : s.Inv fromJson) (ha : a.NoData)
    (hk : s.worker ≠ none → a.Keeps) (hn : ∀ x ∈ todo, x.NoData)
    (hkeeps : s.worker ≠ none → (∀ x ∈ todo, x.Keeps)) :
    GuiState.Inv fromJson { s with core := (s.core.exec a).1, uiTodo := todo } := by
  refine ⟨h.core.exec (ha.sound fromJson), fun w hw => ?_, fun hw => ?_, hn,
    fun hw => ⟨hkeeps hw, (h.uiKeeps hw).2⟩, ?_⟩
  · obtain ⟨hok, hsound⟩ := h.worker w hw
    have hconnected := exec_connected s.core (hk fun hnone => by simp [hnone] at hw)
    rw [hconnected]
    exact ⟨hok.mono (exec_live ha), hsound⟩
  · apply eq_false_of_ne_true
    intro hl
    exact absurd ((h.dead hw).symm.trans (exec_live ha hl)) Bool.false_ne_true
  · rw [exec_delivered]
    exact h.window

theorem workerAct {a : GuiAct} {rest : List GuiAct} {phase : WorkerPhase} (h : s.Inv fromJson)
    (hw : s.worker = some ⟨a :: rest, phase⟩) :
    GuiState.Inv fromJson
      { s with core := (s.core.exec a).1, worker := some ⟨(s.core.exec a).2 ++ rest, phase⟩ } := by
  obtain ⟨hok, hsound⟩ := h.worker _ hw
  have hsome : s.worker ≠ none := by simp [hw]
  refine ⟨h.core.exec (hsound a (by simp)), fun w hw' => ?_, fun hnone => by simp at hnone, h.uiNoData,
    fun _ => h.uiKeeps hsome, ?_⟩
  · obtain rfl := Option.some.inj hw'
    refine ⟨hok.act, fun x hx => ?_⟩
    obtain hx | hx := List.mem_append.mp hx
    · exact (exec_rest hx).1.sound fromJson
    · exact hsound x (List.mem_cons_of_mem _ hx)
  · rw [exec_delivered]
    exact h.window

theorem workerMove {phase : WorkerPhase} {move : WorkerMove} {next : Core × Worker}
    (h : s.Inv fromJson) (hw : s.worker = some ⟨[], phase⟩)
    (hm : s.core.workerMove fromJson phase move = some next) :
    GuiState.Inv fromJson { s with core := next.1, worker := some next.2 } := by
  obtain ⟨c', w'⟩ := next
  obtain ⟨hok, -⟩ := h.worker _ hw
  have hsome : s.worker ≠ none := by simp [hw]
  have hmoved := hok.move hm
  have hworker (w : Worker) (hw' : some w' = some w) :
      w.Ok c'.connected c'.live ∧ ∀ a ∈ w.todo, a.Sound fromJson := by
    obtain rfl := Option.some.inj hw'
    exact ⟨hmoved.ok, hmoved.sound⟩
  obtain rfl | ⟨hl, rfl⟩ := hmoved.conns
  · exact ⟨h.core, hworker, fun hnone => by simp at hnone, h.uiNoData, fun _ => h.uiKeeps hsome,
      h.window⟩
  · refine ⟨⟨h.core.steady, fun hl' => ?_, h.core.sent⟩, hworker, fun hnone => by simp at hnone,
      h.uiNoData, fun _ => h.uiKeeps hsome, h.window⟩
    exact absurd (hl.symm.trans hl') Bool.false_ne_true

theorem deliver {e : Post} {queue : List Post} (h : s.Inv fromJson) (hq : s.core.queue = e :: queue) :
    GuiState.Inv fromJson { s with
      core := { s.core with queue := queue, delivered := e :: s.core.delivered }
      window := s.window.handle e.signal } := by
  have hlog : Core.log { s.core with queue := queue, delivered := e :: s.core.delivered } = s.core.log := by
    simp [Core.log, hq]
  have hlive : Core.live { s.core with queue := queue, delivered := e :: s.core.delivered } =
      s.core.live := by simp only [Core.live, hlog]
  have hsent : e.signal.SentFor fromJson e.origin := h.core.sent e (by simp [Core.log, hq])
  refine ⟨⟨?_, ?_, ?_⟩, ?_, ?_, h.uiNoData, h.uiKeeps, h.window.handle hsent⟩
  · rw [hlog]
    exact h.core.steady
  · rw [hlive, hlog]
    exact h.core.current
  · rw [hlog]
    exact h.core.sent
  · rw [hlive]
    exact h.worker
  · rw [hlive]
    exact h.dead

theorem connectToBroker (h : s.Inv fromJson) (hw : s.worker = none) :
    GuiState.Inv fromJson { s with
      core := { s.core with stop := false }
      uiTodo := [.setConnected false, .setPresence false, .setState .connecting]
      uiPhase := .starting } :=
  ⟨⟨h.core.steady, h.core.current, h.core.sent⟩, h.worker, h.dead, by simp [GuiAct.NoData],
    fun hsome => absurd hw hsome, h.window⟩

theorem startWorker (h : s.Inv fromJson) (htodo : s.uiTodo = []) (hphase : s.uiPhase = .starting) :
    GuiState.Inv fromJson { s with worker := some ⟨[], .top⟩, uiPhase := .idle } := by
  have hnone : s.worker = none := by
    by_contra hsome
    exact (h.uiKeeps hsome).2 hphase
  refine ⟨h.core, fun w hw => ?_, fun hnone => by simp at hnone, h.uiNoData,
    fun _ => ⟨by simp [htodo], by simp⟩, h.window⟩
  obtain rfl := Option.some.inj hw
  exact ⟨.of_dead (h.dead hnone) (by simp) (by decide) rfl, by simp⟩

theorem stop (h : s.Inv fromJson) :
    GuiState.Inv fromJson { s with
      core := { s.core with stop := true }, uiTodo := [.setState .stopping], uiPhase := .joining } :=
  ⟨⟨h.core.steady, h.core.current, h.core.sent⟩, h.worker, h.dead, by simp [GuiAct.NoData],
    fun _ => ⟨by simp [GuiAct.Keeps], by simp⟩, h.window⟩

theorem join (h : s.Inv fromJson) (hw : s.worker = none ∨ s.worker = some ⟨[], .finished⟩) :
    GuiState.Inv fromJson { s with
      worker := none
      uiTodo := [.setConnected false, .setPresence false, .setState .disconnected]
      uiPhase := .idle } := by
  have hdead : s.core.live = false := by
    obtain hw | hw := hw
    · exact h.dead hw
    · apply eq_false_of_ne_true
      intro hl
      obtain hp | ⟨hp, -⟩ := (h.worker _ hw).1.live hl
      · exact Bool.false_ne_true hp
      · simp at hp
  exact ⟨h.core, fun w hw => by simp at hw, fun _ => hdead, by simp [GuiAct.NoData],
    fun hsome => absurd rfl hsome, h.window⟩

theorem step {move : Move} (h : s.Inv fromJson) (hs : s.step fromJson move = some s') :
    s'.Inv fromJson := by
  cases move with
  | uiAct =>
    cases htodo : s.uiTodo with
    | nil => simp [GuiState.step, htodo] at hs
    | cons a rest =>
      simp only [GuiState.step, htodo, Option.some.injEq] at hs
      subst hs
      have hn := h.uiNoData
      have hk := h.uiKeeps
      rw [htodo] at hn hk
      apply h.uiExec (hn a (by simp)) fun hsome => (hk hsome).1 a (by simp)
      · intro x hx
        obtain hx | hx := List.mem_append.mp hx
        · exact (exec_rest hx).1
        · exact hn x (List.mem_cons_of_mem _ hx)
      · intro hsome x hx
        obtain hx | hx := List.mem_append.mp hx
        · exact (exec_rest hx).2
        · exact (hk hsome).1 x (List.mem_cons_of_mem _ hx)
  | workerAct =>
    simp only [GuiState.step] at hs
    split at hs
    case h_1 a rest phase hw =>
      obtain rfl := Option.some.inj hs
      exact h.workerAct hw
    case h_2 => simp at hs
  | workerMove move =>
    simp only [GuiState.step] at hs
    split at hs
    case h_1 phase hw =>
      obtain ⟨next, hm, rfl⟩ := Option.map_eq_some_iff.mp hs
      exact h.workerMove hw hm
    case h_2 => simp at hs
  | chatter =>
    obtain rfl := Option.some.inj hs
    exact h.uiExec rfl (fun _ v => by simp) h.uiNoData fun hsome => (h.uiKeeps hsome).1
  | deliver =>
    cases hq : s.core.queue with
    | nil => simp [GuiState.step, hq] at hs
    | cons e queue =>
      simp only [GuiState.step, hq] at hs
      split_ifs at hs
      obtain rfl := Option.some.inj hs
      exact h.deliver hq
  | connectToBroker =>
    simp only [GuiState.step] at hs
    split_ifs at hs with hg
    obtain rfl := Option.some.inj hs
    exact h.connectToBroker hg.2.2
  | startWorker =>
    simp only [GuiState.step] at hs
    split_ifs at hs with hg
    obtain rfl := Option.some.inj hs
    exact h.startWorker hg.1 hg.2
  | stop =>
    simp only [GuiState.step] at hs
    split_ifs at hs
    obtain rfl := Option.some.inj hs
    exact h.stop
  | join =>
    simp only [GuiState.step] at hs
    split_ifs at hs with hg
    obtain rfl := Option.some.inj hs
    exact h.join hg.2.2

theorem run {moves : List Move} (h : s.Inv fromJson) (hr : s.run fromJson moves = some s') :
    s'.Inv fromJson := by
  induction moves generalizing s with
  | nil =>
    obtain rfl := Option.some.inj hr
    exact h
  | cons move moves ih =>
    rw [GuiState.run, List.foldlM_cons] at hr
    obtain ⟨s₁, hs, hr⟩ := Option.bind_eq_some_iff.mp hr
    exact ih (h.step hs) hr

end GuiState.Inv

/-- What is kept of the delivered signals belongs to their last connection; if its end is not under
way, that is the connection of the worker. -/
theorem GuiState.Inv.kept {fromJson : QJsonParser} {s : GuiState} (h : s.Inv fromJson)
    {value : Post → Option GuiMessage} (hvalue : ∀ e msg, value e = some msg → channel.data e = true)
    {msg : GuiMessage} (hc : channel.cached value s.core.delivered = some msg) {e : Post}
    (he : s.core.delivered.head? = some e) :
    channel.latest value e.conn s.core.delivered = some msg ∧
      ((∀ x ∈ s.core.queue, x.signal ≠ .connectedChanged false) → e.conn = s.core.conns) := by
  obtain ⟨rest, hd⟩ : ∃ rest, s.core.delivered = e :: rest := by
    cases hd : s.core.delivered with
    | nil => simp [hd] at he
    | cons x rest =>
      rw [hd] at he
      obtain rfl : x = e := by simpa using he
      exact ⟨rest, rfl⟩
  have hsteady : channel.Steady (s.core.queue.reverse ++ e :: rest) := by
    rw [← hd]
    exact h.core.steady
  rw [hd] at hc ⊢
  refine ⟨Channel.latest_of_cached hvalue hsteady.of_append hc, fun hqueue => ?_⟩
  have hl := Channel.live_of_cached hvalue hc
  have hclears : ∀ x ∈ s.core.queue.reverse, channel.clears x = false := by
    intro x hx
    have hx' := hqueue x (List.mem_reverse.mp hx)
    apply eq_false_of_ne_true
    intro hclears
    obtain ⟨conn, origin, signal⟩ := x
    cases signal with
    | connectedChanged connected =>
      cases connected with
      | true => exact Bool.false_ne_true hclears
      | false => exact hx' rfl
    | _ => exact Bool.false_ne_true hclears
  have hlive : s.core.live = true := by
    rw [Core.live, Core.log, hd]
    exact Channel.live_append hl hclears
  obtain ⟨e', hhead, hconn⟩ := h.core.current hlive
  rw [Core.log, hd] at hhead
  rw [← hconn]
  exact (Channel.epoch_of_live hsteady hl hclears hhead).symm

theorem exists_head_of_cached {value : Post → Option GuiMessage} {delivered : List Post}
    {msg : GuiMessage} (h : channel.cached value delivered = some msg) :
    ∃ e, delivered.head? = some e := by
  cases delivered with
  | nil => exact absurd h (by simp [Channel.cached])
  | cons e rest => exact ⟨e, rfl⟩

/-- A session button is enabled only by what the last messages of the connection say that the
window has been told of. -/
theorem session_buttons_current {fromJson : QJsonParser} {moves : List Move} {s : GuiState}
    (h : GuiState.run fromJson {} moves = some s) :
    ¬ (s.window.btnLoggerStart = true ∧ s.window.btnLoggerStop = true) ∧
    (s.window.btnLoggerStart = true ∨ s.window.btnLoggerStop = true →
      s.window.clientState = .connected ∧ ∃ e, s.core.delivered.head? = some e ∧
        (∃ msg, channel.latest Post.presence? e.conn s.core.delivered = some msg ∧
          PresenceMessage fromJson msg true) ∧
        (s.window.btnLoggerStop = true →
          ∃ msg st, channel.latest Post.status? e.conn s.core.delivered = some msg ∧
            StatusMessage fromJson msg st ∧ st.recordingActive = true) ∧
        ((∀ x ∈ s.core.queue, x.signal ≠ .connectedChanged false) → e.conn = s.core.conns)) := by
  have hinv := (inv_init fromJson).run h
  have hbuttons := hinv.window.buttons
  have hstart : s.window.btnLoggerStart = (decide (s.window.clientState = .connected) &&
      s.window.ekinoxPresenceOnline && !(s.window.hasEkinoxStatus &&
        s.window.lastEkinoxStatus.recordingActive)) := by
    rw [← hbuttons]
    rfl
  have hstop : s.window.btnLoggerStop = (decide (s.window.clientState = .connected) &&
      s.window.ekinoxPresenceOnline && (s.window.hasEkinoxStatus &&
        s.window.lastEkinoxStatus.recordingActive)) := by
    rw [← hbuttons]
    rfl
  constructor
  · rintro ⟨h₁, h₂⟩
    rw [hstart] at h₁
    rw [hstop] at h₂
    simp only [Bool.and_eq_true] at h₁ h₂
    rw [h₂.2.1, h₂.2.2] at h₁
    exact Bool.false_ne_true h₁.2
  · intro henabled
    have hready : s.window.clientState = .connected ∧ s.window.ekinoxPresenceOnline = true := by
      rw [hstart, hstop] at henabled
      simp only [Bool.and_eq_true, decide_eq_true_eq] at henabled
      obtain h₁ | h₂ := henabled
      · exact h₁.1
      · exact h₂.1
    obtain ⟨msg, hcached, hmsg⟩ := hinv.window.presence hready.2
    obtain ⟨e, he⟩ := exists_head_of_cached hcached
    obtain ⟨hlatest, hconn⟩ := hinv.kept presence?_data hcached he
    refine ⟨hready.1, e, he, ⟨msg, hlatest, hmsg⟩, fun hb => ?_, hconn⟩
    rw [hstop] at hb
    simp only [Bool.and_eq_true] at hb
    obtain ⟨msg', hcached', hmsg'⟩ := hinv.window.status hb.2.1
    exact ⟨msg', _, (hinv.kept status?_data hcached' he).1, hmsg', hb.2.2⟩

def benchOnlineText : Bytes := bytes "\x7b\"reason\":\"\",\"state\":\"online\",\"ts\":5\x7d"

def benchRecordingText : Bytes := bytes "\x7b\"recording_active\":true,\"state\":\"RECORDING\"\x7d"

/-- An empty text is no JSON document. -/
def benchGuiJson : QJsonParser := fun text =>
  if text = benchOnlineText then
    .ok (.obj [(bytes "reason", .str []), (bytes "state", .str (bytes "online")), (bytes "ts", .int 5)])
  else if text = benchRecordingText then
    .ok (.obj [(bytes "recording_active", .bool true), (bytes "state", .str (bytes "RECORDING"))])
  else .error (bytes "illegal value")

/-- From the click to a worker that waits for messages. -/
def benchConnect : List Move :=
  [.connectToBroker] ++ List.replicate 4 .uiAct ++ [.startWorker, .workerMove .loop] ++
    List.replicate 2 .workerAct ++ [.workerMove .callReturns] ++ List.replicate 5 .workerAct ++
    [.workerMove .callReturns] ++ List.replicate 2 .workerAct ++ [.workerMove .loop]

def benchMessage (kind : TopicKind) (payload : Bytes) (acts : ℕ) : List Move :=
  [.workerMove (.consume ⟨kind, payload⟩ 7)] ++ List.replicate acts .workerAct ++ [.workerMove .loop]

def benchRecordingMoves : List Move :=
  benchConnect ++ benchMessage .ekinoxPresence benchOnlineText 2 ++
    benchMessage .ekinoxStatus benchRecordingText 3 ++ List.replicate 12 .deliver

theorem stop_enabled_while_recording :
    ∃ s, GuiState.run benchGuiJson {} benchRecordingMoves = some s ∧ s.window.btnLoggerStop = true ∧
      s.window.clientState = .connected ∧ s.window.btnLoggerStart = false := by
  have hrun : (GuiState.run benchGuiJson {} benchRecordingMoves).isSome = true := by decide +kernel
  obtain ⟨s, hs⟩ := Option.isSome_iff_exists.mp hrun
  have hstop : (GuiState.run benchGuiJson {} benchRecordingMoves).map (·.window.btnLoggerStop) =
      some true := by decide +kernel
  rw [hs] at hstop
  have hstop' : s.window.btnLoggerStop = true := Option.some.inj hstop
  obtain ⟨hapart, hcurrent⟩ := session_buttons_current hs
  exact ⟨s, hs, hstop', (hcurrent (.inr hstop')).1, eq_false_of_ne_true fun h => hapart ⟨h, hstop'⟩⟩

/-- The retained presence is cleared: the last message on its topic has no payload. -/
def benchClearedMoves : List Move :=
  benchConnect ++ benchMessage .ekinoxPresence benchOnlineText 2 ++ benchMessage .ekinoxPresence [] 2 ++
    List.replicate 11 .deliver

/-- The message of a signal, if it is of this kind. -/
def Post.heard (kind : TopicKind) (e : Post) : Option GuiMessage := e.origin.filter (·.kind = kind)

/-- A message that cannot be read disables nothing. -/
theorem start_enabled_without_online : ¬ ∀ fromJson moves s, GuiState.run fromJson {} moves = some s →
    s.core.queue = [] → s.window.btnLoggerStart = true ∨ s.window.btnLoggerStop = true →
    ∃ msg, channel.latest (Post.heard .ekinoxPresence) s.core.conns s.core.delivered = some msg ∧
      PresenceMessage fromJson msg true := by
  intro hall
  have hrun : (GuiState.run benchGuiJson {} benchClearedMoves).isSome = true := by decide +kernel
  obtain ⟨s, hs⟩ := Option.isSome_iff_exists.mp hrun
  have hend : (GuiState.run benchGuiJson {} benchClearedMoves).map (fun s =>
      (s.core.queue, s.window.btnLoggerStart,
        channel.latest (Post.heard .ekinoxPresence) s.core.conns s.core.delivered)) =
      some ([], true, some ⟨.ekinoxPresence, []⟩) := by decide +kernel
  rw [hs] at hend
  simp only [Option.map_some, Option.some.injEq, Prod.mk.injEq] at hend
  obtain ⟨hqueue, hstart, hlatest⟩ := hend
  obtain ⟨msg, hmsg, -, obj, hobj, -⟩ := hall benchGuiJson benchClearedMoves s hs hqueue (.inl hstart)
  obtain rfl := Option.some.inj (hlatest.symm.trans hmsg)
  have hnone : readObject benchGuiJson [] = none := by decide +kernel
  exact absurd (hnone.symm.trans hobj) (by simp)

end Ironsoft.Gui
