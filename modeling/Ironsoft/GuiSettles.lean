import Ironsoft.GuiControls

/-!
# What the window settles on

A setter posts what it has changed, so the window shows what the threads share as soon as nothing is
on its way. While the client is stopped two threads change the state at once, and their signals may
come in the wrong order; what `stop` sets last makes up for it.
-/
namespace Ironsoft.Gui
open Ekinox EpochModel

/-- What the threads share, and the window once it has got all that is posted. -/
structure Mirror where
  connected : Bool
  presence : Bool
  state : MqttConnectionState
  stop : Bool
  window : Window

namespace Mirror

def exchangeState (m : Mirror) (state : MqttConnectionState) : Mirror :=
  if m.state = state then m
  else { m with state := state, window := m.window.handle (.stateChanged state) }

/-- An action, and the signal it posts. -/
def act (m : Mirror) : GuiAct → Mirror
  | .setConnected v =>
    if m.connected = v then m
    else { m with connected := v, window := m.window.handle (.connectedChanged v) }
  | .setPresence v =>
    if m.presence = v then m
    else { m with presence := v, window := m.window.handle (.presenceChanged v) }
  | .setState state => m.exchangeState state
  | .setLastState => m.exchangeState (if m.stop then .stopping else .disconnected)
  | .post _ signal => { m with window := m.window.handle signal }

/-- All that is left to do. -/
def finish (m : Mirror) (todo : List GuiAct) : Mirror := todo.foldl act m

@[simp] theorem finish_nil (m : Mirror) : m.finish [] = m := rfl

@[simp] theorem finish_cons (m : Mirror) (a : GuiAct) (todo : List GuiAct) :
    m.finish (a :: todo) = (m.act a).finish todo := rfl

end Mirror

/-- The window once it has got the signals. -/
def Window.handleAll (w : Window) (queue : List Post) : Window :=
  queue.foldl (fun w e => w.handle e.signal) w

def Core.mirror (c : Core) (w : Window) : Mirror :=
  ⟨c.connected, c.presence, c.state, c.stop, w.handleAll c.queue⟩

theorem Window.handleAll_append (w : Window) (queue : List Post) (e : Post) :
    w.handleAll (queue ++ [e]) = (w.handleAll queue).handle e.signal := by
  simp [Window.handleAll]

/-- An action and what it leaves to do come to the same thing. -/
theorem mirror_exec (c : Core) (w : Window) (a : GuiAct) (rest : List GuiAct) :
    ((c.exec a).1.mirror w).finish ((c.exec a).2 ++ rest) = (c.mirror w).finish (a :: rest) := by
  cases a with
  | setConnected v =>
    by_cases h : c.connected = v
    · subst h
      simp [Core.exec, Core.mirror, Mirror.act]
    · simp [Core.exec, Core.mirror, Mirror.act, h]
  | setPresence v =>
    by_cases h : c.presence = v
    · subst h
      simp [Core.exec, Core.mirror, Mirror.act]
    · simp [Core.exec, Core.mirror, Mirror.act, h]
  | setState state =>
    by_cases h : c.state = state
    · subst h
      simp [Core.exec, Core.exchangeState, Core.mirror, Mirror.act, Mirror.exchangeState]
    · simp [Core.exec, Core.exchangeState, Core.mirror, Mirror.act, Mirror.exchangeState, h]
  | setLastState =>
    by_cases h : c.state = if c.stop then .stopping else .disconnected
    · simp [Core.exec, Core.exchangeState, Core.mirror, Mirror.act, Mirror.exchangeState, ← h]
    · simp [Core.exec, Core.exchangeState, Core.mirror, Mirror.act, Mirror.exchangeState, h]
  | post origin signal => simp [Core.exec, Core.mirror, Mirror.act, Window.handleAll_append]

theorem mirror_deliver {c : Core} {e : Post} {queue : List Post} (w : Window) (hq : c.queue = e :: queue) :
    Core.mirror { c with queue := queue, delivered := e :: c.delivered } (w.handle e.signal) =
      c.mirror w := by
  simp [Core.mirror, Window.handleAll, hq]

theorem mirror_chatter (c : Core) (w : Window) :
    (c.exec (.post none .other)).1.mirror w = c.mirror w := by
  simp [Core.exec, Core.mirror, Window.handleAll_append, Window.handle]

/-- Actions on the state alone. -/
def GuiAct.OnState : GuiAct → Prop
  | .setState _ => True
  | .post _ (.stateChanged _) => True
  | _ => False

/-- The part of the mirror that the state does not touch. -/
def Mirror.links (m : Mirror) : Bool × Bool × Bool × Bool :=
  (m.connected, m.presence, m.window.btnPing, m.window.presenceOnline)

theorem Mirror.exchangeState_links (m : Mirror) (state : MqttConnectionState) :
    (m.exchangeState state).links = m.links := by
  simp only [exchangeState]
  split_ifs <;> rfl

theorem Mirror.act_links {m m' : Mirror} (a : GuiAct) (h : m.links = m'.links) :
    (m.act a).links = (m'.act a).links := by
  obtain ⟨hc, hp, hb, ho⟩ : m.connected = m'.connected ∧ m.presence = m'.presence ∧
      m.window.btnPing = m'.window.btnPing ∧ m.window.presenceOnline = m'.window.presenceOnline := by
    simpa [links] using h
  cases a with
  | setConnected v =>
    by_cases hv : m'.connected = v
    · simp [act, hc, hv, h]
    · cases v <;> simp_all [act, links, Window.handle, Window.onConnectedChanged,
        Window.updateLoggerControls]
  | setPresence v =>
    by_cases hv : m'.presence = v
    · simp [act, hp, hv, h]
    · simp_all [act, links, Window.handle, Window.onPresenceChanged]
  | setState state =>
    calc (m.exchangeState state).links = m.links := m.exchangeState_links state
      _ = m'.links := h
      _ = (m'.exchangeState state).links := (m'.exchangeState_links state).symm
  | setLastState =>
    calc (m.exchangeState _).links = m.links := m.exchangeState_links _
      _ = m'.links := h
      _ = (m'.exchangeState _).links := (m'.exchangeState_links _).symm
  | post origin signal =>
    cases signal with
    | connectedChanged connected =>
      cases connected <;> simp_all [act, links, Window.handle, Window.onConnectedChanged,
        Window.updateLoggerControls]
    | presenceChanged online => simp_all [act, links, Window.handle, Window.onPresenceChanged]
    | _ => exact h

theorem Mirror.finish_links {m m' : Mirror} (todo : List GuiAct) (h : m.links = m'.links) :
    (m.finish todo).links = (m'.finish todo).links := by
  induction todo generalizing m m' with
  | nil => exact h
  | cons a todo ih => exact ih (act_links a h)

theorem exec_links {a : GuiAct} (c : Core) (w : Window) (h : a.OnState) :
    ((c.exec a).1.mirror w).links = (c.mirror w).links := by
  cases a with
  | setState state => rfl
  | post origin signal =>
    cases signal with
    | stateChanged state =>
      simp [Core.exec, Core.mirror, Window.handleAll_append, Mirror.links, Window.handle,
        Window.onClientStateChanged, Window.updateLoggerControls]
    | _ => exact absurd h id
  | _ => exact absurd h id

/-- The window shows the connection and the presence that the threads share. -/
structure Mirror.Linked (m : Mirror) (online : Bool) : Prop where
  connected : m.connected = online
  ping : m.window.btnPing = online
  presence : m.window.presenceOnline = m.presence
  backed : m.presence = true → online = true

namespace Mirror.Linked

variable {m m' : Mirror} {online : Bool}

theorem of_links (h : m.Linked online) (hl : m'.links = m.links) : m'.Linked online := by
  obtain ⟨hc, hp, hb, ho⟩ : m'.connected = m.connected ∧ m'.presence = m.presence ∧
      m'.window.btnPing = m.window.btnPing ∧ m'.window.presenceOnline = m.window.presenceOnline := by
    simpa [links] using hl
  refine ⟨hc.trans h.connected, hb.trans h.ping, ?_, fun hon => h.backed (hp ▸ hon)⟩
  calc m'.window.presenceOnline = m.window.presenceOnline := ho
    _ = m.presence := h.presence
    _ = m'.presence := hp.symm

theorem opens (h : m.Linked online) : (m.act (.setConnected true)).Linked true := by
  by_cases hc : m.connected = true
  · have hlinked : m.Linked true := by
      rw [← hc, h.connected]
      exact h
    simpa [act, hc] using hlinked
  · have hact : m.act (.setConnected true) =
        { m with connected := true, window := m.window.handle (.connectedChanged true) } := if_neg hc
    rw [hact]
    exact ⟨rfl, rfl, h.presence, fun _ => rfl⟩

/-- The end of a connection takes the presence along. -/
theorem closes (h : m.Linked online) :
    ((m.act (.setConnected false)).act (.setPresence false)).Linked false := by
  have hping : (m.act (.setConnected false)).window.btnPing = false := by
    by_cases hc : m.connected = false
    · simpa [act, hc] using h.ping.trans (h.connected.symm.trans hc)
    · simp [act, hc, Window.handle, Window.onConnectedChanged, Window.updateLoggerControls]
  have hconnected : (m.act (.setConnected false)).connected = false := by
    by_cases hc : m.connected = false <;> simp [act, hc]
  have hpresence : (m.act (.setConnected false)).presence = m.presence := by
    by_cases hc : m.connected = false <;> simp [act, hc]
  have hshown : m.presence = false → (m.act (.setConnected false)).window.presenceOnline = false := by
    intro hp
    by_cases hc : m.connected = false
    · simpa [act, hc] using h.presence.trans hp
    · simp [act, hc, Window.handle, Window.onConnectedChanged, Window.updateLoggerControls]
  by_cases hp : m.presence = false
  · have hsame : (m.act (.setConnected false)).act (.setPresence false) = m.act (.setConnected false) :=
      if_pos (hpresence.trans hp)
    rw [hsame]
    refine ⟨hconnected, hping, (hshown hp).trans (hpresence.trans hp).symm, fun hon => ?_⟩
    exact absurd ((hpresence.trans hp).symm.trans hon) Bool.false_ne_true
  · have hact : (m.act (.setConnected false)).act (.setPresence false) =
        { m.act (.setConnected false) with
          presence := false
          window := (m.act (.setConnected false)).window.handle (.presenceChanged false) } := by
      apply if_neg
      rwa [hpresence]
    rw [hact]
    exact ⟨hconnected, hping, rfl, fun hon => absurd hon Bool.false_ne_true⟩

theorem setPresence (h : m.Linked true) (v : Bool) : (m.act (.setPresence v)).Linked true := by
  by_cases hp : m.presence = v
  · simpa [act, hp] using h
  · have hact : m.act (.setPresence v) =
        { m with presence := v, window := m.window.handle (.presenceChanged v) } := if_neg hp
    rw [hact]
    exact ⟨h.connected, h.ping, rfl, fun _ => rfl⟩

end Mirror.Linked

/-- Actions that neither open nor close a connection, with the signals of the worker. -/
def GuiAct.Neutral : GuiAct → Prop
  | .setConnected _ => False
  | .setPresence _ => False
  | .post _ signal => signal = .other ∨ signal.data = true
  | _ => True

theorem Mirror.act_links_neutral {a : GuiAct} (m : Mirror) (h : a.Neutral) : (m.act a).links = m.links := by
  cases a with
  | setConnected v => exact absurd h id
  | setPresence v => exact absurd h id
  | setState state => exact m.exchangeState_links state
  | setLastState => exact m.exchangeState_links _
  | post origin signal =>
    cases signal with
    | connectedChanged connected => simp [GuiAct.Neutral, Signal.data] at h
    | presenceChanged online => simp [GuiAct.Neutral, Signal.data] at h
    | _ => rfl

theorem Mirror.finish_links_neutral {todo : List GuiAct} (m : Mirror) (h : ∀ a ∈ todo, a.Neutral) :
    (m.finish todo).links = m.links := by
  induction todo generalizing m with
  | nil => rfl
  | cons a todo ih =>
    calc ((m.act a).finish todo).links = (m.act a).links := ih _ fun x hx => h x (List.mem_cons_of_mem _ hx)
      _ = m.links := m.act_links_neutral (h a (by simp))

theorem Mirror.Linked.finish_neutral {m : Mirror} {online : Bool} (h : m.Linked online)
    (todo : List GuiAct) (hn : ∀ a ∈ todo, a.Neutral) : (m.finish todo).Linked online :=
  h.of_links (m.finish_links_neutral hn)

theorem Mirror.Linked.finish_presence {m : Mirror} {todo : List GuiAct} (h : m.Linked true)
    (ha : ∀ a ∈ todo, a.Neutral ∨ ∃ v, a = .setPresence v) : (m.finish todo).Linked true := by
  induction todo generalizing m with
  | nil => exact h
  | cons a todo ih =>
    have hrest : ∀ x ∈ todo, x.Neutral ∨ ∃ v, x = .setPresence v :=
      fun x hx => ha x (List.mem_cons_of_mem _ hx)
    obtain hn | ⟨v, rfl⟩ := ha a (by simp)
    · exact ih (h.of_links (m.act_links_neutral hn)) hrest
    · exact ih (h.setPresence v) hrest

/-- The window shows the state that the threads share. -/
def Mirror.Stated (m : Mirror) : Prop := m.window.clientState = m.state

theorem Mirror.Stated.exchangeState {m : Mirror} (h : m.Stated) (state : MqttConnectionState) :
    (m.exchangeState state).Stated := by
  simp only [Mirror.exchangeState]
  split_ifs with hstate
  · exact h
  · rfl

theorem Mirror.exchangeState_state (m : Mirror) (state : MqttConnectionState) :
    (m.exchangeState state).state = state := by
  simp only [Mirror.exchangeState]
  split_ifs with hstate
  · exact hstate
  · rfl

/-- All that the threads do, but for the signal of a state. -/
def GuiAct.Plain : GuiAct → Prop
  | .post _ signal => signal = .other ∨ signal.data = true
  | _ => True

theorem Mirror.Stated.act {m : Mirror} {a : GuiAct} (h : m.Stated) (ha : a.Plain) : (m.act a).Stated := by
  cases a with
  | setConnected v =>
    simp only [Mirror.act]
    split_ifs with hv
    · exact h
    · cases v <;> exact h
  | setPresence v =>
    simp only [Mirror.act]
    split_ifs with hv
    · exact h
    · exact h
  | setState state => exact h.exchangeState state
  | setLastState => exact h.exchangeState _
  | post origin signal =>
    cases signal with
    | stateChanged state => simp [GuiAct.Plain, Signal.data] at ha
    | connectedChanged connected => simp [GuiAct.Plain, Signal.data] at ha
    | _ => exact h

theorem Mirror.Stated.finish {m : Mirror} {todo : List GuiAct} (h : m.Stated) (ha : ∀ a ∈ todo, a.Plain) :
    (m.finish todo).Stated := by
  induction todo generalizing m with
  | nil => exact h
  | cons a todo ih => exact ih (h.act (ha a (by simp))) fun x hx => ha x (List.mem_cons_of_mem _ hx)

def GuiAct.KeepsState : GuiAct → Prop
  | .setState _ => False
  | .setLastState => False
  | _ => True

theorem Mirror.act_state {a : GuiAct} (m : Mirror) (h : a.KeepsState) : (m.act a).state = m.state := by
  cases a with
  | setConnected v =>
    simp only [act]
    split_ifs <;> rfl
  | setPresence v =>
    simp only [act]
    split_ifs <;> rfl
  | setState state => exact absurd h id
  | setLastState => exact absurd h id
  | post origin signal => rfl

theorem Mirror.finish_state (m : Mirror) (todo : List GuiAct) (h : ∀ a ∈ todo, a.KeepsState) :
    (m.finish todo).state = m.state := by
  induction todo generalizing m with
  | nil => rfl
  | cons a todo ih =>
    calc ((m.act a).finish todo).state = (m.act a).state := ih _ fun x hx => h x (List.mem_cons_of_mem _ hx)
      _ = m.state := m.act_state (h a (by simp))

theorem exec_state {a : GuiAct} (c : Core) (h : a.KeepsState) : (c.exec a).1.state = c.state := by
  cases a with
  | setState state => exact absurd h id
  | setLastState => exact absurd h id
  | _ => rfl

theorem exec_stop (c : Core) (a : GuiAct) : (c.exec a).1.stop = c.stop := by
  cases a <;> rfl

theorem exec_rest_ne {c : Core} {a : GuiAct} {state : MqttConnectionState} :
    GuiAct.setState state ∉ (c.exec a).2 := by
  cases a with
  | post origin signal => exact List.not_mem_nil
  | _ =>
    simp only [Core.exec, Core.exchangeState]
    split_ifs <;> simp

/-- Whether there is a connection where the worker goes on. -/
def WorkerPhase.online : WorkerPhase → Bool
  | .subscribing => true
  | .looping => true
  | .consuming => true
  | _ => false

/-- The state at the places where the worker waits for the broker or for the next attempt. -/
def WorkerPhase.shown : WorkerPhase → Option MqttConnectionState
  | .connecting => some .connecting
  | .subscribing => some .connected
  | .looping => some .connected
  | .consuming => some .connected
  | .waiting => some .disconnected
  | _ => none

/-- What the worker goes on to. -/
inductive Core.Goes (fromJson : QJsonParser) (c : Core) : WorkerPhase → Worker → Prop
  | ends {phase : WorkerPhase} (hstop : c.stop = true) (hphase : phase.online = false) :
    c.Goes fromJson phase .finish
  | connects : c.Goes fromJson .top ⟨[.setState .connecting, .post none .other], .connecting⟩
  | fails {phase : WorkerPhase} : c.Goes fromJson phase .failed
  | connected : c.Goes fromJson .connecting
      ⟨[.setConnected true, .setState .connected, .post none .other], .subscribing⟩
  | subscribed : c.Goes fromJson .subscribing ⟨[.post none .other, .post none .other], .looping⟩
  | listens : c.Goes fromJson .looping ⟨[], .consuming⟩
  | consumes (msg : GuiMessage) (currentSecs : ℤ) :
    c.Goes fromJson .consuming ⟨messageActs fromJson msg currentSecs, .looping⟩
  | closes {phase : WorkerPhase} : c.Goes fromJson phase .closed
  | waits : c.Goes fromJson .afterTry ⟨[.setState .disconnected, .post none .other], .waiting⟩
  | resumes : c.Goes fromJson .waiting ⟨[], .top⟩

theorem workerMove_goes {fromJson : QJsonParser} {c c' : Core} {phase : WorkerPhase} {move : WorkerMove}
    {w' : Worker} (hm : c.workerMove fromJson phase move = some (c', w')) :
    c.Goes fromJson phase w' ∧ (c' = c ∨ c' = { c with conns := c.conns + 1 }) := by
  have hgo {w : Worker} (hw : c.Goes fromJson phase w) (heq : some (c, w) = some (c', w')) :
      c.Goes fromJson phase w' ∧ (c' = c ∨ c' = { c with conns := c.conns + 1 }) := by
    obtain ⟨rfl, rfl⟩ := Prod.mk.inj (Option.some.inj heq)
    exact ⟨hw, .inl rfl⟩
  have hloop {w : Worker} (hphase : phase.online = false) (hw : c.Goes fromJson phase w)
      (heq : (if c.stop then some (c, Worker.finish) else some (c, w)) = some (c', w')) :
      c.Goes fromJson phase w' ∧ (c' = c ∨ c' = { c with conns := c.conns + 1 }) := by
    split_ifs at heq with hstop
    · exact hgo (.ends hstop hphase) heq
    · exact hgo hw heq
  cases phase with
  | top =>
    cases move with
    | loop => exact hloop rfl .connects hm
    | _ => simp [Core.workerMove] at hm
  | connecting =>
    cases move with
    | callFails => exact hgo .fails hm
    | callReturns =>
      obtain ⟨rfl, rfl⟩ := Prod.mk.inj (Option.some.inj hm)
      exact ⟨.connected, .inr rfl⟩
    | _ => simp [Core.workerMove] at hm
  | subscribing =>
    cases move with
    | callFails => exact hgo .fails hm
    | callReturns => exact hgo .subscribed hm
    | _ => simp [Core.workerMove] at hm
  | looping =>
    cases move with
    | callFails => exact hgo .fails hm
    | loop =>
      simp only [Core.workerMove] at hm
      split_ifs at hm
      · exact hgo .closes hm
      · exact hgo .listens hm
    | _ => simp [Core.workerMove] at hm
  | consuming =>
    cases move with
    | callFails => exact hgo .fails hm
    | consume msg currentSecs => exact hgo (.consumes msg currentSecs) hm
    | consumeEnds => exact hgo .closes hm
    | _ => simp [Core.workerMove] at hm
  | afterTry =>
    cases move with
    | loop => exact hloop rfl .waits hm
    | _ => simp [Core.workerMove] at hm
  | waiting =>
    cases move with
    | loop => exact hloop rfl .resumes hm
    | _ => simp [Core.workerMove] at hm
  | finished => cases move <;> simp [Core.workerMove] at hm

namespace Core.Goes

variable {fromJson : QJsonParser} {c : Core} {phase : WorkerPhase} {w' : Worker} {m : Mirror}

theorem plain (h : c.Goes fromJson phase w') : ∀ a ∈ w'.todo, a.Plain := by
  cases h with
  | consumes msg currentSecs =>
    intro a ha
    obtain rfl | ⟨v, rfl⟩ | ⟨online, rfl, -⟩ | ⟨st, rfl, -⟩ := mem_messageActs ha
    · exact .inl rfl
    · trivial
    · exact .inr rfl
    · exact .inr rfl
  | _ => simp [GuiAct.Plain, Worker.finish, Worker.failed, Worker.closed]

/-- The worker tells the window of the connection it goes on with. -/
theorem linked (h : c.Goes fromJson phase w') (hm : m.Linked phase.online) :
    (m.finish w'.todo).Linked w'.phase.online := by
  cases h with
  | ends hstop hphase =>
    exact hm.closes.finish_neutral [.setLastState] (by simp [GuiAct.Neutral])
  | connects => exact hm.finish_neutral _ (by simp [GuiAct.Neutral])
  | fails => exact hm.closes.finish_neutral [.post none .other] (by simp [GuiAct.Neutral])
  | connected =>
    exact hm.opens.finish_neutral [.setState .connected, .post none .other]
      (by simp [GuiAct.Neutral])
  | subscribed => exact hm.finish_neutral _ (by simp [GuiAct.Neutral])
  | consumes msg currentSecs =>
    have hacts : ∀ a ∈ messageActs fromJson msg currentSecs, a.Neutral ∨ ∃ v, a = .setPresence v := by
      intro a ha
      obtain rfl | ⟨v, rfl⟩ | ⟨online, rfl, -⟩ | ⟨st, rfl, -⟩ := mem_messageActs ha
      · exact .inl (.inl rfl)
      · exact .inr ⟨v, rfl⟩
      · exact .inl (.inr rfl)
      · exact .inl (.inr rfl)
    exact hm.finish_presence hacts
  | listens => exact hm
  | closes => exact hm.closes
  | waits => exact hm.finish_neutral _ (by simp [GuiAct.Neutral])
  | resumes => exact hm

/-- The state of the place that the worker goes on to. -/
theorem shown (h : c.Goes fromJson phase w') {state : MqttConnectionState}
    (hm : ∀ state, phase.shown = some state → m.state = state) (hs : w'.phase.shown = some state) :
    (m.finish w'.todo).state = state := by
  cases h with
  | ends hstop hphase => simp [Worker.finish, WorkerPhase.shown] at hs
  | connects =>
    obtain rfl := Option.some.inj hs
    exact m.exchangeState_state _
  | fails => simp [Worker.failed, WorkerPhase.shown] at hs
  | connected =>
    obtain rfl := Option.some.inj hs
    exact (m.act (.setConnected true)).exchangeState_state _
  | subscribed => exact hm _ hs
  | listens => exact hm _ hs
  | consumes msg currentSecs =>
    rw [m.finish_state]
    · exact hm _ hs
    · intro a ha
      obtain rfl | ⟨v, rfl⟩ | ⟨online, rfl, -⟩ | ⟨st, rfl, -⟩ := mem_messageActs ha
      all_goals trivial
  | closes => simp [Worker.closed, WorkerPhase.shown] at hs
  | waits =>
    obtain rfl := Option.some.inj hs
    exact m.exchangeState_state _
  | resumes => simp [WorkerPhase.shown] at hs

end Core.Goes

/-- What is to be done by the worker, or by the UI thread where there is no worker. -/
def GuiState.todo (s : GuiState) : List GuiAct :=
  match s.worker with
  | some w => w.todo
  | none => s.uiTodo

def GuiState.online (s : GuiState) : Bool :=
  match s.worker with
  | some w => w.phase.online
  | none => false

def GuiState.mirror (s : GuiState) : Mirror := (s.core.mirror s.window).finish s.todo

/-- What `stop` does before it waits for the worker. -/
def GuiAct.Stops (a : GuiAct) : Prop :=
  a = .setState .stopping ∨ a = .post none (.stateChanged .stopping)

theorem GuiAct.Stops.onState {a : GuiAct} (h : a.Stops) : a.OnState := by
  obtain rfl | rfl := h <;> trivial

theorem GuiAct.Stops.exec {a a' : GuiAct} {c : Core} (h : a.Stops) (ha : a' ∈ (c.exec a).2) : a'.Stops := by
  obtain rfl | rfl := h
  · simp only [Core.exec, Core.exchangeState] at ha
    split_ifs at ha
    · exact absurd ha List.not_mem_nil
    · exact .inr (List.mem_singleton.mp ha)
  · exact absurd ha List.not_mem_nil

theorem GuiAct.Stops.exec_state {a : GuiAct} {c : Core} (h : a.Stops) (hs : c.state = .stopping) :
    (c.exec a).1.state = .stopping := by
  obtain rfl | rfl := h
  · rfl
  · exact hs

structure GuiState.Settles (s : GuiState) : Prop where
  linked : s.mirror.Linked s.online
  /-- the UI thread leaves the state to a running worker until it stops it -/
  alone : s.worker ≠ none → s.uiPhase ≠ .joining → s.uiTodo = []
  stated : s.uiPhase ≠ .joining → s.mirror.Stated
  shown : s.uiPhase ≠ .joining → ∀ w state, s.worker = some w → w.phase.shown = some state →
    s.mirror.state = state
  off : s.worker = none → s.uiPhase = .idle → s.mirror.state = .disconnected
  stops : s.uiPhase = .joining → s.core.stop = true ∧ ∀ a ∈ s.uiTodo, a.Stops
  stopping : s.uiPhase = .joining → s.worker = none →
    .setState .stopping ∈ s.uiTodo ∨ s.core.state = .stopping
  /-- a finished worker leaves a state that the end of `stop` has to change -/
  finished : ∀ todo, s.worker = some ⟨todo, .finished⟩ → s.core.stop = true ∧
    (∀ state, .setState state ∉ todo) ∧ (.setLastState ∈ todo ∨ s.core.state = .stopping)
  running : s.worker ≠ none → s.core.stop = true → s.uiPhase = .joining
  starting : s.uiPhase = .starting → s.core.stop = false ∧ s.worker = none

theorem settles_init : GuiState.Settles {} := by
  constructor <;> simp [GuiState.mirror, GuiState.todo, GuiState.online, Core.mirror, Window.handleAll,
    Mirror.Stated]
  exact ⟨rfl, rfl, rfl, by simp⟩

namespace GuiState.Settles

variable {fromJson : QJsonParser} {s s' : GuiState}

/-- A step of the window or of the log changes nothing of what the window comes to. -/
theorem of_mirror {core : Core} {window : Window} (h : s.Settles)
    (hm : core.mirror window = s.core.mirror s.window) (hstop : core.stop = s.core.stop) :
    GuiState.Settles { s with core := core, window := window } := by
  have hmirror : GuiState.mirror { s with core := core, window := window } = s.mirror :=
    congrArg (·.finish s.todo) hm
  have hstate : core.state = s.core.state := congrArg Mirror.state hm
  refine ⟨?_, h.alone, ?_, ?_, ?_, ?_, ?_, ?_, ?_, ?_⟩
  · rw [hmirror]
    exact h.linked
  · rw [hmirror]
    exact h.stated
  · rw [hmirror]
    exact h.shown
  · rw [hmirror]
    exact h.off
  · rw [hstop]
    exact h.stops
  · rw [hstate]
    exact h.stopping
  · rw [hstop, hstate]
    exact h.finished
  · rw [hstop]
    exact h.running
  · rw [hstop]
    exact h.starting

theorem uiAct {a : GuiAct} {rest : List GuiAct} (h : s.Settles) (ht : s.uiTodo = a :: rest) :
    GuiState.Settles { s with core := (s.core.exec a).1, uiTodo := (s.core.exec a).2 ++ rest } := by
  have hstop := exec_stop s.core a
  have hjoining (hw : s.worker ≠ none) : s.uiPhase = .joining := by
    by_contra hphase
    exact absurd (ht.symm.trans (h.alone hw hphase)) (List.cons_ne_nil _ _)
  have hstops (hphase : s.uiPhase = .joining) : a.Stops := (h.stops hphase).2 a (by simp [ht])
  have hrest (hphase : s.uiPhase = .joining) : ∀ x ∈ (s.core.exec a).2 ++ rest, x.Stops := by
    intro x hx
    obtain hx | hx := List.mem_append.mp hx
    · exact (hstops hphase).exec hx
    · exact (h.stops hphase).2 x (by simp [ht, hx])
  -- alone, the UI thread does what it has to do; beside a worker it changes the state only
  have hsame (hw : s.worker = none) : GuiState.mirror { s with
      core := (s.core.exec a).1, uiTodo := (s.core.exec a).2 ++ rest } = s.mirror := by
    simpa [GuiState.mirror, GuiState.todo, hw, ht] using mirror_exec s.core s.window a rest
  have hlinked : (GuiState.mirror { s with
      core := (s.core.exec a).1, uiTodo := (s.core.exec a).2 ++ rest }).links = s.mirror.links := by
    cases hw : s.worker with
    | none => rw [← hw, hsame hw]
    | some w =>
      have hlinks := exec_links s.core s.window (hstops (hjoining (by simp [hw]))).onState
      simpa [GuiState.mirror, GuiState.todo, hw] using Mirror.finish_links w.todo hlinks
  refine ⟨h.linked.of_links hlinked, fun hw hphase => absurd (hjoining hw) hphase, fun hphase => ?_,
    fun hphase w state (hw : s.worker = some w) => absurd (hjoining (by simp [hw])) hphase,
    fun hw hphase => ?_, fun hphase => ⟨hstop.trans (h.stops hphase).1, hrest hphase⟩,
    fun hphase hw => ?_, fun todo (hw : s.worker = some ⟨todo, .finished⟩) => ?_, fun hw hs => h.running hw (hstop.symm.trans hs), fun hphase => ?_⟩
  · by_cases hw : s.worker = none
    · rw [hsame hw]
      exact h.stated hphase
    · exact absurd (hjoining hw) hphase
  · rw [hsame hw]
    exact h.off hw hphase
  · have hstopping := h.stopping hphase hw
    obtain rfl | rfl := hstops hphase
    · exact .inr rfl
    · obtain hmem | hstate := hstopping
      · left
        simpa [ht, Core.exec] using hmem
      · exact .inr hstate
  · obtain ⟨hs, hkeeps, hlast⟩ := h.finished todo hw
    refine ⟨hstop.trans hs, hkeeps, hlast.imp_right fun hstate => ?_⟩
    exact (hstops (hjoining (by simp [hw]))).exec_state hstate
  · exact ⟨hstop.trans (h.starting hphase).1, (h.starting hphase).2⟩

theorem workerAct {a : GuiAct} {rest : List GuiAct} {phase : WorkerPhase} (h : s.Settles)
    (hw : s.worker = some ⟨a :: rest, phase⟩) :
    GuiState.Settles { s with
      core := (s.core.exec a).1, worker := some ⟨(s.core.exec a).2 ++ rest, phase⟩ } := by
  have hstop := exec_stop s.core a
  have hsome : s.worker ≠ none := by simp [hw]
  have hsame : GuiState.mirror { s with
      core := (s.core.exec a).1, worker := some ⟨(s.core.exec a).2 ++ rest, phase⟩ } = s.mirror := by
    simpa [GuiState.mirror, GuiState.todo, hw] using mirror_exec s.core s.window a rest
  refine ⟨?_, fun _ => h.alone hsome, fun hphase => ?_, fun hphase w state hw' hs => ?_,
    fun hnone => by simp at hnone, fun hphase => ⟨hstop.trans (h.stops hphase).1, (h.stops hphase).2⟩,
    fun _ hnone => by simp at hnone, fun todo hw' => ?_, fun _ hs => h.running hsome (hstop.symm.trans hs),
    fun hphase => absurd (h.starting hphase).2 hsome⟩
  · rw [hsame]
    simpa [GuiState.online, hw] using h.linked
  · rw [hsame]
    exact h.stated hphase
  · rw [hsame]
    obtain rfl := Option.some.inj hw'
    exact h.shown hphase _ state hw hs
  · obtain ⟨rfl, rfl⟩ := Worker.mk.inj (Option.some.inj hw')
    obtain ⟨hs, hkeeps, hlast⟩ := h.finished _ hw
    refine ⟨hstop.trans hs, fun state hmem => ?_, ?_⟩
    · obtain hmem | hmem := List.mem_append.mp hmem
      · exact exec_rest_ne hmem
      · exact hkeeps state (List.mem_cons_of_mem _ hmem)
    · by_cases ha : a = .setLastState
      · subst ha
        exact .inr (if_pos hs)
      · have hkeep : a.KeepsState := by
          cases a with
          | setState state => exact absurd (by simp) (hkeeps state)
          | setLastState => exact absurd rfl ha
          | _ => trivial
        obtain hmem | hstate := hlast
        · left
          obtain heq | hmem := List.mem_cons.mp hmem
          · exact absurd heq.symm ha
          · exact List.mem_append_right _ hmem
        · right
          rw [exec_state s.core hkeep]
          exact hstate

theorem workerMove {phase : WorkerPhase} {move : WorkerMove} {next : Core × Worker} (h : s.Settles)
    (hw : s.worker = some ⟨[], phase⟩) (hm : s.core.workerMove fromJson phase move = some next) :
    GuiState.Settles { s with core := next.1, worker := some next.2 } := by
  obtain ⟨c', w'⟩ := next
  obtain ⟨hgoes, hc⟩ := workerMove_goes hm
  have hsome : s.worker ≠ none := by simp [hw]
  have hmirror : c'.mirror s.window = s.mirror := by
    obtain rfl | rfl := hc <;> simp [GuiState.mirror, GuiState.todo, hw, Core.mirror]
  have hstop : c'.stop = s.core.stop := by obtain rfl | rfl := hc <;> rfl
  have hmirror' : GuiState.mirror { s with core := c', worker := some w' } = s.mirror.finish w'.todo := by
    rw [← hmirror]
    rfl
  refine ⟨?_, fun _ => h.alone hsome, fun hphase => ?_, fun hphase w state hw' hs => ?_,
    fun hnone => by simp at hnone, fun hphase => ⟨hstop.trans (h.stops hphase).1, (h.stops hphase).2⟩,
    fun _ hnone => by simp at hnone, fun todo hw' => ?_, fun _ hs => h.running hsome (hstop.symm.trans hs),
    fun hphase => absurd (h.starting hphase).2 hsome⟩
  · rw [hmirror']
    apply hgoes.linked
    simpa [GuiState.online, hw] using h.linked
  · rw [hmirror']
    exact (h.stated hphase).finish hgoes.plain
  · obtain rfl := Option.some.inj hw'
    rw [hmirror']
    exact hgoes.shown (h.shown hphase _ · hw) hs
  · have hw' : w' = ⟨todo, .finished⟩ := Option.some.inj hw'
    subst hw'
    generalize hfin : (⟨todo, .finished⟩ : Worker) = w' at hgoes
    cases hgoes with
    | ends hs hphase =>
      obtain ⟨rfl, -⟩ := Worker.mk.inj hfin
      exact ⟨hstop.trans hs, by simp, by simp⟩
    | _ => simp [Worker.failed, Worker.closed] at hfin

theorem mirror_idle (hidle : s.uiTodo = []) (hw : s.worker = none ∨ s.worker = some ⟨[], .finished⟩) :
    s.mirror = s.core.mirror s.window ∧ s.online = false := by
  obtain hw | hw := hw
  · simp [GuiState.mirror, GuiState.todo, GuiState.online, hw, hidle]
  · simp [GuiState.mirror, GuiState.todo, GuiState.online, hw, WorkerPhase.online]

theorem connectToBroker (h : s.Settles) (htodo : s.uiTodo = []) (hphase : s.uiPhase = .idle)
    (hw : s.worker = none) :
    GuiState.Settles { s with
      core := { s.core with stop := false }
      uiTodo := [.setConnected false, .setPresence false, .setState .connecting]
      uiPhase := .starting } := by
  obtain ⟨hmirror, honline⟩ := mirror_idle htodo (.inl hw)
  let m := Core.mirror { s.core with stop := false } s.window
  have hlinked : m.Linked false := by
    rw [← honline]
    exact h.linked.of_links (congrArg Mirror.links hmirror).symm
  have hstated : m.Stated := by
    have hold := h.stated (by simp [hphase])
    rwa [hmirror] at hold
  have hmirror' : GuiState.mirror { s with
      core := { s.core with stop := false }
      uiTodo := [.setConnected false, .setPresence false, .setState .connecting]
      uiPhase := .starting } =
      m.finish [.setConnected false, .setPresence false, .setState .connecting] := by
    simp [GuiState.mirror, GuiState.todo, hw, m]
  refine ⟨?_, fun hsome => absurd hw hsome, fun _ => ?_, fun _ w state hw' => ?_, fun _ => by simp, by simp,
    by simp, fun todo hw' => ?_, fun hsome => absurd hw hsome, fun _ => ⟨rfl, hw⟩⟩
  · rw [hmirror']
    have hclosed := hlinked.closes.finish_neutral [.setState .connecting] (by simp [GuiAct.Neutral])
    simpa [GuiState.online, hw] using hclosed
  · rw [hmirror']
    exact hstated.finish (by simp [GuiAct.Plain])
  · exact absurd (hw.symm.trans hw') (by simp)
  · exact absurd (hw.symm.trans hw') (by simp)

theorem startWorker (h : s.Settles) (htodo : s.uiTodo = []) (hphase : s.uiPhase = .starting) :
    GuiState.Settles { s with worker := some ⟨[], .top⟩, uiPhase := .idle } := by
  obtain ⟨hstop, hw⟩ := h.starting hphase
  obtain ⟨hmirror, honline⟩ := mirror_idle htodo (.inl hw)
  have hmirror' : GuiState.mirror { s with worker := some ⟨[], .top⟩, uiPhase := .idle } = s.mirror := by
    rw [hmirror]
    rfl
  refine ⟨?_, fun _ _ => htodo, fun _ => ?_, fun _ w state hw' hs => ?_, fun hnone => by simp at hnone,
    by simp, by simp, by simp, fun _ hs => absurd (hstop.symm.trans hs) Bool.false_ne_true, by simp⟩
  · rw [hmirror']
    have hlinked := h.linked
    rwa [honline] at hlinked
  · rw [hmirror']
    exact h.stated (by simp [hphase])
  · obtain rfl := Option.some.inj hw'
    simp [WorkerPhase.shown] at hs

theorem stop (h : s.Settles) (htodo : s.uiTodo = []) :
    GuiState.Settles { s with
      core := { s.core with stop := true }, uiTodo := [.setState .stopping], uiPhase := .joining } := by
  have hlinks : (GuiState.mirror { s with
      core := { s.core with stop := true }, uiTodo := [.setState .stopping], uiPhase := .joining }).links =
      s.mirror.links := by
    cases hw : s.worker with
    | none =>
      have hstate := (Core.mirror { s.core with stop := true } s.window).act_links_neutral
        (show GuiAct.Neutral (.setState .stopping) from trivial)
      simp only [GuiState.mirror, GuiState.todo, hw, htodo]
      exact hstate
    | some w =>
      simp only [GuiState.mirror, GuiState.todo, hw]
      exact Mirror.finish_links w.todo rfl
  refine ⟨h.linked.of_links hlinks, fun _ hp => absurd rfl hp, fun hp => absurd rfl hp,
    fun hp => absurd rfl hp, fun _ hp => by simp at hp, fun _ => ⟨rfl, by simp [GuiAct.Stops]⟩,
    fun _ _ => .inl (by simp), fun todo hw => ?_, fun _ _ => rfl, fun hp => by simp at hp⟩
  exact ⟨rfl, (h.finished todo hw).2⟩

/-- Whatever the two threads have posted, the last signal of `stop` changes the state. -/
theorem join (h : s.Settles) (htodo : s.uiTodo = []) (hphase : s.uiPhase = .joining)
    (hw : s.worker = none ∨ s.worker = some ⟨[], .finished⟩) :
    GuiState.Settles { s with
      worker := none
      uiTodo := [.setConnected false, .setPresence false, .setState .disconnected]
      uiPhase := .idle } := by
  obtain ⟨hmirror, honline⟩ := mirror_idle htodo hw
  have hstate : s.core.state = .stopping := by
    obtain hw | hw := hw
    · simpa [htodo] using h.stopping hphase hw
    · simpa using (h.finished [] hw).2.2
  let m := ((s.core.mirror s.window).act (.setConnected false)).act (.setPresence false)
  have hmirror' : GuiState.mirror { s with
      worker := none
      uiTodo := [.setConnected false, .setPresence false, .setState .disconnected]
      uiPhase := .idle } = m.exchangeState .disconnected := rfl
  have hm : m.state = .stopping := by
    have hkeeps := (s.core.mirror s.window).finish_state
      [.setConnected false, .setPresence false] (by simp [GuiAct.KeepsState])
    exact hkeeps.trans hstate
  refine ⟨?_, by simp, fun _ => ?_, by simp, fun _ _ => ?_, by simp, by simp, by simp, by simp, by simp⟩
  · rw [hmirror']
    have hlinked : (s.core.mirror s.window).Linked false := by
      rw [← hmirror, ← honline]
      exact h.linked
    exact hlinked.closes.of_links (m.exchangeState_links _)
  · rw [hmirror', Mirror.exchangeState, if_neg (by simp [hm])]
    rfl
  · rw [hmirror']
    exact m.exchangeState_state _

theorem step {move : Move} (h : s.Settles) (hs : s.step fromJson move = some s') : s'.Settles := by
  cases move with
  | uiAct =>
    cases htodo : s.uiTodo with
    | nil => simp [GuiState.step, htodo] at hs
    | cons a rest =>
      simp only [GuiState.step, htodo, Option.some.injEq] at hs
      subst hs
      exact h.uiAct htodo
  | workerAct =>
    simp only [GuiState.step] at hs
    split at hs
    case h_1 a rest phase hw =>
      obtain rfl := Option.some.inj hs
      exact h.workerAct hw
    case h_2 => simp at hs
  | workerMove move =>
    simp only [GuiState.step] at hs
    split at hs
    case h_1 phase hw =>
      obtain ⟨next, hm, rfl⟩ := Option.map_eq_some_iff.mp hs
      exact h.workerMove hw hm
    case h_2 => simp at hs
  | chatter =>
    obtain rfl := Option.some.inj hs
    exact h.of_mirror (mirror_chatter s.core s.window) rfl
  | deliver =>
    cases hq : s.core.queue with
    | nil => simp [GuiState.step, hq] at hs
    | cons e queue =>
      simp only [GuiState.step, hq] at hs
      split_ifs at hs
      obtain rfl := Option.some.inj hs
      exact h.of_mirror (mirror_deliver s.window hq) rfl
  | connectToBroker =>
    simp only [GuiState.step] at hs
    split_ifs at hs with hg
    obtain rfl := Option.some.inj hs
    have hidle : s.uiTodo = [] ∧ s.uiPhase = .idle := by simpa [GuiState.idle] using hg.1
    exact h.connectToBroker hidle.1 hidle.2 hg.2.2
  | startWorker =>
    simp only [GuiState.step] at hs
    split_ifs at hs with hg
    obtain rfl := Option.some.inj hs
    exact h.startWorker hg.1 hg.2
  | stop =>
    simp only [GuiState.step] at hs
    split_ifs at hs with hg
    obtain rfl := Option.some.inj hs
    have hidle : s.uiTodo = [] ∧ s.uiPhase = .idle := by simpa [GuiState.idle] using hg
    exact h.stop hidle.1
  | join =>
    simp only [GuiState.step] at hs
    split_ifs at hs with hg
    obtain rfl := Option.some.inj hs
    exact h.join hg.1 hg.2.1 hg.2.2

theorem run {moves : List Move} (h : s.Settles) (hr : s.run fromJson moves = some s') : s'.Settles := by
  induction moves generalizing s with
  | nil =>
    obtain rfl := Option.some.inj hr
    exact h
  | cons move moves ih =>
    rw [GuiState.run, List.foldlM_cons] at hr
    obtain ⟨s₁, hs, hr⟩ := Option.bind_eq_some_iff.mp hr
    exact ih (h.step hs) hr

end GuiState.Settles

/-- Nothing is on its way: the threads wait, and all signals have been delivered. -/
structure GuiState.Quiet (s : GuiState) : Prop where
  queue : s.core.queue = []
  ui : s.idle = true
  worker : ∀ w, s.worker = some w → w.todo = []

instance (s : GuiState) : Decidable s.Quiet :=
  decidable_of_iff (s.core.queue = [] ∧ s.idle = true ∧ ∀ w, s.worker = some w → w.todo = [])
    ⟨fun ⟨hq, hu, hw⟩ => ⟨hq, hu, hw⟩, fun h => ⟨h.queue, h.ui, h.worker⟩⟩

/-- Once nothing is on its way the window shows what the threads share, which is where the worker
waits; without a worker it shows that there is no connection. -/
theorem window_settles {fromJson : QJsonParser} {moves : List Move} {s : GuiState}
    (h : GuiState.run fromJson {} moves = some s) (hquiet : s.Quiet) :
    s.window.clientState = s.core.state ∧ s.window.btnPing = s.core.connected ∧
      s.window.presenceOnline = s.core.presence ∧
      (s.core.presence = true → s.core.connected = true) ∧
      (∀ w, s.worker = some w → s.core.connected = w.phase.online ∧
        ∀ state, w.phase.shown = some state → s.core.state = state) ∧
      (s.worker = none → s.core.state = .disconnected ∧ s.core.connected = false ∧
        s.window.ekinoxPresenceOnline = false ∧ s.window.hasEkinoxStatus = false) := by
  have hsettles := settles_init.run h
  have hinv := (inv_init fromJson).run h
  obtain ⟨htodo, hphase⟩ : s.uiTodo = [] ∧ s.uiPhase = .idle := by
    simpa [GuiState.idle] using hquiet.ui
  have hnot : s.uiPhase ≠ .joining := by simp [hphase]
  have hrest : s.todo = [] := by
    cases hw : s.worker with
    | none => simpa [GuiState.todo, hw] using htodo
    | some w => simpa [GuiState.todo, hw] using hquiet.worker w hw
  have hmirror : s.mirror = ⟨s.core.connected, s.core.presence, s.core.state, s.core.stop, s.window⟩ := by
    simp [GuiState.mirror, hrest, Core.mirror, Window.handleAll, hquiet.queue]
  have hlinked := hsettles.linked
  rw [hmirror] at hlinked
  have hstated := hsettles.stated hnot
  have hshown := hsettles.shown hnot
  have hoff := hsettles.off
  rw [hmirror] at hstated hshown hoff
  have hconnected : s.core.connected = s.online := hlinked.connected
  have hdelivered : s.core.log = s.core.delivered := by simp [Core.log, hquiet.queue]
  refine ⟨hstated, hlinked.ping.trans hconnected.symm, hlinked.presence, ?_, fun w hw => ⟨?_, ?_⟩,
    fun hw => ⟨hoff hw hphase, ?_, ?_, ?_⟩⟩
  · intro hp
    exact hconnected.trans (hlinked.backed hp)
  · simpa [GuiState.online, hw] using hconnected
  · exact fun state => hshown w state hw
  · simpa [GuiState.online, hw] using hconnected
  · apply eq_false_of_ne_true
    intro hp
    obtain ⟨msg, hcached, -⟩ := hinv.window.presence hp
    have hlive := Channel.live_of_cached presence?_data hcached
    rw [← hdelivered] at hlive
    exact Bool.false_ne_true ((hinv.dead hw).symm.trans hlive)
  · apply eq_false_of_ne_true
    intro hp
    obtain ⟨msg, hcached, -⟩ := hinv.window.status hp
    have hlive := Channel.live_of_cached status?_data hcached
    rw [← hdelivered] at hlive
    exact Bool.false_ne_true ((hinv.dead hw).symm.trans hlive)

/-- The worker notices `stop` while the UI thread is still announcing it. -/
def benchStopMoves : List Move :=
  benchRecordingMoves ++ [.stop, .uiAct, .workerMove .consumeEnds] ++ List.replicate 3 .workerAct ++
    [.uiAct, .workerMove .loop] ++ List.replicate 3 .workerAct ++ [.join] ++
    List.replicate 4 .uiAct ++ List.replicate 3 .deliver

theorem window_settles_stopped : ∃ s, GuiState.run benchGuiJson {} benchStopMoves = some s ∧
    s.Quiet ∧ s.worker = none ∧ s.window.clientState = .disconnected ∧ s.window.btnPing = false := by
  have hrun : (GuiState.run benchGuiJson {} benchStopMoves).isSome = true := by decide +kernel
  obtain ⟨s, hs⟩ := Option.isSome_iff_exists.mp hrun
  have hend : (GuiState.run benchGuiJson {} benchStopMoves).map (fun s =>
      decide (s.Quiet ∧ s.worker = none)) = some true := by decide +kernel
  rw [hs] at hend
  obtain ⟨hquiet, hw⟩ := of_decide_eq_true (Option.some.inj hend)
  obtain ⟨hstate, hping, -, -, -, hoff⟩ := window_settles hs hquiet
  exact ⟨s, hs, hquiet, hw, hstate.trans (hoff hw).1, hping.trans (hoff hw).2.1⟩

end Ironsoft.Gui
