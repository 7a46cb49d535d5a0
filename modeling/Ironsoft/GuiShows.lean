import Ironsoft.GuiSettles

/-!
# What the window shows of the messages

The signals of a message are the only ones that change what is kept of the service. Once nothing is
on its way, the window shows the last messages that the worker has read in its connection.
-/
namespace Ironsoft.Gui
open Ekinox EpochModel

/-- A message, and the time at which the worker read it. -/
abbrev Hearing := GuiMessage × ℤ

section Readings

variable (fromJson : QJsonParser)

/-- What a message says about the backend. -/
def backendHeard (h : Hearing) : Option Bool :=
  match h.1.kind with
  | .presence =>
    match readObject fromJson h.1.payload with
    | some obj =>
      let state := toStringOr (obj.get (bytes "state")) []
      if state = bytes "online" then some true else if state = bytes "offline" then some false else none
    | none => none
  | _ => none

def ekinoxHeard (h : Hearing) : Option Bool :=
  match h.1.kind with
  | .ekinoxPresence => (readObject fromJson h.1.payload).map fun obj =>
      decide (toStringOr (obj.get (bytes "state")) [] = bytes "online")
  | _ => none

def statusHeard (h : Hearing) : Option EkinoxStatus :=
  match h.1.kind with
  | .ekinoxStatus => (parseEkinoxStatusJson fromJson h.1.payload {} h.2).toOption
  | _ => none

/-- What has been read since the last connection was made, newest first. -/
def GuiState.hear (heard : List Hearing) (s : GuiState) : Move → List Hearing
  | .workerMove .callReturns => if s.worker = some ⟨[], .connecting⟩ then [] else heard
  | .workerMove (.consume msg currentSecs) => (msg, currentSecs) :: heard
  | _ => heard

def GuiState.heardAlong (s : GuiState) (heard : List Hearing) : List Move → List Hearing
  | [] => heard
  | move :: moves =>
    match s.step fromJson move with
    | some s' => s'.heardAlong (s.hear heard move) moves
    | none => heard

end Readings

def Signal.online? : Signal → Option Bool
  | .ekinoxPresenceChanged online => some online
  | _ => none

def Signal.status? : Signal → Option EkinoxStatus
  | .ekinoxStatusChanged st => some st
  | _ => none

/-- What is kept of a kind of data, after the signals in `log`. -/
def keptOf {β : Type} (value : Signal → Option β) (log : List Post) : Option β :=
  channel.cached (fun e => value e.signal) log

theorem keptOf_cons {β : Type} (value : Signal → Option β) (e : Post) (log : List Post) :
    keptOf value (e :: log) =
      if e.signal.clears then none else (value e.signal).or (keptOf value log) := rfl

/-- What the window shows of the service is what is kept of the delivered signals. -/
structure Window.Keeps (w : Window) (delivered : List Post) : Prop where
  presence : w.ekinoxPresenceOnline = (keptOf Signal.online? delivered).getD false
  status : (if w.hasEkinoxStatus then some w.lastEkinoxStatus else none) = keptOf Signal.status? delivered

theorem Window.Keeps.handle {w : Window} {delivered : List Post} (h : w.Keeps delivered) (e : Post) :
    (w.handle e.signal).Keeps (e :: delivered) := by
  obtain ⟨conn, origin, signal⟩ := e
  cases signal with
  | connectedChanged connected =>
    cases connected with
    | true => exact ⟨h.presence, h.status⟩
    | false => exact ⟨rfl, rfl⟩
  | ekinoxPresenceChanged online => exact ⟨rfl, h.status⟩
  | ekinoxStatusChanged st => exact ⟨h.presence, rfl⟩
  | _ => exact ⟨h.presence, h.status⟩

section Kept

variable {β : Type} (value : Signal → Option β)

/-- What is kept after an action. -/
def GuiAct.keeps (kept : Option β) : GuiAct → Option β
  | .post _ signal => if signal.clears then none else (value signal).or kept
  | _ => kept

def keptAfter (todo : List GuiAct) (kept : Option β) : Option β := todo.foldl (GuiAct.keeps value) kept

/-- An action that leaves what is kept as it is. -/
def GuiAct.Idles : GuiAct → Prop
  | .setConnected _ => False
  | .post _ signal => signal.data = false ∧ signal.clears = false
  | _ => True

variable {value}

theorem GuiAct.Idles.keeps {a : GuiAct} (hvalue : ∀ signal b, value signal = some b → signal.data = true)
    (h : a.Idles) (kept : Option β) : a.keeps value kept = kept := by
  cases a with
  | post origin signal =>
    obtain ⟨hdata, hclears⟩ := h
    have hnone : value signal = none := by
      cases hv : value signal with
      | none => rfl
      | some b => exact absurd (hdata.symm.trans (hvalue signal b hv)) Bool.false_ne_true
    simp [GuiAct.keeps, hclears, hnone]
  | _ => rfl

theorem keptAfter_idle {todo : List GuiAct}
    (hvalue : ∀ signal b, value signal = some b → signal.data = true) (h : ∀ a ∈ todo, a.Idles)
    (kept : Option β) : keptAfter value todo kept = kept := by
  induction todo with
  | nil => rfl
  | cons a todo ih =>
    have ha := (h a (by simp)).keeps hvalue kept
    change keptAfter value todo (a.keeps value kept) = kept
    rw [ha]
    exact ih fun x hx => h x (List.mem_cons_of_mem _ hx)

theorem exec_idles {c : Core} {a a' : GuiAct} (ha : a.Keeps) (h : a' ∈ (c.exec a).2) : a'.Idles := by
  have hstate (state : MqttConnectionState) (hm : a' ∈ (c.exchangeState state).2) : a'.Idles := by
    simp only [Core.exchangeState] at hm
    split_ifs at hm
    · exact absurd hm List.not_mem_nil
    · obtain rfl := List.mem_singleton.mp hm
      exact ⟨rfl, rfl⟩
  cases a with
  | setConnected v => exact absurd rfl (ha v)
  | setPresence v =>
    simp only [Core.exec] at h
    split_ifs at h
    · exact absurd h List.not_mem_nil
    · obtain rfl := List.mem_singleton.mp h
      exact ⟨rfl, rfl⟩
  | setState state => exact hstate state h
  | setLastState => exact hstate _ h
  | post origin signal => exact absurd h List.not_mem_nil

/-- An action and what it leaves to do keep the same. -/
theorem keptAfter_exec (hvalue : ∀ signal b, value signal = some b → signal.data = true) (c : Core)
    {a : GuiAct} (ha : a.Keeps) (rest : List GuiAct) :
    keptAfter value ((c.exec a).2 ++ rest) (keptOf value (c.exec a).1.log) =
      keptAfter value (a :: rest) (keptOf value c.log) := by
  have hidle : ∀ x ∈ (c.exec a).2, x.Idles := fun x hx => exec_idles ha hx
  have hrest := keptAfter_idle hvalue hidle (keptOf value (c.exec a).1.log)
  have hact : keptOf value (c.exec a).1.log = a.keeps value (keptOf value c.log) := by
    cases a with
    | post origin signal => rw [exec_post_log, keptOf_cons, GuiAct.keeps]
    | _ => rfl
  rw [keptAfter, List.foldl_append]
  change keptAfter value rest (keptAfter value (c.exec a).2 _) = keptAfter value rest _
  rw [hrest, hact]

theorem keptOf_exec_idle (hvalue : ∀ signal b, value signal = some b → signal.data = true) (c : Core)
    {a : GuiAct} (ha : a.Idles) : keptOf value (c.exec a).1.log = keptOf value c.log := by
  cases a with
  | post origin signal =>
    have hkeeps := ha.keeps hvalue (keptOf value c.log)
    rw [exec_post_log, keptOf_cons]
    exact hkeeps
  | _ => rfl

/-- Nothing is kept where nothing is live. -/
theorem keptOf_of_dead (hvalue : ∀ signal b, value signal = some b → signal.data = true) {c : Core}
    (h : c.live = false) : keptOf value c.log = none := by
  cases hk : keptOf value c.log with
  | none => rfl
  | some b =>
    have hlive := Channel.live_of_cached (fun e b => hvalue e.signal b) hk
    exact absurd (h.symm.trans hlive) Bool.false_ne_true

end Kept

theorem online?_data (signal : Signal) (b : Bool) (h : signal.online? = some b) : signal.data = true := by
  cases signal with
  | ekinoxPresenceChanged online => rfl
  | _ => cases h

theorem signal_status?_data (signal : Signal) (b : EkinoxStatus) (h : signal.status? = some b) :
    signal.data = true := by
  cases signal with
  | ekinoxStatusChanged st => rfl
  | _ => cases h

theorem GuiAct.Stops.idles {a : GuiAct} (h : a.Stops) : a.Idles := by
  obtain rfl | rfl := h
  · trivial
  · exact ⟨rfl, rfl⟩

section Messages

variable {fromJson : QJsonParser}

theorem messageActs_online (h : Hearing) (kept : Option Bool) :
    keptAfter Signal.online? (messageActs fromJson h.1 h.2) kept = (ekinoxHeard fromJson h).or kept := by
  obtain ⟨⟨kind, payload⟩, currentSecs⟩ := h
  cases kind with
  | presence =>
    cases ho : readObject fromJson payload with
    | none => simp [messageActs, ho, keptAfter, GuiAct.keeps, ekinoxHeard, Signal.clears, Signal.online?]
    | some obj =>
      simp only [messageActs, ho]
      split_ifs <;> rfl
  | ekinoxPresence =>
    cases ho : readObject fromJson payload with
    | none => simp [messageActs, ho, keptAfter, GuiAct.keeps, ekinoxHeard, Signal.clears, Signal.online?]
    | some obj => simp [messageActs, ho, keptAfter, GuiAct.keeps, ekinoxHeard, Signal.clears, Signal.online?]
  | ekinoxStatus =>
    cases hp : parseEkinoxStatusJson fromJson payload {} currentSecs with
    | error err => simp [messageActs, hp, keptAfter, GuiAct.keeps, ekinoxHeard, Signal.clears, Signal.online?]
    | ok st => simp [messageActs, hp, keptAfter, GuiAct.keeps, ekinoxHeard, Signal.clears, Signal.online?]
  | _ => rfl

theorem messageActs_status (h : Hearing) (kept : Option EkinoxStatus) :
    keptAfter Signal.status? (messageActs fromJson h.1 h.2) kept = (statusHeard fromJson h).or kept := by
  obtain ⟨⟨kind, payload⟩, currentSecs⟩ := h
  cases kind with
  | presence =>
    cases ho : readObject fromJson payload with
    | none => simp [messageActs, ho, keptAfter, GuiAct.keeps, statusHeard, Signal.clears, Signal.status?]
    | some obj =>
      simp only [messageActs, ho]
      split_ifs <;> rfl
  | ekinoxPresence =>
    cases ho : readObject fromJson payload with
    | none => simp [messageActs, ho, keptAfter, GuiAct.keeps, statusHeard, Signal.clears, Signal.status?]
    | some obj => simp [messageActs, ho, keptAfter, GuiAct.keeps, statusHeard, Signal.clears, Signal.status?]
  | ekinoxStatus =>
    cases hp : parseEkinoxStatusJson fromJson payload {} currentSecs with
    | error err =>
      simp [messageActs, hp, keptAfter, GuiAct.keeps, statusHeard, Signal.clears, Signal.status?, Except.toOption]
    | ok st =>
      simp [messageActs, hp, keptAfter, GuiAct.keeps, statusHeard, Signal.clears, Signal.status?, Except.toOption]
  | _ => rfl

/-- The presence of the backend is kept by the threads. -/
theorem messageActs_presence (h : Hearing) (m : Mirror) :
    (m.finish (messageActs fromJson h.1 h.2)).presence = (backendHeard fromJson h).getD m.presence := by
  have hset (v : Bool) (m : Mirror) : (m.act (.setPresence v)).presence = v := by
    simp only [Mirror.act]
    split_ifs with hv
    · exact hv
    · rfl
  obtain ⟨⟨kind, payload⟩, currentSecs⟩ := h
  cases kind with
  | presence =>
    cases ho : readObject fromJson payload with
    | none => simp [messageActs, ho, backendHeard, Mirror.act]
    | some obj =>
      simp only [messageActs, ho, backendHeard]
      split_ifs
      · exact hset true _
      · exact hset false _
      · rfl
  | ekinoxPresence => cases ho : readObject fromJson payload <;> simp [messageActs, ho, backendHeard, Mirror.act]
  | ekinoxStatus =>
    cases hp : parseEkinoxStatusJson fromJson payload {} currentSecs <;>
      simp [messageActs, hp, backendHeard, Mirror.act]
  | _ => rfl

end Messages

section Runs

variable (fromJson : QJsonParser)

/-- What is kept once the worker has done what it has to do is what has been heard. -/
structure GuiState.Hears (s : GuiState) (heard : List Hearing) : Prop where
  window : s.window.Keeps s.core.delivered
  opened : ∀ todo, s.worker = some ⟨todo, .subscribing⟩ → heard = [] ∧ s.mirror.presence = false
  presence : ∀ w, s.worker = some w → w.phase.receives = true →
    s.mirror.presence = (heard.findSome? (backendHeard fromJson)).getD false
  online : ∀ w, s.worker = some w → w.phase.receives = true →
    keptAfter Signal.online? w.todo (keptOf Signal.online? s.core.log) =
      heard.findSome? (ekinoxHeard fromJson)
  status : ∀ w, s.worker = some w → w.phase.receives = true →
    keptAfter Signal.status? w.todo (keptOf Signal.status? s.core.log) =
      heard.findSome? (statusHeard fromJson)

theorem hears_init : GuiState.Hears fromJson {} [] := by
  refine ⟨⟨rfl, rfl⟩, ?_, ?_, ?_, ?_⟩
  all_goals exact fun _ h => by simp at h

variable {fromJson}

namespace GuiState.Hears

variable {s s' : GuiState} {heard : List Hearing}

/-- The steps that leave the worker as it is. -/
theorem of_aside (h : s.Hears fromJson heard) (hworker : s'.worker = s.worker)
    (hwindow : s'.window.Keeps s'.core.delivered)
    (hpresence : s.worker ≠ none → s'.mirror.presence = s.mirror.presence)
    (honline : s.worker ≠ none → keptOf Signal.online? s'.core.log = keptOf Signal.online? s.core.log)
    (hstatus : s.worker ≠ none → keptOf Signal.status? s'.core.log = keptOf Signal.status? s.core.log) :
    s'.Hears fromJson heard := by
  have hsome {w : Worker} (hw : s'.worker = some w) : s.worker ≠ none := by
    rw [← hworker, hw]
    simp
  refine ⟨hwindow, fun todo hw => ?_, fun w hw => ?_, fun w hw => ?_, fun w hw => ?_⟩
  · rw [hpresence (hsome hw)]
    exact h.opened todo (hworker ▸ hw)
  · rw [hpresence (hsome hw)]
    exact h.presence w (hworker ▸ hw)
  · rw [honline (hsome hw)]
    exact h.online w (hworker ▸ hw)
  · rw [hstatus (hsome hw)]
    exact h.status w (hworker ▸ hw)

theorem of_no_worker (hworker : s'.worker = none) (hwindow : s'.window.Keeps s'.core.delivered) :
    s'.Hears fromJson heard := by
  refine ⟨hwindow, ?_, ?_, ?_, ?_⟩
  all_goals
    intro todo hw
    exact absurd (hworker.symm.trans hw) (by simp)

theorem uiAct {a : GuiAct} {rest : List GuiAct} (h : s.Hears fromJson heard) (hs : s.Settles)
    (ht : s.uiTodo = a :: rest) :
    GuiState.Hears fromJson { s with
      core := (s.core.exec a).1, uiTodo := (s.core.exec a).2 ++ rest } heard := by
  have hstops (hw : s.worker ≠ none) : a.Stops := by
    have hjoining : s.uiPhase = .joining := by
      by_contra hphase
      exact absurd (ht.symm.trans (hs.alone hw hphase)) (List.cons_ne_nil _ _)
    exact (hs.stops hjoining).2 a (by simp [ht])
  refine h.of_aside rfl ?_ (fun hw => ?_) (fun hw => ?_) (fun hw => ?_)
  · rw [exec_delivered]
    exact h.window
  · have hlinks := exec_links s.core s.window (hstops hw).onState
    obtain ⟨w, hw'⟩ := Option.ne_none_iff_exists'.mp hw
    have hsame := Mirror.finish_links w.todo hlinks
    simp only [Mirror.links, Prod.mk.injEq] at hsame
    simpa [GuiState.mirror, GuiState.todo, hw'] using hsame.2.1
  · exact keptOf_exec_idle online?_data s.core (hstops hw).idles
  · exact keptOf_exec_idle signal_status?_data s.core (hstops hw).idles

theorem workerAct {a : GuiAct} {rest : List GuiAct} {phase : WorkerPhase} (h : s.Hears fromJson heard)
    (hi : s.Inv fromJson) (hw : s.worker = some ⟨a :: rest, phase⟩) :
    GuiState.Hears fromJson { s with
      core := (s.core.exec a).1, worker := some ⟨(s.core.exec a).2 ++ rest, phase⟩ } heard := by
  have hmirror : GuiState.mirror { s with
      core := (s.core.exec a).1, worker := some ⟨(s.core.exec a).2 ++ rest, phase⟩ } = s.mirror := by
    simpa [GuiState.mirror, GuiState.todo, hw] using mirror_exec s.core s.window a rest
  have hkeeps (hphase : phase.receives = true) : a.Keeps :=
    ((hi.worker _ hw).1.receiving hphase).2 a (by simp)
  refine ⟨?_, fun todo hw' => ?_, fun w hw' hphase => ?_, fun w hw' hphase => ?_, fun w hw' hphase => ?_⟩
  · rw [exec_delivered]
    exact h.window
  · obtain ⟨rfl, rfl⟩ := Worker.mk.inj (Option.some.inj hw')
    rw [hmirror]
    exact h.opened _ hw
  all_goals obtain rfl := Option.some.inj hw'
  · rw [hmirror]
    exact h.presence _ hw hphase
  · rw [keptAfter_exec online?_data s.core (hkeeps hphase)]
    exact h.online _ hw hphase
  · rw [keptAfter_exec signal_status?_data s.core (hkeeps hphase)]
    exact h.status _ hw hphase

/-- Behind a connection nothing is kept for it. -/
theorem of_elsewhere {w' : Worker} (hworker : s'.worker = some w')
    (hwindow : s'.window.Keeps s'.core.delivered) (hoff : w'.phase.online = false) :
    s'.Hears fromJson heard := by
  have hreceives : w'.phase.receives = false := by
    cases hphase : w'.phase <;> simp_all [WorkerPhase.online, WorkerPhase.receives]
  refine ⟨hwindow, fun todo hw => ?_, ?_, ?_, ?_⟩
  · obtain rfl := Option.some.inj (hworker.symm.trans hw)
    simp [WorkerPhase.online] at hoff
  all_goals
    intro w hw hphase
    obtain rfl := Option.some.inj (hworker.symm.trans hw)
    exact absurd (hreceives.symm.trans hphase) Bool.false_ne_true

theorem connected (h : s.Hears fromJson heard) (hs : s.Settles) (hw : s.worker = some ⟨[], .connecting⟩)
    {c' : Core} (hc : c' = { s.core with conns := s.core.conns + 1 }) :
    GuiState.Hears fromJson { s with
      core := c'
      worker := some ⟨[.setConnected true, .setState .connected, .post none .other], .subscribing⟩ } [] := by
  subst hc
  have hpresence : s.mirror.presence = false := by
    apply eq_false_of_ne_true
    intro hp
    have hon := hs.linked.backed hp
    simp [GuiState.online, hw, WorkerPhase.online] at hon
  refine ⟨h.window, fun todo hw' => ?_, ?_, ?_, ?_⟩
  · have hfinish : ∀ m : Mirror, (m.finish [.setConnected true, .setState .connected, .post none .other]).presence =
        m.presence := by
      intro m
      simp only [Mirror.finish_cons, Mirror.finish_nil, Mirror.act, Mirror.exchangeState]
      split_ifs <;> rfl
    obtain ⟨rfl, -⟩ := Worker.mk.inj (Option.some.inj hw')
    refine ⟨rfl, ?_⟩
    calc _ = (s.core.mirror s.window).presence := hfinish _
      _ = s.mirror.presence := by simp [GuiState.mirror, GuiState.todo, hw]
      _ = false := hpresence
  all_goals
    intro w hw' hphase
    obtain rfl := Option.some.inj hw'
    exact absurd hphase Bool.false_ne_true

theorem subscribed (h : s.Hears fromJson heard) (hi : s.Inv fromJson)
    (hw : s.worker = some ⟨[], .subscribing⟩) :
    GuiState.Hears fromJson { s with
      worker := some ⟨[.post none .other, .post none .other], .looping⟩ } heard := by
  obtain ⟨rfl, hpresence⟩ := h.opened [] hw
  have hdead : s.core.live = false := by
    apply eq_false_of_ne_true
    intro hl
    obtain hp | ⟨hp, -⟩ := (hi.worker _ hw).1.live hl
    · exact Bool.false_ne_true hp
    · simp at hp
  have hidle : ∀ a ∈ [GuiAct.post none .other, .post none .other], a.Idles := by
    simp [GuiAct.Idles, Signal.data, Signal.clears]
  refine ⟨h.window, fun todo hw' => by simp at hw', fun w hw' _ => ?_, fun w hw' _ => ?_, fun w hw' _ => ?_⟩
  all_goals obtain rfl := Option.some.inj hw'
  · have hsame : (s.core.mirror s.window).presence = s.mirror.presence := by
      simp [GuiState.mirror, GuiState.todo, hw]
    exact hsame.trans hpresence
  · rw [keptAfter_idle online?_data hidle]
    exact keptOf_of_dead online?_data hdead
  · rw [keptAfter_idle signal_status?_data hidle]
    exact keptOf_of_dead signal_status?_data hdead

theorem consumed (h : s.Hears fromJson heard) (hw : s.worker = some ⟨[], .consuming⟩) (x : Hearing) :
    GuiState.Hears fromJson { s with
      worker := some ⟨messageActs fromJson x.1 x.2, .looping⟩ } (x :: heard) := by
  refine ⟨h.window, fun todo hw' => by simp at hw', fun w hw' _ => ?_, fun w hw' _ => ?_, fun w hw' _ => ?_⟩
  all_goals obtain rfl := Option.some.inj hw'
  · have hsame : (s.core.mirror s.window).presence = s.mirror.presence := by
      simp [GuiState.mirror, GuiState.todo, hw]
    have hbefore := hsame.trans (h.presence _ hw rfl)
    calc _ = (backendHeard fromJson x).getD (s.core.mirror s.window).presence :=
          messageActs_presence x (s.core.mirror s.window)
      _ = (backendHeard fromJson x).getD ((heard.findSome? (backendHeard fromJson)).getD false) := by
        rw [hbefore]
      _ = ((x :: heard).findSome? (backendHeard fromJson)).getD false := by
        rw [List.findSome?_cons]
        cases backendHeard fromJson x <;> rfl
  · have hbefore := h.online _ hw rfl
    rw [messageActs_online, List.findSome?_cons, ← hbefore]
    cases ekinoxHeard fromJson x <;> rfl
  · have hbefore := h.status _ hw rfl
    rw [messageActs_status, List.findSome?_cons, ← hbefore]
    cases statusHeard fromJson x <;> rfl

/-- The worker goes from the test of the loop to the next message. -/
theorem listens (h : s.Hears fromJson heard) (hw : s.worker = some ⟨[], .looping⟩) :
    GuiState.Hears fromJson { s with worker := some ⟨[], .consuming⟩ } heard := by
  have hmirror : GuiState.mirror { s with worker := some ⟨[], .consuming⟩ } = s.mirror := by
    simp [GuiState.mirror, GuiState.todo, hw]
  have honline := h.online _ hw rfl
  have hstatus := h.status _ hw rfl
  refine ⟨h.window, fun todo hw' => by simp at hw', fun w hw' _ => ?_, fun w hw' _ => ?_, fun w hw' _ => ?_⟩
  all_goals obtain rfl := Option.some.inj hw'
  · exact (congrArg Mirror.presence hmirror).trans (h.presence _ hw rfl)
  · exact honline
  · exact hstatus

theorem workerMove {phase : WorkerPhase} {move : WorkerMove} {next : Core × Worker}
    (h : s.Hears fromJson heard) (hi : s.Inv fromJson) (hs : s.Settles)
    (hw : s.worker = some ⟨[], phase⟩) (hm : s.core.workerMove fromJson phase move = some next) :
    GuiState.Hears fromJson { s with core := next.1, worker := some next.2 }
      (s.hear heard (.workerMove move)) := by
  obtain ⟨c', w'⟩ := next
  obtain ⟨hgoes, hc⟩ := workerMove_goes hm
  have hwindow : s.window.Keeps c'.delivered := by
    obtain rfl | rfl := hc <;> exact h.window
  cases phase with
  | connecting =>
    cases move with
    | callReturns =>
      obtain ⟨rfl, rfl⟩ := Prod.mk.inj (Option.some.inj hm)
      rw [GuiState.hear, if_pos hw]
      exact h.connected hs hw rfl
    | callFails =>
      obtain ⟨rfl, rfl⟩ := Prod.mk.inj (Option.some.inj hm)
      exact of_elsewhere rfl hwindow rfl
    | _ => simp [Core.workerMove] at hm
  | subscribing =>
    cases move with
    | callReturns =>
      obtain ⟨rfl, rfl⟩ := Prod.mk.inj (Option.some.inj hm)
      rw [GuiState.hear, if_neg (by simp [hw])]
      exact h.subscribed hi hw
    | callFails =>
      obtain ⟨rfl, rfl⟩ := Prod.mk.inj (Option.some.inj hm)
      exact of_elsewhere rfl hwindow rfl
    | _ => simp [Core.workerMove] at hm
  | looping =>
    cases move with
    | loop =>
      simp only [Core.workerMove] at hm
      split_ifs at hm
      · obtain ⟨rfl, rfl⟩ := Prod.mk.inj (Option.some.inj hm)
        exact of_elsewhere rfl hwindow rfl
      · obtain ⟨rfl, rfl⟩ := Prod.mk.inj (Option.some.inj hm)
        exact h.listens hw
    | callFails =>
      obtain ⟨rfl, rfl⟩ := Prod.mk.inj (Option.some.inj hm)
      exact of_elsewhere rfl hwindow rfl
    | _ => simp [Core.workerMove] at hm
  | consuming =>
    cases move with
    | consume msg currentSecs =>
      obtain ⟨rfl, rfl⟩ := Prod.mk.inj (Option.some.inj hm)
      exact h.consumed hw (msg, currentSecs)
    | callFails =>
      obtain ⟨rfl, rfl⟩ := Prod.mk.inj (Option.some.inj hm)
      exact of_elsewhere rfl hwindow rfl
    | consumeEnds =>
      obtain ⟨rfl, rfl⟩ := Prod.mk.inj (Option.some.inj hm)
      exact of_elsewhere rfl hwindow rfl
    | _ => simp [Core.workerMove] at hm
  | _ => cases hgoes <;> exact of_elsewhere rfl hwindow rfl

theorem deliver {e : Post} {queue : List Post} (h : s.Hears fromJson heard)
    (hq : s.core.queue = e :: queue) :
    GuiState.Hears fromJson { s with
      core := { s.core with queue := queue, delivered := e :: s.core.delivered }
      window := s.window.handle e.signal } heard := by
  have hlog : Core.log { s.core with queue := queue, delivered := e :: s.core.delivered } = s.core.log := by
    simp [Core.log, hq]
  refine h.of_aside rfl (h.window.handle e) (fun _ => ?_) (fun _ => ?_) (fun _ => ?_)
  · exact congrArg (fun m => (m.finish s.todo).presence) (mirror_deliver s.window hq)
  · rw [hlog]
  · rw [hlog]

theorem step {move : Move} (h : s.Hears fromJson heard) (hi : s.Inv fromJson) (hset : s.Settles)
    (hs : s.step fromJson move = some s') : s'.Hears fromJson (s.hear heard move) := by
  cases move with
  | uiAct =>
    cases htodo : s.uiTodo with
    | nil => simp [GuiState.step, htodo] at hs
    | cons a rest =>
      simp only [GuiState.step, htodo, Option.some.injEq] at hs
      subst hs
      exact h.uiAct hset htodo
  | workerAct =>
    simp only [GuiState.step] at hs
    split at hs
    case h_1 a rest phase hw =>
      obtain rfl := Option.some.inj hs
      exact h.workerAct hi hw
    case h_2 => simp at hs
  | workerMove move =>
    simp only [GuiState.step] at hs
    split at hs
    case h_1 phase hw =>
      obtain ⟨next, hm, rfl⟩ := Option.map_eq_some_iff.mp hs
      exact h.workerMove hi hset hw hm
    case h_2 => simp at hs
  | chatter =>
    obtain rfl := Option.some.inj hs
    have hidle : (GuiAct.post none .other).Idles := ⟨rfl, rfl⟩
    exact h.of_aside rfl h.window
      (fun _ => congrArg (fun m => (m.finish s.todo).presence) (mirror_chatter s.core s.window))
      (fun _ => keptOf_exec_idle online?_data s.core hidle)
      (fun _ => keptOf_exec_idle signal_status?_data s.core hidle)
  | deliver =>
    cases hq : s.core.queue with
    | nil => simp [GuiState.step, hq] at hs
    | cons e queue =>
      simp only [GuiState.step, hq] at hs
      split_ifs at hs
      obtain rfl := Option.some.inj hs
      exact h.deliver hq
  | connectToBroker =>
    simp only [GuiState.step] at hs
    split_ifs at hs with hg
    obtain rfl := Option.some.inj hs
    exact of_no_worker hg.2.2 h.window
  | startWorker =>
    simp only [GuiState.step] at hs
    split_ifs at hs
    obtain rfl := Option.some.inj hs
    exact of_elsewhere rfl h.window rfl
  | stop =>
    simp only [GuiState.step] at hs
    split_ifs at hs
    obtain rfl := Option.some.inj hs
    refine h.of_aside rfl h.window (fun hw => ?_) (fun _ => rfl) (fun _ => rfl)
    obtain ⟨w, hw'⟩ := Option.ne_none_iff_exists'.mp hw
    have hlinks : ((Core.mirror { s.core with stop := true } s.window).finish w.todo).links =
        ((s.core.mirror s.window).finish w.todo).links := Mirror.finish_links w.todo rfl
    simp only [Mirror.links, Prod.mk.injEq] at hlinks
    simpa [GuiState.mirror, GuiState.todo, hw'] using hlinks.2.1
  | join =>
    simp only [GuiState.step] at hs
    split_ifs at hs
    obtain rfl := Option.some.inj hs
    exact of_no_worker rfl h.window

theorem run {moves : List Move} (h : s.Hears fromJson heard) (hi : s.Inv fromJson) (hset : s.Settles)
    (hr : s.run fromJson moves = some s') : s'.Hears fromJson (s.heardAlong fromJson heard moves) := by
  induction moves generalizing s heard with
  | nil =>
    obtain rfl := Option.some.inj hr
    exact h
  | cons move moves ih =>
    rw [GuiState.run, List.foldlM_cons] at hr
    obtain ⟨s₁, hs, hr⟩ := Option.bind_eq_some_iff.mp hr
    simp only [GuiState.heardAlong, hs]
    exact ih (h.step hi hset hs) (hi.step hs) (hset.step hs) hr

end GuiState.Hears

end Runs

/-- Nothing is on its way, and the worker waits for the next message. -/
def GuiState.Listening (s : GuiState) : Prop := s.Quiet ∧ s.worker = some ⟨[], .consuming⟩

instance (s : GuiState) : Decidable s.Listening := inferInstanceAs (Decidable (_ ∧ _))

/-- The window shows what the last messages of the connection say, and its buttons follow. -/
theorem window_shows_heard {fromJson : QJsonParser} {moves : List Move} {s : GuiState}
    (h : GuiState.run fromJson {} moves = some s) (hlistening : s.Listening) :
    let heard := GuiState.heardAlong fromJson {} [] moves
    let online := (heard.findSome? (ekinoxHeard fromJson)).getD false
    let recording := (heard.findSome? (statusHeard fromJson)).any (·.recordingActive)
    s.window.presenceOnline = (heard.findSome? (backendHeard fromJson)).getD false ∧
      s.window.ekinoxPresenceOnline = online ∧
      (if s.window.hasEkinoxStatus then some s.window.lastEkinoxStatus else none) =
        heard.findSome? (statusHeard fromJson) ∧
      s.window.btnPing = true ∧ s.window.btnLoggerStart = (online && !recording) ∧
      s.window.btnLoggerStop = (online && recording) := by
  intro heard online recording
  obtain ⟨hquiet, hw⟩ := hlistening
  have hinv := (inv_init fromJson).run h
  have hsettles := settles_init.run h
  have hears := (hears_init fromJson).run (inv_init fromJson) settles_init h
  have hphase : s.uiPhase = .idle := by
    have hui : s.uiTodo = [] ∧ s.uiPhase = .idle := by simpa [GuiState.idle] using hquiet.ui
    exact hui.2
  have hnot : s.uiPhase ≠ .joining := by simp [hphase]
  have hlog : s.core.log = s.core.delivered := by simp [Core.log, hquiet.queue]
  have hmirror : s.mirror = ⟨s.core.connected, s.core.presence, s.core.state, s.core.stop, s.window⟩ := by
    simp [GuiState.mirror, GuiState.todo, hw, Core.mirror, Window.handleAll, hquiet.queue]
  have hlinked := hsettles.linked
  have hstated := hsettles.stated hnot
  have hshown := hsettles.shown hnot _ .connected hw rfl
  have hpresence := hears.presence _ hw rfl
  rw [hmirror] at hlinked hstated hshown hpresence
  have hstate : s.window.clientState = .connected := hstated.trans hshown
  have honline : s.window.ekinoxPresenceOnline = online := by
    have hkept := hears.online _ hw rfl
    rw [hlog] at hkept
    exact hears.window.presence.trans (congrArg (·.getD false) hkept)
  have hstatus : (if s.window.hasEkinoxStatus then some s.window.lastEkinoxStatus else none) =
      heard.findSome? (statusHeard fromJson) := by
    have hkept := hears.status _ hw rfl
    rw [hlog] at hkept
    exact hears.window.status.trans hkept
  have hrecording : (s.window.hasEkinoxStatus && s.window.lastEkinoxStatus.recordingActive) = recording := by
    rw [show recording = (heard.findSome? (statusHeard fromJson)).any (·.recordingActive) from rfl, ← hstatus]
    cases s.window.hasEkinoxStatus <;> rfl
  have hbuttons := hinv.window.buttons
  have hstart : s.window.btnLoggerStart = (decide (s.window.clientState = .connected) &&
      s.window.ekinoxPresenceOnline && !(s.window.hasEkinoxStatus &&
        s.window.lastEkinoxStatus.recordingActive)) := by
    rw [← hbuttons]
    rfl
  have hstop : s.window.btnLoggerStop = (decide (s.window.clientState = .connected) &&
      s.window.ekinoxPresenceOnline && (s.window.hasEkinoxStatus &&
        s.window.lastEkinoxStatus.recordingActive)) := by
    rw [← hbuttons]
    rfl
  refine ⟨hlinked.presence.trans hpresence, honline, hstatus, ?_, ?_, ?_⟩
  · have hping := hlinked.ping
    simpa [GuiState.online, hw, WorkerPhase.online] using hping
  · rw [hstart, hstate, honline, hrecording]
    rfl
  · rw [hstop, hstate, honline, hrecording]
    rfl

end Ironsoft.Gui
