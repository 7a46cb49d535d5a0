import Ironsoft.BackendThreads
import Ironsoft.HistoryModel

/-!
# Turns of the backend

Over all its sessions the backend acks the commands it consumes one by one: of what the connect thread
does, an ack directly follows the command it answers, and a command that is not acked has thrown and ends
the session. The other threads put in nothing but heartbeats.
-/
namespace Ironsoft.Backend
open Effect Ekinox BrokerModel HistoryModel

/-- What is published, with its topic. -/
def Happening.letter? (setup : Setup) : Happening → Option (Letter Bytes Content)
  | .published m => some m.letter
  | .beat seq uptimeS => some ⟨setup.topics.heartbeat, .heartbeat seq uptimeS, false⟩
  | _ => none

def publishedLetter? : Signal Bytes Content → Option (Letter Bytes Content)
  | .published letter => some letter
  | _ => none

def Happening.beats : Happening → Bool
  | .beat _ _ => true
  | _ => false

/-- What the connect thread has done last. -/
def lastTurn (log : List Happening) : Option Happening := log.find? fun happening => !happening.beats

/-- What the connect thread may do directly after `last`. -/
def Follows (setup : Setup) (newer : Happening) (last : Option Happening) : Prop :=
  match last with
  | some (.consumed msg) =>
    if msg.topic = setup.topics.cmd then
      (∃ m, setup.Acks msg m ∧ newer = .published m) ∨
        ∃ threw, setup.Fails threw msg ∧ newer = .failed threw
    else ∀ m, newer ≠ .published m
  | some (.failed _) => newer = .connecting
  | _ => ∀ m, newer = .published m → m.topic ≠ setup.topics.ack

/-- What may come directly after `older`, newest first. -/
def Turn (setup : Setup) (newer : Happening) (older : List Happening) : Prop :=
  newer.beats = true ∨ Follows setup newer (lastTurn older)

/-- Nothing is left to be acked. -/
def Settled (setup : Setup) (last : Option Happening) : Prop :=
  ∀ msg, last = some (.consumed msg) → msg.topic ≠ setup.topics.cmd

/-- The last session has not failed, or there is a new attempt. -/
def Unfailed (last : Option Happening) : Prop := ∀ threw, last ≠ some (.failed threw)

/-- What has been done last is not a message. -/
def Idle (last : Option Happening) : Prop := ∀ msg, last ≠ some (.consumed msg)

/-- What the location says about what has been done last. -/
def ConnectAt.Expects (setup : Setup) (last : Option Happening) : ConnectAt → Prop
  | .connected | .presence | .status | .subscribe => Idle last ∧ Unfailed last
  | .inner | .consume => Settled setup last ∧ Unfailed last
  | .handle msg => last = some (.consumed msg)
  | _ => Settled setup last

/-- The log is in turn, and the location expects what the connect thread has done last. -/
structure InTurn (setup : Setup) (s : System) : Prop where
  log : Warranted (Turn setup) s.log
  expects : s.connectAt.Expects setup (lastTurn s.log)

section Turns

variable {setup : Setup} {s : System} {last : Option Happening}

theorem Idle.settled (h : Idle last) : Settled setup last := fun msg hmsg => absurd hmsg (h msg)

/-- Where nothing is left to be acked, a connection can be made. -/
theorem Settled.follows_connecting (h : Settled setup last) : Follows setup .connecting last := by
  unfold Follows
  split
  · rename_i msg
    rw [if_neg (h msg rfl)]
    exact nofun
  · rfl
  · exact nofun

theorem Settled.follows_consumed (h : Settled setup last) (hunfailed : Unfailed last)
    (msg : CommandMessage) : Follows setup (.consumed msg) last := by
  unfold Follows
  split
  · rename_i older
    rw [if_neg (h older rfl)]
    exact nofun
  · rename_i threw
    exact absurd rfl (hunfailed threw)
  · exact nofun

theorem Idle.follows_published (h : Idle last) (hunfailed : Unfailed last) {m : Message}
    (hm : m.topic ≠ setup.topics.ack) : Follows setup (.published m) last := by
  unfold Follows
  split
  · rename_i older
    exact absurd rfl (h older)
  · rename_i threw
    exact absurd rfl (hunfailed threw)
  · rintro _ ⟨⟩
    exact hm

theorem Idle.follows_failed (h : Idle last) (hunfailed : Unfailed last) (threw : Bool) :
    Follows setup (.failed threw) last := by
  unfold Follows
  split
  · rename_i older
    exact absurd rfl (h older)
  · rename_i threw
    exact absurd rfl (hunfailed threw)
  · exact nofun

theorem follows_acked {msg : CommandMessage} (htopic : msg.topic = setup.topics.cmd) {m : Message}
    (hm : setup.Acks msg m) : Follows setup (.published m) (some (.consumed msg)) := by
  unfold Follows
  dsimp only
  rw [if_pos htopic]
  exact .inl ⟨m, hm, rfl⟩

theorem follows_fails {msg : CommandMessage} (htopic : msg.topic = setup.topics.cmd) {threw : Bool}
    (hfails : setup.Fails threw msg) : Follows setup (.failed threw) (some (.consumed msg)) := by
  unfold Follows
  dsimp only
  rw [if_pos htopic]
  exact .inr ⟨threw, hfails, rfl⟩

/-- Nothing is logged, and the thread goes to a location that expects no less. -/
theorem InTurn.goes {s' : System} (h : InTurn setup s) (hlog : s'.log = s.log)
    (hat : s.connectAt.Expects setup (lastTurn s.log) → s'.connectAt.Expects setup (lastTurn s.log)) :
    InTurn setup s' := by
  refine ⟨?_, ?_⟩
  · rw [hlog]
    exact h.log
  · rw [hlog]
    exact hat h.expects

/-- Something is logged in its turn. -/
theorem InTurn.logs {s' : System} (h : InTurn setup s) {newer : Happening} (hlog : s'.log = newer :: s.log)
    (hbeats : newer.beats = false) (hturn : Follows setup newer (lastTurn s.log))
    (hat : s'.connectAt.Expects setup (some newer)) : InTurn setup s' := by
  have hlast : lastTurn s'.log = some newer := by
    rw [hlog, lastTurn, List.find?_cons_of_pos (by simp [hbeats])]
  refine ⟨?_, ?_⟩
  · rw [hlog]
    exact ⟨.inr hturn, h.log⟩
  · rw [hlast]
    exact hat

/-- A heartbeat may come at any time. -/
theorem InTurn.beats {s' : System} (h : InTurn setup s) {seq : Int32} {uptimeS : ℤ}
    (hlog : s'.log = .beat seq uptimeS :: s.log) (hat : s'.connectAt = s.connectAt) : InTurn setup s' := by
  have hlast : lastTurn s'.log = lastTurn s.log := by
    rw [hlog]
    rfl
  refine ⟨?_, ?_⟩
  · rw [hlog]
    exact ⟨.inl rfl, h.log⟩
  · rw [hlast, hat]
    exact h.expects

theorem idle_published (m : Message) : Idle (some (.published m)) ∧ Unfailed (some (.published m)) :=
  ⟨nofun, nofun⟩

/-- What is left by an exception is made up for by a new attempt only. -/
theorem InTurn.connectStep_failed (h : InTurn setup s) {now : ℤ} {threw : Bool} {e : Exn} {w' : World}
    (msg : Option CommandMessage)
    (hexec : exec s.connectAt.call (setup.env now threw) s.world = (.error e, w')) :
    InTurn setup (s.connectStep setup now threw msg) := by
  have hexpects := h.expects
  obtain ⟨-, hsent⟩ := call_error hexec
  rw [connectStep_of_error hexec, sent_of_eq hsent]
  cases hat : s.connectAt with
  | connect =>
    rw [hat] at hexpects
    have hconnecting : InTurn setup { s with log := .connecting :: s.log, connectAt := .connected } :=
      h.logs rfl rfl (Settled.follows_connecting hexpects) ⟨nofun, nofun⟩
    exact hconnecting.logs rfl rfl nofun nofun
  | presence | status | subscribe =>
    rw [hat] at hexpects
    exact h.logs rfl rfl (Idle.follows_failed hexpects.1 hexpects.2 threw) nofun
  | handle command =>
    rw [hat] at hexec hexpects
    cases handled_of_exec hexec with
    | failed _ _ htopic hfails =>
      refine h.logs rfl rfl ?_ nofun
      rw [show lastTurn s.log = some (.consumed command) from hexpects]
      exact follows_fails htopic hfails
  | outer | connected | inner | consume | caught | left | done =>
    rw [hat] at hexec
    cases hexec

theorem InTurn.connectStep (h : InTurn setup s) (now : ℤ) (threw : Bool)
    (msg : Option CommandMessage) : InTurn setup (s.connectStep setup now threw msg) := by
  have hexpects := h.expects
  rcases hexec : exec s.connectAt.call (setup.env now threw) s.world with ⟨_ | _, w'⟩
  · exact h.connectStep_failed msg hexec
  · rw [connectStep_of_ok hexec]
    rcases hat : s.connectAt with _ | _ | _ | _ | _ | _ | _ | _ | command | _ | _ | _
    all_goals rw [hat] at hexec hexpects
    case connect =>
      cases threw
      · cases hexec
        exact h.logs rfl rfl (Settled.follows_connecting hexpects) ⟨nofun, nofun⟩
      · cases hexec
    case consume =>
      cases hexec
      cases msg with
      | none =>
        refine h.goes rfl fun hbefore => ?_
        rw [hat] at hbefore
        exact hbefore.1
      | some msg => exact h.logs rfl rfl (Settled.follows_consumed hexpects.1 hexpects.2 msg) rfl
    case presence =>
      cases threw
      · cases hexec
        rw [sent_of_cons rfl]
        exact h.logs rfl rfl (Idle.follows_published hexpects.1 hexpects.2 setup.presence_ne_ack)
          (idle_published _)
      · cases hexec
    case status =>
      cases threw
      · cases hexec
        rw [sent_of_cons rfl]
        exact h.logs rfl rfl (Idle.follows_published hexpects.1 hexpects.2 setup.status_ne_ack)
          (idle_published _)
      · cases hexec
    case handle =>
      have hlast : lastTurn s.log = some (.consumed command) := hexpects
      cases handled_of_exec hexec with
      | ignored htopic =>
        rw [sent_of_eq rfl]
        refine h.goes rfl fun _ => ?_
        rw [hlast]
        refine ⟨fun other hother => ?_, nofun⟩
        cases hother
        exact htopic
      | acked htopic m hm =>
        rw [sent_of_cons rfl]
        refine h.logs rfl rfl ?_ ⟨(idle_published m).1.settled, (idle_published m).2⟩
        rw [hlast]
        exact follows_acked htopic hm
    case subscribe =>
      have hsent : w'.published = s.world.published := by
        cases threw <;> cases hexec
        rfl
      rw [sent_of_eq hsent]
      exact h.goes rfl fun _ => ⟨Idle.settled hexpects.1, hexpects.2⟩
    case outer =>
      have hsent : w'.published = s.world.published := by
        cases hexec
        rfl
      rw [sent_of_eq hsent]
      refine h.goes rfl fun _ => ?_
      cases s.stopRequested <;> exact hexpects
    case inner =>
      have hsent : w'.published = s.world.published := by
        cases hexec
        rfl
      rw [sent_of_eq hsent]
      refine h.goes rfl fun _ => ?_
      cases s.stopRequested
      · exact hexpects
      · exact hexpects.1
    case connected | caught | left | done =>
      have hsent : w'.published = s.world.published := by
        cases hexec
        rfl
      rw [sent_of_eq hsent]
      exact h.goes rfl fun _ => hexpects

/-- The other threads leave the connect thread where it is. -/
theorem InTurn.step (h : InTurn setup s) (action : Action) : InTurn setup (s.step setup action) := by
  unfold System.step
  split_ifs
  · cases action with
    | connectThread now threw msg => exact h.connectStep now threw msg
    | heartbeatThread uptimeS threw =>
      change InTurn setup (s.heartbeatStep setup uptimeS threw)
      unfold System.heartbeatStep
      split
      · exact h.goes rfl id
      · exact h.goes rfl id
      · split_ifs
        · exact h.goes rfl id
        · exact h.beats rfl rfl
      · exact h
    | mainThread threw =>
      change InTurn setup (s.mainStep threw)
      unfold System.mainStep
      split
      · exact h.goes rfl id
      · exact h.goes rfl id
      · split_ifs
        · exact h.goes rfl id
        · exact h
      · split_ifs
        · exact h.goes rfl id
        · exact h
      · exact h.goes rfl id
      · exact h.goes rfl id
    | broken | died => exact h.goes rfl id
  · exact h

theorem InTurn.run (h : InTurn setup s) (actions : List Action) : InTurn setup (s.run setup actions) := by
  induction actions generalizing s with
  | nil => exact h
  | cons action actions ih => exact ih (h.step action)

theorem inTurn_initial (setup : Setup) : InTurn setup {} := ⟨trivial, nofun⟩

theorem connectStep_log (halive : s.alive = true) (now : ℤ) (threw : Bool)
    (msg : Option CommandMessage) :
    (s.connectStep setup now threw msg).log.filterMap (Happening.letter? setup) =
      ((s.tells setup (.connectThread now threw msg)).filterMap publishedLetter?).reverse ++
        s.log.filterMap (Happening.letter? setup) := by
  have hsent (sent : List Message) : (sent.map Happening.published).filterMap (Happening.letter? setup) =
      (sent.map fun m => Signal.published m.letter).filterMap publishedLetter? := by
    rw [List.filterMap_map, List.filterMap_map]
    rfl
  simp only [System.tells, halive, if_true]
  rcases hexec : exec s.connectAt.call (setup.env now threw) s.world with ⟨_ | _, w'⟩
  · obtain ⟨-, hsilent⟩ := call_error hexec
    rw [connectStep_of_error hexec, sent_of_eq hsilent]
    cases hat : s.connectAt with
    | consume =>
      rw [hat] at hexec
      cases hexec
    | _ => rfl
  · rw [connectStep_of_ok hexec]
    dsimp only
    rw [List.filterMap_append, List.filterMap_reverse]
    cases hat : s.connectAt with
    | connect => rfl
    | consume =>
      rw [hat] at hexec
      obtain ⟨-, rfl⟩ := Prod.mk.inj hexec
      have hquiet : s.world.sent s.world = [] := sent_of_eq rfl
      rw [hquiet]
      cases msg <;> rfl
    | _ => exact congrArg (·.reverse ++ _) (hsent _)

/-- What a step publishes is logged. -/
theorem step_log (s : System) (action : Action) :
    (s.step setup action).log.filterMap (Happening.letter? setup) =
      ((s.tells setup action).filterMap publishedLetter?).reverse ++
        s.log.filterMap (Happening.letter? setup) := by
  cases halive : s.alive with
  | false => simp [System.step, System.tells, halive]
  | true =>
    cases action with
    | connectThread now threw msg =>
      rw [← connectStep_log halive now threw msg]
      simp [System.step, halive]
    | heartbeatThread uptimeS threw =>
      simp only [System.step, System.tells, System.heartbeatStep, halive, if_true]
      cases hat : s.heartbeatAt with
      | publish => cases threw <;> rfl
      | _ => rfl
    | mainThread threw =>
      simp only [System.step, System.tells, System.mainStep, halive, if_true]
      cases hat : s.mainAt with
      | disconnect => cases threw <;> rfl
      | joinConnect | joinHeartbeat =>
        dsimp only
        split_ifs <;> rfl
      | _ => rfl
    | broken | died => simp [System.step, System.tells, System.die, halive, publishedLetter?]

theorem run_log (s : System) (actions : List Action) :
    (s.run setup actions).log.filterMap (Happening.letter? setup) =
      ((s.told setup actions).filterMap publishedLetter?).reverse ++
        s.log.filterMap (Happening.letter? setup) := by
  induction actions generalizing s with
  | nil => rfl
  | cons action actions ih =>
    calc _ = _ := ih (s.step setup action)
      _ = _ := by rw [step_log, System.told, List.filterMap_append, List.reverse_append, List.append_assoc]

/-- A command that is consumed is in its handler. -/
theorem InTurn.handles (h : InTurn setup s) {msg : CommandMessage} (htopic : msg.topic = setup.topics.cmd)
    (hlast : lastTurn s.log = some (.consumed msg)) : s.connectAt = .handle msg := by
  have hexpects := h.expects
  rw [hlast] at hexpects
  cases hat : s.connectAt with
  | handle other =>
    rw [hat] at hexpects
    cases hexpects
    rfl
  | connected | presence | status | subscribe =>
    rw [hat] at hexpects
    exact absurd rfl (hexpects.1 msg)
  | inner | consume =>
    rw [hat] at hexpects
    exact absurd htopic (hexpects.1 msg rfl)
  | outer | connect | caught | left | done =>
    rw [hat] at hexpects
    exact absurd htopic (hexpects msg rfl)

/-- A step concludes a command with its ack, or with what its handling throws. -/
def Setup.Concludes (setup : Setup) (threw : Bool) (msg : CommandMessage) (s s' : System) : Prop :=
  (∃ m, setup.Acks msg m ∧ s'.log = .published m :: s.log) ∨
    setup.Fails threw msg ∧ s'.log = .failed threw :: s.log

/-- Once a command has been consumed, the next step of the connect thread concludes it. -/
theorem InTurn.concludes (h : InTurn setup s) (halive : s.alive = true) {msg : CommandMessage}
    (htopic : msg.topic = setup.topics.cmd) (hlast : lastTurn s.log = some (.consumed msg)) (now : ℤ)
    (threw : Bool) (next : Option CommandMessage) :
    setup.Concludes threw msg s (s.step setup (.connectThread now threw next)) := by
  have hat := h.handles htopic hlast
  have hstep : s.step setup (.connectThread now threw next) = s.connectStep setup now threw next := by
    unfold System.step
    rw [if_pos halive]
  rw [hstep]
  rcases hexec : exec s.connectAt.call (setup.env now threw) s.world with ⟨_ | _, w'⟩
  · obtain ⟨-, hsilent⟩ := call_error hexec
    rw [connectStep_of_error hexec, hat, sent_of_eq hsilent]
    rw [hat] at hexec
    cases handled_of_exec hexec with
    | failed _ _ _ hfails => exact .inr ⟨hfails, rfl⟩
  · rw [connectStep_of_ok hexec, hat]
    rw [hat] at hexec
    cases handled_of_exec hexec with
    | ignored hother => exact absurd htopic hother
    | acked _ m hm =>
      rw [sent_of_cons rfl]
      exact .inl ⟨m, hm, rfl⟩

/-- However the threads come between one another, an ack directly follows the command it answers, and
a command is directly followed by its ack or, if its handling throws, by the end of the session, after
which there is a new attempt to connect. The next step of the thread is what follows the command. The
log has all that is published, and what comes in between are heartbeats. -/
theorem backend_acks_in_turn (setup : Setup) (actions : List Action) :
    let s := System.run setup actions {}
    s.log.filterMap (Happening.letter? setup) =
        ((System.told setup {} actions).filterMap publishedLetter?).reverse ∧
      Warranted (Turn setup) s.log ∧
      ∀ msg : CommandMessage, msg.topic = setup.topics.cmd → lastTurn s.log = some (.consumed msg) →
        s.alive = true → ∀ (now : ℤ) (threw : Bool) (next : Option CommandMessage),
          setup.Concludes threw msg s (s.step setup (.connectThread now threw next)) := by
  have h := (inTurn_initial setup).run actions
  refine ⟨?_, h.log, fun msg htopic hlast halive => h.concludes halive htopic hlast⟩
  rw [run_log]
  exact List.append_nil _

end Turns

/-- The client with the handler of `main`. -/
def benchPingOnly : Setup where
  droneId := bytes "d1"
  json := benchJson
  onCmd := some (handleCmdPingOnly benchJson)
  builtAt := 0

def benchPinged : CommandMessage := ⟨benchPingOnly.topics.cmd, benchPayload (bytes "ping")⟩

/-- A ping has been consumed, and a heartbeat comes before it is acked. -/
def benchPingedActions : List Action :=
  List.replicate 7 (.connectThread 5 false none) ++ [.connectThread 6 false (some benchPinged)] ++
    List.replicate 3 (.heartbeatThread 1 false)

theorem backend_acks_in_turn_pinged :
    let s := System.run benchPingOnly benchPingedActions {}
    s.log.head? = some (.beat 0 1) ∧
      benchPingOnly.Concludes false benchPinged s (s.step benchPingOnly (.connectThread 7 false none)) := by
  intro s
  obtain ⟨-, -, hconcludes⟩ := backend_acks_in_turn benchPingOnly benchPingedActions
  exact ⟨by rfl, hconcludes benchPinged rfl (by rfl) (by rfl) 7 false none⟩

end Ironsoft.Backend
