import Ironsoft.BackendThreads

/-!
# Rounds of the connect thread

Left alone, the connect thread does in a round what `connectRound` says, until an exception or the
broker ends it.
-/
namespace Ironsoft.Backend
open Effect Ekinox

/-- What a round meets. -/
def Setup.round (setup : Setup) (now : ℤ) (throws : ℕ → Call → Bool) : Env :=
  { setup.env now false with throws := throws }

/-- The connect thread is at `l`. -/
structure Standing (l : ConnectAt) (w : World) (s : System) : Prop where
  alive : s.alive = true
  connectAt : s.connectAt = l
  stopRequested : s.stopRequested = false
  mainAt : s.mainAt = .serving
  world : s.world = w

/-- The connect thread gets to `l` on its own. -/
def Reaches (setup : Setup) (s : System) (l : ConnectAt) (w : World) : Prop :=
  ∃ actions, (∀ a ∈ actions, ∃ now threw msg, a = Action.connectThread now threw msg) ∧
    Standing l w (s.run setup actions)

section Rounds

variable {setup : Setup} {s : System} {l : ConnectAt} {now : ℤ} {throws : ℕ → Call → Bool} {w w' : World}

theorem exec_mqttCall_of (env : Env) (call : Call) :
    exec (mqttCall call) env w =
      (if env.throws w.calls call then .error .mqtt else .ok (), { w with calls := w.calls + 1 }) := by
  unfold mqttCall
  simp only [exec_bind, exec_read, exec_get]
  cases env.throws w.calls call <;> rfl

theorem exec_publish_round (m : Message) :
    exec (publish m) (setup.env now (throws w.calls .publish)) w =
      exec (publish m) (setup.round now throws) w := by
  rw [exec_publish, exec_publish]
  rfl

theorem exec_handleMessage_round (msg : CommandMessage) :
    exec (handleMessage msg) (setup.env now (throws w.calls .publish)) w =
      exec (handleMessage msg) (setup.round now throws) w := by
  by_cases htopic : msg.topic = setup.topics.cmd
  · have hown : msg.topic = (setup.env now (throws w.calls .publish)).topics.cmd := htopic
    have hround : msg.topic = (setup.round now throws).topics.cmd := htopic
    have honCmd : (setup.env now (throws w.calls .publish)).onCmd = setup.onCmd := rfl
    have honCmd' : (setup.round now throws).onCmd = setup.onCmd := rfl
    unfold handleMessage
    rw [exec_bind, exec_bind, exec_read, exec_read]
    dsimp only
    rw [if_pos hown, if_pos hround, honCmd, honCmd']
    cases setup.onCmd with
    | none => exact exec_publish_round _
    | some onCmd =>
      dsimp only
      rw [exec_bind, exec_bind]
      cases onCmd msg.payload with
      | error e => rfl
      | ok res => exact exec_publish_round _
  · rw [exec_handleMessage_ignored htopic, exec_handleMessage_ignored htopic]

/-- A call makes one call of the client at most. -/
theorem exec_call_round (l : ConnectAt) :
    ∃ threw, exec l.call (setup.env now threw) w = exec l.call (setup.round now throws) w := by
  cases l with
  | connect =>
    refine ⟨throws w.calls .connect, ?_⟩
    unfold ConnectAt.call
    rw [exec_mqttCall_of, exec_mqttCall_of]
    rfl
  | subscribe =>
    refine ⟨throws w.calls .subscribe, ?_⟩
    unfold ConnectAt.call
    rw [exec_mqttCall_of, exec_mqttCall_of]
    rfl
  | presence | status => exact ⟨throws w.calls .publish, exec_publish_round _⟩
  | handle msg => exact ⟨throws w.calls .publish, exec_handleMessage_round msg⟩
  | outer | connected | inner | consume | caught | left | done => exact ⟨false, rfl⟩

theorem Standing.reaches (h : Standing l w s) : Reaches setup s l w := ⟨[], nofun, h⟩

theorem Reaches.steps (h : Reaches setup s l w) (now : ℤ) (threw : Bool) (msg : Option CommandMessage)
    {l' : ConnectAt}
    (hstep : ∀ s, Standing l w s → Standing l' w' (s.connectStep setup now threw msg)) :
    Reaches setup s l' w' := by
  obtain ⟨actions, hactions, hstanding⟩ := h
  refine ⟨actions ++ [.connectThread now threw msg], fun a ha => ?_, ?_⟩
  · rcases List.mem_append.mp ha with ha | ha
    · exact hactions a ha
    · exact ⟨now, threw, msg, List.mem_singleton.mp ha⟩
  · have hlast : s.run setup (actions ++ [.connectThread now threw msg]) =
        (s.run setup actions).connectStep setup now threw msg := by
      unfold System.run
      rw [List.foldl_append]
      exact if_pos hstanding.alive
    rw [hlast]
    exact hstep _ hstanding

theorem Reaches.goes (h : Reaches setup s l w)
    (hexec : exec l.call (setup.round now throws) w = (.ok (), w')) (msg : Option CommandMessage) :
    Reaches setup s (l.next false msg) w' := by
  obtain ⟨threw, hthrew⟩ : ∃ threw, exec l.call (setup.env now threw) w =
      exec l.call (setup.round now throws) w := exec_call_round l
  refine h.steps now threw msg fun s hs => ?_
  obtain ⟨halive, rfl, hstop, hmain, rfl⟩ := hs
  rw [connectStep_of_ok (hthrew.trans hexec)]
  exact ⟨halive, by rw [hstop], hstop, hmain, rfl⟩

theorem Reaches.failed (h : Reaches setup s l w) {e : Exn}
    (hexec : exec l.call (setup.round now throws) w = (.error e, w')) :
    Reaches setup s .caught w' := by
  obtain ⟨threw, hthrew⟩ : ∃ threw, exec l.call (setup.env now threw) w =
      exec l.call (setup.round now throws) w := exec_call_round l
  refine h.steps now threw none fun s hs => ?_
  obtain ⟨halive, rfl, hstop, hmain, rfl⟩ := hs
  rw [connectStep_of_error (hthrew.trans hexec)]
  exact ⟨halive, rfl, hstop, hmain, rfl⟩

/-- Where a part of a round leaves the thread: behind `l`, or where exceptions are caught. -/
def Ends (setup : Setup) (s : System) (l : ConnectAt) (r : Except Exn Unit × World) : Prop :=
  match r.1 with
  | .ok _ => Reaches setup s l r.2
  | .error _ => Reaches setup s .caught r.2

theorem Ends.bind {x rest : M Unit} {l' : ConnectAt} {env : Env}
    (h : Ends setup s l (exec x env w))
    (hrest : ∀ w', Reaches setup s l w' → Ends setup s l' (exec rest env w')) :
    Ends setup s l' (exec (x >>= fun _ => rest) env w) := by
  rw [exec_bind]
  revert h
  rcases exec x env w with ⟨e | _, w'⟩
  · exact id
  · exact hrest w'

theorem Reaches.call (h : Reaches setup s l w) :
    Ends setup s (l.next false none) (exec l.call (setup.round now throws) w) := by
  rcases hexec : exec l.call (setup.round now throws) w with ⟨e | _, w'⟩
  · exact h.failed hexec
  · exact h.goes hexec none

/-- A location that calls nothing of the client. -/
theorem Reaches.passes (h : Reaches setup s l w)
    (hexec : ∀ env, exec l.call env w = (.ok (), w')) (msg : Option CommandMessage) :
    Reaches setup s (l.next false msg) w' :=
  h.goes (hexec (setup.round 0 fun _ _ => false)) msg

theorem Reaches.openSession (h : Reaches setup s .connect w) :
    Ends setup s .inner (exec openSession (setup.round now throws) w) :=
  h.call.bind fun _ h => h.call.bind fun _ h => h.call.bind fun _ h => h.call.bind fun _ h => h.call

/-- The commands that come before the end of the message loop. -/
theorem Reaches.messageLoop {last : List (Option CommandMessage)}
    (hlast : ∀ w, Reaches setup s .inner w →
      Ends setup s l (exec (messageLoop last) (setup.round now throws) w))
    (msgs : List CommandMessage) (h : Reaches setup s .inner w) :
    Ends setup s l (exec (messageLoop (msgs.map some ++ last)) (setup.round now throws) w) := by
  induction msgs generalizing w with
  | nil => exact hlast w h
  | cons msg msgs ih =>
    have hhandle : Reaches setup s (.handle msg) w :=
      (h.passes (fun _ => rfl) none).passes (fun _ => rfl) (some msg)
    exact hhandle.call.bind fun w' h' => ih h'

/-- The round is over after the message loop. -/
theorem Ends.round {msgs : List (Option CommandMessage)} {env : Env}
    (h : Ends setup s .left (exec (openSession >>= fun _ => messageLoop msgs) env w)) :
    Reaches setup s .outer (exec (connectRound msgs) env w).2 := by
  unfold connectRound
  rw [exec_bind, exec_tryCatch]
  revert h
  rcases exec (openSession >>= fun _ => messageLoop msgs) env w with ⟨e | _, w'⟩
  · intro h
    exact (h.passes (fun _ => rfl) none).passes (fun _ => rfl) none
  · intro h
    exact h.passes (fun _ => rfl) none

/-- The connect thread alone does what `connectRound` says in a round that ends by an exception, or
when the broker hangs up. -/
theorem connectRound_reached (h : Standing .connect w s) (msgs : List CommandMessage) :
    Reaches setup s .outer
      (exec (connectRound (msgs.map some ++ [none])) (setup.round now throws) w).2 := by
  refine (h.reaches.openSession.bind fun w' h' => h'.messageLoop (fun _ hinner => ?_) msgs).round
  exact (hinner.passes (fun _ => rfl) none).passes (fun _ => rfl) none

end Rounds

end Ironsoft.Backend
