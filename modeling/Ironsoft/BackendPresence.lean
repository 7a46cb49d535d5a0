import Ironsoft.BackendThreads

/-!
# The retained presence of the backend

What the threads tell the broker, and what it shows of the backend: down without a session, and in a
session up from the announcement on and not before.
-/
namespace Ironsoft.Backend
open Effect Ekinox BrokerModel

section Told

variable {setup : Setup} {s : System}

theorem connectStep_broker (now : ℤ) (threw : Bool) (msg : Option CommandMessage) (halive : s.alive = true) :
    (s.connectStep setup now threw msg).broker =
      s.broker.run (s.tells setup (.connectThread now threw msg)) := by
  simp only [System.tells, halive, if_true]
  rcases hexec : exec s.connectAt.call (setup.env now threw) s.world with ⟨_ | _, w'⟩
  · rw [connectStep_of_error hexec]
    rfl
  · rw [connectStep_of_ok hexec]

theorem heartbeatStep_broker (uptimeS : ℤ) (threw : Bool) (halive : s.alive = true) :
    (s.heartbeatStep setup uptimeS threw).broker =
      s.broker.run (s.tells setup (.heartbeatThread uptimeS threw)) := by
  simp only [System.tells, System.heartbeatStep, halive, if_true]
  cases hat : s.heartbeatAt with
  | publish => cases threw <;> rfl
  | _ => rfl

theorem mainStep_broker (threw : Bool) (halive : s.alive = true) :
    (s.mainStep threw).broker = s.broker.run (s.tells setup (.mainThread threw)) := by
  simp only [System.tells, System.mainStep, halive, if_true]
  cases hat : s.mainAt with
  | disconnect => cases threw <;> rfl
  | joinConnect | joinHeartbeat =>
    dsimp only
    split_ifs <;> first | rfl | simp_all
  | _ => rfl

theorem step_broker (action : Action) :
    (s.step setup action).broker = s.broker.run (s.tells setup action) := by
  cases halive : s.alive with
  | false => simp [System.step, System.tells, halive, Broker.run]
  | true =>
    cases action with
    | connectThread now threw msg =>
      rw [← connectStep_broker now threw msg halive]
      simp [System.step, halive]
    | heartbeatThread uptimeS threw =>
      rw [← heartbeatStep_broker uptimeS threw halive]
      simp [System.step, halive]
    | mainThread threw =>
      rw [← mainStep_broker threw halive]
      simp [System.step, halive]
    | broken | died => simp [System.step, System.tells, System.die, halive, Broker.run]

theorem run_broker (actions : List Action) :
    (s.run setup actions).broker = s.broker.run (s.told setup actions) := by
  induction actions generalizing s with
  | nil => rfl
  | cons action actions ih =>
    have hrest := ih (s := s.step setup action)
    rw [step_broker] at hrest
    rw [System.told, Broker.run, List.foldl_append]
    exact hrest

/-- What the client publishes on the presence topic is the announcement. -/
def Setup.Announces (setup : Setup) (letter : Letter Bytes Content) : Prop :=
  letter.topic = setup.topics.presence →
    letter.retained = true ∧ ∃ ts, letter.body = .said (.presence ts)

theorem sent_announces {now : ℤ} {threw : Bool} {l : ConnectAt} {w w' : World}
    (h : exec l.call (setup.env now threw) w = (.ok (), w')) {m : Message} (hm : m ∈ w.sent w') :
    setup.Announces m.letter := by
  have hsilent (hsame : w'.published = w.published) : setup.Announces m.letter := by
    rw [sent_of_eq hsame] at hm
    exact absurd hm List.not_mem_nil
  cases l with
  | handle msg =>
    cases handled_of_exec h with
    | ignored htopic => exact hsilent rfl
    | acked htopic m' hm' =>
      obtain ⟨res, -, rfl⟩ := hm'
      rw [sent_of_cons rfl, List.mem_singleton] at hm
      subst hm
      exact fun htopic => absurd htopic setup.presence_ne_ack.symm
  | presence =>
    cases threw with
    | true => cases h
    | false =>
      cases h
      rw [sent_of_cons rfl, List.mem_singleton] at hm
      subst hm
      exact fun _ => ⟨rfl, now, rfl⟩
  | status =>
    cases threw with
    | true => cases h
    | false =>
      cases h
      rw [sent_of_cons rfl, List.mem_singleton] at hm
      subst hm
      exact fun htopic => absurd htopic setup.status_ne
  | connect | subscribe =>
    cases threw with
    | true => cases h
    | false =>
      cases h
      exact hsilent rfl
  | outer | connected | inner | consume | caught | left | done =>
    cases h
    exact hsilent rfl

/-- Who the client is, and all it says, comes with the steps of its threads. -/
theorem tells_announces {action : Action} {signal : Signal Bytes Content}
    (h : signal ∈ s.tells setup action) :
    (∀ letter, signal = .published letter → setup.Announces letter) ∧
      ∀ will, signal = .opened will → will = some setup.will := by
  unfold System.tells at h
  have halive : s.alive = true := by
    by_contra hdead
    rw [if_neg hdead] at h
    exact absurd h List.not_mem_nil
  rw [if_pos halive] at h
  cases action with
  | connectThread now threw msg =>
    dsimp only at h
    split at h
    · rename_i w' hexec
      by_cases hconnect : s.connectAt = .connect
      · rw [hconnect] at h
        rw [List.mem_singleton.mp h]
        exact ⟨by simp, fun will hwill => (Signal.opened.inj hwill).symm⟩
      · have hmem : signal ∈ (s.world.sent w').map fun m => Signal.published m.letter := by
          revert h hconnect
          cases s.connectAt <;> simp [ConnectAt.signals]
        obtain ⟨m, hm, rfl⟩ := List.mem_map.mp hmem
        refine ⟨fun letter hl => ?_, by simp⟩
        rw [← Signal.published.inj hl]
        exact sent_announces hexec hm
    · exact absurd h List.not_mem_nil
  | heartbeatThread uptimeS threw =>
    dsimp only at h
    split_ifs at h
    · rw [List.mem_singleton.mp h]
      exact ⟨by simp, by simp⟩
    · rw [List.mem_singleton.mp h]
      refine ⟨fun letter hl => ?_, by simp⟩
      rw [← Signal.published.inj hl]
      exact fun htopic => absurd htopic setup.heartbeat_ne
    · exact absurd h List.not_mem_nil
  | mainThread threw =>
    dsimp only at h
    split_ifs at h
    · rw [List.mem_singleton.mp h]
      exact ⟨by simp, by simp⟩
    · exact absurd h List.not_mem_nil
  | broken | died =>
    rw [List.mem_singleton.mp h]
    exact ⟨by simp, by simp⟩

theorem told_announces {actions : List Action} {signal : Signal Bytes Content}
    (h : signal ∈ s.told setup actions) :
    (∀ letter, signal = .published letter → setup.Announces letter) ∧
      ∀ will, signal = .opened will → will = some setup.will := by
  induction actions generalizing s with
  | nil => exact absurd h List.not_mem_nil
  | cons action actions ih =>
    obtain hnow | hlater := List.mem_append.mp h
    · exact tells_announces hnow
    · exact ih hlater

end Told

/-- The session has been announced. -/
def ConnectAt.announced : ConnectAt → Bool
  | .status | .subscribe | .inner | .consume | .handle _ => true
  | _ => false

/-- The session is open, and not announced. -/
def ConnectAt.unannounced : ConnectAt → Bool
  | .connected | .presence => true
  | _ => false

/-- The broker shows a client without a session as down, and one that has announced itself in its
session as up. -/
structure Shown (setup : Setup) (s : System) : Prop where
  willed : Willed setup.topics.presence Content.isOnline s.broker
  announced : s.broker.session ≠ none → s.connectAt.announced = true →
    shows setup.topics.presence Content.isOnline s.broker = true
  unannounced : s.broker.session ≠ none → s.connectAt.unannounced = true →
    shows setup.topics.presence Content.isOnline s.broker = false

theorem isOnline_presence (ts : ℤ) : (Content.said (.presence ts)).isOnline = true :=
  decide_eq_true rfl

theorem Setup.will_tellsDown (setup : Setup) :
    setup.will.TellsDown setup.topics.presence Content.isOnline :=
  ⟨rfl, rfl, decide_eq_false (by decide : bytes "offline" ≠ bytes "online")⟩

section Broker

variable {setup : Setup} {s : System}

/-- A letter that does not replace the retained presence. -/
def Setup.Aside (setup : Setup) (letter : Letter Bytes Content) : Prop :=
  ¬(letter.topic = setup.topics.presence ∧ letter.retained = true)

/-- A letter that is published aside leaves what is shown. -/
theorem Shown.published {s' : System} (h : Shown setup s) {letter : Letter Bytes Content}
    (haside : setup.Aside letter) (hbroker : s'.broker = s.broker.receive (.published letter))
    (hannounced : s'.connectAt.announced = true → s.connectAt.announced = true)
    (hunannounced : s'.connectAt.unannounced = true → s.connectAt.unannounced = true) :
    Shown setup s' := by
  have hsession : s'.broker.session = s.broker.session := by rw [hbroker, session_published]
  have hshows (hs : s.broker.session ≠ none) :
      shows setup.topics.presence Content.isOnline s'.broker =
        shows setup.topics.presence Content.isOnline s.broker := by
    rw [hbroker, shows_published hs, if_neg haside]
  refine ⟨?_, fun hs hat => ?_, fun hs hat => ?_⟩
  · rw [hbroker]
    exact h.willed.receive trivial
  · rw [hsession] at hs
    rw [hshows hs]
    exact h.announced hs (hannounced hat)
  · rw [hsession] at hs
    rw [hshows hs]
    exact h.unannounced hs (hunannounced hat)

theorem Shown.kept {s' : System} (h : Shown setup s) (hbroker : s'.broker = s.broker)
    (hannounced : s'.connectAt.announced = true → s.connectAt.announced = true)
    (hunannounced : s'.connectAt.unannounced = true → s.connectAt.unannounced = true) :
    Shown setup s' := by
  refine ⟨?_, fun hs hat => ?_, fun hs hat => ?_⟩
  · rw [hbroker]
    exact h.willed
  · rw [hbroker] at hs ⊢
    exact h.announced hs (hannounced hat)
  · rw [hbroker] at hs ⊢
    exact h.unannounced hs (hunannounced hat)

theorem Shown.broken {s' : System} (h : Shown setup s)
    (hbroker : s'.broker = s.broker.receive .broken) : Shown setup s' := by
  have hsession : s'.broker.session = none := by
    rw [hbroker]
    exact Willed.lose_session _
  refine ⟨?_, fun hs => absurd hsession hs, fun hs => absurd hsession hs⟩
  rw [hbroker]
  exact h.willed.receive trivial

/-- Only a call that publishes, or connects, tells the broker anything. -/
theorem run_signals_silent {l : ConnectAt} {w' : World} (hl : l ≠ .connect)
    (h : w'.published = s.world.published) :
    s.broker.run (l.signals setup (s.world.sent w')) = s.broker := by
  rw [sent_of_eq h]
  cases l with
  | connect => exact absurd rfl hl
  | _ => rfl

theorem run_signals_published {l : ConnectAt} {w' : World} {m : Message} (hl : l ≠ .connect)
    (h : w'.published = m :: s.world.published) :
    s.broker.run (l.signals setup (s.world.sent w')) = s.broker.receive (.published m.letter) := by
  rw [sent_of_cons h]
  cases l with
  | connect => exact absurd rfl hl
  | _ => rfl

theorem announced_next {l : ConnectAt} {stopRequested : Bool} {msg : Option CommandMessage}
    (hl : l ≠ .presence) (h : (l.next stopRequested msg).announced = true) : l.announced = true := by
  cases l with
  | outer => cases stopRequested <;> cases h
  | presence => exact absurd rfl hl
  | connect | connected | caught | left | done => cases h
  | status | subscribe | inner | consume | handle => rfl

theorem unannounced_next {l : ConnectAt} {stopRequested : Bool} {msg : Option CommandMessage}
    (hl : l ≠ .connect) (h : (l.next stopRequested msg).unannounced = true) :
    l.unannounced = true := by
  cases l with
  | outer | inner => cases stopRequested <;> cases h
  | consume => cases msg <;> cases h
  | connect => exact absurd rfl hl
  | connected | presence => rfl
  | status | subscribe | handle | caught | left | done => cases h

/-- What the client publishes behind its announcement does not replace it. -/
theorem call_published {now : ℤ} {threw : Bool} {l : ConnectAt} {w w' : World} (hl : l ≠ .presence)
    (h : exec l.call (setup.env now threw) w = (.ok (), w')) :
    w'.published = w.published ∨ ∃ m, setup.Aside m.letter ∧ w'.published = m :: w.published := by
  cases l with
  | handle msg =>
    cases handled_of_exec h with
    | ignored htopic => exact .inl rfl
    | acked htopic m hm =>
      obtain ⟨res, -, rfl⟩ := hm
      refine .inr ⟨_, fun hpresence => ?_, rfl⟩
      exact Bool.false_ne_true hpresence.2
  | status =>
    cases threw
    · cases h
      refine .inr ⟨_, fun hpresence => ?_, rfl⟩
      exact setup.status_ne hpresence.1
    · cases h
  | presence => exact absurd rfl hl
  | connect | subscribe =>
    cases threw
    · cases h
      exact .inl rfl
    · cases h
  | outer | connected | inner | consume | caught | left | done =>
    cases h
    exact .inl rfl

theorem Shown.connectStep (h : Shown setup s) (now : ℤ) (threw : Bool) (msg : Option CommandMessage) :
    Shown setup (s.connectStep setup now threw msg) := by
  rcases hexec : exec s.connectAt.call (setup.env now threw) s.world with ⟨_ | _, w'⟩
  · rw [connectStep_of_error hexec]
    exact h.kept rfl nofun nofun
  · rw [connectStep_of_ok hexec]
    by_cases hconnect : s.connectAt = .connect
    · rw [hconnect]
      refine ⟨h.willed.receive (s := .opened _) ⟨_, rfl, setup.will_tellsDown⟩, nofun, fun _ _ => ?_⟩
      exact h.willed.shows_opened _
    by_cases hpresence : s.connectAt = .presence
    · rw [hpresence] at hexec ⊢
      have hsent : w'.published =
          ⟨setup.topics.presence, .presence now, 1, true⟩ :: s.world.published := by
        cases threw
        · cases hexec
          rfl
        · cases hexec
      rw [run_signals_published (l := .presence) (by simp) hsent]
      refine ⟨h.willed.receive (s := .published _) trivial, fun hs _ => ?_, nofun⟩
      dsimp only at hs ⊢
      rw [session_published] at hs
      rw [shows_published hs, if_pos ⟨rfl, rfl⟩]
      exact isOnline_presence now
    · rcases call_published hpresence hexec with hsilent | ⟨m, haside, hsent⟩
      · exact h.kept (run_signals_silent hconnect hsilent) (announced_next hpresence)
          (unannounced_next hconnect)
      · exact h.published haside (run_signals_published hconnect hsent) (announced_next hpresence)
          (unannounced_next hconnect)

theorem Shown.heartbeatStep (h : Shown setup s) (uptimeS : ℤ) (threw : Bool) :
    Shown setup (s.heartbeatStep setup uptimeS threw) := by
  unfold System.heartbeatStep
  split
  · exact h.kept rfl id id
  · exact h.kept rfl id id
  · split_ifs
    · exact h.broken rfl
    · exact h.published (fun hpresence => Bool.false_ne_true hpresence.2) rfl id id
  · exact h

theorem Shown.mainStep (h : Shown setup s) (hreset : Reset s) (threw : Bool) :
    Shown setup (s.mainStep threw) := by
  unfold System.mainStep
  split
  · exact h.kept rfl id id
  · exact h.kept rfl id id
  · split_ifs
    · exact h.kept rfl id id
    · exact h
  · split_ifs
    · exact h.kept rfl id id
    · exact h
  · exact h.kept rfl id id
  · rename_i hat
    exact absurd hat hreset.quiet

theorem Shown.step (h : Shown setup s) (hreset : Reset s) (action : Action) :
    Shown setup (s.step setup action) := by
  unfold System.step
  split_ifs
  · cases action with
    | connectThread now threw msg => exact h.connectStep now threw msg
    | heartbeatThread uptimeS threw => exact h.heartbeatStep uptimeS threw
    | mainThread threw => exact h.mainStep hreset threw
    | broken | died => exact h.broken rfl
  · exact h

end Broker

/-- The client has announced itself since the last session was opened. -/
def Setup.Announced (setup : Setup) (signals : List (Signal Bytes Content)) : Prop :=
  ∃ ts, ⟨setup.topics.presence, .said (.presence ts), true⟩ ∈ inSession signals

end Ironsoft.Backend
