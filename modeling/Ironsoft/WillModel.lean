import Ironsoft.BrokerModel

/-!
# A client with a will

A client that opens its sessions with a will that tells it is down is shown as down after every
session that breaks. Only a session it closes itself can leave it shown as up. In a session it is shown
as what it has said of itself in that session.
-/
namespace Ironsoft.BrokerModel

variable {τ μ : Type} [DecidableEq τ] (topic : τ) (up : μ → Bool)

/-- The letter tells on the topic that the client is down, and is kept. -/
structure Letter.TellsDown (letter : Letter τ μ) : Prop where
  topic_eq : letter.topic = topic
  retained_eq : letter.retained = true
  down : up letter.body = false

/-- Without a session the client is not shown as up, and a session has a will that tells it is down. -/
structure Willed (b : Broker τ μ) : Prop where
  truthful : Truthful topic up b
  will : ∀ will, b.session = some will → ∃ letter, will = some letter ∧ letter.TellsDown topic up

/-- Sessions are opened with such a will, and none is closed while the client is shown as up. -/
def Signal.Willing (b : Broker τ μ) : Signal τ μ → Prop
  | .opened will => ∃ letter, will = some letter ∧ letter.TellsDown topic up
  | .closed => shows topic up b = false
  | _ => True

variable {topic up} {b : Broker τ μ}

theorem Letter.TellsDown.shows_store {letter : Letter τ μ} (h : letter.TellsDown topic up) :
    shows topic up (b.store letter) = false := by
  rw [BrokerModel.shows_store, if_pos ⟨h.topic_eq, h.retained_eq⟩, h.down]

omit [DecidableEq τ] in
theorem willed_empty : Willed topic up (Broker.empty : Broker τ μ) :=
  ⟨fun _ => rfl, nofun⟩

namespace Willed

theorem lose_session (b : Broker τ μ) : b.lose.session = none := by
  unfold Broker.lose
  split <;> rfl

theorem shows_lose (h : Willed topic up b) : shows topic up b.lose = false := by
  rcases hb : b.session with _ | will
  · rw [Broker.lose_of_no_session hb]
    exact h.truthful hb
  · obtain ⟨letter, rfl, hletter⟩ := h.will will hb
    have hlose : b.lose = { b.store letter with session := none } := by
      unfold Broker.lose
      rw [hb]
    rw [hlose]
    exact hletter.shows_store

theorem lose (h : Willed topic up b) : Willed topic up b.lose := by
  refine ⟨fun _ => h.shows_lose, fun _ hwill => ?_⟩
  rw [lose_session] at hwill
  cases hwill

/-- What a signal leaves of a client with a will. -/
theorem receive (h : Willed topic up b) {s : Signal τ μ} (hs : s.Willing topic up b) :
    Willed topic up (b.receive s) := by
  cases s with
  | opened will => exact ⟨nofun, fun _ hwill => Option.some.inj hwill ▸ hs⟩
  | published letter =>
    by_cases hb : b.session = none
    · rw [Broker.receive_of_no_session hb]
      exact h
    · rw [Broker.receive_of_session hb]
      refine ⟨fun hnone => absurd ((session_store letter).symm.trans hnone) hb, fun will hwill => ?_⟩
      exact h.will will ((session_store letter).symm.trans hwill)
  | closed => exact ⟨fun _ => hs, nofun⟩
  | broken => exact h.lose

/-- A new session begins with the client shown as down. -/
theorem shows_opened (h : Willed topic up b) (will : Option (Letter τ μ)) :
    shows topic up (b.receive (.opened will)) = false := h.shows_lose

end Willed

/-- What is published in a session is shown. -/
theorem shows_published {letter : Letter τ μ} (hb : b.session ≠ none) :
    shows topic up (b.receive (.published letter)) =
      if letter.topic = topic ∧ letter.retained then up letter.body else shows topic up b := by
  rw [Broker.receive_of_session hb, shows_store]

theorem session_published (letter : Letter τ μ) :
    (b.receive (.published letter)).session = b.session := by
  by_cases hb : b.session = none
  · rw [Broker.receive_of_no_session hb]
  · rw [Broker.receive_of_session hb, session_store]

/-- The letter a broker has stored after the log, which is newest first. -/
def storedOn (topic : τ) (log : List (Letter τ μ)) : Option (Letter τ μ) :=
  log.find? fun letter => letter.topic = topic ∧ letter.retained

/-- What has been published in the session, newest first, after `s`. -/
def Signal.inSession (letters : List (Letter τ μ)) : Signal τ μ → List (Letter τ μ)
  | .opened _ => []
  | .published letter => letter :: letters
  | _ => letters

/-- What has been published since the last session was opened, newest first. -/
def inSession (signals : List (Signal τ μ)) : List (Letter τ μ) := signals.foldl Signal.inSession []

/-- A client with a will is shown, in a session, as what it has published in it. -/
structure Spoken (topic : τ) (up : μ → Bool) (b : Broker τ μ) (letters : List (Letter τ μ)) : Prop where
  willed : Willed topic up b
  shown : b.session ≠ none → shows topic up b = (storedOn topic letters).any fun letter => up letter.body

namespace Spoken

variable {letters : List (Letter τ μ)}

theorem receive (h : Spoken topic up b letters) {s : Signal τ μ} (hs : s.Willing topic up b) :
    Spoken topic up (b.receive s) (s.inSession letters) := by
  refine ⟨h.willed.receive hs, fun hsession => ?_⟩
  cases s with
  | opened will => exact h.willed.shows_opened will
  | published letter =>
    rw [session_published] at hsession
    rw [shows_published hsession, h.shown hsession]
    by_cases hletter : letter.topic = topic ∧ letter.retained
    · simp [Signal.inSession, storedOn, hletter]
    · rw [if_neg hletter]
      simp [Signal.inSession, storedOn, hletter]
  | closed => exact absurd rfl hsession
  | broken => exact absurd (Willed.lose_session b) hsession

/-- A client that never closes a session, and opens them with a will, over a whole run. -/
theorem run (h : Spoken topic up b letters) {signals : List (Signal τ μ)}
    (hopened : ∀ will, .opened will ∈ signals → ∃ letter, will = some letter ∧ letter.TellsDown topic up)
    (hclosed : .closed ∉ signals) :
    Spoken topic up (b.run signals) (signals.foldl Signal.inSession letters) := by
  induction signals generalizing b letters with
  | nil => exact h
  | cons s signals ih =>
    have hs : s.Willing topic up b := by
      cases s with
      | opened will => exact hopened will (by simp)
      | closed => exact absurd (by simp) hclosed
      | published letter | broken => trivial
    exact ih (h.receive hs) (fun will hwill => hopened will (List.mem_cons_of_mem _ hwill))
      fun hlater => hclosed (List.mem_cons_of_mem _ hlater)

theorem empty : Spoken topic up (Broker.empty : Broker τ μ) [] := ⟨willed_empty, fun h => absurd rfl h⟩

end Spoken

end Ironsoft.BrokerModel
