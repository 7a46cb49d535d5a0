import Mathlib.Data.Nat.Notation
import Mathlib.Logic.Function.Basic

/-!
# A broker and a client that tells whether it is up

The broker keeps the last retained message of every topic. The session of a client is closed or
breaks, and the will it was opened with is published if it breaks. A client that announces on a
topic whether it is up, and opens its sessions without a will, is shown as up after the session if
and only if it was up when the session broke.
-/
namespace Ironsoft.BrokerModel

variable {τ μ : Type}

structure Letter (τ μ : Type) where
  topic : τ
  body : μ
  retained : Bool

/-- What a broker gets from a client; `broken` is a session that ends without having been closed. -/
inductive Signal (τ μ : Type)
  | opened (will : Option (Letter τ μ))
  | published (letter : Letter τ μ)
  | closed
  | broken

structure Broker (τ μ : Type) where
  retained : τ → Option μ
  /-- the will of the session, if there is a session -/
  session : Option (Option (Letter τ μ))

namespace Broker

variable [DecidableEq τ]

def empty : Broker τ μ := ⟨fun _ => none, none⟩

def store (b : Broker τ μ) (letter : Letter τ μ) : Broker τ μ :=
  if letter.retained then
    { b with retained := Function.update b.retained letter.topic (some letter.body) }
  else b

def lose (b : Broker τ μ) : Broker τ μ :=
  match b.session with
  | some (some will) => { b.store will with session := none }
  | _ => { b with session := none }

/-- A client that opens a second session loses the first, and nothing is published without one. -/
def receive (b : Broker τ μ) : Signal τ μ → Broker τ μ
  | .opened will => { b.lose with session := some will }
  | .published letter => if b.session.isSome then b.store letter else b
  | .closed => { b with session := none }
  | .broken => b.lose

def run (b : Broker τ μ) (signals : List (Signal τ μ)) : Broker τ μ := signals.foldl receive b

@[simp] theorem run_cons (b : Broker τ μ) (s : Signal τ μ) (signals : List (Signal τ μ)) :
    b.run (s :: signals) = (b.receive s).run signals := rfl

theorem receive_of_no_session {b : Broker τ μ} (h : b.session = none) (letter : Letter τ μ) :
    b.receive (.published letter) = b := by
  change (if b.session.isSome then b.store letter else b) = b
  simp [h]

theorem receive_of_session {b : Broker τ μ} (h : b.session ≠ none) (letter : Letter τ μ) :
    b.receive (.published letter) = b.store letter := by
  change (if b.session.isSome then b.store letter else b) = b.store letter
  simp [Option.isSome_iff_ne_none.mpr h]

theorem lose_of_no_session {b : Broker τ μ} (h : b.session = none) : b.lose = b := by
  obtain ⟨retained, session⟩ := b
  cases h
  rfl

theorem lose_of_no_will {b : Broker τ μ} (h : b.session = some none) :
    b.lose = { b with session := none } := by
  obtain ⟨retained, session⟩ := b
  cases h
  rfl

/-- A session that is over cannot break. -/
theorem run_broken {b : Broker τ μ} (hb : b.session = none) {signals : List (Signal τ μ)}
    (h : ∀ s ∈ signals, s = .broken) : b.run signals = b := by
  induction signals with
  | nil => rfl
  | cons s signals ih =>
    obtain ⟨rfl, hrest⟩ := List.forall_mem_cons.mp h
    rw [run_cons, receive, lose_of_no_session hb]
    exact ih hrest

end Broker

section Client

variable [DecidableEq τ] (topic : τ) (up : μ → Bool)

/-- The last message on the topic says up. -/
def shows (b : Broker τ μ) : Bool := (b.retained topic).any up

/-- Whoever has no session is not shown as up. -/
def Truthful (b : Broker τ μ) : Prop := b.session = none → shows topic up b = false

/-- What the client has announced last: `flag`, unless `s` announces something else. -/
def noted (flag : Bool) : Signal τ μ → Bool
  | .published letter => if letter.topic = topic ∧ letter.retained then up letter.body else flag
  | _ => flag

def notedAll (flag : Bool) (signals : List (Signal τ μ)) : Bool := signals.foldl (noted topic up) flag

/-- Sessions have no will, and a client opens and closes them while it is down. -/
def Signal.Careful (flag : Bool) : Signal τ μ → Prop
  | .opened will => will = none ∧ flag = false
  | .closed => flag = false
  | _ => True

def Careful (flag : Bool) : List (Signal τ μ) → Prop
  | [] => True
  | s :: signals => s.Careful flag ∧ Careful (noted topic up flag s) signals

/-- The session breaks only while the client is down. -/
def EndsDown (flag : Bool) (b : Broker τ μ) : List (Signal τ μ) → Prop
  | [] => True
  | s :: signals =>
    (s = .broken → b.session ≠ none → flag = false) ∧
      EndsDown (noted topic up flag s) (b.receive s) signals

/-- The session breaks after `k` signals. -/
def cutAfter (k : ℕ) (signals : List (Signal τ μ)) : List (Signal τ μ) :=
  signals.take k ++ .broken :: signals.drop k

variable {topic up} {flag : Bool} {b : Broker τ μ} {signals : List (Signal τ μ)}

@[simp] theorem notedAll_append (signals' : List (Signal τ μ)) :
    notedAll topic up flag (signals ++ signals') =
      notedAll topic up (notedAll topic up flag signals) signals' :=
  List.foldl_append

theorem careful_append {signals' : List (Signal τ μ)} :
    Careful topic up flag (signals ++ signals') ↔
      Careful topic up flag signals ∧ Careful topic up (notedAll topic up flag signals) signals' := by
  induction signals generalizing flag with
  | nil => exact ⟨fun h => ⟨trivial, h⟩, And.right⟩
  | cons s signals ih =>
    have hrest : Careful topic up (noted topic up flag s) (signals ++ signals') ↔ _ := ih
    exact (and_congr_right fun _ => hrest).trans and_assoc.symm

/-- A break is not announced, and nobody asks when it comes. -/
theorem notedAll_cutAfter (k : ℕ) :
    notedAll topic up flag (cutAfter k signals) = notedAll topic up flag signals := by
  have hsplit : notedAll topic up flag (signals.take k ++ signals.drop k) =
      notedAll topic up flag signals := by
    rw [List.take_append_drop]
  rw [← hsplit, cutAfter, notedAll_append, notedAll_append]
  rfl

theorem Careful.cutAfter (h : Careful topic up flag signals) (k : ℕ) :
    Careful topic up flag (cutAfter k signals) := by
  rw [← List.take_append_drop k signals, careful_append] at h
  exact careful_append.mpr ⟨h.1, trivial, h.2⟩

/-- With a session the broker shows what the client has announced last. -/
structure Linked (topic : τ) (up : μ → Bool) (flag : Bool) (b : Broker τ μ) : Prop where
  truthful : Truthful topic up b
  unwilling : ∀ will, b.session = some will → will = none
  shown : b.session ≠ none → shows topic up b = flag

theorem shows_store (letter : Letter τ μ) :
    shows topic up (b.store letter) =
      if letter.topic = topic ∧ letter.retained then up letter.body else shows topic up b := by
  unfold shows Broker.store
  by_cases hretained : letter.retained = true
  · by_cases htopic : letter.topic = topic
    · subst htopic
      simp [hretained]
    · simp [hretained, htopic, Function.update_of_ne (Ne.symm htopic)]
  · simp [hretained]

theorem session_store (letter : Letter τ μ) : (b.store letter).session = b.session := by
  unfold Broker.store
  split <;> rfl

omit [DecidableEq τ] in
theorem linked_of_no_session (hb : b.session = none) (hshows : shows topic up b = false) (flag : Bool) :
    Linked topic up flag b where
  truthful _ := hshows
  unwilling _ hwill := absurd (hb.symm.trans hwill) (by simp)
  shown hsession := absurd hb hsession

namespace Linked

/-- No will is left behind by a session. -/
theorem shows_lose (h : Linked topic up flag b) : shows topic up b.lose = shows topic up b := by
  rcases hb : b.session with _ | will
  · rw [Broker.lose_of_no_session hb]
  · obtain rfl := h.unwilling will hb
    rw [Broker.lose_of_no_will hb]
    rfl

theorem session_lose (h : Linked topic up flag b) : b.lose.session = none := by
  rcases hb : b.session with _ | will
  · rw [Broker.lose_of_no_session hb, hb]
  · obtain rfl := h.unwilling will hb
    rw [Broker.lose_of_no_will hb]

omit [DecidableEq τ] in
/-- The broker shows a client that is down as down. -/
theorem shows_of_down (h : Linked topic up flag b) (hdown : b.session ≠ none → flag = false) :
    shows topic up b = false := by
  by_cases hb : b.session = none
  · exact h.truthful hb
  · rw [h.shown hb, hdown hb]

theorem receive (h : Linked topic up flag b) {s : Signal τ μ} (hs : s.Careful flag)
    (hdown : s = .broken → b.session ≠ none → flag = false) :
    Linked topic up (noted topic up flag s) (b.receive s) := by
  cases s with
  | opened will =>
    obtain ⟨rfl, rfl⟩ := hs
    have hshows : shows topic up b.lose = false := h.shows_lose.trans (h.shows_of_down fun _ => rfl)
    exact ⟨fun _ => hshows, fun will hwill => (Option.some.inj hwill).symm, fun _ => hshows⟩
  | published letter =>
    by_cases hb : b.session = none
    · rw [Broker.receive_of_no_session hb]
      exact linked_of_no_session hb (h.truthful hb) _
    · rw [Broker.receive_of_session hb]
      have hsame : (b.store letter).session = b.session := session_store letter
      refine ⟨fun hnone => absurd (hsame.symm.trans hnone) hb, fun will hwill => ?_, fun _ => ?_⟩
      · exact h.unwilling will (hsame.symm.trans hwill)
      · rw [shows_store, h.shown hb]
        rfl
  | closed =>
    have hshows : shows topic up b = false := h.shows_of_down fun _ => hs
    exact linked_of_no_session (b := b.receive .closed) rfl hshows _
  | broken =>
    exact linked_of_no_session h.session_lose (h.shows_lose.trans (h.shows_of_down (hdown rfl))) _

theorem run (h : Linked topic up flag b) (hcareful : Careful topic up flag signals)
    (hdown : EndsDown topic up flag b signals) :
    Linked topic up (notedAll topic up flag signals) (b.run signals) := by
  induction signals generalizing flag b with
  | nil => exact h
  | cons s signals ih =>
    obtain ⟨hs, hcareful⟩ := hcareful
    obtain ⟨hbreak, hdown⟩ := hdown
    exact ih (h.receive hs hbreak) hcareful hdown

/-- A client that was up when its session broke is shown as up. -/
theorem not_truthful_lose (h : Linked topic up flag b) (hb : b.session ≠ none) (hup : flag = true) :
    ¬Truthful topic up b.lose := by
  intro htruthful
  have hshows : shows topic up b.lose = true := by rw [h.shows_lose, h.shown hb, hup]
  exact Bool.false_ne_true ((htruthful h.session_lose).symm.trans hshows)

/-- The broker tells the truth after every signal if and only if the session breaks only while the
client is down. -/
theorem truthful_iff_endsDown (h : Linked topic up flag b) (hcareful : Careful topic up flag signals) :
    (∀ signals', signals' <+: signals → Truthful topic up (b.run signals')) ↔
      EndsDown topic up flag b signals := by
  induction signals generalizing flag b with
  | nil =>
    refine iff_of_true (fun signals' hle => ?_) trivial
    rw [List.prefix_nil.mp hle]
    exact h.truthful
  | cons s signals ih =>
    obtain ⟨hs, hcareful⟩ := hcareful
    constructor
    · intro htruthful
      have hbreak : s = .broken → b.session ≠ none → flag = false := by
        rintro rfl hb
        by_contra hup
        refine h.not_truthful_lose hb (eq_true_of_ne_false hup) ?_
        exact htruthful [.broken] (List.cons_prefix_cons.mpr ⟨rfl, List.nil_prefix⟩)
      refine ⟨hbreak, (ih (h.receive hs hbreak) hcareful).mp fun signals' hle => ?_⟩
      exact htruthful (s :: signals') (List.cons_prefix_cons.mpr ⟨rfl, hle⟩)
    · rintro ⟨hbreak, hdown⟩ signals' hle
      have hrest := (ih (h.receive hs hbreak) hcareful).mpr hdown
      cases signals' with
      | nil => exact h.truthful
      | cons s' signals' =>
        obtain ⟨rfl, hle'⟩ := List.cons_prefix_cons.mp hle
        exact hrest signals' hle'

end Linked

end Client

end Ironsoft.BrokerModel
