import Ironsoft.WillModel
import Mathlib.Data.List.Basic

/-!
# What a subscriber hears

A broker hands on what is published, and the will of a session that breaks. Of every topic it subscribes to, a client hears the letter that is retained when it subscribes, and
then those that are published. What it hears last is what was published last, if the letters on the
topic are retained. Logs are newest first.
-/
namespace Ironsoft.BrokerModel

variable {τ μ : Type} [DecidableEq τ]

def latest (topic : τ) (log : List (Letter τ μ)) : Option (Letter τ μ) :=
  log.find? fun letter => letter.topic = topic

/-- A client that subscribes to the topics, to each at some point of the log, has heard all that the
broker has sent it. Letters on different topics may overtake one another. -/
def Feed (topics : List τ) (log heard : List (Letter τ μ)) : Prop :=
  ∀ topic ∈ topics, ∃ later earlier, log = later ++ earlier ∧
    heard.filter (fun letter => letter.topic = topic) =
      later.filter (fun letter => letter.topic = topic) ++ (storedOn topic earlier).toList

theorem storedOn_eq_latest {topic : τ} {log : List (Letter τ μ)}
    (h : ∀ letter ∈ log, letter.topic = topic → letter.retained = true) :
    storedOn topic log = latest topic log := by
  induction log with
  | nil => rfl
  | cons letter log ih =>
    have ih := ih fun x hx => h x (List.mem_cons_of_mem _ hx)
    unfold storedOn latest at ih ⊢
    by_cases htopic : letter.topic = topic
    · have hretained := h letter (by simp) htopic
      simp [htopic, hretained]
    · simpa [htopic] using ih

theorem latest_append (topic : τ) (later earlier : List (Letter τ μ)) :
    latest topic (later ++ earlier) = (latest topic later).or (latest topic earlier) :=
  List.find?_append

theorem latest_filter (topic : τ) (log : List (Letter τ μ)) :
    (log.filter fun letter => letter.topic = topic).head? = latest topic log :=
  List.head?_filter

theorem latest_congr {topic : τ} {log log' : List (Letter τ μ)}
    (h : log.filter (fun letter => letter.topic = topic) =
      log'.filter fun letter => letter.topic = topic) : latest topic log = latest topic log' := by
  rw [← latest_filter, ← latest_filter, h]

theorem Feed.mem {topics : List τ} {log heard : List (Letter τ μ)} (h : Feed topics log heard)
    {letter : Letter τ μ} (hl : letter ∈ heard) (ht : letter.topic ∈ topics) : letter ∈ log := by
  obtain ⟨later, earlier, rfl, hheard⟩ := h _ ht
  have hmem : letter ∈ heard.filter fun l => l.topic = letter.topic := by simp [hl]
  rw [hheard] at hmem
  obtain hmem | hmem := List.mem_append.mp hmem
  · exact List.mem_append_left _ (List.mem_filter.mp hmem).1
  · exact List.mem_append_right _ (List.mem_of_find?_eq_some (Option.mem_toList.mp hmem))

/-- The last letter heard on a topic of retained letters is the last one published. -/
theorem Feed.latest {topics : List τ} {log heard : List (Letter τ μ)} (h : Feed topics log heard)
    {topic : τ} (ht : topic ∈ topics)
    (hretained : ∀ letter ∈ log, letter.topic = topic → letter.retained = true) :
    latest topic heard = BrokerModel.latest topic log := by
  obtain ⟨later, earlier, rfl, hheard⟩ := h topic ht
  have hstored : storedOn topic earlier = BrokerModel.latest topic earlier :=
    storedOn_eq_latest fun letter hl => hretained letter (List.mem_append_right _ hl)
  rw [← latest_filter, hheard, List.head?_append, latest_filter, hstored, latest_append]
  cases BrokerModel.latest topic earlier <;> rfl

/-- Of a topic on which one party alone writes, and only what is to be retained, its last letter has been
heard last, and nothing but its letters has been heard. -/
theorem Feed.own {topics : List τ} {log heard written : List (Letter τ μ)} (h : Feed topics log heard)
    {topic : τ} (ht : topic ∈ topics)
    (hown : log.filter (fun letter => letter.topic = topic) =
      written.filter fun letter => letter.topic = topic)
    (hretained : ∀ letter ∈ written, letter.topic = topic → letter.retained = true) :
    BrokerModel.latest topic heard = BrokerModel.latest topic written ∧
      ∀ letter ∈ heard, letter.topic = topic → letter ∈ written := by
  have hwritten : ∀ letter ∈ log, letter.topic = topic → letter ∈ written := by
    intro letter hl htopic
    have hmem : letter ∈ written.filter fun letter => letter.topic = topic := by
      rw [← hown]
      simp [hl, htopic]
    exact (List.mem_filter.mp hmem).1
  have hlog := h.latest ht fun letter hl htopic => hretained letter (hwritten letter hl htopic) htopic
  exact ⟨hlog.trans (latest_congr hown),
    fun letter hl htopic => hwritten letter (h.mem hl (htopic ▸ ht)) htopic⟩

namespace Broker

/-- The will of a session that is lost. -/
def lost (b : Broker τ μ) : List (Letter τ μ) := (b.session.getD none).toList

def handsOn (b : Broker τ μ) : Signal τ μ → List (Letter τ μ)
  | .opened _ | .broken => b.lost
  | .published letter => if b.session.isSome then [letter] else []
  | .closed => []

def handed (b : Broker τ μ) : List (Signal τ μ) → List (Letter τ μ)
  | [] => []
  | s :: signals => (b.receive s).handed signals ++ b.handsOn s

end Broker

theorem storedOn_append (topic : τ) (later earlier : List (Letter τ μ)) :
    storedOn topic (later ++ earlier) = (storedOn topic later).or (storedOn topic earlier) :=
  List.find?_append

section Handed

variable {b : Broker τ μ}

theorem retained_store (topic : τ) (letter : Letter τ μ) :
    (b.store letter).retained topic =
      ((storedOn topic [letter]).map (·.body)).or (b.retained topic) := by
  unfold Broker.store storedOn
  by_cases htopic : letter.topic = topic
  · subst htopic
    cases hretained : letter.retained <;> simp [hretained]
  · cases letter.retained <;> simp [htopic, Function.update_of_ne (Ne.symm htopic)]

theorem retained_lose (topic : τ) :
    b.lose.retained topic = ((storedOn topic b.lost).map (·.body)).or (b.retained topic) := by
  obtain ⟨retained, session⟩ := b
  rcases session with _ | _ | will
  · rfl
  · rfl
  · exact retained_store (b := ⟨retained, some (some will)⟩) topic will

theorem retained_receive (topic : τ) (s : Signal τ μ) :
    (b.receive s).retained topic =
      ((storedOn topic (b.handsOn s)).map (·.body)).or (b.retained topic) := by
  cases s with
  | opened will => exact retained_lose topic
  | published letter =>
    simp only [Broker.receive, Broker.handsOn]
    split_ifs
    · exact retained_store topic letter
    · rfl
  | closed => rfl
  | broken => exact retained_lose topic

/-- A broker retains what it has handed on last, of what is to be retained. -/
theorem retained_run (topic : τ) (signals : List (Signal τ μ)) :
    (b.run signals).retained topic =
      ((storedOn topic (b.handed signals)).map (·.body)).or (b.retained topic) := by
  induction signals generalizing b with
  | nil => rfl
  | cons s signals ih =>
    rw [Broker.run_cons, ih, retained_receive, Broker.handed, storedOn_append]
    cases storedOn topic ((b.receive s).handed signals) <;> rfl

omit [DecidableEq τ] in
theorem mem_lost {letter : Letter τ μ} (h : letter ∈ b.lost) : b.session = some (some letter) := by
  obtain ⟨retained, session⟩ := b
  rcases session with _ | _ | will
  · exact absurd h List.not_mem_nil
  · exact absurd h List.not_mem_nil
  · rw [List.mem_singleton.mp h]

theorem session_receive {s : Signal τ μ} {letter : Letter τ μ}
    (h : (b.receive s).session = some (some letter)) :
    s = .opened (some letter) ∨ b.session = some (some letter) := by
  cases s with
  | opened will =>
    obtain rfl := Option.some.inj h
    exact .inl rfl
  | published letter' =>
    refine .inr ?_
    simp only [Broker.receive] at h
    split_ifs at h
    · exact (session_store letter').symm.trans h
    · exact h
  | closed => cases h
  | broken => cases (Willed.lose_session b).symm.trans h

/-- What is handed on has been published, or left as a will. -/
theorem mem_handed {signals : List (Signal τ μ)} {letter : Letter τ μ}
    (h : letter ∈ b.handed signals) :
    .published letter ∈ signals ∨ .opened (some letter) ∈ signals ∨ b.session = some (some letter) := by
  induction signals generalizing b with
  | nil => exact absurd h List.not_mem_nil
  | cons s signals ih =>
    obtain hlater | hnow := List.mem_append.mp h
    · obtain hpublished | hopened | hsession := ih hlater
      · exact .inl (List.mem_cons_of_mem _ hpublished)
      · exact .inr (.inl (List.mem_cons_of_mem _ hopened))
      · obtain rfl | hsession := session_receive hsession
        · exact .inr (.inl (by simp))
        · exact .inr (.inr hsession)
    · cases s with
      | opened will => exact .inr (.inr (mem_lost hnow))
      | published letter' =>
        simp only [Broker.handsOn] at hnow
        split_ifs at hnow
        · rw [List.mem_singleton.mp hnow]
          exact .inl (by simp)
        · exact absurd hnow List.not_mem_nil
      | closed => exact absurd hnow List.not_mem_nil
      | broken => exact .inr (.inr (mem_lost hnow))

end Handed

/-- A reading that finds something in the chosen entries only, and in all of them. -/
theorem findSome?_of_find? {α β : Type} {p : α → Bool} {f : α → Option β} {l : List α}
    (hnone : ∀ x ∈ l, p x = false → f x = none) (hsome : ∀ x ∈ l, p x = true → f x ≠ none) :
    l.findSome? f = (l.find? p).bind f := by
  induction l with
  | nil => rfl
  | cons x l ih =>
    have ih := ih (fun y hy => hnone y (List.mem_cons_of_mem _ hy))
      fun y hy => hsome y (List.mem_cons_of_mem _ hy)
    rw [List.findSome?_cons]
    cases hp : p x with
    | true =>
      obtain ⟨b, hb⟩ := Option.ne_none_iff_exists'.mp (hsome x (by simp) hp)
      simp [hp, hb]
    | false => simp [hp, hnone x (by simp) hp, ih]

end Ironsoft.BrokerModel
