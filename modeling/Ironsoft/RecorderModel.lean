import Ironsoft.HistoryModel
import Mathlib.Data.Nat.Notation

/-!
# Conversations with a recorder

A recorder is asked what it does, and told to start or to stop. Somebody carries out commands by
asking it, telling it, asking again, and acking the command in the end. What the talk gives away
about a recorder that answers truthfully and does nothing on its own is known from the talk alone.
-/
namespace Ironsoft.RecorderModel
open HistoryModel

variable {γ ρ : Type}

inductive Query
  | look
  | start
  | stop
  deriving DecidableEq

/-- The query that makes a recorder record, or stop. -/
def Query.post (goal : Bool) : Query := if goal then .start else .stop

theorem Query.post_ne_look (goal : Bool) : Query.post goal ≠ .look := by
  cases goal <;> simp [post]

theorem Query.post_injective {goal goal' : Bool} (h : post goal = post goal') : goal = goal' := by
  cases goal <;> cases goal' <;> simp [post] at h ⊢

/-- What is said; `finished` comes behind the ack of a command. -/
inductive Item (γ ρ : Type)
  | asked (query : Query)
  | answered (reply : ρ)
  | acked (ok : Bool)
  | finished (command : γ)
  deriving DecidableEq

/-- How replies are to be read. -/
structure Reading (ρ : Type) where
  /-- what the answer to a look tells -/
  reports : ρ → Option Bool
  /-- the query has been carried out -/
  accepts : ρ → Bool
  /-- the query is refused, and the recorder is worth another look -/
  contests : Bool → ρ → Bool

section Recorder

variable (R : Reading ρ)

/-- Whether a recorder in `s`, recording or not, that has heard `prev` last can be in `s'` after
`item`. It tells the truth about itself, contests a start only if it is recording, and changes only
when it is told to. -/
def Admits (prev : Option (Item γ ρ)) (s : Bool) (item : Item γ ρ) (s' : Bool) : Prop :=
  match item, prev with
  | .asked .start, _ | .asked .stop, _ => True
  | .answered reply, some (.asked .look) => s' = s ∧ ∀ b, R.reports reply = some b → s = b
  | .answered reply, some (.asked .start) => s' = s ∧ (R.contests true reply = true → s = true)
  | _, _ => s' = s

/-- A recorder has come from `s` to `s'` in the course of a talk, newest first. -/
def Turns (s : Bool) : List (Item γ ρ) → Bool → Prop
  | [], s' => s' = s
  | item :: older, s' => ∃ m, Turns s older m ∧ Admits R older.head? m item s'

/-- After the talk a truthful recorder records, or it does not. -/
def Shows (b : Bool) (talk : List (Item γ ρ)) : Prop := ∀ s s', Turns R s talk s' → s' = b

variable {R} {b : Bool} {reply : ρ} {talk : List (Item γ ρ)}

theorem Shows.look (h : Shows R b talk) : Shows R b (.asked .look :: talk) := by
  rintro s s' ⟨m, hm, rfl⟩
  exact h s s' hm

theorem Shows.answered (h : Shows R b (.asked .look :: talk)) :
    Shows R b (.answered reply :: .asked .look :: talk) := by
  rintro s s' ⟨m, hm, rfl, -⟩
  exact h s s' hm

theorem shows_of_reports (h : R.reports reply = some b) (talk : List (Item γ ρ)) :
    Shows R b (.answered reply :: .asked .look :: talk) := by
  rintro s s' ⟨m, -, rfl, hreports⟩
  exact hreports b h

theorem shows_of_contests (h : R.contests true reply = true) (talk : List (Item γ ρ)) :
    Shows R true (.answered reply :: .asked .start :: talk) := by
  rintro s s' ⟨m, -, rfl, hbusy⟩
  exact hbusy h

end Recorder

/-- How far a command with a goal has come: that the recorder should record, or that it should not. -/
inductive Stage
  | fresh
  | looking
  | unmet
  | posted
  | accepted
  | confirming
  /-- `met`: the goal has been reported -/
  | halfway (met : Bool)
  | reconfirming (met : Bool)
  | contested
  | rechecking
  | sure
  | failed
  | over

def Stage.verdict (good : Bool) : Stage := if good then .sure else .failed

section Errands

variable (R : Reading ρ) (goal : Bool)

/-- The answer to a look reports the goal. -/
def Reading.meets (reply : ρ) : Bool := decide (R.reports reply = some goal)

/-- The stage a command has come to, and what has been said for it. -/
inductive Errand : Stage → List (Item γ ρ) → Prop
  | fresh : Errand .fresh []
  | look {talk} : Errand .fresh talk → Errand .looking (.asked .look :: talk)
  | met {talk reply} :
    R.meets goal reply = true → Errand .looking talk → Errand .sure (.answered reply :: talk)
  | unmet {talk reply} :
    R.meets goal reply = false → Errand .looking talk → Errand .unmet (.answered reply :: talk)
  | post {talk} : Errand .unmet talk → Errand .posted (.asked (.post goal) :: talk)
  | accepted {talk reply} :
    R.accepts reply = true → Errand .posted talk → Errand .accepted (.answered reply :: talk)
  | contested {talk reply} :
    R.contests goal reply = true → Errand .posted talk → Errand .contested (.answered reply :: talk)
  | refused {talk reply} :
    R.accepts reply = false → R.contests goal reply = false → Errand .posted talk →
      Errand .failed (.answered reply :: talk)
  | confirm {talk} : Errand .accepted talk → Errand .confirming (.asked .look :: talk)
  | halfway {talk reply} :
    Errand .confirming talk → Errand (.halfway (R.meets goal reply)) (.answered reply :: talk)
  | reconfirm {talk met} :
    Errand (.halfway met) talk → Errand (.reconfirming met) (.asked .look :: talk)
  | confirmed {talk met reply} :
    Errand (.reconfirming met) talk →
      Errand (.verdict (met || R.meets goal reply)) (.answered reply :: talk)
  | recheck {talk} : Errand .contested talk → Errand .rechecking (.asked .look :: talk)
  -- a start that is contested needs no second look
  | rechecked {talk reply} :
    Errand .rechecking talk → Errand (.verdict (goal || R.meets goal reply)) (.answered reply :: talk)
  | done {talk} : Errand .sure talk → Errand .over (.acked true :: talk)
  | gaveUp {talk} : Errand .failed talk → Errand .over (.acked false :: talk)
  | turnedAway {talk} : Errand .fresh talk → Errand .over (.acked false :: talk)

/-- What is said takes a command from one stage to another. -/
def Leads (stage : Stage) (item : Item γ ρ) (next : Stage) : Prop :=
  ∀ talk, Errand R goal stage talk → Errand R goal next (item :: talk)

/-- A look leads from a stage, by way of `asked`, to the stage its answer decides. -/
structure Looks (γ : Type) (stage asked : Stage) (next : ρ → Stage) : Prop where
  ask : Leads (γ := γ) R goal stage (.asked .look) asked
  answer : ∀ reply, Leads (γ := γ) R goal asked (.answered reply) (next reply)

/-- The stage behind the answer to a post. -/
def Stage.answered (reply : ρ) : Stage :=
  if R.accepts reply then .accepted else if R.contests goal reply then .contested else .failed

variable {R goal} {stage : Stage} {talk : List (Item γ ρ)}

theorem looks_fresh : Looks R goal γ .fresh .looking
    fun reply => if R.meets goal reply then .sure else .unmet := by
  refine ⟨fun _ => .look, fun reply talk h => ?_⟩
  split_ifs with hmeets
  · exact .met hmeets h
  · exact .unmet (eq_false_of_ne_true hmeets) h

theorem looks_accepted :
    Looks R goal γ .accepted .confirming fun reply => .halfway (R.meets goal reply) :=
  ⟨fun _ => .confirm, fun _ _ => .halfway⟩

theorem looks_halfway (met : Bool) : Looks R goal γ (.halfway met) (.reconfirming met)
    fun reply => .verdict (met || R.meets goal reply) :=
  ⟨fun _ => .reconfirm, fun _ _ => .confirmed⟩

theorem looks_contested : Looks R goal γ .contested .rechecking
    fun reply => .verdict (goal || R.meets goal reply) :=
  ⟨fun _ => .recheck, fun _ _ => .rechecked⟩

theorem leads_answered (reply : ρ) :
    Leads (γ := γ) R goal .posted (.answered reply) (.answered R goal reply) := by
  intro talk h
  unfold Stage.answered
  split_ifs with haccepts hcontests
  · exact .accepted haccepts h
  · exact .contested hcontests h
  · exact .refused (eq_false_of_ne_true haccepts) (eq_false_of_ne_true hcontests) h

/-- What the talk has given away at a stage. -/
def Stage.Known (R : Reading ρ) (goal : Bool) (talk : List (Item γ ρ)) : Stage → Prop
  | .looking | .confirming => ∃ older, talk = .asked .look :: older
  | .unmet => ∃ reply older, talk = .answered reply :: .asked .look :: older ∧
      R.meets goal reply = false
  | .posted => ∃ older, talk = .asked (.post goal) :: older
  | .halfway met => met = true → Shows R goal talk
  | .reconfirming met => ∃ older, talk = .asked .look :: older ∧ (met = true → Shows R goal talk)
  | .contested => goal = true → Shows R goal talk
  | .rechecking => ∃ older, talk = .asked .look :: older ∧ (goal = true → Shows R goal talk)
  | .sure => Shows R goal talk
  | .over => ∀ older, talk = .acked true :: older → Shows R goal older
  | _ => True

theorem shows_of_meets {reply : ρ} (h : R.meets goal reply = true) (talk : List (Item γ ρ)) :
    Shows R goal (.answered reply :: .asked .look :: talk) :=
  shows_of_reports (of_decide_eq_true h) talk

/-- The second of two looks shows the goal if the first one has, or if it does itself. -/
theorem known_verdict {met : Bool} {reply : ρ} {older : List (Item γ ρ)}
    (h : met = true → Shows R goal (.asked .look :: older)) :
    (Stage.verdict (met || R.meets goal reply)).Known R goal
      (.answered reply :: .asked .look :: older) := by
  unfold Stage.verdict
  split_ifs with hgood
  · rcases Bool.or_eq_true_iff.mp hgood with hmet | hmeets
    · exact (h hmet).answered
    · exact shows_of_meets hmeets older
  · trivial

theorem Errand.known (h : Errand R goal stage talk) (before : List (Item γ ρ)) :
    stage.Known R goal (talk ++ before) := by
  induction h with
  | fresh => trivial
  | look => exact ⟨_, rfl⟩
  | met hmeets _ ih =>
    obtain ⟨older, htalk⟩ := ih
    rw [List.cons_append, htalk]
    exact shows_of_meets hmeets older
  | unmet hmeets _ ih =>
    obtain ⟨older, htalk⟩ := ih
    exact ⟨_, older, congrArg _ htalk, hmeets⟩
  | post => exact ⟨_, rfl⟩
  | accepted | refused => trivial
  | contested hcontests _ ih =>
    rintro rfl
    obtain ⟨older, htalk⟩ := ih
    rw [List.cons_append, htalk]
    exact shows_of_contests hcontests older
  | confirm => exact ⟨_, rfl⟩
  | halfway _ ih =>
    intro hmeets
    obtain ⟨older, htalk⟩ := ih
    rw [List.cons_append, htalk]
    exact shows_of_meets hmeets older
  | reconfirm _ ih => exact ⟨_, rfl, fun hmet => (ih hmet).look⟩
  | confirmed _ ih =>
    obtain ⟨older, htalk, hshows⟩ := ih
    rw [htalk] at hshows
    rw [List.cons_append, htalk]
    exact known_verdict hshows
  | recheck _ ih => exact ⟨_, rfl, fun hgoal => (ih hgoal).look⟩
  | rechecked _ ih =>
    obtain ⟨older, htalk, hshows⟩ := ih
    rw [htalk] at hshows
    rw [List.cons_append, htalk]
    exact known_verdict hshows
  | done _ ih =>
    intro older htalk
    obtain ⟨-, rfl⟩ := List.cons.inj htalk
    exact ih
  | gaveUp | turnedAway => nofun

/-- A command tells the recorder its goal if the answer to its look has not reported it, and only
then. -/
theorem Errand.warranted {P : Item γ ρ → List (Item γ ρ) → Prop} (h : Errand R goal stage talk)
    {before : List (Item γ ρ)} (hbefore : Warranted P before)
    (hplain : ∀ item older, (∀ g, item ≠ .asked (.post g)) → (∀ c, item ≠ .finished c) → P item older)
    (hpost : ∀ reply older, R.meets goal reply = false →
      P (.asked (.post goal)) (.answered reply :: .asked .look :: older)) :
    Warranted P (talk ++ before) := by
  have hlook (older : List (Item γ ρ)) : P (.asked .look) older :=
    hplain _ older (fun g h => Query.post_ne_look g (Item.asked.inj h).symm) nofun
  have hanswer (reply : ρ) (older : List (Item γ ρ)) : P (.answered reply) older :=
    hplain _ older nofun nofun
  have hack (ok : Bool) (older : List (Item γ ρ)) : P (.acked ok) older :=
    hplain _ older nofun nofun
  induction h with
  | fresh => exact hbefore
  | look _ ih | confirm _ ih | reconfirm _ ih | recheck _ ih => exact ⟨hlook _, ih⟩
  | post h ih =>
    obtain ⟨reply, older, htalk, hmeets⟩ := h.known before
    rw [List.cons_append]
    refine ⟨?_, ih⟩
    rw [htalk]
    exact hpost reply older hmeets
  | met _ _ ih | unmet _ _ ih | accepted _ _ ih | contested _ _ ih | refused _ _ _ ih =>
    exact ⟨hanswer _ _, ih⟩
  | halfway _ ih | confirmed _ ih | rechecked _ ih => exact ⟨hanswer _ _, ih⟩
  | done _ ih | gaveUp _ ih | turnedAway _ ih => exact ⟨hack _ _, ih⟩

def Item.tells (goal : Bool) : Item γ ρ → Bool
  | .asked query => query = .post goal
  | _ => false

/-- How often the recorder has been told a goal. -/
def told (goal : Bool) (talk : List (Item γ ρ)) : ℕ := talk.countP (Item.tells goal)

@[simp] theorem told_nil (g : Bool) : told g ([] : List (Item γ ρ)) = 0 := rfl

@[simp] theorem told_append (g : Bool) (talk before : List (Item γ ρ)) :
    told g (talk ++ before) = told g talk + told g before := List.countP_append

theorem told_cons (g : Bool) (item : Item γ ρ) (talk : List (Item γ ρ)) :
    told g (item :: talk) = told g talk + if item.tells g then 1 else 0 := List.countP_cons

theorem told_cons_plain {g : Bool} {item : Item γ ρ} (h : item.tells g = false)
    (talk : List (Item γ ρ)) : told g (item :: talk) = told g talk := by
  rw [told_cons, h, if_neg Bool.false_ne_true, Nat.add_zero]

/-- How often it can have been told at a stage. -/
def Stage.tellings : Stage → ℕ
  | .fresh | .looking | .unmet => 0
  | _ => 1

theorem Stage.tellings_le (stage : Stage) : stage.tellings ≤ 1 := by
  cases stage <;> simp [tellings]

theorem Stage.verdict_tellings (good : Bool) : (verdict good).tellings = 1 := by
  cases good <;> rfl

theorem Errand.told_le (h : Errand R goal stage talk) (g : Bool) :
    told g talk ≤ if g = goal then stage.tellings else 0 := by
  have hlook : (Item.asked .look : Item γ ρ).tells g = false :=
    decide_eq_false (Query.post_ne_look g).symm
  induction h with
  | fresh => exact Nat.zero_le _
  | look _ ih | confirm _ ih | reconfirm _ ih | recheck _ ih =>
    rw [told_cons_plain hlook]
    exact ih
  | post _ ih =>
    rw [told_cons]
    by_cases hg : g = goal
    · rw [if_pos hg] at ih ⊢
      simp only [Stage.tellings] at ih ⊢
      split_ifs <;> omega
    · rw [if_neg hg] at ih ⊢
      have hother : (Item.asked (.post goal) : Item γ ρ).tells g = false :=
        decide_eq_false fun h => hg (Query.post_injective h).symm
      rw [hother, if_neg Bool.false_ne_true]
      exact ih
  | met _ _ ih | unmet _ _ ih | accepted _ _ ih | contested _ _ ih | refused _ _ _ ih | halfway _ ih
  | done _ ih | gaveUp _ ih | turnedAway _ ih =>
    rw [told_cons_plain rfl]
    refine ih.trans ?_
    split_ifs <;> simp [Stage.tellings]
  | confirmed _ ih | rechecked _ ih =>
    rw [told_cons_plain rfl, Stage.verdict_tellings]
    exact ih

end Errands

/-- The recorder is not told anything, and no command is finished. -/
def Item.Harmless : Item γ ρ → Prop
  | .asked .look | .answered _ | .acked _ => True
  | _ => False

/-- What is said between commands. -/
def Item.Aside : Item γ ρ → Prop
  | .asked .look | .answered _ => True
  | _ => False

theorem Item.Aside.harmless {item : Item γ ρ} (h : item.Aside) : item.Harmless := by
  cases item with
  | asked query => cases query <;> exact h
  | answered => trivial
  | acked | finished => exact h.elim

theorem Item.Harmless.ne_post {item : Item γ ρ} (h : item.Harmless) (g : Bool) :
    item ≠ .asked (.post g) := by
  rintro rfl
  cases g <;> exact h

theorem Item.Harmless.ne_finished {item : Item γ ρ} (h : item.Harmless) (command : γ) :
    item ≠ .finished command := by
  rintro rfl
  exact h

theorem Item.Harmless.tells {item : Item γ ρ} (h : item.Harmless) (g : Bool) :
    item.tells g = false := by
  cases item with
  | asked query => exact decide_eq_false fun hquery => h.ne_post g (hquery ▸ rfl)
  | answered | acked | finished => rfl

section Conversations

variable (R : Reading ρ) (goalOf : γ → Option Bool)

/-- Commands are carried out one after the other, and the recorder is told only what a command is
about. -/
inductive Conversation : List (Item γ ρ) → Prop
  | nil : Conversation []
  | aside {item talk} : item.Aside → Conversation talk → Conversation (item :: talk)
  | errand {command goal part talk} :
    goalOf command = some goal → Errand R goal .over part → Conversation talk →
      Conversation (.finished command :: (part ++ talk))
  | chore {command part talk} :
    goalOf command = none → (∀ item ∈ part, item.Harmless) → Conversation talk →
      Conversation (.finished command :: (part ++ talk))

/-- The command that is being carried out has not come to its end. -/
inductive BrokenOff (command : γ) : List (Item γ ρ) → Prop
  | errand {goal stage part talk} :
    goalOf command = some goal → Errand R goal stage part → Conversation R goalOf talk →
      BrokenOff command (part ++ talk)
  | chore {part talk} :
    goalOf command = none → (∀ item ∈ part, item.Harmless) → Conversation R goalOf talk →
      BrokenOff command (part ++ talk)

/-- The recorder is told a goal only right after an answer that did not report it. -/
def Prudent (item : Item γ ρ) (older : List (Item γ ρ)) : Prop :=
  ∀ goal, item = .asked (.post goal) →
    ∃ reply before, older = .answered reply :: .asked .look :: before ∧ R.meets goal reply = false

/-- A command with a positive ack has reached its goal. -/
def Reached (item : Item γ ρ) (older : List (Item γ ρ)) : Prop :=
  ∀ command goal before, item = .finished command → goalOf command = some goal →
    older = .acked true :: before → Shows R goal before

/-- How many commands with a goal are finished. -/
def ordered (goal : Bool) (talk : List (Item γ ρ)) : ℕ :=
  talk.countP fun item => match item with
    | .finished command => goalOf command = some goal
    | _ => false

variable {R goalOf} {command : γ} {talk : List (Item γ ρ)}

theorem prudent_of_ne {item : Item γ ρ} (h : ∀ goal, item ≠ .asked (.post goal))
    (older : List (Item γ ρ)) : Prudent R item older := fun goal hitem => absurd hitem (h goal)

theorem prudent_finished (command : γ) (older : List (Item γ ρ)) :
    Prudent R (.finished command) older := fun _ => nofun

theorem reached_of_ne {item : Item γ ρ} (h : ∀ command, item ≠ .finished command)
    (older : List (Item γ ρ)) : Reached R goalOf item older :=
  fun command _ _ hitem => absurd hitem (h command)

theorem Errand.prudent {goal : Bool} {stage : Stage} {part : List (Item γ ρ)}
    (h : Errand R goal stage part) (htalk : Warranted (Prudent R) talk) :
    Warranted (Prudent R) (part ++ talk) := by
  refine h.warranted htalk (fun item older hitem _ => prudent_of_ne hitem older) ?_
  intro reply older hmeets goal' hgoal
  obtain rfl := Query.post_injective (Item.asked.inj hgoal)
  exact ⟨reply, older, rfl, hmeets⟩

theorem Conversation.prudent (h : Conversation R goalOf talk) : Warranted (Prudent R) talk := by
  induction h with
  | nil => trivial
  | aside hitem _ ih => exact ⟨prudent_of_ne hitem.harmless.ne_post _, ih⟩
  | errand _ herrand _ ih => exact ⟨prudent_finished _ _, herrand.prudent ih⟩
  | chore _ hpart _ ih =>
    refine ⟨prudent_finished _ _, ih.append fun item hitem => ?_⟩
    exact prudent_of_ne (hpart item hitem).ne_post

theorem BrokenOff.prudent (h : BrokenOff R goalOf command talk) : Warranted (Prudent R) talk := by
  cases h with
  | errand _ herrand htalk => exact herrand.prudent htalk.prudent
  | chore _ hpart htalk =>
    exact htalk.prudent.append fun item hitem => prudent_of_ne (hpart item hitem).ne_post

theorem Errand.reached {goal : Bool} {stage : Stage} {part : List (Item γ ρ)}
    (h : Errand R goal stage part) (htalk : Warranted (Reached R goalOf) talk) :
    Warranted (Reached R goalOf) (part ++ talk) :=
  h.warranted htalk (fun _ older _ hitem => reached_of_ne hitem older)
    fun _ _ _ => reached_of_ne nofun _

theorem Conversation.reached (h : Conversation R goalOf talk) :
    Warranted (Reached R goalOf) talk := by
  induction h with
  | nil => trivial
  | aside hitem _ ih => exact ⟨reached_of_ne hitem.harmless.ne_finished _, ih⟩
  | errand hgoal herrand _ ih =>
    refine ⟨?_, herrand.reached ih⟩
    rintro command goal before ⟨⟩ hgoal' hacked
    obtain rfl := Option.some.inj (hgoal.symm.trans hgoal')
    exact herrand.known _ before hacked
  | chore hgoal hpart _ ih =>
    refine ⟨?_, ih.append fun item hitem => reached_of_ne (hpart item hitem).ne_finished⟩
    rintro command goal before ⟨⟩ hgoal' -
    cases hgoal.symm.trans hgoal'

theorem BrokenOff.reached (h : BrokenOff R goalOf command talk) :
    Warranted (Reached R goalOf) talk := by
  cases h with
  | errand _ herrand htalk => exact herrand.reached htalk.reached
  | chore _ hpart htalk =>
    exact htalk.reached.append fun item hitem => reached_of_ne (hpart item hitem).ne_finished

theorem told_harmless {part : List (Item γ ρ)} (h : ∀ item ∈ part, item.Harmless) (g : Bool) :
    told g part = 0 := by
  induction part with
  | nil => rfl
  | cons item part ih =>
    obtain ⟨hitem, hpart⟩ := List.forall_mem_cons.mp h
    rw [told_cons_plain (hitem.tells g)]
    exact ih hpart

theorem ordered_append (g : Bool) (part talk : List (Item γ ρ)) :
    ordered goalOf g talk ≤ ordered goalOf g (part ++ talk) := by
  unfold ordered
  rw [List.countP_append]
  exact Nat.le_add_left _ _

theorem ordered_cons (g : Bool) (item : Item γ ρ) (talk : List (Item γ ρ)) :
    ordered goalOf g talk ≤ ordered goalOf g (item :: talk) := ordered_append g [item] talk

theorem ordered_finished {goal : Bool} {command : γ} (h : goalOf command = some goal)
    (talk : List (Item γ ρ)) :
    ordered goalOf goal (.finished command :: talk) = ordered goalOf goal talk + 1 := by
  unfold ordered
  rw [List.countP_cons]
  simp only [h, decide_true, if_true]

/-- An errand tells its goal at most once. -/
theorem Errand.told_le_ordered {goal : Bool} {stage : Stage} {part : List (Item γ ρ)}
    (h : Errand R goal stage part) (hgoal : goalOf command = some goal) {g : Bool}
    (htalk : told g talk ≤ ordered goalOf g talk) :
    told g (part ++ talk) ≤ ordered goalOf g (.finished command :: (part ++ talk)) := by
  have hpart := h.told_le g
  have hstage := stage.tellings_le
  have hmore : ordered goalOf g talk ≤ ordered goalOf g (part ++ talk) := ordered_append g part talk
  rw [told_append]
  by_cases hg : g = goal
  · subst hg
    rw [ordered_finished hgoal]
    rw [if_pos rfl] at hpart
    omega
  · have hmore' : ordered goalOf g (part ++ talk) ≤
        ordered goalOf g (.finished command :: (part ++ talk)) := ordered_cons g _ _
    rw [if_neg hg] at hpart
    omega

theorem told_le_ordered_chore {part : List (Item γ ρ)} (hpart : ∀ item ∈ part, item.Harmless)
    {g : Bool} (htalk : told g talk ≤ ordered goalOf g talk) :
    told g (part ++ talk) ≤ ordered goalOf g (.finished command :: (part ++ talk)) := by
  rw [told_append, told_harmless hpart, Nat.zero_add]
  exact htalk.trans ((ordered_append g _ _).trans (ordered_cons g _ _))

theorem Conversation.told_le (h : Conversation R goalOf talk) (g : Bool) :
    told g talk ≤ ordered goalOf g talk := by
  induction h with
  | nil => exact Nat.zero_le _
  | aside hitem _ ih =>
    rw [told_cons_plain (hitem.harmless.tells g)]
    exact ih.trans (ordered_cons g _ _)
  | errand hgoal herrand _ ih =>
    rw [told_cons_plain rfl]
    exact herrand.told_le_ordered hgoal ih
  | chore _ hpart _ ih =>
    rw [told_cons_plain rfl]
    exact told_le_ordered_chore hpart ih

/-- The command that is not finished counts. -/
theorem BrokenOff.told_le (h : BrokenOff R goalOf command talk) (g : Bool) :
    told g talk ≤ ordered goalOf g (.finished command :: talk) := by
  cases h with
  | errand hgoal herrand htalk => exact herrand.told_le_ordered hgoal (htalk.told_le g)
  | chore _ hpart htalk => exact told_le_ordered_chore hpart (htalk.told_le g)

end Conversations

end Ironsoft.RecorderModel
