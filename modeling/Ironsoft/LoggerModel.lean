import Mathlib.Data.List.Infix

/-!
# Talking to a logger

What a recording command does, as far as the replies of the logger decide it: the view of
the logger the service holds, and what it publishes and acks. A command asks for the state
of the logger first, then posts its request, and asks again to see what has become of it.
-/
namespace Ironsoft.LoggerModel

/-- What the reply to a GET says. -/
inductive Report
  | recording
  | idle
  /-- a success that does not say whether the logger records -/
  | silent
  /-- there is no logger -/
  | missing
  | failed
  deriving DecidableEq

structure Reply where
  report : Report
  /-- it names a session -/
  named : Bool

/-- What becomes of a POST. -/
inductive Posted
  | accepted
  | conflict
  | missing
  | broken
  | failed
  deriving DecidableEq

inductive Phase
  | recording
  | idle
  | starting
  | stopping
  | error
  | other
  deriving DecidableEq

def Phase.transient (p : Phase) : Prop := p = starting ∨ p = stopping

instance (p : Phase) : Decidable p.transient := inferInstanceAs (Decidable (_ ∨ _))

/-- The view of the logger that is published. -/
structure View where
  phase : Phase
  active : Bool
  named : Bool
  deriving DecidableEq

inductive Talk
  | published (view : View)
  | acked (ok : Bool)
  deriving DecidableEq

/-- The service at work; the talk is newest first. -/
@[ext] structure Desk where
  view : View
  talk : List Talk

def View.hear (v : View) (r : Reply) : View :=
  match r.report with
  | .recording => ⟨.recording, true, r.named || v.named⟩
  | .idle => ⟨.idle, false, r.named⟩
  | .silent => ⟨v.phase, v.active, r.named || (v.active && v.named)⟩
  | .missing => ⟨.idle, false, false⟩
  | .failed => ⟨.error, v.active, v.named⟩

namespace Desk

def hear (d : Desk) (r : Reply) : Desk := { d with view := d.view.hear r }

def setPhase (d : Desk) (p : Phase) : Desk := { d with view := { d.view with phase := p } }

def clearName (d : Desk) : Desk := { d with view := { d.view with named := false } }

def publish (d : Desk) : Desk := { d with talk := .published d.view :: d.talk }

def ack (d : Desk) (ok : Bool) : Desk := { d with talk := .acked ok :: d.talk }

end Desk

/-- The end of a command whose POST has failed. -/
def giveUp (p : Phase) (d : Desk) : Desk := (d.setPhase p).publish.ack false

def alreadyStopped (d : Desk) : Desk := (d.clearName.setPhase .idle).publish.ack true

/-- What follows the POST of a start, with the replies to the GETs that follow it. -/
def startPosted (post : Posted) (r₁ r₂ : Reply) (d : Desk) : Desk :=
  match post with
  | .accepted => ((d.hear r₁).hear r₂).publish.ack (r₁.report = .recording ∨ r₂.report = .recording)
  -- taken for a logger that records already, whatever it says
  | .conflict => (d.hear r₁).publish.ack true
  | .missing => giveUp .idle d
  | .broken | .failed => giveUp .error d

def start (pre : Reply) (post : Posted) (r₁ r₂ : Reply) (d : Desk) : Desk :=
  let d := (d.hear pre).publish
  if pre.report = .recording then d.ack true
  else startPosted post r₁ r₂ (d.setPhase .starting).publish

def stopPosted (post : Posted) (r₁ r₂ : Reply) (d : Desk) : Desk :=
  match post with
  | .accepted =>
    let d := (d.hear r₁).hear r₂
    if r₁.report = .idle ∨ r₂.report = .idle then d.clearName.publish.ack true
    else d.publish.ack false
  | .conflict | .broken =>
    let d := (d.hear r₁).publish
    if r₁.report = .idle then alreadyStopped d else giveUp .error d
  | .missing => giveUp .idle d
  | .failed => giveUp .error d

def stop (pre : Reply) (post : Posted) (r₁ r₂ : Reply) (d : Desk) : Desk :=
  let d := (d.hear pre).publish
  if pre.report = .idle then alreadyStopped d
  else stopPosted post r₁ r₂ (d.setPhase .stopping).publish

/-- A status command. -/
def inquire (r : Reply) (d : Desk) : Desk :=
  (d.hear r).publish.ack (r.report ≠ .missing ∧ r.report ≠ .failed)

/-- Whether a command gets through to the logger. -/
inductive Access
  | offline
  | unconfigured
  | granted
  deriving DecidableEq

/-- `conducted` is what a command makes of the desk once it gets through. -/
def Access.yields (access : Access) (d conducted : Desk) : Desk :=
  match access with
  | .offline => d.ack false
  | .unconfigured => d.publish.ack false
  | .granted => conducted

inductive Command
  | refused
  | ping
  | start
  | stop
  | status
  deriving DecidableEq

def Command.conduct (c : Command) (access : Access) (pre : Reply) (post : Posted) (r₁ r₂ : Reply)
    (d : Desk) : Desk :=
  match c with
  | .refused => d.ack false
  | .ping => d.ack true
  | .start => access.yields d (LoggerModel.start pre post r₁ r₂ d)
  | .stop => access.yields d (LoggerModel.stop pre post r₁ r₂ d)
  | .status => access.yields d (inquire pre d)

/-- Since `before`, nothing but views has been published. -/
def Unacked (before after : List Talk) : Prop :=
  ∃ views : List View, after = views.map .published ++ before

theorem Unacked.grows {before after : List Talk} (h : Unacked before after) : before <:+ after := by
  obtain ⟨views, rfl⟩ := h
  exact List.suffix_append _ _

/-- Since `before`, views have been published, `v` as the last one, and one ack sent. -/
def Ends (before : List Talk) (ok : Bool) (v : View) (after : List Talk) : Prop :=
  ∃ views : List View, after = .acked ok :: .published v :: (views.map .published ++ before)

section Ending

variable {before after : List Talk} {ok : Bool} {v : View}

theorem Ends.unacked (h : Ends before ok v after) : Unacked before after.tail := by
  obtain ⟨views, rfl⟩ := h
  exact ⟨v :: views, rfl⟩

theorem Ends.published {v' : View} (h : Ends (.published v' :: before) ok v after) :
    Ends before ok v after := by
  obtain ⟨views, rfl⟩ := h
  exact ⟨views ++ [v'], by simp⟩

end Ending

section Saying

variable (pre : Reply) (post : Posted) (r₁ r₂ : Reply) (d : Desk)

@[simp] theorem Desk.hear_talk (r : Reply) : (d.hear r).talk = d.talk := rfl

theorem publish_ack_ends (ok : Bool) :
    Ends d.talk ok (d.publish.ack ok).view (d.publish.ack ok).talk := ⟨[], rfl⟩

theorem giveUp_unacked (p : Phase) : Unacked d.talk (giveUp p d).talk.tail :=
  (publish_ack_ends (d.setPhase p) false).unacked

theorem alreadyStopped_unacked : Unacked d.talk (alreadyStopped d).talk.tail :=
  (publish_ack_ends (d.clearName.setPhase .idle) true).unacked

def startPostedOk : Bool :=
  match post with
  | .accepted => r₁.report = .recording ∨ r₂.report = .recording
  | .conflict => true
  | _ => false

theorem startPosted_ends :
    Ends d.talk (startPostedOk post r₁ r₂) (startPosted post r₁ r₂ d).view
      (startPosted post r₁ r₂ d).talk := by
  cases post <;> exact ⟨[], rfl⟩

def stopPostedOk : Bool :=
  match post with
  | .accepted => r₁.report = .idle ∨ r₂.report = .idle
  | .conflict | .broken => r₁.report = .idle
  | _ => false

theorem stopPosted_ends :
    Ends d.talk (stopPostedOk post r₁ r₂) (stopPosted post r₁ r₂ d).view
      (stopPosted post r₁ r₂ d).talk := by
  cases post with
  | accepted =>
    by_cases h : r₁.report = .idle ∨ r₂.report = .idle
    · simp only [stopPosted, stopPostedOk, if_pos h, decide_eq_true h]
      exact ⟨[], rfl⟩
    · simp only [stopPosted, stopPostedOk, if_neg h, decide_eq_false h]
      exact ⟨[], rfl⟩
  | conflict | broken =>
    by_cases h : r₁.report = .idle
    · simp only [stopPosted, stopPostedOk, if_pos h, decide_eq_true h]
      exact ⟨[d.view.hear r₁], rfl⟩
    · simp only [stopPosted, stopPostedOk, if_neg h, decide_eq_false h]
      exact ⟨[d.view.hear r₁], rfl⟩
  | missing | failed => exact ⟨[], rfl⟩

theorem start_of_recording {pre : Reply} (h : pre.report = .recording) (post : Posted)
    (r₁ r₂ : Reply) : start pre post r₁ r₂ d = (d.hear pre).publish.ack true := by
  rw [start, if_pos h]

theorem start_of_not_recording {pre : Reply} (h : pre.report ≠ .recording) (post : Posted)
    (r₁ r₂ : Reply) :
    start pre post r₁ r₂ d =
      startPosted post r₁ r₂ ((d.hear pre).publish.setPhase .starting).publish := by
  rw [start, if_neg h]

theorem start_unacked : Unacked d.talk (start pre post r₁ r₂ d).talk.tail := by
  by_cases h : pre.report = .recording
  · rw [start_of_recording d h]
    exact ⟨[d.view.hear pre], rfl⟩
  · rw [start_of_not_recording d h]
    exact (startPosted_ends post r₁ r₂ _).published.published.unacked

theorem stop_of_idle {pre : Reply} (h : pre.report = .idle) (post : Posted) (r₁ r₂ : Reply) :
    stop pre post r₁ r₂ d = alreadyStopped (d.hear pre).publish := by
  rw [stop, if_pos h]

theorem stop_of_not_idle {pre : Reply} (h : pre.report ≠ .idle) (post : Posted) (r₁ r₂ : Reply) :
    stop pre post r₁ r₂ d =
      stopPosted post r₁ r₂ ((d.hear pre).publish.setPhase .stopping).publish := by
  rw [stop, if_neg h]

theorem stop_unacked : Unacked d.talk (stop pre post r₁ r₂ d).talk.tail := by
  by_cases h : pre.report = .idle
  · rw [stop_of_idle d h]
    exact ⟨[((d.hear pre).clearName.setPhase .idle).view, d.view.hear pre], rfl⟩
  · rw [stop_of_not_idle d h]
    exact (stopPosted_ends post r₁ r₂ _).published.published.unacked

theorem Access.yields_unacked (access : Access) {conducted : Desk}
    (h : Unacked d.talk conducted.talk.tail) :
    Unacked d.talk (access.yields d conducted).talk.tail := by
  cases access with
  | offline => exact ⟨[], rfl⟩
  | unconfigured => exact ⟨[d.view], rfl⟩
  | granted => exact h

end Saying

/-- The reply says that nothing is recorded. -/
def Reply.denies (r : Reply) : Prop := r.report = .idle ∨ r.report = .missing

theorem View.hear_transient (v : View) (r : Reply) :
    (v.hear r).phase.transient ↔ r.report = .silent ∧ v.phase.transient := by
  unfold View.hear
  cases r.report <;> simp [Phase.transient]

theorem View.hear_active (v : View) (r : Reply) :
    (v.hear r).active = true ↔ r.report = .recording ∨ v.active = true ∧ ¬r.denies := by
  unfold View.hear Reply.denies
  cases r.report <;> simp

theorem View.hear_idle (v : View) {r : Reply} (h : r.report = .idle) :
    (v.hear r).active = false := by
  rw [View.hear, h]

theorem View.hear_recording (v : View) {r : Reply} (h : r.report = .recording) :
    (v.hear r).active = true :=
  (v.hear_active r).mpr (.inl h)

/-- The replies take a start out of its transient phase. -/
def StartSettles (pre : Reply) (post : Posted) (r₁ r₂ : Reply) : Prop :=
  pre.report = .recording ∨ match post with
    | .accepted => ¬(r₁.report = .silent ∧ r₂.report = .silent)
    | .conflict => r₁.report ≠ .silent
    | _ => True

def StopSettles (pre : Reply) (post : Posted) (r₁ r₂ : Reply) : Prop :=
  pre.report = .idle ∨ (post = .accepted → ¬(r₁.report = .silent ∧ r₂.report = .silent))

section Settling

variable (pre : Reply) (post : Posted) (r₁ r₂ : Reply) (d : Desk)

theorem giveUp_settles {p : Phase} (h : ¬p.transient) : ¬(giveUp p d).view.phase.transient := h

theorem startPosted_settles_iff (hd : d.view.phase.transient) :
    ¬(startPosted post r₁ r₂ d).view.phase.transient ↔ match post with
      | .accepted => ¬(r₁.report = .silent ∧ r₂.report = .silent)
      | .conflict => r₁.report ≠ .silent
      | _ => True := by
  cases post with
  | accepted =>
    change ¬((d.view.hear r₁).hear r₂).phase.transient ↔ _
    rw [View.hear_transient, View.hear_transient]
    simp only [hd, and_true]
    rw [and_comm]
  | conflict =>
    change ¬(d.view.hear r₁).phase.transient ↔ _
    rw [View.hear_transient]
    simp only [hd, and_true, ne_eq]
  | missing | broken | failed => exact iff_of_true (giveUp_settles d (by decide)) trivial

theorem start_settles_iff :
    ¬(start pre post r₁ r₂ d).view.phase.transient ↔ StartSettles pre post r₁ r₂ := by
  unfold start StartSettles
  dsimp only
  split_ifs with hpre
  · refine iff_of_true ?_ (.inl hpre)
    change ¬(d.view.hear pre).phase.transient
    rw [View.hear_transient, hpre]
    exact fun h => Report.noConfusion h.1
  · rw [or_iff_right hpre]
    exact startPosted_settles_iff post r₁ r₂ _ (.inl rfl)

theorem stopPosted_settles_iff (hd : d.view.phase.transient) :
    ¬(stopPosted post r₁ r₂ d).view.phase.transient ↔
      (post = .accepted → ¬(r₁.report = .silent ∧ r₂.report = .silent)) := by
  cases post with
  | accepted =>
    have hphase : (stopPosted .accepted r₁ r₂ d).view.phase = ((d.view.hear r₁).hear r₂).phase := by
      unfold stopPosted
      dsimp only
      split_ifs <;> rfl
    rw [hphase, View.hear_transient, View.hear_transient]
    simp only [hd, and_true, forall_const]
    rw [and_comm]
  | conflict | broken =>
    refine iff_of_true ?_ nofun
    unfold stopPosted
    dsimp only
    split_ifs
    · exact giveUp_settles d (p := .idle) (by decide)
    · exact giveUp_settles _ (by decide)
  | missing | failed => exact iff_of_true (giveUp_settles d (by decide)) nofun

theorem stop_settles_iff :
    ¬(stop pre post r₁ r₂ d).view.phase.transient ↔ StopSettles pre post r₁ r₂ := by
  unfold stop StopSettles
  dsimp only
  split_ifs with hpre
  · exact iff_of_true (giveUp_settles d (p := .idle) (by decide)) (.inl hpre)
  · rw [or_iff_right hpre]
    exact stopPosted_settles_iff post r₁ r₂ _ (.inr rfl)

/-- The replies take the command out of the transient phase it has entered. -/
def Command.Settles (c : Command) (access : Access) (pre : Reply) (post : Posted)
    (r₁ r₂ : Reply) : Prop :=
  match c with
  | .start => access = .granted → StartSettles pre post r₁ r₂
  | .stop => access = .granted → StopSettles pre post r₁ r₂
  | _ => True

theorem Access.yields_settles_iff (access : Access) {conducted : Desk} {settles : Prop}
    (hd : ¬d.view.phase.transient) (h : ¬conducted.view.phase.transient ↔ settles) :
    ¬(access.yields d conducted).view.phase.transient ↔ (access = .granted → settles) := by
  cases access with
  | offline | unconfigured => exact iff_of_true hd nofun
  | granted => exact h.trans ⟨fun hs _ => hs, fun hs => hs rfl⟩

theorem Command.conduct_settles_iff (c : Command) (access : Access)
    (hd : ¬d.view.phase.transient) :
    ¬(c.conduct access pre post r₁ r₂ d).view.phase.transient ↔ c.Settles access pre post r₁ r₂ := by
  cases c with
  | refused | ping => exact iff_of_true hd trivial
  | start => exact access.yields_settles_iff d hd (start_settles_iff pre post r₁ r₂ d)
  | stop => exact access.yields_settles_iff d hd (stop_settles_iff pre post r₁ r₂ d)
  | status =>
    refine (access.yields_settles_iff d hd (iff_true_intro ?_)).trans (iff_true_intro fun _ => trivial)
    exact fun ht => hd ((View.hear_transient _ _).mp ht).2

end Settling

/-- The phase and the flag tell the same. -/
structure View.Consistent (v : View) : Prop where
  recording : v.phase = .recording → v.active = true
  idle : v.phase = .idle → v.active = false

/-- So they do in whatever has been published. -/
structure Desk.Agreed (d : Desk) : Prop where
  view : d.view.Consistent
  published : ∀ v, Talk.published v ∈ d.talk → v.Consistent

theorem View.Consistent.hear {v : View} (h : v.Consistent) (r : Reply) : (v.hear r).Consistent := by
  unfold View.hear
  cases r.report with
  | recording => exact ⟨fun _ => rfl, nofun⟩
  | idle | missing => exact ⟨nofun, fun _ => rfl⟩
  | silent => exact ⟨h.recording, h.idle⟩
  | failed => exact ⟨nofun, nofun⟩

namespace Desk.Agreed

variable {d : Desk} (h : d.Agreed)

include h

theorem hear (r : Reply) : (d.hear r).Agreed := ⟨h.view.hear r, h.published⟩

theorem clearName : d.clearName.Agreed := ⟨⟨h.view.recording, h.view.idle⟩, h.published⟩

theorem setPhase {p : Phase} (hr : p ≠ .recording) (hi : p = .idle → d.view.active = false) :
    (d.setPhase p).Agreed :=
  ⟨⟨fun hp => absurd hp hr, hi⟩, h.published⟩

theorem publish : d.publish.Agreed := by
  refine ⟨h.view, fun v hv => ?_⟩
  rcases List.mem_cons.mp hv with hv | hv
  · cases hv
    exact h.view
  · exact h.published v hv

theorem ack (ok : Bool) : (d.ack ok).Agreed := by
  refine ⟨h.view, fun v hv => h.published v ?_⟩
  exact (List.mem_cons.mp hv).resolve_left Talk.noConfusion

theorem giveUp {p : Phase} (hr : p ≠ .recording) (hi : p = .idle → d.view.active = false) :
    (giveUp p d).Agreed :=
  (h.setPhase hr hi).publish.ack false

theorem alreadyStopped (hactive : d.view.active = false) : (alreadyStopped d).Agreed :=
  (h.clearName.setPhase (p := .idle) nofun fun _ => hactive).publish.ack true

theorem startPosted {post : Posted} (hmissing : post = .missing → d.view.active = false)
    (r₁ r₂ : Reply) : (startPosted post r₁ r₂ d).Agreed := by
  cases post with
  | accepted => exact ((h.hear r₁).hear r₂).publish.ack _
  | conflict => exact (h.hear r₁).publish.ack true
  | missing => exact h.giveUp nofun fun _ => hmissing rfl
  | broken | failed => exact h.giveUp nofun nofun

/-- A start agrees with itself unless its POST is answered with 404 while the flag is up. -/
theorem start {pre : Reply} {post : Posted}
    (hmissing : pre.report ≠ .recording → post = .missing → (d.view.hear pre).active = false)
    (r₁ r₂ : Reply) : (start pre post r₁ r₂ d).Agreed := by
  unfold LoggerModel.start
  dsimp only
  have hpre := (h.hear pre).publish
  split_ifs with hrecording
  · exact hpre.ack true
  · exact (hpre.setPhase (p := .starting) nofun nofun).publish.startPosted (hmissing hrecording) r₁ r₂

theorem stopPosted {post : Posted} (hmissing : post = .missing → d.view.active = false)
    (r₁ r₂ : Reply) : (stopPosted post r₁ r₂ d).Agreed := by
  cases post with
  | accepted =>
    unfold LoggerModel.stopPosted
    dsimp only
    split_ifs
    · exact ((h.hear r₁).hear r₂).clearName.publish.ack true
    · exact ((h.hear r₁).hear r₂).publish.ack false
  | conflict | broken =>
    unfold LoggerModel.stopPosted
    dsimp only
    split_ifs with hidle
    · exact (h.hear r₁).publish.alreadyStopped (View.hear_idle _ hidle)
    · exact (h.hear r₁).publish.giveUp nofun nofun
  | missing => exact h.giveUp nofun fun _ => hmissing rfl
  | failed => exact h.giveUp nofun nofun

theorem stop {pre : Reply} {post : Posted}
    (hmissing : pre.report ≠ .idle → post = .missing → (d.view.hear pre).active = false)
    (r₁ r₂ : Reply) : (stop pre post r₁ r₂ d).Agreed := by
  unfold LoggerModel.stop
  dsimp only
  have hpre := (h.hear pre).publish
  split_ifs with hidle
  · exact hpre.alreadyStopped (View.hear_idle _ hidle)
  · exact (hpre.setPhase (p := .stopping) nofun nofun).publish.stopPosted (hmissing hidle) r₁ r₂

end Desk.Agreed

/-- Whenever the POST of a command is answered with 404, the flag is down by then. -/
def Command.Truthful (c : Command) (access : Access) (v : View) (pre : Reply) (post : Posted) :
    Prop :=
  match c with
  | .start =>
    access = .granted → pre.report ≠ .recording → post = .missing → (v.hear pre).active = false
  | .stop => access = .granted → pre.report ≠ .idle → post = .missing → (v.hear pre).active = false
  | _ => True

theorem Access.yields_agreed (access : Access) {d conducted : Desk} (h : d.Agreed)
    (hconducted : access = .granted → conducted.Agreed) : (access.yields d conducted).Agreed := by
  cases access with
  | offline => exact h.ack false
  | unconfigured => exact h.publish.ack false
  | granted => exact hconducted rfl

theorem Desk.Agreed.conduct {d : Desk} (h : d.Agreed) {c : Command} {access : Access} {pre : Reply}
    {post : Posted} (htruthful : c.Truthful access d.view pre post) (r₁ r₂ : Reply) :
    (c.conduct access pre post r₁ r₂ d).Agreed := by
  cases c with
  | refused => exact h.ack false
  | ping => exact h.ack true
  | start => exact access.yields_agreed h fun hgranted => h.start (htruthful hgranted) r₁ r₂
  | stop => exact access.yields_agreed h fun hgranted => h.stop (htruthful hgranted) r₁ r₂
  | status => exact access.yields_agreed h fun _ => (h.hear pre).publish.ack _

def lastPublished : List Talk → Option View
  | [] => none
  | .published v :: _ => some v
  | _ :: older => lastPublished older

/-- Each positive ack since `before` follows a view that satisfies `P`. -/
def AcksAgree (P : View → Prop) (before after : List Talk) : Prop :=
  ∀ newer older, after = newer ++ .acked true :: older → before <:+ older →
    ∃ v, lastPublished older = some v ∧ P v

theorem AcksAgree.of_suffix {P : View → Prop} {before after after' : List Talk}
    (h : AcksAgree P before after) (hs : after' <:+ after) : AcksAgree P before after' := by
  rintro newer older rfl hbefore
  obtain ⟨last, rfl⟩ := hs
  exact h (last ++ newer) older (List.append_assoc ..).symm hbefore

theorem acksAgree_cons_iff {P : View → Prop} {before after : List Talk} {ok : Bool}
    (h : AcksAgree P before after) (hbefore : before <:+ after) :
    AcksAgree P before (.acked ok :: after) ↔
      (ok = true → ∃ v, lastPublished after = some v ∧ P v) := by
  constructor
  · rintro hagree rfl
    exact hagree [] _ rfl hbefore
  · rintro hok newer older hsplit holder
    cases newer with
    | nil =>
      obtain ⟨hhead, rfl⟩ := List.cons.inj hsplit
      cases hhead
      exact hok rfl
    | cons _ newer => exact h newer older (List.cons.inj hsplit).2 holder

theorem Unacked.acksAgree {P : View → Prop} {before after : List Talk} (h : Unacked before after) :
    AcksAgree P before after := by
  obtain ⟨views, rfl⟩ := h
  rintro newer _ hsplit ⟨between, rfl⟩
  have hviews : views.map Talk.published = newer ++ .acked true :: between :=
    List.append_cancel_right (hsplit.trans (by simp))
  have hmem : Talk.acked true ∈ views.map Talk.published := by
    rw [hviews]
    simp
  simp at hmem

section Ending

variable {before after : List Talk} {ok : Bool} {v : View}

theorem Ends.acksAgree_iff {P : View → Prop} (h : Ends before ok v after) :
    AcksAgree P before after ↔ (ok = true → P v) := by
  have hunacked := h.unacked
  obtain ⟨views, rfl⟩ := h
  refine (acksAgree_cons_iff hunacked.acksAgree ?_).trans (by simp [lastPublished])
  exact (List.suffix_append _ _).trans (List.suffix_cons _ _)

end Ending

section Acks

variable (pre : Reply) (post : Posted) (r₁ r₂ : Reply) (d : Desk)

/-- The replies that make a positive ack of a start agree with the view published before it. -/
def StartHonest (v : View) (pre : Reply) (post : Posted) (r₁ r₂ : Reply) : Prop :=
  pre.report = .recording ∨ match post with
    | .accepted => ¬(r₁.report = .recording ∧ r₂.denies)
    | .conflict => r₁.report = .recording ∨ v.active = true ∧ ¬pre.denies ∧ ¬r₁.denies
    | _ => True

def StopHonest (pre : Reply) (post : Posted) (r₁ r₂ : Reply) : Prop :=
  pre.report = .idle ∨ (post = .accepted → ¬(r₁.report = .idle ∧ r₂.report = .recording))

theorem startPosted_honest_iff :
    (startPostedOk post r₁ r₂ = true → (startPosted post r₁ r₂ d).view.active = true) ↔
      match post with
      | .accepted => ¬(r₁.report = .recording ∧ r₂.denies)
      | .conflict => r₁.report = .recording ∨ d.view.active = true ∧ ¬r₁.denies
      | _ => True := by
  cases post with
  | accepted =>
    change (decide (_ ∨ _) = true → ((d.view.hear r₁).hear r₂).active = true) ↔ _
    rw [View.hear_active, View.hear_active, decide_eq_true_eq]
    constructor
    · rintro h ⟨hrecording, hdenies⟩
      rcases h (.inl hrecording) with hlast | ⟨-, hlast⟩
      · unfold Reply.denies at hdenies
        simp [hlast] at hdenies
      · exact hlast hdenies
    · rintro h (hfirst | hsecond)
      · exact .inr ⟨.inl hfirst, fun hdenies => h ⟨hfirst, hdenies⟩⟩
      · exact .inl hsecond
  | conflict =>
    change (true = true → (d.view.hear r₁).active = true) ↔ _
    rw [View.hear_active]
    exact ⟨fun h => h rfl, fun h _ => h⟩
  | missing | broken | failed => exact ⟨fun _ => trivial, fun _ => nofun⟩

/-- A positive ack of a start follows a view that shows a recording exactly for these replies. -/
theorem start_honest_iff :
    AcksAgree (fun v => v.active = true) d.talk (start pre post r₁ r₂ d).talk ↔
      StartHonest d.view pre post r₁ r₂ := by
  unfold start StartHonest
  dsimp only
  split_ifs with hpre
  · have hends : Ends d.talk true (d.view.hear pre) ((d.hear pre).publish.ack true).talk :=
      publish_ack_ends (d.hear pre) true
    rw [hends.acksAgree_iff]
    exact iff_of_true (fun _ => View.hear_recording _ hpre) (.inl hpre)
  · have hends := (startPosted_ends post r₁ r₂
      ((d.hear pre).publish.setPhase .starting).publish).published.published
    rw [Desk.hear_talk] at hends
    rw [or_iff_right hpre, hends.acksAgree_iff, startPosted_honest_iff]
    cases post with
    | conflict =>
      change _ ∨ (d.view.hear pre).active = true ∧ _ ↔ _
      rw [View.hear_active, or_iff_right hpre, and_assoc]
    | accepted | missing | broken | failed => exact Iff.rfl

/-- Nothing is shown as being recorded. -/
def View.Cleared (v : View) : Prop := v.active = false ∧ v.named = false

theorem alreadyStopped_cleared (h : d.view.active = false) : (alreadyStopped d).view.Cleared :=
  ⟨h, rfl⟩

theorem stopPosted_honest_iff :
    (stopPostedOk post r₁ r₂ = true → (stopPosted post r₁ r₂ d).view.Cleared) ↔
      (post = .accepted → ¬(r₁.report = .idle ∧ r₂.report = .recording)) := by
  cases post with
  | accepted =>
    simp only [stopPostedOk, stopPosted, decide_eq_true_eq, forall_const]
    constructor
    · rintro h ⟨hidle, hrecording⟩
      have hactive := (h (.inl hidle)).1
      rw [if_pos (.inl hidle)] at hactive
      exact Bool.false_ne_true (hactive.symm.trans (View.hear_recording _ hrecording))
    · intro h hok
      rw [if_pos hok]
      refine ⟨eq_false_of_ne_true fun hactive => ?_, rfl⟩
      rcases (View.hear_active _ _).mp hactive with hrecording | ⟨hactive, hdenies⟩
      · have hfirst : r₁.report = .idle := hok.resolve_right fun hidle =>
          Report.noConfusion (hidle.symm.trans hrecording)
        exact h ⟨hfirst, hrecording⟩
      · have hfirst : r₁.report = .idle := hok.resolve_right fun hidle => hdenies (.inl hidle)
        exact Bool.false_ne_true ((View.hear_idle _ hfirst).symm.trans hactive)
  | conflict | broken =>
    refine iff_of_true (fun hok => ?_) nofun
    have hidle : r₁.report = .idle := of_decide_eq_true hok
    simp only [stopPosted, if_pos hidle]
    exact alreadyStopped_cleared _ (View.hear_idle _ hidle)
  | missing | failed => exact iff_of_true nofun nofun

/-- A positive ack of a stop follows a view without a recording exactly for these replies. -/
theorem stop_honest_iff :
    AcksAgree View.Cleared d.talk (stop pre post r₁ r₂ d).talk ↔ StopHonest pre post r₁ r₂ := by
  unfold stop StopHonest
  dsimp only
  split_ifs with hpre
  · have hends : Ends d.talk true (alreadyStopped (d.hear pre).publish).view
        (alreadyStopped (d.hear pre).publish).talk := ⟨[d.view.hear pre], rfl⟩
    rw [hends.acksAgree_iff]
    exact iff_of_true (fun _ => alreadyStopped_cleared _ (View.hear_idle _ hpre)) (.inl hpre)
  · have hends := (stopPosted_ends post r₁ r₂
      ((d.hear pre).publish.setPhase .stopping).publish).published.published
    rw [Desk.hear_talk] at hends
    rw [or_iff_right hpre, hends.acksAgree_iff, stopPosted_honest_iff]

theorem Access.yields_acksAgree_iff (access : Access) {P : View → Prop} {conducted : Desk}
    {honest : Prop} (h : AcksAgree P d.talk conducted.talk ↔ honest) :
    AcksAgree P d.talk (access.yields d conducted).talk ↔ (access = .granted → honest) := by
  cases access with
  | offline =>
    have hunacked : Unacked d.talk d.talk := ⟨[], rfl⟩
    exact iff_of_true ((acksAgree_cons_iff hunacked.acksAgree List.suffix_rfl).mpr nofun) nofun
  | unconfigured => exact iff_of_true ((publish_ack_ends d false).acksAgree_iff.mpr nofun) nofun
  | granted => exact h.trans ⟨fun hs _ => hs, fun hs => hs rfl⟩

end Acks

def Talk.acked? : Talk → Option Bool
  | .acked ok => some ok
  | .published _ => none

/-- The acks among the talk. -/
abbrev acksOf (talk : List Talk) : List Bool := talk.filterMap Talk.acked?

theorem Unacked.acksOf_eq {before after : List Talk} (h : Unacked before after) :
    acksOf after = acksOf before := by
  obtain ⟨views, rfl⟩ := h
  induction views with
  | nil => rfl
  | cons v views ih => exact ih

/-- Since `before`, views have been published and then one ack sent. -/
def Concludes (before : List Talk) (ok : Bool) (after : List Talk) : Prop :=
  ∃ older, after = .acked ok :: older ∧ Unacked before older

theorem Concludes.acksOf_eq {before after : List Talk} {ok : Bool} (h : Concludes before ok after) :
    acksOf after = ok :: acksOf before := by
  obtain ⟨older, rfl, hunacked⟩ := h
  exact congrArg (ok :: ·) hunacked.acksOf_eq

theorem Ends.concludes {before after : List Talk} {ok : Bool} {v : View}
    (h : Ends before ok v after) : Concludes before ok after := by
  obtain ⟨views, rfl⟩ := h
  exact ⟨_, rfl, v :: views, rfl⟩

def startOk (pre : Reply) (post : Posted) (r₁ r₂ : Reply) : Bool :=
  pre.report = .recording ∨ startPostedOk post r₁ r₂

def stopOk (pre : Reply) (post : Posted) (r₁ r₂ : Reply) : Bool :=
  pre.report = .idle ∨ stopPostedOk post r₁ r₂

def inquireOk (r : Reply) : Bool := r.report ≠ .missing ∧ r.report ≠ .failed

/-- Whether a command is acked as having succeeded. -/
def Command.verdict (c : Command) (access : Access) (pre : Reply) (post : Posted) (r₁ r₂ : Reply) :
    Bool :=
  match c with
  | .refused => false
  | .ping => true
  | .start => access = .granted ∧ startOk pre post r₁ r₂
  | .stop => access = .granted ∧ stopOk pre post r₁ r₂
  | .status => access = .granted ∧ inquireOk pre

section Verdict

variable (pre : Reply) (post : Posted) (r₁ r₂ : Reply) (d : Desk)

theorem start_concludes :
    Concludes d.talk (startOk pre post r₁ r₂) (start pre post r₁ r₂ d).talk := by
  unfold startOk
  by_cases h : pre.report = .recording
  · rw [start_of_recording d h, decide_eq_true (.inl h)]
    exact ⟨_, rfl, [d.view.hear pre], rfl⟩
  · have hok : decide (pre.report = .recording ∨ startPostedOk post r₁ r₂ = true) =
        startPostedOk post r₁ r₂ := by simp [h]
    rw [start_of_not_recording d h, hok]
    exact (startPosted_ends post r₁ r₂ _).published.published.concludes

theorem stop_concludes : Concludes d.talk (stopOk pre post r₁ r₂) (stop pre post r₁ r₂ d).talk := by
  unfold stopOk
  by_cases h : pre.report = .idle
  · rw [stop_of_idle d h, decide_eq_true (.inl h)]
    exact ⟨_, rfl, [((d.hear pre).clearName.setPhase .idle).view, d.view.hear pre], rfl⟩
  · have hok : decide (pre.report = .idle ∨ stopPostedOk post r₁ r₂ = true) =
        stopPostedOk post r₁ r₂ := by simp [h]
    rw [stop_of_not_idle d h, hok]
    exact (stopPosted_ends post r₁ r₂ _).published.published.concludes

theorem Access.yields_concludes (access : Access) {conducted : Desk} {ok : Bool}
    (h : Concludes d.talk ok conducted.talk) :
    Concludes d.talk (access = .granted ∧ ok) (access.yields d conducted).talk := by
  cases access with
  | offline => exact ⟨_, rfl, [], rfl⟩
  | unconfigured => exact ⟨_, rfl, [d.view], rfl⟩
  | granted =>
    have hok : decide (Access.granted = .granted ∧ ok = true) = ok := by simp
    rw [hok]
    exact h

/-- Every command ends with one ack, which tells the verdict. -/
theorem Command.conduct_concludes (c : Command) (access : Access) :
    Concludes d.talk (c.verdict access pre post r₁ r₂) (c.conduct access pre post r₁ r₂ d).talk := by
  cases c with
  | refused | ping => exact ⟨_, rfl, [], rfl⟩
  | start => exact access.yields_concludes d (start_concludes pre post r₁ r₂ d)
  | stop => exact access.yields_concludes d (stop_concludes pre post r₁ r₂ d)
  | status =>
    exact access.yields_concludes d ((publish_ack_ends (d.hear pre) (inquireOk pre)).concludes)

end Verdict

end Ironsoft.LoggerModel
