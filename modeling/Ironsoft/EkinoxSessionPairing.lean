import Ironsoft.EkinoxFrames
import Ironsoft.HoldingModel

/-!
# Pairing of session resources

`EkinoxUdpSession` holds an interface and a handle that is initialised on it. Whatever is called and
whatever fails, every interface that was created is destroyed once and every handle that was
initialised is closed once before that.
-/
namespace Ironsoft.Ekinox
open Effect HoldingModel

inductive Resource
  | interface
  | handle
  deriving DecidableEq

/-- The handle reads from the interface. -/
def Resource.Needs (r r' : Resource) : Prop := r = handle ∧ r' = interface

/-- A call that fails gets nothing. -/
def SbgEvent.move? : SbgEvent → Option (Move Resource)
  | interfaceCreate status => some (.acquire .interface (status = .noError))
  | interfaceDestroy => some (.release .interface)
  | ecomInit status => some (.acquire .handle (status = .noError))
  | ecomClose => some (.release .handle)
  | handleOneLog => some (.use .handle)
  | frame _ => none

def Event.move? : Event → Option (Move Resource)
  | .sbg e => e.move?
  | _ => none

/-- The calls on the resources, newest first. -/
abbrev World.moves : World → List (Move Resource) := heard Event.move?

def World.live (r : Resource) (w : World) : Prop := held r w.moves = true

/-- The calls so far are disciplined, and `connected_` tells what they have left. -/
structure SessionPaired (w : World) : Prop where
  disciplined : Disciplined Resource.Needs w.moves
  held : ∀ r, held r w.moves = w.sensor.session.connected

theorem moves_said {w : World} {e : SbgEvent} {move : Move Resource} (h : e.move? = some move) :
    (w.said (.sbg e)).moves = move :: w.moves := by
  unfold World.moves
  rw [World.heard_said]
  exact congrArg (fun o => o.toList ++ w.moves) h

section Sequences

variable {moves : List (Move Resource)} (h : Disciplined Resource.Needs moves)
include h

/-- The handle is closed first. -/
theorem closed_disciplined (hlive : ∀ r, held r moves = true) :
    Disciplined Resource.Needs (.release .interface :: .release .handle :: moves) := by
  refine ⟨⟨hlive .interface, ?_⟩, ⟨hlive .handle, ?_⟩, h⟩
  · rintro _ ⟨rfl, -⟩
    rfl
  · rintro _ ⟨-, hneeded⟩
    cases hneeded

variable (hfree : ∀ r, held r moves = false)
include hfree

theorem created_disciplined (got : Bool) :
    Disciplined Resource.Needs (.acquire .interface got :: moves) := by
  refine ⟨⟨hfree .interface, ?_⟩, h⟩
  rintro _ ⟨hneeds, -⟩
  cases hneeds

theorem initialised_disciplined (got : Bool) :
    Disciplined Resource.Needs (.acquire .handle got :: .acquire .interface true :: moves) := by
  refine ⟨⟨hfree .handle, ?_⟩, created_disciplined h hfree true⟩
  rintro _ ⟨-, rfl⟩
  rfl

/-- An interface on which no handle could be initialised is destroyed at once. -/
theorem undone_disciplined :
    Disciplined Resource.Needs
      (.release .interface :: .acquire .handle false :: .acquire .interface true :: moves) := by
  refine ⟨⟨rfl, ?_⟩, initialised_disciplined h hfree false⟩
  rintro _ ⟨rfl, -⟩
  rfl

end Sequences

section Calls

variable {env : Env} {w : World}

theorem SessionPaired.of_moves {moves : List (Move Resource)} (h : Disciplined Resource.Needs moves)
    (hmoves : w.moves = moves)
    (hheld : ∀ r, HoldingModel.held r moves = w.sensor.session.connected) : SessionPaired w := by
  subst hmoves
  exact ⟨h, hheld⟩

theorem sessionClose_paired (hw : SessionPaired w) :
    wp sessionClose env (fun _ w' => SessionPaired w' ∧ w'.sensor.session.connected = false)
      (fun _ _ => False) w := by
  simp only [sessionClose, modifySession, wp_bind, wp_get, wp_ite, wp_pure, wp_emit, Part.wp_update]
  split_ifs with hup
  · have hlive (r : Resource) : held r w.moves = true := (hw.held r).trans hup
    refine ⟨.of_moves (closed_disciplined hw.disciplined hlive) ?_ ?_, rfl⟩
    · exact (moves_said rfl).trans (congrArg _ (moves_said rfl))
    · rintro (_ | _) <;> rfl
  · exact ⟨hw, eq_false_of_ne_true hup⟩

theorem sessionOpen_paired (hw : SessionPaired w) :
    wp sessionOpen env (fun _ w' => SessionPaired w') (fun _ _ => False) w := by
  unfold sessionOpen
  rw [wp_bind]
  refine wp_mono (sessionClose_paired hw) (fun _ w₁ h => ?_) fun _ _ => id
  obtain ⟨hw₁, hdown⟩ := h
  have hfree (r : Resource) : held r w₁.moves = false := (hw₁.held r).trans hdown
  rw [modifySession, wp_bind, Part.wp_update, wp_bind, wp_get, wp_bind, wp_modify, wp_bind, wp_read]
  generalize hw₂ : World.tookUdpOpen _ = w₂
  have hmoves : w₂.moves = w₁.moves := by
    rw [← hw₂]
    rfl
  have hdown₂ : w₂.sensor.session.connected = false := by
    rw [← hw₂]
    exact hdown
  generalize env.udpOpen _ = outcome
  have hcreates {got : Bool} (hgot : decide (outcome.create = .noError) = got) :
      (w₂.said (.sbg (.interfaceCreate outcome.create))).moves = .acquire .interface got :: w₁.moves := by
    rw [← hgot, ← hmoves]
    exact moves_said rfl
  have hinits {got : Bool} (hcreate : outcome.create = .noError)
      (hgot : decide (outcome.init = .noError) = got) :
      ((w₂.said (.sbg (.interfaceCreate outcome.create))).said (.sbg (.ecomInit outcome.init))).moves =
        .acquire .handle got :: .acquire .interface true :: w₁.moves := by
    rw [← hgot, ← hcreates (decide_eq_true hcreate)]
    exact moves_said rfl
  simp only [resetLastRx, modifySession, wp_bind, wp_ite, wp_pure, wp_emit, Part.wp_update, wp_monoNow]
  split_ifs with hip hcreate hinit
  · exact .of_moves hw₁.disciplined hmoves fun r => (hfree r).trans hdown₂.symm
  · refine .of_moves (created_disciplined hw₁.disciplined hfree false)
      (hcreates (decide_eq_false hcreate)) ?_
    rintro (_ | _)
    · exact hdown₂.symm
    · exact (hfree .handle).trans hdown₂.symm
  · refine .of_moves (undone_disciplined hw₁.disciplined hfree) ?_ ?_
    · refine (moves_said rfl).trans (congrArg _ ?_)
      exact hinits (not_not.mp hcreate) (decide_eq_false hinit)
    · rintro (_ | _) <;> exact hdown₂.symm
  · refine .of_moves (initialised_disciplined hw₁.disciplined hfree true) ?_ ?_
    · have hopen := hinits (not_not.mp hcreate) (decide_eq_true (not_not.mp hinit))
      refine (World.heard_cons (e := .sessionOpened) ?_).trans ((List.nil_append _).trans hopen)
      rfl
    · rintro (_ | _) <;> rfl

/-- The frames a call hands over move nothing. -/
theorem receiveLogs_paired (n : ℕ) (hw : SessionPaired w) :
    wp (receiveLogs n) env (fun _ w' => SessionPaired w') (fun _ _ => False) w := by
  induction n generalizing w with
  | zero => exact hw
  | succ n ih =>
    simp only [receiveLogs, onReceiveLog, resetLastRx, modifySession, wp_bind, wp_monoNow, wp_pure,
      Part.wp_update, wp_emit]
    exact ih ⟨hw.disciplined, hw.held⟩

theorem sessionPoll_paired (hw : SessionPaired w) :
    wp sessionPoll env (fun _ w' => SessionPaired w') (fun _ _ => False) w := by
  unfold sessionPoll
  rw [wp_bind, wp_get, wp_ite]
  split_ifs with hdown
  · exact hw
  have hlive : held .handle w.moves = true := (hw.held .handle).trans (eq_true_of_ne_false hdown)
  have hused : Disciplined Resource.Needs (.use .handle :: w.moves) := ⟨hlive, hw.disciplined⟩
  simp only [wp_bind, wp_get, wp_modify, wp_read, wp_emit]
  refine wp_mono (receiveLogs_paired _ (.of_moves hused (moves_said rfl) hw.held))
    (fun _ w₁ h₁ => ?_) fun _ _ => id
  rw [wp_ite]
  split_ifs <;> exact h₁

end Calls

inductive SessionOp
  | open
  | poll
  | close

def SessionOp.run : SessionOp → M Unit
  | .open => do
    let _ ← sessionOpen
  | .poll => do
    let _ ← sessionPoll
  | .close => sessionClose

/-- `~EkinoxUdpSession` -/
def sessionDestructor : M Unit := sessionClose

/-- A session that has just been constructed. -/
def World.newSession (w : World) : World := { w with sensor.session := {}, trace := [] }

theorem newSession_paired (w : World) : SessionPaired w.newSession := ⟨trivial, fun _ => rfl⟩

theorem SessionOp.run_paired {env : Env} (op : SessionOp) {w : World} (hw : SessionPaired w) :
    wp op.run env (fun _ w' => SessionPaired w') (fun _ _ => False) w := by
  unfold SessionOp.run
  cases op
  case «open» =>
    rw [wp_bind]
    exact sessionOpen_paired hw
  case poll =>
    rw [wp_bind]
    exact sessionPoll_paired hw
  case close => exact wp_mono (sessionClose_paired hw) (fun _ _ h => h.1) fun _ _ => id

theorem SessionPaired.connected_iff {w : World} (hw : SessionPaired w) :
    w.sensor.session.connected = true ↔ w.live .interface ∧ w.live .handle := by
  unfold World.live
  rw [hw.held, hw.held, and_self]

/-- Whatever is called on a session and whatever the sbg functions return, `connected_` is true exactly
while both resources are live, and with the destructor every call is paired. -/
theorem session_resources_paired (env : Env) (w : World) (ops : List SessionOp) :
    ∃ v, execAll (fun op => exec (SessionOp.run op) env) ops w.newSession = (.ok (), v) ∧
      (v.sensor.session.connected = true ↔ v.live .interface ∧ v.live .handle) ∧
      ∃ last, exec sessionDestructor env v = (.ok (), last) ∧ Paired Resource.Needs last.moves := by
  have hany : AllSteps (fun op => exec (SessionOp.run op) env) (fun _ _ => True) ops w.newSession :=
    allSteps_of_forall _ fun _ _ _ => trivial
  have hrun := execAll_leaves _ (fun op _ _ hw => leaves_exec_iff.mpr (SessionOp.run_paired op hw)) hany
    (newSession_paired w)
  obtain ⟨v, hops, hv⟩ := hrun.returns
  have hclose : Leaves (fun w' => SessionPaired w' ∧ w'.sensor.session.connected = false)
      (fun _ => False) (exec sessionDestructor env v) := leaves_exec_iff.mpr (sessionClose_paired hv)
  obtain ⟨last, hlast, hpaired, hdown⟩ := hclose.returns
  refine ⟨v, hops, hv.connected_iff, last, hlast, ?_⟩
  exact hpaired.disciplined.paired fun r => (hpaired.held r).trans hdown

end Ironsoft.Ekinox
