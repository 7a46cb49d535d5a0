import Ironsoft.EkinoxDialogue

/-!
# Positive acks

A positive ack of a recording command against the status that was published last before
it. The ack is decided by any of the replies, the status by the last one.
-/
namespace Ironsoft.Ekinox
open Effect LoggerModel

set_option synthInstance.maxSize 400000
set_option synthInstance.maxHeartbeats 200000

/-- The status that was published last; the events are newest first. -/
def lastStatus : List Event → Option StatusPayload
  | [] => none
  | .mqtt (.publish ⟨_, .status s, _, _⟩) false :: _ => some s
  | _ :: older => lastStatus older

/-- Before each positive ack between `w` and `w'`, the last published status satisfies `P`. -/
def PositiveAcksShow (P : StatusPayload → Prop) (w w' : World) : Prop :=
  ∀ newer ack older, w'.trace = newer ++ .publishAck ack :: older → w.trace <:+ older →
    ack.ok = true → ∃ s, lastStatus older = some s ∧ P s

def ShowsRecording (s : StatusPayload) : Prop := s.recordingActive = true

def ShowsNoRecording (s : StatusPayload) : Prop := s.recordingActive = false ∧ s.sessionName = []

def Grows (w w' : World) : Prop := w.trace <:+ w'.trace

section Frames

instance : IsPreorder World Grows where
  refl _ := List.suffix_rfl
  trans _ _ _ := List.IsSuffix.trans

instance (e : Event) : Emits Grows e := ⟨fun _ => List.suffix_cons _ _⟩
instance : IgnoresReadings Grows :=
  ⟨fun _ => List.suffix_rfl, fun _ => List.suffix_rfl, fun _ => List.suffix_rfl,
    fun _ => List.suffix_rfl, fun _ => List.suffix_rfl⟩
instance : IgnoresReplies Grows := ⟨fun _ => List.suffix_rfl⟩
instance : atLink.Ignored Grows := ⟨fun _ _ => List.suffix_rfl⟩
instance : atLogger.Ignored Grows := ⟨fun _ _ => List.suffix_rfl⟩
instance : atError.Ignored Grows := ⟨fun _ _ => List.suffix_rfl⟩
instance : atMarker.Ignored Grows := ⟨fun _ _ => List.suffix_rfl⟩
instance : atPresence.Ignored Grows := ⟨fun _ _ => List.suffix_rfl⟩
instance : atRest.Ignored Grows := ⟨fun _ _ => List.suffix_rfl⟩

end Frames

theorem lastPublished_talk (trace : List Event) :
    lastPublished (trace.filterMap Event.talk?) =
      (lastStatus trace).map fun s => s.toLoggerStatus.view := by
  fun_induction lastStatus trace with
  | case1 => rfl
  | case2 => rfl
  | case3 e older hstatus ih =>
    rw [List.filterMap_cons]
    unfold Event.talk?
    split
    · exact ih
    · next v hv =>
      split at hv
      · exact (hstatus _ _ _ _ rfl).elim
      · cases hv
        exact ih
      · cases hv

theorem Event.talk?_eq_acked {e : Event} (h : e.talk? = some (.acked true)) :
    ∃ ack, e = .publishAck ack ∧ ack.ok = true := by
  unfold Event.talk? at h
  split at h
  · cases h
  · next ack => exact ⟨ack, rfl, by simpa using h⟩
  · cases h

section Bridge

variable {P : StatusPayload → Prop} {V : View → Prop} {w w' : World}

theorem show_iff (hP : ∀ s : StatusPayload, P s ↔ V s.toLoggerStatus.view) (older : List Event) :
    (∃ s, lastStatus older = some s ∧ P s) ↔
      ∃ v, lastPublished (older.filterMap Event.talk?) = some v ∧ V v := by
  rw [lastPublished_talk]
  simp [hP]

theorem positiveAcksShow_iff (hgrows : w.trace <:+ w'.trace)
    (hP : ∀ s : StatusPayload, P s ↔ V s.toLoggerStatus.view) :
    PositiveAcksShow P w w' ↔ AcksAgree V w.talk w'.talk := by
  constructor
  · intro h newer older hsplit holder
    obtain ⟨_, _, htrace, -, hlast⟩ := List.filterMap_eq_append_iff.mp hsplit
    obtain ⟨skipped, e, older', rfl, -, he, rfl⟩ := List.filterMap_eq_cons_iff.mp hlast
    obtain ⟨ack, rfl, hok⟩ := Event.talk?_eq_acked he
    rw [← List.append_assoc] at htrace
    refine (show_iff hP older').mp (h _ ack older' htrace ?_ hok)
    -- the ack is not among the events before `w`
    have hnew : ¬.publishAck ack :: older' <:+ w.trace := fun hold => by
      have hlength := ((hold.filterMap Event.talk?).trans holder).length_le
      rw [List.filterMap_cons_some he] at hlength
      exact Nat.not_succ_le_self _ hlength
    have hsuffix : .publishAck ack :: older' <:+ w'.trace := ⟨_, htrace.symm⟩
    have hold := (List.suffix_or_suffix_of_suffix hgrows hsuffix).resolve_right hnew
    exact (List.suffix_cons_iff.mp hold).resolve_left fun heq => hnew (heq ▸ List.suffix_rfl)
  · intro h newer ack older hsplit holder hok
    refine (show_iff hP older).mpr (h (newer.filterMap Event.talk?) _ ?_ (holder.filterMap _))
    rw [World.talk, World.heard, hsplit, List.filterMap_append]
    simp [Event.talk?, hok]

end Bridge

/-- The handler comes to its end without an exception. -/
def Returns (env : Env) (x : M Unit) (w : World) : Prop := (exec x env w).1 = .ok ()

section Commands

variable (env : Env) (w : World) (id type : Bytes)

/-- The replies to a start, and the flag before it, that keep its ack honest. -/
def StartAcksHonest : Prop :=
  let n := w.taken.rest
  w.access env.config = .granted →
    StartHonest w.status.toLoggerStatus.view (env.result n).reply (env.result (n + 1)).posted
      (env.result (n + 2)).reply (env.result (n + 3)).reply

def StopAcksHonest : Prop :=
  let n := w.taken.rest
  w.access env.config = .granted →
    StopHonest (env.result n).reply (env.result (n + 1)).posted (env.result (n + 2)).reply
      (env.result (n + 3)).reply

variable {env w}

theorem conducted_acks_iff {x : M Unit} {d : Desk} {P : StatusPayload → Prop} {V : View → Prop}
    {honest : Prop} (hx : Conducted env x d w) (hgrows : Respects env Grows x)
    (hP : ∀ s : StatusPayload, P s ↔ V s.toLoggerStatus.view)
    (hunacked : Unacked w.desk.talk d.talk.tail)
    (hhonest : AcksAgree V w.desk.talk d.talk ↔ honest) :
    PositiveAcksShow P w (exec x env w).2 ↔ (Returns env x w → honest) := by
  rw [positiveAcksShow_iff (hgrows.relates w) hP]
  unfold Conducted wp at hx
  unfold Returns
  rcases hexec : exec x env w with ⟨e | ⟨⟩, w'⟩
  · rw [hexec] at hx
    exact iff_of_true (hunacked.acksAgree.of_suffix hx) nofun
  · rw [hexec] at hx
    change w'.desk = d at hx
    rw [← hx] at hhonest
    exact hhonest.trans ⟨fun h _ => h, fun h => h rfl⟩

theorem dispatch_returns (hquiet : env.QuietPublishes) (hreturn : env.RepliesReturn)
    (admission : Admission) (w : World) : Returns env (dispatch admission) w := by
  have hthrows : Throws env (fun _ => False) (dispatch admission) :=
    dispatch_throws (.inr hquiet) (.inl hreturn) admission
  obtain ⟨_, w', hw⟩ := hthrows.returns _ w
  exact congrArg Prod.fst hw

/-- A positive ack of a start shows a recording, and one of a stop none, exactly for honest
replies; an exception comes before the ack. -/
theorem positive_acks_show (env : Env) (w : World) (id type : Bytes) (cmd : Json) :
    (PositiveAcksShow ShowsRecording w (exec (handleLoggerStart id type cmd) env w).2 ↔
      (Returns env (handleLoggerStart id type cmd) w → StartAcksHonest env w)) ∧
    (PositiveAcksShow ShowsNoRecording w (exec (handleLoggerStop id type) env w).2 ↔
      (Returns env (handleLoggerStop id type) w → StopAcksHonest env w)) ∧
    (env.QuietPublishes → env.RepliesReturn →
      Returns env (handleLoggerStart id type cmd) w ∧ Returns env (handleLoggerStop id type) w) := by
  refine ⟨?_, ?_, fun hquiet hreturn =>
    ⟨dispatch_returns hquiet hreturn (.accepted .loggerStart id type cmd) w,
      dispatch_returns hquiet hreturn (.accepted .loggerStop id type cmd) w⟩⟩
  · refine conducted_acks_iff (V := fun v => v.active = true)
      (handleLoggerStart_refines env w id type cmd) inferInstance (fun _ => Iff.rfl)
      (Access.yields_unacked _ _ (start_unacked _ _ _ _ _)) ?_
    exact Access.yields_acksAgree_iff _ _ (start_honest_iff _ _ _ _ _)
  · refine conducted_acks_iff (V := View.Cleared) (handleLoggerStop_refines env w id type)
      inferInstance (fun s => ?_) (Access.yields_unacked _ _ (stop_unacked _ _ _ _ _)) ?_
    · simp [ShowsNoRecording, View.Cleared, LoggerStatus.view]
    · exact Access.yields_acksAgree_iff _ _ (stop_honest_iff _ _ _ _ _)

end Commands

/-- The POST is answered with 409, and then there is no logger. -/
def benchConflict : Inputs := benchInputs fun k =>
  match k with
  | 0 | 1 => benchResponse 200
  | 2 => benchResponse 409
  | _ => benchResponse 404

/-- The logger stops and starts again. -/
def benchRestarted : Inputs := benchInputs fun k => benchFlag (k ≠ 3)

/-- A start is acked over a status without a recording, a stop over one with a recording. -/
theorem positive_acks_contradicted :
    ¬PositiveAcksShow ShowsRecording (benchConnected benchConflict)
      (exec (handleLoggerStart (bytes "1") (bytes "logger.start") (benchCommand (bytes "logger.start")))
        ⟨benchPlatform, benchConflict⟩ (benchConnected benchConflict)).2 ∧
    ¬PositiveAcksShow ShowsNoRecording (benchConnected benchRestarted)
      (exec (handleLoggerStop (bytes "1") (bytes "logger.stop"))
        ⟨benchPlatform, benchRestarted⟩ (benchConnected benchRestarted)).2 := by
  constructor
  · let w' := (exec (handleLoggerStart (bytes "1") (bytes "logger.start")
      (benchCommand (bytes "logger.start"))) ⟨benchPlatform, benchConflict⟩
      (benchConnected benchConflict)).2
    intro h
    -- two publishes of the ack stand before it
    obtain ⟨s, hs, hshows⟩ := h (w'.trace.take 2)
      ⟨bytes "logger.start", bytes "1", true, 409, bytes "already recording", []⟩ (w'.trace.drop 3)
      (by decide +kernel) (by decide +kernel) rfl
    have hlast : (lastStatus (w'.trace.drop 3)).map (·.recordingActive) = some false := by
      decide +kernel
    rw [hs] at hlast
    exact Bool.false_ne_true ((Option.some.inj hlast).symm.trans hshows)
  · let w' := (exec (handleLoggerStop (bytes "1") (bytes "logger.stop"))
      ⟨benchPlatform, benchRestarted⟩ (benchConnected benchRestarted)).2
    intro h
    obtain ⟨s, hs, hshows, -⟩ := h (w'.trace.take 2)
      ⟨bytes "logger.stop", bytes "1", true, 200, bytes "recording stopped", []⟩ (w'.trace.drop 3)
      (by decide +kernel) (by decide +kernel) rfl
    have hlast : (lastStatus (w'.trace.drop 3)).map (·.recordingActive) = some true := by
      decide +kernel
    rw [hs] at hlast
    exact Bool.false_ne_true (hshows.symm.trans (Option.some.inj hlast))

end Ironsoft.Ekinox
