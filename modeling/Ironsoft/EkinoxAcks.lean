import Ironsoft.EkinoxThrows

/-!
# Acks

Every command that is handled is answered by exactly one ack, which carries the id and the
type of its payload. Between the arrival of a command and its ack it waits in one of two
queues, and no order changes on the way.
-/
namespace Ironsoft.Ekinox
open Effect

set_option synthInstance.maxSize 400000
set_option synthInstance.maxHeartbeats 200000

def Event.ack? : Event → Option Ack
  | .publishAck ack => some ack
  | _ => none

def Event.arrived? : Event → Option CommandMessage
  | .commandArrived command => some command
  | _ => none

def Event.handled? : Event → Option CommandMessage
  | .commandHandled command => some command
  | _ => none

namespace World

/-- The `publish_ack` calls so far, newest first. -/
abbrev acks : World → List Ack := heard Event.ack?

abbrev arrived : World → List CommandMessage := heard Event.arrived?

abbrev handled : World → List CommandMessage := heard Event.handled?

/-- Where commands are. -/
def queues (w : World) :
    List CommandMessage × List CommandMessage × List CommandMessage × List CommandMessage :=
  (w.arrived, w.handled, w.batch, w.pending)

end World

section Frames

instance (c : MqttCall) (b : Bool) : Unheard Event.ack? (.mqtt c b) := ⟨rfl⟩
instance (r : RestRequest) : Unheard Event.ack? (.restRequest r) := ⟨rfl⟩
instance (r : LoggerResult) (t : ℤ) : Unheard Event.ack? (.restResult r t) := ⟨rfl⟩
instance (m : Bytes) : Unheard Event.ack? (.errorSet m) := ⟨rfl⟩
instance (e : SbgEvent) : Unheard Event.ack? (.sbg e) := ⟨rfl⟩
instance : Unheard Event.ack? .sessionOpened := ⟨rfl⟩
instance (t : ℤ) : Unheard Event.ack? (.linkAlive t) := ⟨rfl⟩

instance : IgnoresReadings (Keeping World.queues) :=
  ⟨fun _ => rfl, fun _ => rfl, fun _ => rfl, fun _ => rfl, fun _ => rfl⟩
instance : IgnoresReplies (Keeping World.queues) := ⟨fun _ => rfl⟩
instance (c : MqttCall) (b : Bool) : Emits (Keeping World.queues) (.mqtt c b) := ⟨fun _ => rfl⟩
instance (a : Ack) : Emits (Keeping World.queues) (.publishAck a) := ⟨fun _ => rfl⟩
instance (r : RestRequest) : Emits (Keeping World.queues) (.restRequest r) := ⟨fun _ => rfl⟩
instance (r : LoggerResult) (t : ℤ) : Emits (Keeping World.queues) (.restResult r t) :=
  ⟨fun _ => rfl⟩
instance (m : Bytes) : Emits (Keeping World.queues) (.errorSet m) := ⟨fun _ => rfl⟩
instance (e : SbgEvent) : Emits (Keeping World.queues) (.sbg e) := ⟨fun _ => rfl⟩
instance : Emits (Keeping World.queues) .sessionOpened := ⟨fun _ => rfl⟩
instance (t : ℤ) : Emits (Keeping World.queues) (.linkAlive t) := ⟨fun _ => rfl⟩
instance : atLink.Ignored (Keeping World.queues) := ⟨fun _ _ => rfl⟩
instance : atLogger.Ignored (Keeping World.queues) := ⟨fun _ _ => rfl⟩
instance : atError.Ignored (Keeping World.queues) := ⟨fun _ _ => rfl⟩
instance : atMarker.Ignored (Keeping World.queues) := ⟨fun _ _ => rfl⟩
instance : atConn.Ignored (Keeping World.queues) := ⟨fun _ _ => rfl⟩
instance : atRetry.Ignored (Keeping World.queues) := ⟨fun _ _ => rfl⟩
instance : atPresence.Ignored (Keeping World.queues) := ⟨fun _ _ => rfl⟩
instance : atRest.Ignored (Keeping World.queues) := ⟨fun _ _ => rfl⟩
instance : atSensor.Ignored (Keeping World.queues) := ⟨fun _ _ => rfl⟩
instance : atTimers.Ignored (Keeping World.queues) := ⟨fun _ _ => rfl⟩

end Frames

/-- The first `n` commands of the local queue have been handled. -/
structure Drained (n : ℕ) (w w' : World) : Prop where
  handled : w'.handled.reverse = w.handled.reverse ++ w.batch.take n
  batch : w'.batch = w.batch.drop n

theorem Drained.of_kept {w w' : World} (h : w'.queues = w.queues) : Drained 0 w w' := by
  simp only [World.queues, Prod.mk.injEq] at h
  obtain ⟨-, hhandled, hbatch, -⟩ := h
  constructor
  · rw [hhandled, List.take_zero, List.append_nil]
  · exact hbatch

theorem Drained.trans {m n : ℕ} {u v w : World} (h : Drained m u v) (h' : Drained n v w) :
    Drained (m + n) u w := by
  constructor
  · rw [h'.handled, h.handled, h.batch, List.append_assoc, ← List.take_add]
  · rw [h'.batch, h.batch, List.drop_drop]

/-- The operation handles a command of the local queue. -/
def Op.handles : Op → Bool
  | .handleFront => true
  | _ => false

section Operations

variable (env : Env)

theorem handleFront_drained
    (hthrows : ∀ payload, Throws env (fun _ => False) (handleCommandMessage payload)) (w : World) :
    wp handleFront env (fun _ w' => Drained 1 w w' ∧ w'.pending = w.pending) (fun _ _ => False)
      w := by
  unfold handleFront
  rw [wp_bind, wp_get]
  cases hbatch : w.batch with
  | nil => exact ⟨⟨by simp [hbatch], by simp [hbatch]⟩, rfl⟩
  | cons command rest =>
    have hkeep : Respects env (Keeping World.queues) (handleCommandMessage command.payload) :=
      inferInstance
    unfold handleNext
    rw [wp_bind]
    refine wp_mono (hkeep.returns (hthrows command.payload) w) (fun _ w' hqueues => ?_) fun _ _ => id
    simp only [Keeping, World.queues, Prod.mk.injEq] at hqueues
    obtain ⟨-, hhandled, -, hpending⟩ := hqueues
    refine ⟨⟨?_, ?_⟩, hpending⟩
    · change (command :: w'.handled).reverse = _
      rw [List.reverse_cons, hhandled, hbatch]
      rfl
    · rw [hbatch]
      rfl

theorem drainLoop_drained
    (hthrows : ∀ payload, Throws env (fun _ => False) (handleCommandMessage payload)) (n : ℕ)
    (w : World) :
    wp (drainLoop n) env (fun _ w' => Drained n w w' ∧ w'.pending = w.pending) (fun _ _ => False)
      w := by
  induction n generalizing w with
  | zero => exact ⟨.of_kept rfl, rfl⟩
  | succ n ih =>
    unfold drainLoop
    rw [wp_bind]
    refine wp_mono (handleFront_drained env hthrows w) (fun _ v hv => ?_) fun _ _ => id
    refine wp_mono (ih v) (fun _ w' hw => ?_) fun _ _ => id
    refine ⟨?_, hw.2.trans hv.2⟩
    rw [Nat.add_comm]
    exact hv.1.trans hw.1

/-- A drain handles whatever was pending, and leaves nothing in the local queue. -/
theorem drainCommands_handles
    (hthrows : ∀ payload, Throws env (fun _ => False) (handleCommandMessage payload)) (w : World) :
    wp drainCommands env (fun _ w' => w'.batch = [] ∧
        w'.handled.reverse = w.handled.reverse ++ w.batch ++ w.pending ∧ w'.pending = [])
      (fun _ _ => False) w := by
  simp only [drainCommands, swapCommands, wp_bind, wp_get, Part.wp_update]
  refine wp_mono (drainLoop_drained env hthrows _ _) (fun _ w' hw => ?_) fun _ _ => id
  obtain ⟨⟨hhandled, hbatch⟩, hpending⟩ := hw
  refine ⟨hbatch.trans List.drop_length, ?_, hpending⟩
  rw [hhandled, List.take_length, List.append_assoc]
  rfl

/-- An operation that throws nothing handles what it is there to handle. -/
theorem Op.run_drained {op : Op} (hop : op ≠ .swapCommands)
    (hthrows : op = .handleFront →
      ∀ payload, Throws env (fun _ => False) (handleCommandMessage payload)) (w : World) :
    Drained op.handles.toNat w (exec op.run env w).2 := by
  cases op
  case swapCommands => exact absurd rfl hop
  case handleFront =>
    exact exec_of_wp (wp_mono (handleFront_drained env (hthrows rfl) w) (fun _ _ h => h.1)
      fun _ _ => False.elim)
  case messageArrived command => exact ⟨(List.append_nil _).symm, rfl⟩
  all_goals
    refine Drained.of_kept (Respects.keeps ?_ w)
    unfold Op.run
    dsimp only
    infer_instance

end Operations

/-- No publish throws outside `connect_once`, save for acks, and no JSON exception is thrown. -/
structure Step.Survivable (s : Step) : Prop where
  returns : s.inputs.RepliesReturn
  quiet : (∃ now, s.op = .ensureConnection now) ∨ s.inputs.QuietPublishes

theorem Step.Survivable.execStep_returns {platform : Platform} (hparse : platform.ParserReturns)
    {s : Step} (h : s.Survivable) (w : World) : ∃ w', execStep platform s w = (.ok (), w') := by
  have hthrows : Throws ⟨platform, s.inputs⟩ (fun _ => False) s.op.run :=
    Op.run_throws (h.quiet.imp_right .inr) (.inl h.returns) (.inl hparse)
  obtain ⟨_, w', hw⟩ := hthrows.returns _ w
  exact ⟨w', hw⟩

theorem execSteps_drained {platform : Platform} (hparse : platform.ParserReturns)
    {steps : List Step} (hsteps : ∀ s ∈ steps, s.Survivable ∧ s.op ≠ .swapCommands) (w : World) :
    ∃ w', execSteps platform steps w = (.ok (), w') ∧
      Drained (steps.countP fun s => s.op.handles) w w' := by
  induction steps generalizing w with
  | nil => exact ⟨w, rfl, .of_kept rfl⟩
  | cons s steps ih =>
    obtain ⟨hs, hrest⟩ := List.forall_mem_cons.mp hsteps
    obtain ⟨v, hv⟩ := hs.1.execStep_returns hparse w
    have hdrained : Drained s.op.handles.toNat w v := by
      have h := Op.run_drained ⟨platform, s.inputs⟩ hs.2 (fun hop => ?_) w
      · unfold execStep at hv
        rwa [hv] at h
      · have hquiet : s.inputs.QuietPublishes := by
          refine hs.1.quiet.resolve_left ?_
          rintro ⟨now, hnow⟩
          exact Op.noConfusion (hop.symm.trans hnow)
        exact handleCommandMessage_throws (.inr hquiet) (.inl hs.1.returns) (.inl hparse)
    obtain ⟨w', hw', hlast⟩ := ih hrest v
    refine ⟨w', ?_, ?_⟩
    · unfold execSteps execAll
      rw [hv]
      exact hw'
    · have hcount : (s :: steps).countP (fun s => s.op.handles) =
          s.op.handles.toNat + steps.countP fun s => s.op.handles := by
        rw [List.countP_cons, Nat.add_comm]
        cases s.op.handles <;> rfl
      rw [hcount]
      exact hdrained.trans hlast

/-- An ack for a command with this id and type: an error text if and only if the command
failed, and a message if it succeeded. -/
structure AckFor (id type : Bytes) (ack : Ack) : Prop where
  id_eq : ack.id = id
  type_eq : ack.type = type
  err_iff : ack.err ≠ [] ↔ ack.ok = false
  message_ne : ack.ok = true → ack.message ≠ []

section Acks

variable (env : Env) (id type : Bytes)

theorem publishAck_pushes {ack : Ack} {P : Ack → Prop} (h : P ack) :
    PushesOne env World.acks P (publishAck ack) := by
  have he : PushesOne env World.acks P (emit (.publishAck ack)) := ⟨fun _ => ⟨ack, h, rfl⟩⟩
  unfold publishAck
  infer_instance

instance (message : Bytes) (httpCode : ℤ) :
    PushesOne env World.acks (AckFor id type) (sendAck id type true message [] httpCode) := by
  refine publishAck_pushes env ⟨rfl, rfl, by simp, fun _ => ?_⟩
  by_cases h : message = [] <;> simp [h]
  decide

instance (message err : Bytes) (httpCode : ℤ) :
    PushesOne env World.acks (AckFor id type) (sendAck id type false message err httpCode) := by
  refine publishAck_pushes env ⟨rfl, rfl, ?_, nofun⟩
  by_cases h : err = [] <;> simp [h]
  decide

instance (body : M Unit) [PushesOne env World.acks (AckFor id type) body] :
    PushesOne env World.acks (AckFor id type) (checkedLoggerCmd id type body) := by
  unfold checkedLoggerCmd checkedRestEndpoint
  dsimp only
  infer_instance

instance (result : LoggerResult) (message : Bytes) :
    PushesOne env World.acks (AckFor id type) (failLoggerCmd id type result message) := by
  unfold failLoggerCmd
  infer_instance

instance (httpCode : ℤ) :
    PushesOne env World.acks (AckFor id type) (ackAlreadyStopped id type httpCode) := by
  unfold ackAlreadyStopped
  infer_instance

instance (cmd : Json) :
    PushesOne env World.acks (AckFor id type) (handleLoggerStart id type cmd) := by
  unfold handleLoggerStart concludeLoggerStart
  infer_instance

instance : PushesOne env World.acks (AckFor id type) (handleLoggerStop id type) := by
  unfold handleLoggerStop concludeLoggerStop
  dsimp only
  infer_instance

instance : PushesOne env World.acks (AckFor id type) (handleLoggerStatus id type) := by
  unfold handleLoggerStatus
  infer_instance

instance : PushesOne env World.acks (AckFor id type) (handlePing id type) := by
  unfold handlePing
  infer_instance

end Acks

/-- The `id` of a payload that is an object with such a string; empty otherwise. -/
def commandId : Option Json → Bytes
  | some root => if root.isObject then readField (root.get (bytes "id")) else []
  | none => []

def commandTypeText : Option Json → Bytes
  | some root => if root.isObject then readField (root.get (bytes "type")) else []
  | none => []

/-- The admission of a command with this id and type. -/
inductive AdmissionFor (id type : Bytes) : Admission → Prop
  | refused {ack : Ack} (h : AckFor id type ack) : AdmissionFor id type (.refused ack)
  | accepted (command : CommandType) (cmd : Json) :
    AdmissionFor id type (.accepted command id type cmd)

theorem refused_for {type id err : Bytes} (h : err ≠ []) :
    AdmissionFor id type (.refused ⟨type, id, false, 400, [], err⟩) :=
  .refused ⟨rfl, rfl, by simp [h], nofun⟩

theorem badRequest_for (id type : Bytes) : AdmissionFor id type (badRequest type id) :=
  refused_for (by decide)

theorem admitParsed_for (root : Option Json) :
    AdmissionFor (commandId root) (commandTypeText root) (admitParsed root) := by
  have hempty {v : Json} (h : v.isString = false ∨ readField v = []) : readField v = [] :=
    h.elim (fun h => by simp [readField, h]) id
  cases root with
  | none => exact badRequest_for [] []
  | some root =>
    cases hobj : root.isObject with
    | false =>
      simp only [admitParsed, admitObject, commandId, commandTypeText, hobj]
      exact badRequest_for [] []
    | true =>
      simp only [admitParsed, admitObject, commandId, commandTypeText, hobj, if_true, Bool.true_eq_false,
        if_false]
      split_ifs with htype hid hts hunknown
      · rw [hempty htype]
        exact badRequest_for _ []
      · rw [hempty hid]
        exact badRequest_for [] _
      · exact badRequest_for _ _
      · exact refused_for (by decide)
      · exact .accepted _ _

theorem dispatch_pushes (env : Env) {id type : Bytes} {admission : Admission}
    (h : AdmissionFor id type admission) :
    PushesOne env World.acks (AckFor id type) (dispatch admission) := by
  cases h with
  | refused h => exact publishAck_pushes env h
  | accepted command cmd =>
    cases command
    case unknown =>
      unfold dispatch
      exact publishAck_pushes env ⟨rfl, rfl, by simp; decide, nofun⟩
    all_goals unfold dispatch; infer_instance

/-- The ack answers the command whose payload the reader parses with `parse`. -/
def Answers (parse : JsonParser) (command : CommandMessage) (ack : Ack) : Prop :=
  ∃ root, parse command.payload = .ok root ∧ AckFor (commandId root) (commandTypeText root) ack

/-- A command that is handled to its end is acked once. -/
theorem handleCommandMessage_pushes (env : Env) (command : CommandMessage) :
    PushesOne env World.acks (Answers env.parse command) (handleCommandMessage command.payload) where
  pushed w := by
    unfold handleCommandMessage
    rw [wp_bind, wp_read, wp_bind]
    cases hparse : env.parse command.payload with
    | error e => exact trivial
    | ok root =>
      rw [wp_liftJson_ok]
      refine wp_mono ((dispatch_pushes env (admitParsed_for root)).pushed w) ?_ fun _ _ => id
      rintro _ w' ⟨ack, hack, hw⟩
      exact ⟨ack, ⟨root, hparse, hack⟩, hw⟩

/-- Commands are handled in the order they arrive in, and acked in the order they are
handled in. -/
structure AcksInOrder (parse : JsonParser) (w : World) : Prop where
  queued : w.arrived.reverse = w.handled.reverse ++ w.batch ++ w.pending
  answered : List.Forall₂ (Answers parse) w.handled w.acks

section Operations

variable {env : Env} {w : World}

theorem acksInOrder_initial (config : EkinoxConfig) (inputs : Inputs) (parse : JsonParser) :
    AcksInOrder parse (initialWorld config inputs) :=
  ⟨rfl, .nil⟩

/-- Whatever leaves queues and acks alone keeps the order. -/
theorem AcksInOrder.kept {α : Type} {x : M α} [hq : Respects env (Keeping World.queues) x]
    [ha : Respects env (Keeping World.acks) x] (h : AcksInOrder env.parse w) :
    AcksInOrder env.parse (exec x env w).2 := by
  have hqueues := hq.keeps w
  have hacks := ha.keeps w
  simp only [World.queues, Prod.mk.injEq] at hqueues
  obtain ⟨harrived, hhandled, hbatch, hpending⟩ := hqueues
  constructor
  · rw [harrived, hhandled, hbatch, hpending]
    exact h.queued
  · rw [hhandled, hacks]
    exact h.answered

theorem AcksInOrder.messageArrived (h : AcksInOrder env.parse w) (command : CommandMessage) :
    AcksInOrder env.parse (exec (messageArrived command) env w).2 := by
  constructor
  · change (command :: w.arrived).reverse = w.handled.reverse ++ w.batch ++ (w.pending ++ [command])
    rw [List.reverse_cons, h.queued, List.append_assoc _ w.pending]
  · exact h.answered

theorem AcksInOrder.swapCommands (h : AcksInOrder env.parse w) :
    AcksInOrder env.parse (exec swapCommands env w).2 := by
  constructor
  · change w.arrived.reverse = w.handled.reverse ++ (w.batch ++ w.pending) ++ []
    rw [h.queued, List.append_nil, List.append_assoc]
  · exact h.answered

/-- The front command is answered by its own ack. -/
theorem AcksInOrder.handleFront (h : AcksInOrder env.parse w)
    (hthrows : ∀ payload, Throws env (fun _ => False) (handleCommandMessage payload)) :
    wp handleFront env (fun _ w' => AcksInOrder env.parse w') (fun _ _ => False) w := by
  unfold Ekinox.handleFront
  rw [wp_bind, wp_get]
  cases hbatch : w.batch with
  | nil => exact h
  | cons command rest =>
    unfold handleNext
    rw [wp_bind]
    have hkeep : Respects env (Keeping World.queues) (handleCommandMessage command.payload) :=
      inferInstance
    have hrun := wp_and ((handleCommandMessage_pushes env command).pushed w)
      (hkeep.returns (hthrows command.payload) w)
    refine wp_mono hrun ?_ fun _ _ hfalse => hfalse.2
    rintro _ w' ⟨⟨ack, hack, hacks⟩, hqueues⟩
    simp only [Keeping, World.queues, Prod.mk.injEq] at hqueues
    obtain ⟨harrived, hhandled, -, hpending⟩ := hqueues
    constructor
    · change w'.arrived.reverse = (command :: w'.handled).reverse ++ rest ++ w'.pending
      rw [harrived, hhandled, hpending, h.queued, hbatch, List.reverse_cons, List.append_assoc _ [_]]
      rfl
    · change List.Forall₂ _ (command :: w'.handled) w'.acks
      rw [hacks, hhandled]
      exact .cons hack h.answered

theorem AcksInOrder.drainLoop (h : AcksInOrder env.parse w)
    (hthrows : ∀ payload, Throws env (fun _ => False) (handleCommandMessage payload)) (n : ℕ) :
    wp (drainLoop n) env (fun _ w' => AcksInOrder env.parse w') (fun _ _ => False) w := by
  induction n generalizing w with
  | zero => exact h
  | succ n ih =>
    unfold Ekinox.drainLoop
    rw [wp_bind]
    exact wp_mono (h.handleFront hthrows) (fun _ _ hv => ih hv) fun _ _ => id

theorem AcksInOrder.drainCommands (h : AcksInOrder env.parse w)
    (hthrows : ∀ payload, Throws env (fun _ => False) (handleCommandMessage payload)) :
    wp drainCommands env (fun _ w' => AcksInOrder env.parse w') (fun _ _ => False) w := by
  have hswap := h.swapCommands
  simp only [Ekinox.drainCommands, Ekinox.swapCommands, wp_bind, wp_get, Part.wp_update]
  exact hswap.drainLoop hthrows _

variable (env) in
theorem AcksInOrder.run {op : Op} (h : AcksInOrder env.parse w) (hquiet : env.QuietPublishes)
    (hreturn : env.RepliesReturn) (hparse : env.ParserReturns) :
    AcksInOrder env.parse (exec op.run env w).2 := by
  cases op
  case messageArrived command => exact h.messageArrived command
  case swapCommands => exact h.swapCommands
  case handleFront =>
    have hfront := h.handleFront
      (handleCommandMessage_throws (.inr hquiet) (.inl hreturn) (.inl hparse))
    exact exec_of_wp (wp_mono hfront (fun _ _ => id) fun _ _ => False.elim)
  all_goals
    unfold Op.run
    dsimp only
    exact h.kept

end Operations

theorem execSteps_acksInOrder {platform : Platform} (hparse : platform.ParserReturns)
    {steps : List Step} (hsteps : ∀ s ∈ steps, s.inputs.QuietPublishes ∧ s.inputs.RepliesReturn)
    {w : World} (hw : AcksInOrder platform.parse w) :
    AcksInOrder platform.parse (execSteps platform steps w).2 := by
  refine execAll_invariant _ (C := fun s _ => s ∈ steps) (fun s v hs hv => ?_)
    (allSteps_of_forall _ fun s hs _ => hs) hw
  unfold execStep
  exact AcksInOrder.run ⟨platform, s.inputs⟩ hv (hsteps s hs).1 (hsteps s hs).2 hparse

theorem drainCommands_acks {platform : Platform} (hparse : platform.ParserReturns) {next : Inputs}
    (hquiet : next.QuietPublishes) (hreturn : next.RepliesReturn) {w : World}
    (hw : AcksInOrder platform.parse w) :
    ∃ w', exec drainCommands ⟨platform, next⟩ w = (.ok (), w') ∧
      AcksInOrder platform.parse w' ∧ w'.batch = [] ∧ w'.pending = [] ∧
      w'.handled.reverse = w.handled.reverse ++ w.batch ++ w.pending := by
  have hthrows : ∀ payload,
      Throws ⟨platform, next⟩ (fun _ => False) (handleCommandMessage payload) :=
    handleCommandMessage_throws (.inr hquiet) (.inl hreturn) (.inl hparse)
  have hacks : wp drainCommands ⟨platform, next⟩ (fun _ w' => AcksInOrder platform.parse w')
      (fun _ _ => False) w := AcksInOrder.drainCommands hw hthrows
  have hdrain := wp_and hacks (drainCommands_handles ⟨platform, next⟩ hthrows w)
  obtain ⟨w', hw', hacks, hbatch, hhandled, hpending⟩ :=
    (leaves_exec_iff (J := fun _ => False).mpr (wp_mono hdrain (fun _ _ => id) fun _ _ h => h.1)).returns
  exact ⟨w', hw', hacks, hbatch, hpending, hhandled⟩

/-- In every run, with messages arriving at any time, the commands handled so far have been
answered by one ack each, in the order they arrived in. Each pass through the loop of a drain
handles the next of the commands swapped out, whatever arrives meanwhile, and a drain ends
only when it has handled all of them. -/
theorem commands_acked_in_order (platform : Platform) (inputs : Inputs) (steps : List Step)
    (hparse : platform.ParserReturns)
    (hsteps : ∀ s ∈ steps, s.inputs.QuietPublishes ∧ s.inputs.RepliesReturn) :
    ∃ w, execSteps platform steps (initialWorld platform.config inputs) = (.ok (), w) ∧
      AcksInOrder platform.parse w ∧
      (∀ next : List Step, (∀ s ∈ next, (s.inputs.QuietPublishes ∧ s.inputs.RepliesReturn) ∧
          s.op ≠ .swapCommands) →
        ∃ w', execSteps platform next w = (.ok (), w') ∧ AcksInOrder platform.parse w' ∧
          Drained (next.countP fun s => s.op.handles) w w') ∧
      ∀ next : Inputs, next.QuietPublishes → next.RepliesReturn →
        ∃ w', exec drainCommands ⟨platform, next⟩ w = (.ok (), w') ∧
          AcksInOrder platform.parse w' ∧ w'.batch = [] ∧ w'.pending = [] ∧
          w'.handled.reverse = w.handled.reverse ++ w.batch ++ w.pending := by
  obtain ⟨w, hw⟩ := execAll_returns (execStep platform)
    (fun s hs => execStep_returns (hsteps s hs).1 (hsteps s hs).2 hparse)
    (initialWorld platform.config inputs)
  have hinv := execSteps_acksInOrder hparse hsteps
    (acksInOrder_initial platform.config inputs platform.parse)
  unfold execSteps at hinv
  rw [hw] at hinv
  refine ⟨w, hw, hinv, ?_, ?_⟩
  · intro next hnext
    obtain ⟨w', hw', hdrained⟩ := execSteps_drained hparse
      (fun s hs => ⟨⟨(hnext s hs).1.2, .inr (hnext s hs).1.1⟩, (hnext s hs).2⟩) w
    have hacks := execSteps_acksInOrder hparse (fun s hs => (hnext s hs).1) hinv
    rw [hw'] at hacks
    exact ⟨w', hw', hacks, hdrained⟩
  · exact fun next hquiet hreturn => drainCommands_acks hparse hquiet hreturn hinv

theorem ping_acked_in_order :
    let inputs := benchInputs fun _ => {}
    let steps := benchCommandSteps (bytes "ping") inputs
    ∃ w, execSteps benchPlatform steps (initialWorld benchPlatform.config inputs) = (.ok (), w) ∧
      AcksInOrder benchParse w ∧
      (∀ next : List Step, (∀ s ∈ next, (s.inputs.QuietPublishes ∧ s.inputs.RepliesReturn) ∧
          s.op ≠ .swapCommands) →
        ∃ w', execSteps benchPlatform next w = (.ok (), w') ∧ AcksInOrder benchParse w' ∧
          Drained (next.countP fun s => s.op.handles) w w') ∧
      ∀ next : Inputs, next.QuietPublishes → next.RepliesReturn →
        ∃ w', exec drainCommands ⟨benchPlatform, next⟩ w = (.ok (), w') ∧
          AcksInOrder benchParse w' ∧ w'.batch = [] ∧ w'.pending = [] ∧
          w'.handled.reverse = w.handled.reverse ++ w.batch ++ w.pending := by
  refine commands_acked_in_order benchPlatform _ _ benchPlatform_returns ?_
  simp [benchCommandSteps, benchInputs_quiet, benchInputs_return]

end Ironsoft.Ekinox
