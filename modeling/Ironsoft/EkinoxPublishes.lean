import Ironsoft.EkinoxThrows

/-!
# Published messages

Every message goes to the topic of its kind, and only presence and status are retained. A
broker that applies the publishes in order therefore holds the last presence on the
presence topic.
-/
namespace Ironsoft.Ekinox
open Effect

set_option synthInstance.maxSize 400000
set_option synthInstance.maxHeartbeats 200000

/-- The topic a message of its kind belongs on, and whether it is retained there. -/
def Message.Addressed (config : EkinoxConfig) (m : Message) : Prop :=
  match m.body with
  | .presence _ => m.topic = config.topics.presence ∧ m.retained = true
  | .status _ => m.topic = config.topics.status ∧ m.retained = true
  | .heartbeat .. => m.topic = config.topics.heartbeat ∧ m.retained = false
  | .ack .. =>
    (m.topic = config.topics.ack ∨ m.topic = config.topics.ackLegacy) ∧ m.retained = false

def Event.Addressed (config : EkinoxConfig) : Event → Prop
  | .mqtt (.publish m) _ => m.Addressed config
  | _ => True

def AllAddressed (config : EkinoxConfig) (w : World) : Prop := ∀ e ∈ w.trace, e.Addressed config

section Frames

variable (config : EkinoxConfig)

theorem emits_addressed {e : Event} (he : e.Addressed config) :
    Emits (Preserving (AllAddressed config)) e :=
  ⟨fun _ hw => List.forall_mem_cons.mpr ⟨he, hw⟩⟩

instance : IgnoresReadings (Preserving (AllAddressed config)) :=
  ⟨fun _ => id, fun _ => id, fun _ => id, fun _ => id, fun _ => id⟩
instance : IgnoresReplies (Preserving (AllAddressed config)) := ⟨fun _ => id⟩
instance : atLink.Ignored (Preserving (AllAddressed config)) := ⟨fun _ _ => id⟩
instance : atLogger.Ignored (Preserving (AllAddressed config)) := ⟨fun _ _ => id⟩
instance : atError.Ignored (Preserving (AllAddressed config)) := ⟨fun _ _ => id⟩
instance : atMarker.Ignored (Preserving (AllAddressed config)) := ⟨fun _ _ => id⟩
instance : atConn.Ignored (Preserving (AllAddressed config)) := ⟨fun _ _ => id⟩
instance : atRetry.Ignored (Preserving (AllAddressed config)) := ⟨fun _ _ => id⟩
instance : atPresence.Ignored (Preserving (AllAddressed config)) := ⟨fun _ _ => id⟩
instance : atRest.Ignored (Preserving (AllAddressed config)) := ⟨fun _ _ => id⟩
instance : atSensor.Ignored (Preserving (AllAddressed config)) := ⟨fun _ _ => id⟩
instance : atTimers.Ignored (Preserving (AllAddressed config)) := ⟨fun _ _ => id⟩
instance : atPending.Ignored (Preserving (AllAddressed config)) := ⟨fun _ _ => id⟩
instance : atBatch.Ignored (Preserving (AllAddressed config)) := ⟨fun _ _ => id⟩

instance (threw : Bool) : Emits (Preserving (AllAddressed config)) (.mqtt .connect threw) :=
  emits_addressed config trivial
instance (threw : Bool) : Emits (Preserving (AllAddressed config)) (.mqtt .disconnect threw) :=
  emits_addressed config trivial
instance (topic : Bytes) (threw : Bool) :
    Emits (Preserving (AllAddressed config)) (.mqtt (.subscribe topic) threw) :=
  emits_addressed config trivial
instance (p : PresencePayload) (threw : Bool) : Emits (Preserving (AllAddressed config))
    (.mqtt (.publish ⟨config.topics.presence, .presence p, 1, true⟩) threw) :=
  emits_addressed config ⟨rfl, rfl⟩
instance (s : StatusPayload) (threw : Bool) : Emits (Preserving (AllAddressed config))
    (.mqtt (.publish ⟨config.topics.status, .status s, 1, true⟩) threw) :=
  emits_addressed config ⟨rfl, rfl⟩
instance (n m : ℤ) (threw : Bool) : Emits (Preserving (AllAddressed config))
    (.mqtt (.publish ⟨config.topics.heartbeat, .heartbeat n m, 0, false⟩) threw) :=
  emits_addressed config ⟨rfl, rfl⟩
instance (a : Ack) (ts : ℤ) (threw : Bool) : Emits (Preserving (AllAddressed config))
    (.mqtt (.publish ⟨config.topics.ack, .ack a ts, 1, false⟩) threw) :=
  emits_addressed config ⟨.inl rfl, rfl⟩
instance (a : Ack) (ts : ℤ) (threw : Bool) : Emits (Preserving (AllAddressed config))
    (.mqtt (.publish ⟨config.topics.ackLegacy, .ack a ts, 1, false⟩) threw) :=
  emits_addressed config ⟨.inr rfl, rfl⟩
instance (a : Ack) : Emits (Preserving (AllAddressed config)) (.publishAck a) :=
  emits_addressed config trivial
instance (r : RestRequest) : Emits (Preserving (AllAddressed config)) (.restRequest r) :=
  emits_addressed config trivial
instance (r : LoggerResult) (t : ℤ) : Emits (Preserving (AllAddressed config)) (.restResult r t) :=
  emits_addressed config trivial
instance (m : Bytes) : Emits (Preserving (AllAddressed config)) (.errorSet m) :=
  emits_addressed config trivial
instance (e : SbgEvent) : Emits (Preserving (AllAddressed config)) (.sbg e) :=
  emits_addressed config trivial
instance : Emits (Preserving (AllAddressed config)) .sessionOpened :=
  emits_addressed config trivial
instance (t : ℤ) : Emits (Preserving (AllAddressed config)) (.linkAlive t) :=
  emits_addressed config trivial
instance (c : CommandMessage) : Emits (Preserving (AllAddressed config)) (.commandArrived c) :=
  emits_addressed config trivial
instance (c : CommandMessage) : Emits (Preserving (AllAddressed config)) (.commandHandled c) :=
  emits_addressed config trivial

end Frames

theorem Op.run_addressed (env : Env) (op : Op) :
    Respects env (Preserving (AllAddressed env.config)) op.run := by
  cases op
  all_goals
    unfold Op.run
    dsimp only
    infer_instance

/-- Every message of a run is on the topic of its kind. -/
theorem execSteps_addressed {platform : Platform} (steps : List Step) {w : World}
    (hw : AllAddressed platform.config w) :
    AllAddressed platform.config (execSteps platform steps w).2 :=
  execSteps_preserves (fun s _ => Op.run_addressed ⟨platform, s.inputs⟩ s.op) hw

/-- What a broker that applies publishes in order holds on `topic`. -/
def retainedOn (topic : Bytes) : List Event → Option Body
  | [] => none
  | .mqtt (.publish m) false :: older =>
    if m.topic = topic ∧ m.retained = true then some m.body else retainedOn topic older
  | _ :: older => retainedOn topic older

@[simp] theorem retainedOn_cons_publish (topic : Bytes) (m : Message) (older : List Event) :
    retainedOn topic (.mqtt (.publish m) false :: older) =
      if m.topic = topic ∧ m.retained = true then some m.body else retainedOn topic older := rfl

theorem status_topic_ne_presence (config : EkinoxConfig) :
    config.topics.status ≠ config.topics.presence := by
  intro h
  have hsuffix := List.append_cancel_left h
  revert hsuffix
  decide

end Ironsoft.Ekinox
