import Ironsoft.EkinoxAcks
import Ironsoft.EkinoxAdmission
import Ironsoft.EkinoxDialogue

/-!
# Acks on the topic

What a command puts on the ack topic: its id with the verdict of the model, if the command comes to
its end and the ack gets out, and nothing otherwise.
-/
namespace Ironsoft.Ekinox
open Effect LoggerModel

set_option synthInstance.maxSize 400000
set_option synthInstance.maxHeartbeats 200000

/-- The id and the verdict of an ack that gets out on `topic`. -/
def Event.sentAck? (topic : Bytes) : Event → Option (Bytes × Bool)
  | .mqtt (.publish ⟨t, .ack a _, _, _⟩) false => if t = topic then some (a.id, a.ok) else none
  | _ => none

/-- What has come out on the topic so far, newest first. -/
abbrev World.sentAcks (topic : Bytes) : World → List (Bytes × Bool) := heard (Event.sentAck? topic)

/-- No ack is left by an exception. -/
def Inputs.QuietAcks (inputs : Inputs) : Prop := ∀ k, inputs.mqttThrows k (.publish .ack) = false

/-- Of the acks since `w` some have come out on the topic: all of them on a connection without
exceptions. -/
def AckSent (env : Env) (w w' : World) : Prop :=
  w'.conn = w.conn ∧ ∃ newer : List (Ack × Bool), w'.acks = newer.map Prod.fst ++ w.acks ∧
    w'.sentAcks env.config.topics.ack =
      (newer.filter Prod.snd).map (fun p => (p.1.id, p.1.ok)) ++ w.sentAcks env.config.topics.ack ∧
    (env.QuietAcks → w.conn.connected = true → ∀ p ∈ newer, p.2 = true)

section Frames

variable (env : Env) (topic : Bytes)

instance (b : Bool) : Unheard (Event.sentAck? topic) (.mqtt .connect b) := ⟨rfl⟩
instance (t : Bytes) (b : Bool) : Unheard (Event.sentAck? topic) (.mqtt (.subscribe t) b) := ⟨rfl⟩
instance (b : Bool) : Unheard (Event.sentAck? topic) (.mqtt .disconnect b) := ⟨rfl⟩
instance (t : Bytes) (p : PresencePayload) (qos : ℕ) (retained b : Bool) :
    Unheard (Event.sentAck? topic) (.mqtt (.publish ⟨t, .presence p, qos, retained⟩) b) := ⟨rfl⟩
instance (t : Bytes) (s : StatusPayload) (qos : ℕ) (retained b : Bool) :
    Unheard (Event.sentAck? topic) (.mqtt (.publish ⟨t, .status s, qos, retained⟩) b) := ⟨rfl⟩
instance (t : Bytes) (n m : ℤ) (qos : ℕ) (retained b : Bool) :
    Unheard (Event.sentAck? topic) (.mqtt (.publish ⟨t, .heartbeat n m, qos, retained⟩) b) := ⟨rfl⟩
instance (r : RestRequest) : Unheard (Event.sentAck? topic) (.restRequest r) := ⟨rfl⟩
instance (r : LoggerResult) (t : ℤ) : Unheard (Event.sentAck? topic) (.restResult r t) := ⟨rfl⟩
instance (m : Bytes) : Unheard (Event.sentAck? topic) (.errorSet m) := ⟨rfl⟩
instance (e : SbgEvent) : Unheard (Event.sentAck? topic) (.sbg e) := ⟨rfl⟩
instance : Unheard (Event.sentAck? topic) .sessionOpened := ⟨rfl⟩
instance (t : ℤ) : Unheard (Event.sentAck? topic) (.linkAlive t) := ⟨rfl⟩
instance (c : CommandMessage) : Unheard (Event.sentAck? topic) (.commandArrived c) := ⟨rfl⟩

theorem AckSent.of_kept {w w' : World} (hconn : w'.conn = w.conn) (hacks : w'.acks = w.acks)
    (hsent : w'.sentAcks env.config.topics.ack = w.sentAcks env.config.topics.ack) :
    AckSent env w w' :=
  ⟨hconn, [], hacks, hsent, fun _ _ _ hmem => absurd hmem List.not_mem_nil⟩

instance : IsPreorder World (AckSent env) where
  refl _ := .of_kept env rfl rfl rfl
  trans w w₁ w₂ := by
    rintro ⟨hconn, newer, hacks, hsent, hquiet⟩ ⟨hconn', newest, hacks', hsent', hquiet'⟩
    refine ⟨hconn'.trans hconn, newest ++ newer, ?_, ?_, fun hq hc p hp => ?_⟩
    · rw [hacks', hacks, List.map_append, List.append_assoc]
    · rw [hsent', hsent, List.filter_append, List.map_append, List.append_assoc]
    · exact (List.mem_append.mp hp).elim (hquiet' hq (hconn ▸ hc) p) (hquiet hq hc p)

instance : IgnoresReadings (AckSent env) := by
  constructor <;> exact fun _ => .of_kept env rfl rfl rfl
instance : IgnoresReplies (AckSent env) := ⟨fun _ => .of_kept env rfl rfl rfl⟩
instance (e : Event) [ha : Unheard Event.ack? e]
    [hs : Unheard (Event.sentAck? env.config.topics.ack) e] : Emits (AckSent env) e where
  step w := by
    refine .of_kept env rfl ?_ ?_
    · rw [World.acks, World.heard_said, ha.none]
      rfl
    · rw [World.sentAcks, World.heard_said, hs.none]
      rfl
instance : atLink.Ignored (AckSent env) := ⟨fun _ _ => .of_kept env rfl rfl rfl⟩
instance : atLogger.Ignored (AckSent env) := ⟨fun _ _ => .of_kept env rfl rfl rfl⟩
instance : atError.Ignored (AckSent env) := ⟨fun _ _ => .of_kept env rfl rfl rfl⟩
instance : atMarker.Ignored (AckSent env) := ⟨fun _ _ => .of_kept env rfl rfl rfl⟩
instance : atPresence.Ignored (AckSent env) := ⟨fun _ _ => .of_kept env rfl rfl rfl⟩
instance : atRest.Ignored (AckSent env) := ⟨fun _ _ => .of_kept env rfl rfl rfl⟩

instance publishAck_sends (ack : Ack) : Respects env (AckSent env) (publishAck ack) := by
  have hlegacy : env.config.topics.ackLegacy ≠ env.config.topics.ack := topics_ackLegacy_ne _
  refine respects_iff_wp.mpr fun w => wp_publishAck.mpr ?_
  dsimp only
  split_ifs with hconn
  · refine ⟨by simp only [World.said, World.tookMqtt, World.tookSystem],
      [(ack, !env.mqttThrows w.taken.mqtt (.publish .ack))], ?_, ?_, ?_⟩
    · simp only [World.acks, World.heard, World.said, World.tookMqtt, World.tookSystem, Event.ack?,
        List.filterMap_cons, List.map_cons, List.map_nil, List.cons_append, List.nil_append]
    · cases env.mqttThrows w.taken.mqtt (.publish .ack) <;>
        cases env.mqttThrows (w.taken.mqtt + 1) (.publish .ack) <;>
        simp only [World.sentAcks, World.heard, World.said, World.tookMqtt, World.tookSystem,
          Event.sentAck?, List.filterMap_cons, if_neg hlegacy, if_true, List.filter_cons, Bool.not_true,
          Bool.not_false, Bool.false_eq_true, if_false, List.filter_nil, List.map_cons, List.map_nil,
          List.nil_append, List.cons_append]
    · intro hquiet _ p hp
      obtain rfl := List.mem_singleton.mp hp
      simp [hquiet w.taken.mqtt]
  · exact ⟨rfl, [(ack, false)], rfl, rfl, fun _ hc => absurd hc hconn⟩

end Frames

/-- The verdict on a command, with the replies it gets. -/
def Env.verdict (env : Env) (c : Command) (w : World) : Bool :=
  let n := w.taken.rest
  c.verdict (w.access env.config) (env.result n).reply (env.result (n + 1)).posted
    (env.result (n + 2)).reply (env.result (n + 3)).reply

section Sending

variable {env : Env} {w : World}

theorem acksOf_talk (w : World) : acksOf w.talk = w.acks.map Ack.ok := by
  unfold World.talk World.acks World.heard
  induction w.trace with
  | nil => rfl
  | cons e trace ih =>
    rcases e with ⟨call, threw⟩ | _ | _ | _ | _ | _ | _ | _ | _
    case publishAck ack => exact congrArg (ack.ok :: ·) ih
    case mqtt =>
      rcases call with _ | _ | ⟨t, body, qos, retained⟩ | _
      all_goals try exact ih
      cases body <;> cases threw <;> exact ih
    all_goals exact ih

theorem env_conduct_concludes (env : Env) (c : Command) (w : World) :
    Concludes w.talk (env.verdict c w) (env.conduct c w).talk :=
  c.conduct_concludes _ _ _ _ w.desk _

/-- A command that comes to its end is acked with its id and its verdict; a command that an
exception cuts short is not acked. -/
theorem handleCommandMessage_acks {payload : Bytes} {parsed : Option Json}
    (hparse : env.parse payload = .ok parsed) :
    wp (handleCommandMessage payload) env
      (fun _ w' => ∃ ack, w'.acks = ack :: w.acks ∧ ack.id = commandId parsed ∧
        ack.ok = env.verdict (admitParsed parsed).command w)
      (fun _ w' => w'.acks.length ≤ w.acks.length) w := by
  have hconcludes := env_conduct_concludes env (admitParsed parsed).command w
  have hconducted : Conducted env (handleCommandMessage payload)
      (env.conduct (admitParsed parsed).command w) w := by
    unfold Conducted
    rw [wp_handleCommandMessage, hparse]
    exact dispatch_refines env w fun ack => admitParsed_refused
  refine wp_mono (wp_and ((handleCommandMessage_pushes env ⟨[], payload⟩).pushed w) hconducted)
    (fun _ w' h => ?_) fun _ w' h => ?_
  · obtain ⟨⟨ack, ⟨root, hroot, hack⟩, hacks⟩, hdesk⟩ := h
    obtain rfl := Except.ok.inj (hparse.symm.trans hroot)
    refine ⟨ack, hacks, hack.id_eq, ?_⟩
    have htalk : w'.talk = (env.conduct (admitParsed parsed).command w).talk := congrArg Desk.talk hdesk
    have hoks := hconcludes.acksOf_eq
    rw [← htalk, acksOf_talk, hacks, acksOf_talk] at hoks
    exact (List.cons.inj hoks).1
  · obtain ⟨older, htalk, hunacked⟩ := hconcludes
    have hsuffix : w'.talk <:+ older := by
      have htail := h.2
      rwa [htalk] at htail
    have hoks : (acksOf w'.talk).length ≤ (acksOf older).length :=
      (hsuffix.filterMap Talk.acked?).length_le
    rw [hunacked.acksOf_eq] at hoks
    simpa only [acksOf_talk, List.length_map] using hoks

/-- What comes out on the ack topic is the id of the command with its verdict, at most once. -/
theorem handleCommandMessage_sends {payload : Bytes} {parsed : Option Json}
    (hparse : env.parse payload = .ok parsed) (w : World) :
    ∃ sent, (exec (handleCommandMessage payload) env w).2.sentAcks env.config.topics.ack =
        sent ++ w.sentAcks env.config.topics.ack ∧
      ∀ a ∈ sent, a = (commandId parsed, env.verdict (admitParsed parsed).command w) := by
  have hsent : Respects env (AckSent env) (handleCommandMessage payload) := inferInstance
  have hboth := wp_and (respects_iff_wp.mp hsent w) (handleCommandMessage_acks hparse (w := w))
  refine exec_of_wp (I := fun w' : World => ∃ sent, w'.sentAcks env.config.topics.ack =
    sent ++ w.sentAcks env.config.topics.ack ∧ ∀ a ∈ sent, a = (commandId parsed, _)) ?_
  refine wp_mono hboth (fun _ w' h => ?_) fun _ w' h => ?_
  · obtain ⟨⟨-, newer, hnewer, hsent, -⟩, ack, hacks, hid, hok⟩ := h
    refine ⟨_, hsent, fun a ha => ?_⟩
    have hone : newer.map Prod.fst = [ack] := List.append_cancel_right (hnewer.symm.trans hacks)
    obtain ⟨⟨_, sent⟩, rfl, rfl⟩ := List.map_eq_singleton_iff.mp hone
    cases sent with
    | false => exact absurd ha List.not_mem_nil
    | true =>
      have ha' := List.mem_singleton.mp ha
      rw [ha']
      exact Prod.ext hid hok
  · obtain ⟨⟨-, newer, hnewer, hsent, -⟩, hlength⟩ := h
    have hnone : newer = [] := by
      rw [hnewer, List.length_append, List.length_map] at hlength
      exact List.eq_nil_of_length_eq_zero (by omega)
    subst hnone
    exact ⟨[], hsent, nofun⟩

/-- Undisturbed, it comes out. -/
theorem handleCommandMessage_sent (hquiet : env.Undisturbed) (hconn : w.conn.connected = true)
    {payload : Bytes} {parsed : Option Json} (hparse : env.parse payload = .ok parsed) :
    wp (handleCommandMessage payload) env
      (fun _ w' => w'.sentAcks env.config.topics.ack =
        (commandId parsed, env.verdict (admitParsed parsed).command w) ::
          w.sentAcks env.config.topics.ack)
      (fun _ _ => False) w := by
  have hread : Throws env (fun _ => False) (liftJson (env.parse payload)) := by
    rw [hparse]
    exact ⟨fun _ => trivial⟩
  have hthrows : Throws env (fun _ => False) (handleCommandMessage payload) :=
    handleCommandMessage_throws_of_read (.inr hquiet.publishes) (.inl hquiet.replies) hread
  have hsent : Respects env (AckSent env) (handleCommandMessage payload) := inferInstance
  refine wp_mono (wp_and (hsent.returns hthrows w) (handleCommandMessage_acks hparse))
    (fun _ w' h => ?_) fun _ _ h => h.1
  obtain ⟨⟨-, newer, hnewer, hsent, hall⟩, ack, hacks, hid, hok⟩ := h
  have hone : newer.map Prod.fst = [ack] := List.append_cancel_right (hnewer.symm.trans hacks)
  obtain ⟨⟨_, sent⟩, rfl, rfl⟩ := List.map_eq_singleton_iff.mp hone
  have htrue : sent = true :=
    hall (fun k => hquiet.mqtt k (.publish .ack)) hconn _ (List.mem_singleton_self _)
  subst htrue
  rw [hsent]
  exact congrArg (· :: _) (Prod.ext hid hok)

/-- The commands that wait. -/
def World.queued (w : World) : List CommandMessage := w.batch ++ w.pending

/-- A command that is handled to its end does nothing to the queues but leave them. -/
theorem handleFront_wp {Q : Unit → World → Prop} {E : Exn → World → Prop}
    (hidle : w.batch = [] → Q () w)
    (hhandle : ∀ command rest, w.batch = command :: rest →
      wp (handleCommandMessage command.payload) env
        (fun _ w' => Q () { w'.said (.commandHandled command) with batch := rest }) E w) :
    wp handleFront env Q E w := by
  unfold handleFront
  rw [wp_bind, wp_get]
  cases hbatch : w.batch with
  | nil => exact hidle hbatch
  | cons command rest =>
    unfold handleNext
    rw [wp_bind]
    exact wp_mono (hhandle command rest hbatch) (fun _ _ h => h) fun _ _ => id

/-- Only arriving commands come to wait. -/
theorem Op.run_queued (env : Env) (op : Op) (w : World) :
    ∀ c ∈ (exec op.run env w).2.queued, c ∈ w.queued ∨ op = .messageArrived c := by
  have hkept {w' : World} (h : w'.queues = w.queues) :
      ∀ c ∈ w'.queued, c ∈ w.queued ∨ op = .messageArrived c := by
    simp only [World.queues, Prod.mk.injEq] at h
    intro c hc
    rw [World.queued, h.2.2.1, h.2.2.2] at hc
    exact .inl hc
  cases op
  case messageArrived command =>
    intro c hc
    have hc' : c ∈ w.batch ++ (w.pending ++ [command]) := hc
    rw [← List.append_assoc, List.mem_append, List.mem_singleton] at hc'
    exact hc'.imp_right fun h => by rw [h]
  case swapCommands =>
    intro c hc
    have hc' : c ∈ w.batch ++ w.pending ++ [] := hc
    rw [List.append_nil] at hc'
    exact .inl hc'
  case handleFront =>
    let I (w' : World) : Prop := ∀ c ∈ w'.queued, c ∈ w.queued ∨ Op.handleFront = .messageArrived c
    refine exec_of_wp (I := I) (handleFront_wp (fun _ => hkept rfl) fun command rest hbatch => ?_)
    have hkeep : Respects env (Keeping World.queues) (handleCommandMessage command.payload) :=
      inferInstance
    refine wp_mono (respects_iff_wp.mp hkeep w) (fun _ w' h c hc => ?_) fun _ _ h => hkept h
    simp only [Keeping, World.queues, Prod.mk.injEq] at h
    have hc' : c ∈ rest ++ w'.pending := hc
    rw [h.2.2.2] at hc'
    refine .inl ?_
    rw [World.queued, hbatch]
    exact List.mem_cons_of_mem command hc'
  all_goals
    unfold Op.run
    dsimp only
    exact hkept (Respects.keeps inferInstance w)

/-- Only the command at the front of the queue is answered. -/
theorem Op.run_sends (env : Env) (op : Op) (w : World) :
    ∃ sent, (exec op.run env w).2.sentAcks env.config.topics.ack =
        sent ++ w.sentAcks env.config.topics.ack ∧
      ∀ a ∈ sent, op = .handleFront ∧ ∃ command rest parsed, w.batch = command :: rest ∧
        env.parse command.payload = .ok parsed ∧
        a = (commandId parsed, env.verdict (admitParsed parsed).command w) := by
  have hkept {w' : World} (h : w'.sentAcks env.config.topics.ack = w.sentAcks env.config.topics.ack) :
      ∃ sent, w'.sentAcks env.config.topics.ack = sent ++ w.sentAcks env.config.topics.ack ∧
        ∀ a ∈ sent, op = .handleFront ∧ ∃ command rest parsed, w.batch = command :: rest ∧
          env.parse command.payload = .ok parsed ∧
          a = (commandId parsed, env.verdict (admitParsed parsed).command w) :=
    ⟨[], h, fun _ ha => absurd ha List.not_mem_nil⟩
  cases op
  case handleFront =>
    let I (w' : World) : Prop := ∃ sent, w'.sentAcks env.config.topics.ack =
        sent ++ w.sentAcks env.config.topics.ack ∧
      ∀ a ∈ sent, Op.handleFront = .handleFront ∧ ∃ command rest parsed, w.batch = command :: rest ∧
        env.parse command.payload = .ok parsed ∧
        a = (commandId parsed, env.verdict (admitParsed parsed).command w)
    refine exec_of_wp (I := I) (handleFront_wp (fun _ => hkept rfl) fun command rest hbatch => ?_)
    cases hparse : env.parse command.payload with
    | error e =>
      rw [wp_handleCommandMessage, hparse]
      exact hkept rfl
    | ok parsed =>
      obtain ⟨sent, hsent, hall⟩ := handleCommandMessage_sends hparse w
      have hI (w' : World) (hw' : w' = (exec (handleCommandMessage command.payload) env w).2) : I w' :=
        ⟨sent, hw' ▸ hsent, fun a ha => ⟨rfl, command, rest, parsed, hbatch, hparse, hall a ha⟩⟩
      revert hI
      unfold wp
      rcases exec (handleCommandMessage command.payload) env w with ⟨_ | _, w'⟩
      · exact fun hI => hI w' rfl
      · exact fun hI => hI w' rfl
  all_goals
    unfold Op.run
    dsimp only
    exact hkept (Respects.keeps inferInstance w)

end Sending

end Ironsoft.Ekinox
