import Ironsoft.BackendAnswers
import Ironsoft.EkinoxAnswers
import Ironsoft.TopicModel

/-!
# Two services on one topic

The backend and the ekinox service of a drone read commands from the same topic and ack them on the
same topic. Their acks for a command agree if and only if the ekinox service is of the opinion of
the backend, which knows nothing but pings.
-/
namespace Ironsoft.Services
open Effect Ekinox TopicModel Relation

/-- A payload that is an object with a string for an id. -/
structure CommandText (platform : Platform) where
  payload : Bytes
  root : Json
  id : Bytes
  parsed : platform.parse payload = .ok (some root)
  isObject : root.isObject = true
  id_eq : root.get (bytes "id") = .str id
  id_ne : id ≠ []

/-- The reader is the one of the ekinox service. -/
def jsonCpp (platform : Platform) (realText : Option ℚ → Bytes) : Backend.JsonCpp :=
  ⟨platform.parse, realText⟩

def IsPing (root : Json) : Prop := root.get (bytes "type") = .str (bytes "ping")

/-- The time of a command, if it has one, is a 64-bit number. -/
def TsIntegral (root : Json) : Prop :=
  root.isMember (bytes "ts") = true →
    (root.get (bytes "ts")).isInt64 = true ∨ (root.get (bytes "ts")).isUInt64 = true

/-- The ekinox service is of the opinion of the backend. -/
structure Harmonious (env : Ekinox.Env) (root : Json) (w : Ekinox.World) : Prop where
  ping : IsPing root → TsIntegral root
  other : ¬IsPing root → env.verdict (admitParsed (some root)).command w = false

section Backend

theorem bytes_inj {s t : String} (h : bytes s = bytes t) : s = t := by
  have hdata : s.toUTF8.data = t.toUTF8.data := Array.toList_inj.mp h
  exact String.toByteArray_inj.mp (ByteArray.ext hdata)

/-- A number is not written as a ping. -/
theorem decimal_ne_ping (n : ℤ) : decimal n ≠ bytes "ping" := by
  intro h
  have hchars := congrArg String.toList (bytes_inj h)
  rcases n with n | n
  · have hnat : toString (Int.ofNat n) = n.repr := rfl
    rw [hnat, Nat.toList_repr] at hchars
    have hp : 'p' ∈ Nat.toDigits 10 n := by
      rw [hchars]
      decide
    exact absurd (Nat.isDigit_of_mem_toDigits (by decide) (by decide) hp) (by decide)
  · have hneg : toString (Int.negSucc n) = "-" ++ (n + 1).repr := rfl
    rw [hneg, String.toList_append] at hchars
    exact absurd hchars (by simp)

variable {platform : Platform} {realText : Option ℚ → Bytes}

/-- No other value reads as the type of a ping. -/
theorem textOf_ping_iff (hreal : ∀ v, realText v ≠ bytes "ping") {v : Json} {text : Bytes}
    (h : Backend.textOf realText v = .ok text) : text = bytes "ping" ↔ v = .str (bytes "ping") := by
  have hother (hne : text ≠ bytes "ping") (hv : v ≠ .str (bytes "ping")) :
      text = bytes "ping" ↔ v = .str (bytes "ping") := iff_of_false hne hv
  cases v with
  | str s =>
    obtain rfl := Except.ok.inj h
    exact ⟨fun hs => by rw [hs], fun hs => Json.str.inj hs⟩
  | arr | obj => cases h
  | null =>
    obtain rfl := Except.ok.inj h
    exact hother (by decide) nofun
  | bool b =>
    obtain rfl := Except.ok.inj h
    cases b <;> exact hother (by decide) nofun
  | int n =>
    obtain rfl := Except.ok.inj h
    exact hother (decimal_ne_ping _) nofun
  | uint n =>
    obtain rfl := Except.ok.inj h
    exact hother (decimal_ne_ping _) nofun
  | real v =>
    obtain rfl := Except.ok.inj h
    exact hother (hreal v) nofun

theorem readType_ping_iff (hreal : ∀ v, realText v ≠ bytes "ping") {root : Json}
    (hobj : root.isObject = true) {type : Bytes}
    (h : Backend.readType (jsonCpp platform realText) root = .ok type) :
    type = bytes "ping" ↔ IsPing root := by
  cases root with
  | obj members =>
    have htext : Backend.textOf realText ((members.lookup (bytes "type")).getD (.str [])) =
        .ok type := h
    rw [textOf_ping_iff hreal htext]
    change _ ↔ (members.lookup (bytes "type")).getD .null = .str (bytes "ping")
    cases members.lookup (bytes "type") with
    | none => exact iff_of_false (by simp; decide) nofun
    | some v => exact Iff.rfl
  | _ => cases hobj

/-- The backend takes nothing but a ping for a success. -/
theorem handleCmdPingOnly_ok_iff (hreal : ∀ v, realText v ≠ bytes "ping") (c : CommandText platform)
    {res : Backend.CmdHandlerResult}
    (h : Backend.handleCmdPingOnly (jsonCpp platform realText) c.payload = .ok res) :
    res.ok = true ↔ IsPing c.root := by
  have hparse : (jsonCpp platform realText).parse c.payload = .ok (some c.root) := c.parsed
  rw [Backend.handleCmdPingOnly_of_parse hparse] at h
  cases htype : Backend.readType (jsonCpp platform realText) c.root with
  | error e =>
    rw [htype] at h
    cases h
  | ok type =>
    rw [htype] at h
    obtain rfl := Except.ok.inj h
    rw [← readType_ping_iff hreal c.isObject htype]
    unfold Backend.answerType
    split_ifs with hping
    · exact iff_of_true rfl hping
    · exact iff_of_false nofun hping

theorem isMember_of_get {root : Json} {key text : Bytes} (h : root.get key = .str text) :
    root.isMember key = true := by
  cases root with
  | obj members =>
    change (members.lookup key).isSome = true
    have hvalue : (members.lookup key).getD .null = .str text := h
    cases hlookup : members.lookup key with
    | none =>
      rw [hlookup] at hvalue
      cases hvalue
    | some v => rfl
  | _ => cases h

theorem backend_commandId (c : CommandText platform) :
    Backend.commandId (jsonCpp platform realText) c.payload = c.id := by
  have hid : Backend.readId (jsonCpp platform realText) c.root = .ok c.id := by
    have hmember : Backend.hasMember c.root (bytes "id") = .ok true := by
      rw [← isMember_of_get c.id_eq]
      cases hroot : c.root with
      | obj members => rfl
      | _ =>
        have hobj := c.isObject
        rw [hroot] at hobj
        cases hobj
    unfold Backend.readId
    rw [hmember, c.id_eq]
    rfl
  have hparse : (jsonCpp platform realText).parseFromStream c.payload = .ok (some c.root) :=
    congrArg (Except.mapError Backend.Exn.reader) c.parsed
  unfold Backend.commandId
  rw [hparse]
  change Backend.orEmpty (Backend.readId (jsonCpp platform realText) c.root) = c.id
  rw [hid]
  rfl

end Backend

section Ekinox

variable {platform : Platform} {env : Ekinox.Env} {w : Ekinox.World}

theorem ekinox_commandId (c : CommandText platform) : Ekinox.commandId (some c.root) = c.id := by
  unfold Ekinox.commandId readField
  dsimp only
  rw [if_pos c.isObject, c.id_eq]
  rfl

/-- Of the commands that are refused none succeeds. -/
theorem verdict_refused {ack : Ack} {parsed : Option Json} (h : admitParsed parsed = .refused ack) :
    env.verdict (admitParsed parsed).command w = false := by
  rw [h]
  rfl

theorem verdict_of_ping (c : CommandText platform) (h : IsPing c.root) :
    env.verdict (admitParsed (some c.root)).command w = true ↔ TsIntegral c.root := by
  constructor
  · intro hok
    rcases admitParsed_cases (some c.root) with ⟨_, _, _, _, ⟨rfl⟩, hroot⟩ | ⟨ack, -, hack⟩
    · exact hroot.ts
    · exact absurd ((verdict_refused hack).symm.trans hok) Bool.false_ne_true
  · intro hts
    have hroot : Admissible c.root .ping (bytes "ping") c.id :=
      ⟨c.isObject, h, by decide, c.id_eq, c.id_ne, hts⟩
    rw [hroot.admitted]
    rfl

/-- Harmony means that the verdict is the one of the backend. -/
theorem harmonious_iff (c : CommandText platform) :
    Harmonious env c.root w ↔
      (env.verdict (admitParsed (some c.root)).command w = true ↔ IsPing c.root) := by
  by_cases hping : IsPing c.root
  · rw [verdict_of_ping c hping]
    exact ⟨fun h => iff_of_true (h.ping hping) hping, fun h => ⟨fun _ => h.mpr hping, absurd hping⟩⟩
  · constructor
    · intro h
      exact iff_of_false (by rw [h.other hping]; exact Bool.false_ne_true) hping
    · intro h
      exact ⟨fun hp => absurd hp hping, fun _ => eq_false_of_ne_true fun hok => hping (h.mp hok)⟩

/-- The backend can read the type of whatever brings the services into conflict. -/
theorem typeReadable_of_conflict (c : CommandText platform) (h : ¬Harmonious env c.root w) :
    Backend.TypeReadable c.root := by
  have htext {type : Bytes} (htype : c.root.get (bytes "type") = .str type) :
      Backend.TypeReadable c.root := by
    refine .inr ⟨c.isObject, ?_⟩
    rw [htype]
    exact ⟨fun _ hv => Json.noConfusion hv, fun _ hv => Json.noConfusion hv⟩
  by_cases hping : IsPing c.root
  · exact htext hping
  · rcases admitParsed_cases (some c.root) with ⟨_, _, _, _, ⟨rfl⟩, hroot⟩ | ⟨ack, -, hack⟩
    · exact htext hroot.type_eq
    · exact absurd ⟨fun hp => absurd hp hping, fun _ => verdict_refused hack⟩ h

end Ekinox

inductive Service
  | backend
  | ekinox
  deriving DecidableEq

abbrev Service.World : Service → Type
  | .backend => Backend.World
  | .ekinox => Ekinox.World

def backendSentAck? (topic : Bytes) (m : Backend.Message) : Option (Bytes × Bool) :=
  match m.body with
  | .ack cmdId res => if m.topic = topic then some (cmdId, res.ok) else none
  | _ => none

def backendSentAcks (topic : Bytes) (w : Backend.World) : List (Bytes × Bool) :=
  w.published.filterMap (backendSentAck? topic)

/-- What a list that grows at its head has in addition. -/
def since {α : Type} (before after : List α) : List α := after.take (after.length - before.length)

theorem since_append {α : Type} (newer before : List α) : since before (newer ++ before) = newer := by
  simp [since]

/-- A payload that neither service acks with this id. -/
structure Foreign (platform : Platform) (realText : Option ℚ → Bytes) (id payload : Bytes) : Prop where
  backend : Backend.commandId (jsonCpp platform realText) payload ≠ id
  ekinox : ∀ parsed, platform.parse payload = .ok parsed → Ekinox.commandId parsed ≠ id

/-- What the backend does around the message loop, and in it. -/
inductive BackendOp
  | openSession
  | message (msg : CommandMessage)
  | closed

def BackendOp.run : BackendOp → Backend.M Unit
  | .openSession => Backend.openSession
  | .message msg => Backend.handleMessage msg
  | .closed => Backend.setConnected false

section Runs

variable (platform : Platform) (realText : Option ℚ → Bytes) (c : CommandText platform)

def backendEnv (now : ℤ) (throws : ℕ → Backend.Call → Bool) : Backend.Env :=
  .pingOnly platform.config.mqtt.droneId (jsonCpp platform realText) now throws

def ackTopic : Bytes := platform.config.topics.ack

/-- A command that may arrive: this one, or one with another id. -/
def MayArrive (command : CommandMessage) : Prop :=
  command.payload = c.payload ∨ Foreign platform realText c.id command.payload

def BackendActs (w w' : Backend.World) (out : List (Bytes × Bool)) : Prop :=
  ∃ (op : BackendOp) (now : ℤ) (throws : ℕ → Backend.Call → Bool),
    (∀ msg, op = .message msg → MayArrive platform realText c msg) ∧
    w' = (exec op.run (backendEnv platform realText now throws) w).2 ∧
    out = since (backendSentAcks (ackTopic platform) w) (backendSentAcks (ackTopic platform) w')

/-- `C` is required whenever the command is handled. -/
def EkinoxActs (C : Ekinox.Env → Ekinox.World → Prop) (w w' : Ekinox.World)
    (out : List (Bytes × Bool)) : Prop :=
  ∃ step : Step,
    (∀ command, step.op = .messageArrived command → MayArrive platform realText c command) ∧
    (∀ command rest, step.op = .handleFront → w.batch = command :: rest →
      command.payload = c.payload → C ⟨platform, step.inputs⟩ w) ∧
    w' = (execStep platform step w).2 ∧
    out = since (w.sentAcks (ackTopic platform)) (w'.sentAcks (ackTopic platform))

/-- The steps of the two services. -/
def acts (C : Ekinox.Env → Ekinox.World → Prop) : Acts Service.World (Bytes × Bool)
  | .backend => BackendActs platform realText c
  | .ekinox => EkinoxActs platform realText c C

/-- All acks with this id say the same. -/
def AcksAgree (id : Bytes) (acks : List (Bytes × Bool)) : Prop :=
  ∀ a ∈ acks, ∀ b ∈ acks, a.1 = id → b.1 = id → a.2 = b.2

/-- The acks that say what the backend says. -/
def Agreed : Set (Bytes × Bool) := {a | a.1 = c.id → (a.2 = true ↔ IsPing c.root)}

/-- Only commands that may arrive wait. -/
def Awaiting : (i : Service) → i.World → Prop
  | .backend, _ => True
  | .ekinox, w => ∀ command ∈ w.queued, MayArrive platform realText c command

variable {platform realText c}

theorem acksAgree_of_agreed {acks : List (Bytes × Bool)} (h : ∀ a ∈ acks, a ∈ Agreed platform c) :
    AcksAgree c.id acks := fun a ha b hb hida hidb =>
  Bool.eq_iff_iff.mpr ((h a ha hida).trans (h b hb hidb).symm)

/-- The backend sends nothing but what its handler returns. -/
theorem backendOp_sends (op : BackendOp) (now : ℤ) (throws : ℕ → Backend.Call → Bool)
    (w : Backend.World) :
    ∃ sent, backendSentAcks (ackTopic platform)
        (exec op.run (backendEnv platform realText now throws) w).2 =
        sent ++ backendSentAcks (ackTopic platform) w ∧
      ∀ a ∈ sent, ∃ msg res, op = .message msg ∧
        Backend.handleCmdPingOnly (jsonCpp platform realText) msg.payload = .ok res ∧
        a = (Backend.commandId (jsonCpp platform realText) msg.payload, res.ok) := by
  generalize henv : backendEnv platform realText now throws = env
  have hkept {w' : Backend.World}
      (h : backendSentAcks (ackTopic platform) w' = backendSentAcks (ackTopic platform) w) :
      ∃ sent, backendSentAcks (ackTopic platform) w' =
          sent ++ backendSentAcks (ackTopic platform) w ∧
        ∀ a ∈ sent, ∃ msg res, op = .message msg ∧
          Backend.handleCmdPingOnly (jsonCpp platform realText) msg.payload = .ok res ∧
          a = (Backend.commandId (jsonCpp platform realText) msg.payload, res.ok) :=
    ⟨[], h, fun _ ha => absurd ha List.not_mem_nil⟩
  cases op with
  | openSession =>
    have hcall (call : Backend.Call) :
        Respects env (Keeping (backendSentAcks (ackTopic platform))) (Backend.mqttCall call) := by
      have htook : Respects env (Keeping (backendSentAcks (ackTopic platform)))
          (modify fun w => { w with calls := w.calls + 1 } : Backend.M Unit) := ⟨fun _ => rfl⟩
      unfold Backend.mqttCall
      infer_instance
    have hpublish (m : Backend.Message) (hm : backendSentAck? (ackTopic platform) m = none) :
        Respects env (Keeping (backendSentAcks (ackTopic platform))) (Backend.publish m) := by
      have hput : Respects env (Keeping (backendSentAcks (ackTopic platform)))
          (modify fun w => { w with published := m :: w.published } : Backend.M Unit) :=
        ⟨fun _ => List.filterMap_cons_none hm⟩
      unfold Backend.publish
      infer_instance
    have hpresence (topic : Bytes) (now : ℤ) := hpublish ⟨topic, .presence now, 1, true⟩ rfl
    have hstatus (topic : Bytes) := hpublish ⟨topic, .status, 1, true⟩ rfl
    have hset : Respects env (Keeping (backendSentAcks (ackTopic platform)))
        (Backend.setConnected true) := ⟨fun _ => rfl⟩
    have hopen : Respects env (Keeping (backendSentAcks (ackTopic platform)))
        Backend.openSession := by
      unfold Backend.openSession Backend.publishPresenceOnline Backend.publishStatusRetained
      infer_instance
    exact hkept (hopen.keeps w)
  | closed => exact hkept rfl
  | message msg =>
    obtain ⟨topic, payload⟩ := msg
    subst henv
    by_cases htopic : topic = (backendEnv platform realText now throws).topics.cmd
    · subst htopic
      have hcmd : (backendEnv platform realText now throws).onCmd =
          some (Backend.handleCmdPingOnly (jsonCpp platform realText)) := rfl
      have hexec := Backend.exec_handleMessage (w := w) hcmd payload
      change ∃ sent, backendSentAcks _ (exec (Backend.handleMessage _) _ w).2 = _ ∧ _
      rw [hexec]
      cases hres : Backend.handleCmdPingOnly (jsonCpp platform realText) payload with
      | error e => exact hkept rfl
      | ok res =>
        dsimp only
        split_ifs with hthrows
        · exact hkept rfl
        · refine ⟨[(Backend.commandId (jsonCpp platform realText) payload, res.ok)], ?_, ?_⟩
          · exact List.filterMap_cons_some (if_pos rfl)
          · intro a ha
            exact ⟨_, res, rfl, hres, List.mem_singleton.mp ha⟩
    · change ∃ sent, backendSentAcks _ (exec (Backend.handleMessage _) _ w).2 = _ ∧ _
      rw [Backend.exec_handleMessage_ignored htopic]
      exact hkept rfl

/-- A command whose handler returns is acked unless the call throws. -/
theorem backendOp_sent {payload : Bytes} {res : Backend.CmdHandlerResult}
    (hres : Backend.handleCmdPingOnly (jsonCpp platform realText) payload = .ok res) (now : ℤ)
    (throws : ℕ → Backend.Call → Bool) {w : Backend.World} (hquiet : throws w.calls .publish = false) :
    let env := backendEnv platform realText now throws
    backendSentAcks (ackTopic platform) (exec (BackendOp.message ⟨env.topics.cmd, payload⟩).run env w).2 =
      [(Backend.commandId (jsonCpp platform realText) payload, res.ok)] ++
        backendSentAcks (ackTopic platform) w := by
  intro env
  have hcmd : env.onCmd = some (Backend.handleCmdPingOnly (jsonCpp platform realText)) := rfl
  change backendSentAcks _ (exec (Backend.handleMessage _) env w).2 = _
  rw [Backend.exec_handleMessage hcmd, hres]
  dsimp only
  have hreturns : ¬env.throws w.calls .publish = true := by
    change ¬throws w.calls .publish = true
    rw [hquiet]
    exact Bool.false_ne_true
  rw [if_neg hreturns]
  exact List.filterMap_cons_some (if_pos rfl)

/-- In harmony every ack with this id says what the backend says. -/
theorem acts_agreed (hreal : ∀ v, realText v ≠ bytes "ping") (i : Service) (w w' : i.World)
    (out : List (Bytes × Bool))
    (h : acts platform realText c (fun env w => Harmonious env c.root w) i w w' out)
    (hw : Awaiting platform realText c i w) :
    Awaiting platform realText c i w' ∧ ∀ a ∈ out, a ∈ Agreed platform c := by
  cases i with
  | backend =>
    obtain ⟨op, now, throws, harrive, rfl, rfl⟩ := h
    obtain ⟨sent, hsent, hall⟩ := backendOp_sends op now throws w
    rw [hsent, since_append]
    refine ⟨trivial, fun a ha hid => ?_⟩
    obtain ⟨msg, res, hop, hres, rfl⟩ := hall a ha
    rcases harrive msg hop with hpayload | hforeign
    · rw [hpayload] at hres
      exact handleCmdPingOnly_ok_iff hreal c hres
    · exact absurd hid hforeign.backend
  | ekinox =>
    obtain ⟨step, harrive, hharmony, rfl, rfl⟩ := h
    let env : Ekinox.Env := ⟨platform, step.inputs⟩
    obtain ⟨sent, hsent, hall⟩ := Op.run_sends env step.op w
    have hsent' : (execStep platform step w).2.sentAcks (ackTopic platform) =
        sent ++ w.sentAcks (ackTopic platform) := hsent
    rw [hsent', since_append]
    refine ⟨fun command hcommand => ?_, fun a ha hid => ?_⟩
    · rcases Op.run_queued env step.op w command hcommand with hold | hnew
      · exact hw command hold
      · exact harrive command hnew
    · obtain ⟨hop, command, rest, parsed, hbatch, hparse, rfl⟩ := hall a ha
      have hqueued : command ∈ w.queued := by
        rw [World.queued, hbatch]
        exact List.mem_cons_self
      rcases hw command hqueued with hpayload | hforeign
      · rw [hpayload] at hparse
        obtain rfl := Except.ok.inj (hparse.symm.trans c.parsed)
        exact (harmonious_iff c).mp (hharmony command rest hop hbatch hpayload)
      · exact absurd hid (hforeign.ekinox parsed hparse)

variable (realText c) in
/-- The backend opens a session unless it has one. -/
theorem backend_opens (net : Net Service.World (Bytes × Bool)) :
    ∃ net', ReflTransGen (Step (acts platform realText c fun _ _ => True)) net net' ∧
      net'.state .ekinox = net.state .ekinox ∧
      Backend.World.connected (net'.state .backend) = true := by
  by_cases hopen : Backend.World.connected (net.state .backend) = true
  · exact ⟨net, .refl, rfl, hopen⟩
  let v : Backend.World :=
    (exec Backend.openSession (backendEnv platform realText 0 fun _ _ => false) (net.state .backend)).2
  have hopens : acts platform realText c (fun _ _ => True) .backend (net.state .backend) v _ :=
    ⟨.openSession, 0, fun _ _ => false, nofun, rfl, rfl⟩
  refine ⟨_, .single (.acts .backend hopens), Function.update_of_ne (by decide) _ _, ?_⟩
  change Backend.World.connected (Function.update net.state .backend v .backend) = true
  rw [Function.update_self]
  rfl

/-- Out of harmony, the two acks may arrive next to each other. -/
theorem conflict_arrives (hreal : ∀ v, realText v ≠ bytes "ping") (net : Net Service.World (Bytes × Bool))
    {inputs : Inputs} {command : CommandMessage} {rest : List CommandMessage}
    (hbatch : (net.state .ekinox).batch = command :: rest) (hpayload : command.payload = c.payload)
    (hconn : (net.state .ekinox).conn.connected = true) (hquiet : inputs.Undisturbed)
    (hconflict : ¬Harmonious ⟨platform, inputs⟩ c.root (net.state .ekinox)) :
    ∃ net', ReflTransGen (Step (acts platform realText c fun _ _ => True)) net net' ∧
      ¬AcksAgree c.id net'.arrived := by
  -- in the session that is open then, the backend reads the command as well
  obtain ⟨net₁, hopened, hsame, -⟩ := backend_opens realText c net
  rw [← hsame] at hbatch hconn hconflict
  let env : Ekinox.Env := ⟨platform, inputs⟩
  let w : Ekinox.World := net₁.state .ekinox
  let v : Backend.World := net₁.state .backend
  let verdict := env.verdict (admitParsed (some c.root)).command w
  have hekinox : acts platform realText c (fun _ _ => True) .ekinox w
      (execStep platform ⟨.handleFront, inputs⟩ w).2 [(c.id, verdict)] := by
    refine ⟨⟨.handleFront, inputs⟩, nofun, fun _ _ _ _ _ => trivial, rfl, ?_⟩
    have hsent : (execStep platform ⟨.handleFront, inputs⟩ w).2.sentAcks (ackTopic platform) =
        [(c.id, verdict)] ++ w.sentAcks (ackTopic platform) := by
      let I (w' : Ekinox.World) : Prop :=
        w'.sentAcks (ackTopic platform) = [(c.id, verdict)] ++ w.sentAcks (ackTopic platform)
      refine exec_of_wp (I := I) (handleFront_wp (fun hidle => ?_) fun command' rest' hbatch' => ?_)
      · exact absurd (hidle.symm.trans hbatch) nofun
      · obtain ⟨rfl, rfl⟩ := List.cons.inj (hbatch'.symm.trans hbatch)
        have hparse : env.parse command'.payload = .ok (some c.root) := by
          rw [hpayload]
          exact c.parsed
        refine wp_mono (handleCommandMessage_sent hquiet hconn hparse) (fun _ w' hw' => ?_)
          fun _ _ => False.elim
        rw [ekinox_commandId c] at hw'
        exact hw'
    rw [hsent, since_append]
  obtain ⟨res, hres⟩ := (Backend.handleCmdPingOnly_returns_iff (jsonCpp platform realText) c.payload).mpr
    ⟨_, c.parsed, fun root hroot => by cases hroot; exact typeReadable_of_conflict c hconflict⟩
  have hbackend : ∃ v', acts platform realText c (fun _ _ => True) .backend v v' [(c.id, res.ok)] := by
    refine ⟨_, .message ⟨(backendEnv platform realText 0 fun _ _ => false).topics.cmd, c.payload⟩, 0,
      fun _ _ => false, ?_, rfl, ?_⟩
    · rintro msg ⟨rfl⟩
      exact .inl rfl
    · have hsent := backendOp_sent hres 0 (fun _ _ => false) (w := v) rfl
      rw [backend_commandId c] at hsent
      rw [hsent, since_append]
  obtain ⟨v', hbackend⟩ := hbackend
  obtain ⟨net', hrun, hfirst, hsecond⟩ := arrive_both (by decide) hekinox hbackend
    (List.mem_singleton_self _) (List.mem_singleton_self _)
  refine ⟨net', hopened.trans hrun, fun hagree => hconflict ((harmonious_iff c).mpr ?_)⟩
  have hsame : verdict = res.ok := hagree _ hfirst _ hsecond rfl rfl
  rw [← handleCmdPingOnly_ok_iff hreal c hres, ← hsame]

/-- A run of the ekinox service is a run of both. -/
theorem ekinox_runs {steps : List Step} {w' : Ekinox.World}
    (hsteps : ∀ s ∈ steps, ∀ command, s.op = .messageArrived command →
      MayArrive platform realText c command)
    (net : Net Service.World (Bytes × Bool))
    (hrun : execSteps platform steps (net.state .ekinox) = (.ok (), w')) :
    ∃ net', ReflTransGen (TopicModel.Step (acts platform realText c fun _ _ => True)) net net' ∧
      net'.state .ekinox = w' := by
  induction steps generalizing net with
  | nil => exact ⟨net, .refl, (Prod.mk.inj hrun).2⟩
  | cons s steps ih =>
    have hfirst : acts platform realText c (fun _ _ => True) .ekinox (net.state .ekinox)
        (execStep platform s (net.state .ekinox)).2 _ :=
      ⟨s, hsteps s List.mem_cons_self, fun _ _ _ _ _ => trivial, rfl, rfl⟩
    obtain ⟨net₁, hstep, hstate⟩ : ∃ net₁,
        TopicModel.Step (acts platform realText c fun _ _ => True) net net₁ ∧
          net₁.state .ekinox = (execStep platform s (net.state .ekinox)).2 := exists_step hfirst
    rw [execSteps, execAll] at hrun
    rcases hexec : execStep platform s (net.state .ekinox) with ⟨e | ⟨⟩, w₁⟩
    · rw [hexec] at hrun
      cases (Prod.mk.inj hrun).1
    · rw [hexec] at hrun hstate
      have hlater : execSteps platform steps (net₁.state .ekinox) = (.ok (), w') := by
        rw [hstate]
        exact hrun
      obtain ⟨net', hrest, hend⟩ := ih (fun t ht => hsteps t (List.mem_cons_of_mem s ht)) net₁ hlater
      exact ⟨net', (ReflTransGen.single hstep).trans hrest, hend⟩

end Runs

/-- Both services have been started. -/
def started (platform : Platform) (start : Inputs) : Net Service.World (Bytes × Bool) where
  state
    | .backend => {}
    | .ekinox => initialWorld platform.config start
  published := []
  arrived := []

/-- In every run whose steps meet `C` the acks that have arrived with this id say the same. -/
def ServicesAgree (platform : Platform) (realText : Option ℚ → Bytes) (c : CommandText platform)
    (C : Ekinox.Env → Ekinox.World → Prop) (start : Inputs) : Prop :=
  ∀ net, ReflTransGen (TopicModel.Step (acts platform realText c C)) (started platform start) net →
    AcksAgree c.id net.arrived

/-- The services agree in every run in which the ekinox service handles the command in harmony.
Wherever it handles the command out of harmony, the run may go on with two acks that differ. -/
theorem services_agree (platform : Platform) (realText : Option ℚ → Bytes) (c : CommandText platform)
    (hreal : ∀ v, realText v ≠ bytes "ping") :
    (∀ start, ServicesAgree platform realText c (fun env w => Harmonious env c.root w) start) ∧
    ∀ (net : Net Service.World (Bytes × Bool)) (inputs : Inputs) (command : CommandMessage)
      (rest : List CommandMessage), (net.state .ekinox).batch = command :: rest →
      command.payload = c.payload → (net.state .ekinox).conn.connected = true →
      inputs.Undisturbed → ¬Harmonious ⟨platform, inputs⟩ c.root (net.state .ekinox) →
      ∃ net', ReflTransGen (TopicModel.Step (acts platform realText c fun _ _ => True)) net net' ∧
        ¬AcksAgree c.id net'.arrived := by
  refine ⟨fun start net hrun => ?_, fun net inputs command rest hbatch hpayload hconn hquiet => ?_⟩
  · have hstart : Kept (Awaiting platform realText c) (Agreed platform c) (started platform start) := by
      refine ⟨fun i => ?_, nofun, nofun⟩
      cases i with
      | backend => trivial
      | ekinox => exact nofun
    exact acksAgree_of_agreed (hstart.steps (acts_agreed hreal) hrun).arrived
  · exact conflict_arrives hreal net hbatch hpayload hconn hquiet

/-- How jsoncpp writes zero. -/
def benchRealText : Option ℚ → Bytes := fun _ => bytes "0.0"

theorem benchRealText_ne (v : Option ℚ) : benchRealText v ≠ bytes "ping" := by
  unfold benchRealText
  decide

def benchPing : CommandText benchPlatform where
  payload := benchPayload (bytes "ping")
  root := benchCommand (bytes "ping")
  id := bytes "1"
  parsed := rfl
  isObject := rfl
  id_eq := rfl
  id_ne := by decide

theorem ping_agreed : ServicesAgree benchPlatform benchRealText benchPing
    (fun env w => Harmonious env benchPing.root w) benchHealthy :=
  (services_agree benchPlatform benchRealText benchPing benchRealText_ne).1 benchHealthy

def benchStatus : CommandText benchPlatform where
  payload := benchPayload (bytes "logger.status")
  root := benchCommand (bytes "logger.status")
  id := bytes "1"
  parsed := rfl
  isObject := rfl
  id_eq := rfl
  id_ne := by decide

/-- The backend does not know the command that the ekinox service carries out. -/
theorem status_contradicted :
    ¬ServicesAgree benchPlatform benchRealText benchStatus (fun _ _ => True) benchHealthy := by
  intro hagree
  let steps : List Step := [⟨.ensureConnection (milliseconds 1000), benchHealthy⟩,
    ⟨.messageArrived ⟨bytes "ironsoft/uav/d1/cmd", benchStatus.payload⟩, benchHealthy⟩,
    ⟨.swapCommands, benchHealthy⟩]
  let w : Ekinox.World :=
    (execSteps benchPlatform steps (initialWorld benchPlatform.config benchHealthy)).2
  have hsteps : ∀ s ∈ steps, ∀ command, s.op = .messageArrived command →
      MayArrive benchPlatform benchRealText benchStatus command := by
    intro s hs command hop
    simp only [steps, List.mem_cons, List.not_mem_nil, or_false] at hs
    rcases hs with rfl | rfl | rfl <;> cases hop
    exact .inl rfl
  have hw : execSteps benchPlatform steps (initialWorld benchPlatform.config benchHealthy) =
      (.ok (), w) := by rfl
  obtain ⟨net, hrun, hstate⟩ := ekinox_runs hsteps (started benchPlatform benchHealthy) hw
  have hbatch : (net.state .ekinox).batch =
      [⟨bytes "ironsoft/uav/d1/cmd", benchStatus.payload⟩] := by
    rw [hstate]
    rfl
  have hconn : (net.state .ekinox).conn.connected = true := by
    rw [hstate]
    rfl
  have hconflict : ¬Harmonious ⟨benchPlatform, benchHealthy⟩ benchStatus.root (net.state .ekinox) := by
    intro h
    have hother : ¬IsPing benchStatus.root := fun hping => absurd (Json.str.inj hping) (by decide)
    have hfails := h.other hother
    rw [hstate] at hfails
    revert hfails
    decide +kernel
  have hquiet : benchHealthy.Undisturbed := ⟨fun _ _ => rfl, fun _ => ⟨_, rfl⟩⟩
  obtain ⟨net', hrun', hdiffer⟩ :=
    conflict_arrives benchRealText_ne net hbatch rfl hconn hquiet hconflict
  exact hdiffer (hagree net' (hrun.trans hrun'))

end Ironsoft.Services
