import Ironsoft.BrokerModel
import Ironsoft.EkinoxOutcomes
import Ironsoft.EkinoxPublishes

/-!
# The service and its broker

The service opens its sessions without a will. What the broker shows of a service whose session has
ended is therefore what the service announced before it, and a service that was online then goes on
being shown as online.
-/
namespace Ironsoft.Ekinox
open Effect BrokerModel

set_option synthInstance.maxSize 400000
set_option synthInstance.maxHeartbeats 200000

structure SslOptions where
  trustStore : Option Bytes := none

/-- `mqtt::connect_options`, which has no will unless one is set. -/
structure ConnectOptions where
  cleanSession : Bool
  automaticReconnect : Bool
  keepAliveInterval : ℕ
  userName : Option Bytes := none
  password : Option Bytes := none
  ssl : Option SslOptions := none
  will : Option (Letter Bytes Body) := none

/-- The options the constructor sets. -/
def connectOptions (config : EkinoxConfig) : ConnectOptions :=
  let optional (text : Bytes) : Option Bytes := if text = [] then none else some text
  { cleanSession := true
    automaticReconnect := false
    keepAliveInterval := 20
    userName := optional config.mqtt.username
    password := optional config.mqtt.password
    ssl := if config.mqtt.tlsEnabled then some ⟨optional config.mqtt.caFile⟩ else none }

def Event.signal? (config : EkinoxConfig) : Event → Option (Signal Bytes Body)
  | .mqtt .connect false => some (.opened (connectOptions config).will)
  | .mqtt (.publish m) false => some (.published ⟨m.topic, m.body, m.retained⟩)
  | .mqtt .disconnect false => some .closed
  | _ => none

/-- The signals so far, oldest first. -/
def World.signals (config : EkinoxConfig) (w : World) : List (Signal Bytes Body) :=
  (w.heard (Event.signal? config)).reverse

/-- The message has the state `online`. -/
def Body.isOnline (body : Body) : Bool := (body.toJson.get (bytes "state")).asString = bytes "online"

theorem isOnline_presence (p : PresencePayload) : (Body.presence p).isOnline = p.online := by
  obtain ⟨online, reason, timestamp⟩ := p
  cases online
  · exact decide_eq_false (by decide : bytes "offline" ≠ bytes "online")
  · exact decide_eq_true rfl

/-- Without a connection presence is offline. -/
def OfflineApart (w : World) : Prop := w.conn.connected = false → w.presence.presenceOnline = false

/-- What the broker gets on the way from `w` to `w'` takes it from the presence of the one to the
presence of the other, and sessions are opened and closed while presence is offline. -/
def Tells (config : EkinoxConfig) (w w' : World) : Prop :=
  OfflineApart w → OfflineApart w' ∧ ∃ sent, w'.signals config = w.signals config ++ sent ∧
    Careful config.topics.presence Body.isOnline w.presence.presenceOnline sent ∧
    notedAll config.topics.presence Body.isOnline w.presence.presenceOnline sent =
      w'.presence.presenceOnline

section Frames

variable (config : EkinoxConfig)

instance : IsPreorder World (Tells config) where
  refl w hw := ⟨hw, [], (List.append_nil _).symm, trivial, rfl⟩
  trans w₁ w₂ w₃ h h' hw := by
    obtain ⟨hw₂, sent, hsent, hcareful, hnoted⟩ := h hw
    obtain ⟨hw₃, sent', hsent', hcareful', hnoted'⟩ := h' hw₂
    refine ⟨hw₃, sent ++ sent', ?_, ?_, ?_⟩
    · rw [hsent', hsent, List.append_assoc]
    · rw [careful_append, hnoted]
      exact ⟨hcareful, hcareful'⟩
    · rw [notedAll_append, hnoted, hnoted']

variable {config}

theorem Tells.of_kept {w w' : World} (hconn : w'.conn = w.conn)
    (honline : w'.presence.presenceOnline = w.presence.presenceOnline)
    (hheard : w'.heard (Event.signal? config) = w.heard (Event.signal? config)) :
    Tells config w w' := by
  intro hw
  refine ⟨fun hc => ?_, [], ?_, trivial, honline.symm⟩
  · rw [honline]
    exact hw (hconn ▸ hc)
  · rw [World.signals, hheard, List.append_nil]
    rfl

/-- A signal is sent and presence follows it. -/
theorem Tells.of_sent {w w' : World} {s : Signal Bytes Body}
    (hheard : w'.heard (Event.signal? config) = s :: w.heard (Event.signal? config))
    (hcareful : s.Careful w.presence.presenceOnline)
    (hnoted : noted config.topics.presence Body.isOnline w.presence.presenceOnline s =
      w'.presence.presenceOnline) (hw' : OfflineApart w') : Tells config w w' := by
  refine fun _ => ⟨hw', [s], ?_, ⟨hcareful, trivial⟩, hnoted⟩
  rw [World.signals, hheard, List.reverse_cons]
  rfl

/-- Leaving an event in the trace changes neither the connection nor presence. -/
theorem Tells.of_said {w : World} {e : Event}
    (h : ∀ s, e.signal? config = some s → s.Careful w.presence.presenceOnline ∧
      noted config.topics.presence Body.isOnline w.presence.presenceOnline s =
        w.presence.presenceOnline) : Tells config w (w.said e) := by
  have hheard := World.heard_said (Event.signal? config) e w
  cases hs : e.signal? config with
  | none =>
    rw [hs] at hheard
    exact .of_kept rfl rfl hheard
  | some s =>
    rw [hs] at hheard
    obtain ⟨hcareful, hnoted⟩ := h s hs
    intro hw
    exact Tells.of_sent hheard hcareful hnoted hw hw

variable (config)

theorem emits_tells {e : Event}
    (h : ∀ s, e.signal? config = some s → (∀ flag, s.Careful flag) ∧
      ∀ flag, noted config.topics.presence Body.isOnline flag s = flag) :
    Emits (Tells config) e :=
  ⟨fun _ => .of_said fun s hs => ⟨(h s hs).1 _, (h s hs).2 _⟩⟩

/-- What is published elsewhere, or not retained, says nothing of presence. -/
theorem emits_tells_publish {m : Message}
    (hm : ¬(m.topic = config.topics.presence ∧ m.retained = true)) (threw : Bool) :
    Emits (Tells config) (.mqtt (.publish m) threw) := by
  refine emits_tells config fun s hs => ?_
  cases threw with
  | true => cases hs
  | false =>
    obtain rfl := Option.some.inj hs
    exact ⟨fun _ => trivial, fun _ => if_neg hm⟩

instance : IgnoresReadings (Tells config) :=
  ⟨fun _ => .of_kept rfl rfl rfl, fun _ => .of_kept rfl rfl rfl, fun _ => .of_kept rfl rfl rfl,
    fun _ => .of_kept rfl rfl rfl, fun _ => .of_kept rfl rfl rfl⟩
instance : IgnoresReplies (Tells config) := ⟨fun _ => .of_kept rfl rfl rfl⟩
instance : atLink.Ignored (Tells config) := ⟨fun _ _ => .of_kept rfl rfl rfl⟩
instance : atLogger.Ignored (Tells config) := ⟨fun _ _ => .of_kept rfl rfl rfl⟩
instance : atError.Ignored (Tells config) := ⟨fun _ _ => .of_kept rfl rfl rfl⟩
instance : atMarker.Ignored (Tells config) := ⟨fun _ _ => .of_kept rfl rfl rfl⟩
instance : atRetry.Ignored (Tells config) := ⟨fun _ _ => .of_kept rfl rfl rfl⟩
instance : atRest.Ignored (Tells config) := ⟨fun _ _ => .of_kept rfl rfl rfl⟩
instance : atSensor.Ignored (Tells config) := ⟨fun _ _ => .of_kept rfl rfl rfl⟩
instance : atTimers.Ignored (Tells config) := ⟨fun _ _ => .of_kept rfl rfl rfl⟩
instance : atPending.Ignored (Tells config) := ⟨fun _ _ => .of_kept rfl rfl rfl⟩
instance : atBatch.Ignored (Tells config) := ⟨fun _ _ => .of_kept rfl rfl rfl⟩
instance (e : Event) [h : Unheard (Event.signal? config) e] : Emits (Tells config) e :=
  emits_tells config fun s hs => absurd (h.none.symm.trans hs) (by simp)
instance (topic : Bytes) (threw : Bool) :
    Unheard (Event.signal? config) (.mqtt (.subscribe topic) threw) := ⟨rfl⟩
instance (a : Ack) : Unheard (Event.signal? config) (.publishAck a) := ⟨rfl⟩
instance (r : RestRequest) : Unheard (Event.signal? config) (.restRequest r) := ⟨rfl⟩
instance (r : LoggerResult) (t : ℤ) : Unheard (Event.signal? config) (.restResult r t) := ⟨rfl⟩
instance (m : Bytes) : Unheard (Event.signal? config) (.errorSet m) := ⟨rfl⟩
instance (e : SbgEvent) : Unheard (Event.signal? config) (.sbg e) := ⟨rfl⟩
instance : Unheard (Event.signal? config) .sessionOpened := ⟨rfl⟩
instance (t : ℤ) : Unheard (Event.signal? config) (.linkAlive t) := ⟨rfl⟩
instance (c : CommandMessage) : Unheard (Event.signal? config) (.commandArrived c) := ⟨rfl⟩
instance (c : CommandMessage) : Unheard (Event.signal? config) (.commandHandled c) := ⟨rfl⟩
instance : IgnoresReadings (Keeping World.presence) :=
  ⟨fun _ => rfl, fun _ => rfl, fun _ => rfl, fun _ => rfl, fun _ => rfl⟩
instance (e : Event) : Emits (Keeping World.presence) e := ⟨fun _ => rfl⟩
instance (s : StatusPayload) (threw : Bool) :
    Emits (Tells config) (.mqtt (.publish ⟨config.topics.status, .status s, 1, true⟩) threw) :=
  emits_tells_publish config (fun h => status_topic_ne_presence config h.1) threw
instance (n m : ℤ) (threw : Bool) : Emits (Tells config)
    (.mqtt (.publish ⟨config.topics.heartbeat, .heartbeat n m, 0, false⟩) threw) :=
  emits_tells_publish config (fun h => Bool.false_ne_true h.2) threw
instance (topic : Bytes) (a : Ack) (ts : ℤ) (threw : Bool) :
    Emits (Tells config) (.mqtt (.publish ⟨topic, .ack a ts, 1, false⟩) threw) :=
  emits_tells_publish config (fun h => Bool.false_ne_true h.2) threw

end Frames

section Service

variable (env : Env)

/-- An announcement tells what it announces. -/
theorem publishPresence_tells {online : Bool} {w : World}
    (honline : online = true → w.conn.connected = true) (reason : Bytes) :
    wp (publishPresence online reason) env
      (fun _ w' => Tells env.config w w' ∧ w'.conn = w.conn ∧ w'.presence.presenceOnline = online)
      (fun _ w' => Tells env.config w w') w := by
  rw [wp_publishPresence]
  split_ifs with hoff hrate hthrew
  · have hdown : online = false := by
      by_contra hup
      exact Bool.false_ne_true (hoff.symm.trans (honline (eq_true_of_ne_false hup)))
    subst hdown
    refine ⟨fun hw => ⟨fun _ => rfl, [], (List.append_nil _).symm, trivial, hw hoff⟩, rfl, rfl⟩
  · exact ⟨.of_kept rfl rfl rfl, rfl, hrate.1⟩
  · exact .of_kept rfl rfl rfl
  · refine ⟨Tells.of_sent rfl trivial ?_ fun hc => absurd hc hoff, rfl, rfl⟩
    exact (if_pos ⟨rfl, rfl⟩).trans (isOnline_presence _)

instance (nowMs : ℤ) (reason : Bytes) :
    Respects env (Tells env.config) (updatePresenceState nowMs reason) := by
  rw [respects_iff_wp]
  intro w
  simp only [updatePresenceState, wp_bind, wp_get, wp_read]
  have hconn (hon : shouldOnline env.config w nowMs = true) : w.conn.connected = true :=
    (shouldOnline_eq_true.mp hon).1
  exact wp_mono (publishPresence_tells env hconn _) (fun _ _ h => h.1) fun _ _ => id

instance : Respects env (Tells env.config) selfTest := inferInstance

/-- The session is taken up while presence is offline. -/
theorem startSession_tells {w : World} (hoff : w.presence.presenceOnline = false) :
    wp startSession env (fun _ w' => Tells env.config w w') (fun _ w' => Tells env.config w w') w := by
  simp only [startSession, resetSession, setNextRestPoll, wp_bind, wp_monoNow, wp_read, Part.wp_update]
  generalize hw₁ : Part.set atTimers _ _ = w₁
  have htold : Tells env.config w w₁ := by
    rw [← hw₁]
    exact fun _ => ⟨fun _ => rfl, [], (List.append_nil _).symm, trivial, hoff⟩
  have hrest : Respects env (Tells env.config) (do
      setState .connecting
      updatePresenceState (← monoNow) (bytes "connecting")
      selfTest) := inferInstance
  have hafter := respects_iff_wp.mp hrest w₁
  rw [wp_bind] at hafter
  exact wp_mono hafter (fun _ v h => wp_mono h (fun _ _ => trans_of _ htold) fun _ _ => trans_of _ htold)
    fun _ _ => trans_of _ htold

theorem connectOnce_tells {w : World} (hoff : w.presence.presenceOnline = false) :
    wp connectOnce env (fun _ w' => Tells env.config w w') (fun _ w' => Tells env.config w w') w := by
  unfold connectOnce
  refine wp_catchMqtt_respects env (Tells env.config) inferInstance ?_
  simp only [setState, wp_bind, Part.wp_update, wp_mqttCall, wp_read]
  split_ifs
  · exact .of_kept rfl rfl rfl
  generalize hw₁ : World.said _ (.mqtt .connect false) = w₁
  have hconnected : Tells env.config w w₁ := by
    intro hw
    refine Tells.of_sent (s := .opened none) ?_ ?_ ?_ ?_ hw
    · rw [← hw₁]
      rfl
    · exact ⟨rfl, hoff⟩
    · rw [← hw₁]
      rfl
    · rw [← hw₁]
      exact hw
  have hoff₁ : w₁.presence.presenceOnline = false := by
    rw [← hw₁]
    exact hoff
  have hsubscribe (topic : Bytes) (v : World) :
      wp (subscribeAndLog topic) env
        (fun _ v' => Tells env.config v v' ∧ v'.presence = v.presence)
        (fun _ v' => Tells env.config v v') v := by
    have hkeeps : Respects env (Keeping World.presence) (subscribeAndLog topic) := inferInstance
    have htells : Respects env (Tells env.config) (subscribeAndLog topic) := inferInstance
    exact wp_mono (wp_and (respects_iff_wp.mp htells v) (respects_iff_wp.mp hkeeps v))
      (fun _ _ => id) fun _ _ => And.left
  refine wp_mono (hsubscribe _ w₁) (fun _ w₂ h₂ => ?_) fun _ _ => trans_of _ hconnected
  have htold₂ := trans_of _ hconnected h₂.1
  rw [wp_bind]
  refine wp_mono (hsubscribe _ w₂) (fun _ w₃ h₃ => ?_) fun _ _ => trans_of _ htold₂
  have htold₃ := trans_of _ htold₂ h₃.1
  have hoff₃ : w₃.presence.presenceOnline = false := by
    rw [h₃.2, h₂.2]
    exact hoff₁
  rw [wp_bind]
  exact wp_mono (startSession_tells env hoff₃) (fun _ _ => trans_of _ htold₃)
    fun _ _ => trans_of _ htold₃

instance (now : TimePoint) : Respects env (Tells env.config) (ensureConnection now) := by
  rw [respects_iff_wp]
  intro w
  by_cases hw : OfflineApart w
  · rw [wp_ensureConnection]
    have htold : Tells env.config w (w.attempting now) := .of_kept rfl rfl rfl
    split_ifs with hconn hlate
    · exact refl_of _ w
    · exact htold
    have hoff : (w.attempting now).presence.presenceOnline = false :=
      hw (eq_false_of_ne_true hconn)
    refine wp_mono (connectOnce_tells env hoff) (fun connected v h => ?_) fun _ _ => trans_of _ htold
    exact trans_of _ (trans_of _ htold h) (.of_kept rfl rfl rfl)
  · exact wp_of_forall (fun _ _ h => absurd h hw) fun _ _ h => absurd h hw

theorem disconnect_tells {w : World} (hoff : w.presence.presenceOnline = false) :
    wp disconnect env (fun _ w' => Tells env.config w w') (fun _ w' => Tells env.config w w') w := by
  rw [wp_disconnect]
  split_ifs
  · exact .of_kept rfl rfl rfl
  · exact Tells.of_sent (s := .closed) rfl hoff rfl fun _ => hoff
  · exact refl_of _ w

/-- Offline is announced before the session is closed. -/
instance : Respects env (Tells env.config) shutdown := by
  have hstatus : Respects env (Keeping World.presence) publishStatus := inferInstance
  have htold : Respects env (Tells env.config) publishStatus := inferInstance
  have hclosing : Respects env (Tells env.config) (do
      publishPresence false (bytes "shutdown")
      publishStatus
      disconnect) := by
    rw [respects_iff_wp]
    intro w
    rw [wp_bind]
    have hoffline : false = true → w.conn.connected = true := fun h => absurd h Bool.false_ne_true
    refine wp_mono (publishPresence_tells env hoffline _) (fun _ w₁ h₁ => ?_) fun _ _ => id
    rw [wp_bind]
    refine wp_mono (wp_and (respects_iff_wp.mp htold w₁) (respects_iff_wp.mp hstatus w₁))
      (fun _ w₂ h₂ => ?_) fun _ _ h₂ => trans_of _ h₁.1 h₂.1
    have hoff : w₂.presence.presenceOnline = false := by
      rw [h₂.2]
      exact h₁.2.2
    have h := trans_of _ h₁.1 h₂.1
    exact wp_mono (disconnect_tells env hoff) (fun _ _ => trans_of _ h) fun _ _ => trans_of _ h
  unfold shutdown
  infer_instance

/-- All that the service does, but for losing its connection, tells of its presence. -/
theorem Op.run_tells {op : Op} (hop : op ≠ .connectionLost) :
    Respects env (Tells env.config) op.run := by
  cases op
  case connectionLost => exact absurd rfl hop
  all_goals
    unfold Op.run
    dsimp only
    infer_instance

/-- A lost connection leaves presence offline, and the broker hears nothing of it. -/
theorem connectionLost_silent (w : World) :
    wp connectionLost env
      (fun _ w' => w'.signals env.config = w.signals env.config ∧ w'.presence.presenceOnline = false)
      (fun _ _ => False) w := by
  refine connectionLost_drops fun w₁ nowMs h => ?_
  have hoff : shouldOnline env.config w₁ nowMs = false := by
    simp [shouldOnline, h.connected]
  have hheard : w₁.heard (Event.signal? env.config) = w.heard (Event.signal? env.config) :=
    h.heard _ rfl rfl
  simp only [updatePresenceState, wp_bind, wp_get, wp_read, hoff]
  rw [wp_publishPresence, if_pos h.connected]
  refine ⟨congrArg List.reverse ?_, rfl⟩
  exact World.heard_noticeDeferred.trans hheard

end Service

/-- The session breaks when the connection is lost. -/
def Op.broken : Op → List (Signal Bytes Body)
  | .connectionLost => [.broken]
  | _ => []

/-- An exception that leaves `run` is the end of the process. -/
def died : Except Exn Unit → List (Signal Bytes Body)
  | .ok _ => []
  | .error _ => [.broken]

/-- What the broker gets of a step, if nothing else breaks the session. -/
def Step.signals (platform : Platform) (s : Step) (w : World) : List (Signal Bytes Body) :=
  let r := execStep platform s w
  s.op.broken ++ (r.2.signals platform.config).drop (w.signals platform.config).length ++ died r.1

/-- A step, and after how many of its signals the session breaks. The process may have died there,
or it goes on without having noticed. -/
structure LossyStep extends Step where
  cut : Option ℕ

def LossyStep.signals (platform : Platform) (s : LossyStep) (w : World) : List (Signal Bytes Body) :=
  match s.cut with
  | none => s.toStep.signals platform w
  | some k => cutAfter k (s.toStep.signals platform w)

def brokeredStep (platform : Platform) (s : LossyStep) (p : World × Broker Bytes Body) :
    Except Exn Unit × (World × Broker Bytes Body) :=
  let r := execStep platform s.toStep p.1
  (r.1, r.2, p.2.run (s.signals platform p.1))

/-- After each signal of the step, a service without a session is not shown as online. -/
def StaysTruthful (platform : Platform) (s : LossyStep) (p : World × Broker Bytes Body) : Prop :=
  ∀ signals, signals <+: s.signals platform p.1 →
    Truthful platform.config.topics.presence Body.isOnline (p.2.run signals)

/-- Whenever the session breaks, presence is offline, counting what the step has announced. -/
def EndsOffline (platform : Platform) (s : LossyStep) (p : World × Broker Bytes Body) : Prop :=
  EndsDown platform.config.topics.presence Body.isOnline p.1.presence.presenceOnline p.2
    (s.signals platform p.1)

/-- The broker shows what the service thinks, as long as there is a session. -/
structure Brokered (config : EkinoxConfig) (p : World × Broker Bytes Body) : Prop where
  apart : OfflineApart p.1
  linked : Linked config.topics.presence Body.isOnline p.1.presence.presenceOnline p.2

section Runs

theorem brokered_initial (config : EkinoxConfig) (inputs : Inputs) :
    Brokered config (initialWorld config inputs, .empty) :=
  ⟨fun _ => rfl, linked_of_no_session rfl rfl _⟩

variable (platform : Platform)

/-- A lost connection is a broken session with no more presence. -/
theorem Step.signals_connectionLost (inputs : Inputs) (w : World) :
    Step.signals platform ⟨.connectionLost, inputs⟩ w = [.broken] ∧
      (execStep platform ⟨.connectionLost, inputs⟩ w).2.presence.presenceOnline = false := by
  have h := connectionLost_silent ⟨platform, inputs⟩ w
  revert h
  unfold Step.signals execStep Op.run wp
  rcases exec connectionLost ⟨platform, inputs⟩ w with ⟨e | u, w'⟩
  · exact False.elim
  · rintro ⟨hsignals, hoff⟩
    refine ⟨?_, hoff⟩
    dsimp only
    rw [hsignals, List.drop_length]
    rfl

/-- All other steps tell of presence before they break anything. -/
theorem Step.signals_tell {s : Step} (hop : s.op ≠ .connectionLost) {w : World} (hw : OfflineApart w) :
    OfflineApart (execStep platform s w).2 ∧ ∃ sent,
      s.signals platform w = sent ++ died (execStep platform s w).1 ∧
      Careful platform.config.topics.presence Body.isOnline w.presence.presenceOnline sent ∧
      notedAll platform.config.topics.presence Body.isOnline w.presence.presenceOnline sent =
        (execStep platform s w).2.presence.presenceOnline := by
  have htells : Tells platform.config w (execStep platform s w).2 :=
    (Op.run_tells ⟨platform, s.inputs⟩ hop).related w
  obtain ⟨hw', sent, hsent, hcareful, hnoted⟩ := htells hw
  refine ⟨hw', sent, ?_, hcareful, hnoted⟩
  have hkept : s.op.broken = [] := by
    cases hs : s.op
    case connectionLost => exact absurd hs hop
    all_goals rfl
  unfold Step.signals
  dsimp only
  rw [hkept, hsent, List.drop_left]
  rfl

theorem careful_died (flag : Bool) (left : Except Exn Unit) :
    Careful platform.config.topics.presence Body.isOnline flag (died left) := by
  cases left with
  | ok => trivial
  | error => exact ⟨trivial, trivial⟩

theorem notedAll_died (flag : Bool) (left : Except Exn Unit) :
    notedAll platform.config.topics.presence Body.isOnline flag (died left) = flag := by
  cases left <;> rfl

theorem Step.signals_careful (s : Step) {w : World} (hw : OfflineApart w) :
    Careful platform.config.topics.presence Body.isOnline w.presence.presenceOnline
      (s.signals platform w) := by
  by_cases hop : s.op = .connectionLost
  · obtain ⟨op, inputs⟩ := s
    subst hop
    rw [(Step.signals_connectionLost platform inputs w).1]
    exact ⟨trivial, trivial⟩
  · obtain ⟨-, sent, hsignals, hcareful, -⟩ := Step.signals_tell platform hop hw
    rw [hsignals]
    exact careful_append.mpr ⟨hcareful, careful_died platform _ _⟩

theorem LossyStep.signals_careful (s : LossyStep) {w : World} (hw : OfflineApart w) :
    Careful platform.config.topics.presence Body.isOnline w.presence.presenceOnline
      (s.signals platform w) := by
  have hcareful := s.toStep.signals_careful platform hw
  unfold LossyStep.signals
  cases s.cut with
  | none => exact hcareful
  | some k => exact hcareful.cutAfter k

variable {platform}

/-- The truth of a step depends on nothing but how the session ends in it. -/
theorem staysTruthful_iff {s : LossyStep} {p : World × Broker Bytes Body}
    (h : Brokered platform.config p) : StaysTruthful platform s p ↔ EndsOffline platform s p :=
  h.linked.truthful_iff_endsDown (s.signals_careful platform h.apart)

theorem connectionLost_brokered {s : LossyStep} (hop : s.op = .connectionLost)
    {p : World × Broker Bytes Body} (h : Brokered platform.config p) (hs : EndsOffline platform s p) :
    Brokered platform.config (brokeredStep platform s p).2 := by
  obtain ⟨⟨op, inputs⟩, cut⟩ := s
  subst hop
  obtain ⟨hsignals, hoff⟩ := Step.signals_connectionLost platform inputs p.1
  obtain ⟨rest, hbroken, hrest⟩ : ∃ rest,
      LossyStep.signals platform ⟨⟨.connectionLost, inputs⟩, cut⟩ p.1 = .broken :: rest ∧
        ∀ t ∈ rest, t = .broken := by
    unfold LossyStep.signals
    dsimp only
    rw [hsignals]
    cases cut with
    | none => exact ⟨[], rfl, by simp⟩
    | some k => cases k <;> exact ⟨[.broken], by simp [cutAfter], by simp⟩
  unfold EndsOffline at hs
  rw [hbroken] at hs
  have hlost : Linked platform.config.topics.presence Body.isOnline _ (p.2.receive .broken) :=
    h.linked.receive trivial hs.1
  have hover : (p.2.receive .broken).session = none := h.linked.session_lose
  have hrun : p.2.run (.broken :: rest) = p.2.receive .broken := by
    rw [Broker.run_cons, Broker.run_broken hover hrest]
  refine ⟨fun _ => hoff, ?_⟩
  unfold brokeredStep
  dsimp only
  rw [hbroken, hrun]
  exact linked_of_no_session hover (hlost.truthful hover) _

theorem brokeredStep_brokered {s : LossyStep} {p : World × Broker Bytes Body}
    (h : Brokered platform.config p) (hs : EndsOffline platform s p) :
    Brokered platform.config (brokeredStep platform s p).2 := by
  by_cases hop : s.op = .connectionLost
  · exact connectionLost_brokered hop h hs
  obtain ⟨hw', sent, hsignals, -, hnoted⟩ := Step.signals_tell platform hop h.apart
  have hlinked := h.linked.run (s.signals_careful platform h.apart) hs
  have hflag : notedAll platform.config.topics.presence Body.isOnline p.1.presence.presenceOnline
      (s.signals platform p.1) = (execStep platform s.toStep p.1).2.presence.presenceOnline := by
    have hstep : notedAll platform.config.topics.presence Body.isOnline p.1.presence.presenceOnline
        (s.toStep.signals platform p.1) =
          (execStep platform s.toStep p.1).2.presence.presenceOnline := by
      rw [hsignals, notedAll_append, notedAll_died, hnoted]
    unfold LossyStep.signals
    cases s.cut with
    | none => exact hstep
    | some k => exact (notedAll_cutAfter k).trans hstep
  rw [hflag] at hlinked
  exact ⟨hw', hlinked⟩

/-- In every run, over sessions that are lost at any point and a process that may die at any, the
broker never shows a service as online whose session has ended, if and only if presence is offline
whenever the session breaks. -/
theorem retained_presence_truthful_iff (platform : Platform) (inputs : Inputs)
    (steps : List LossyStep) :
    AllSteps (brokeredStep platform) (StaysTruthful platform) steps
        (initialWorld platform.config inputs, .empty) ↔
      AllSteps (brokeredStep platform) (EndsOffline platform) steps
        (initialWorld platform.config inputs, .empty) := by
  have hinitial := brokered_initial platform.config inputs
  constructor
  · intro h
    refine AllSteps.of_invariant (I := Brokered platform.config) _ (fun s p hs hp => ?_) h hinitial
    have hoff := (staysTruthful_iff hp).mp hs
    exact ⟨brokeredStep_brokered hp hoff, hoff⟩
  · intro h
    refine AllSteps.of_invariant (I := Brokered platform.config) _ (fun s p hs hp => ?_) h hinitial
    exact ⟨brokeredStep_brokered hp hs, (staysTruthful_iff hp).mpr hs⟩

end Runs

/-- Two polls bring the service online before it loses its connection, or before its process dies:
the broker goes on showing it as online. -/
theorem retained_presence_outlives_service :
    let online : List LossyStep := [⟨⟨.ensureConnection (milliseconds 1000), benchHealthy⟩, none⟩,
      ⟨⟨.requestLoggerState (bytes "poll.timer") 1000, benchHealthy⟩, none⟩]
    let shown (next : LossyStep) : Broker Bytes Body :=
      (execAll (brokeredStep benchPlatform) (online ++ [next])
        (initialWorld benchPlatform.config benchHealthy, .empty)).2.2
    Accepted benchPlatform.config ∧
      ¬Truthful benchPlatform.config.topics.presence Body.isOnline
        (shown ⟨⟨.connectionLost, benchHealthy⟩, none⟩) ∧
      ¬Truthful benchPlatform.config.topics.presence Body.isOnline
        (shown ⟨⟨.readClock, benchHealthy⟩, some 0⟩) := by
  intro online shown
  have hstale (next : LossyStep) (hover : (shown next).session = none)
      (hshows : shows benchPlatform.config.topics.presence Body.isOnline (shown next) = true) :
      ¬Truthful benchPlatform.config.topics.presence Body.isOnline (shown next) := fun h =>
    Bool.false_ne_true ((h hover).symm.trans hshows)
  exact ⟨benchPlatform_accepted, hstale _ rfl (by decide +kernel), hstale _ rfl (by decide +kernel)⟩

end Ironsoft.Ekinox
