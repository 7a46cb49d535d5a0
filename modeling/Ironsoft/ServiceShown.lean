import Mathlib.Data.List.Sort
import Ironsoft.EkinoxLiveness
import Ironsoft.EkinoxPresence
import Ironsoft.FeedModel
import Ironsoft.GuiShows

/-!
# From the service to the window

The service publishes, the broker stores and hands on, the GUI reads. A window that has got all there
is to get shows the presence and the status that the service has published last.
-/
namespace Ironsoft.Gui
open Effect Ekinox BrokerModel

def topicPrefix (droneId : Bytes) : Bytes := bytes "ironsoft/uav/" ++ droneId

def tPresence (droneId : Bytes) : Bytes := topicPrefix droneId ++ bytes "/presence"
def tStatus (droneId : Bytes) : Bytes := topicPrefix droneId ++ bytes "/status"
def tHeartbeat (droneId : Bytes) : Bytes := topicPrefix droneId ++ bytes "/heartbeat"
def tAck (droneId : Bytes) : Bytes := topicPrefix droneId ++ bytes "/ack"
def tEkinoxPrefix (droneId : Bytes) : Bytes := topicPrefix droneId ++ bytes "/ekinox"
def tEkinoxPresence (droneId : Bytes) : Bytes := tEkinoxPrefix droneId ++ bytes "/presence"
def tEkinoxStatus (droneId : Bytes) : Bytes := tEkinoxPrefix droneId ++ bytes "/status"
def tEkinoxHeartbeat (droneId : Bytes) : Bytes := tEkinoxPrefix droneId ++ bytes "/heartbeat"

/-- What the worker subscribes to. -/
def subscriptions (droneId : Bytes) : List Bytes :=
  [tPresence droneId, tStatus droneId, tHeartbeat droneId, tAck droneId, tEkinoxPresence droneId,
    tEkinoxStatus droneId, tEkinoxHeartbeat droneId]

/-- The branch that the worker takes for a topic. -/
def topicKind (droneId topic : Bytes) : TopicKind :=
  if topic = tPresence droneId then .presence
  else if topic = tStatus droneId then .status
  else if topic = tHeartbeat droneId then .heartbeat
  else if topic = tAck droneId then .ack
  else if topic = tEkinoxPresence droneId then .ekinoxPresence
  else if topic = tEkinoxStatus droneId then .ekinoxStatus
  else if topic = tEkinoxHeartbeat droneId then .ekinoxHeartbeat
  else .unknown

def toGuiMessage (droneId : Bytes) (letter : Letter Bytes Bytes) : GuiMessage :=
  ⟨topicKind droneId letter.topic, letter.body⟩

theorem tEkinox_ne {droneId rest b : Bytes} (h : bytes "/ekinox" ++ rest ≠ b) :
    tEkinoxPrefix droneId ++ rest ≠ topicPrefix droneId ++ b := by
  intro heq
  have hassoc : tEkinoxPrefix droneId ++ rest = topicPrefix droneId ++ (bytes "/ekinox" ++ rest) :=
    List.append_assoc _ _ _
  exact h (List.append_cancel_left (hassoc.symm.trans heq))

theorem topicKind_ekinoxPresence_iff (droneId topic : Bytes) :
    topicKind droneId topic = .ekinoxPresence ↔ topic = tEkinoxPresence droneId := by
  constructor
  · intro h
    unfold topicKind at h
    split_ifs at h with _ _ _ _ htopic
    exact htopic
  · rintro rfl
    have h₁ : tEkinoxPresence droneId ≠ tPresence droneId := tEkinox_ne (by decide)
    have h₂ : tEkinoxPresence droneId ≠ tStatus droneId := tEkinox_ne (by decide)
    have h₃ : tEkinoxPresence droneId ≠ tHeartbeat droneId := tEkinox_ne (by decide)
    have h₄ : tEkinoxPresence droneId ≠ tAck droneId := tEkinox_ne (by decide)
    simp [topicKind, h₁, h₂, h₃, h₄]

theorem topicKind_ekinoxStatus_iff (droneId topic : Bytes) :
    topicKind droneId topic = .ekinoxStatus ↔ topic = tEkinoxStatus droneId := by
  constructor
  · intro h
    unfold topicKind at h
    split_ifs at h with _ _ _ _ _ htopic
    exact htopic
  · rintro rfl
    have h₁ : tEkinoxStatus droneId ≠ tPresence droneId := tEkinox_ne (by decide)
    have h₂ : tEkinoxStatus droneId ≠ tStatus droneId := tEkinox_ne (by decide)
    have h₃ : tEkinoxStatus droneId ≠ tHeartbeat droneId := tEkinox_ne (by decide)
    have h₄ : tEkinoxStatus droneId ≠ tAck droneId := tEkinox_ne (by decide)
    have h₅ : tEkinoxStatus droneId ≠ tEkinoxPresence droneId := by
      intro heq
      have hrest := List.append_cancel_left heq
      revert hrest
      decide
    simp [topicKind, h₁, h₂, h₃, h₄, h₅]

/-- The GUI listens where the service speaks. -/
theorem presence_topic_eq (config : EkinoxConfig) :
    config.topics.presence = tEkinoxPresence config.mqtt.droneId := rfl

theorem status_topic_eq (config : EkinoxConfig) :
    config.topics.status = tEkinoxStatus config.mqtt.droneId := rfl

/-- A reading of one kind of message, all of which can be read, ends at the last letter of the topic. -/
theorem findSome?_heard {β : Type} {droneId : Bytes} {f : Hearing → Option β} {kind : TopicKind}
    {topic : Bytes} {received : List (Letter Bytes Bytes)} {heard : List Hearing}
    (hheard : heard.map Prod.fst = received.map (toGuiMessage droneId))
    (hkind : ∀ t, topicKind droneId t = kind ↔ t = topic) (hnone : ∀ x, x.1.kind ≠ kind → f x = none)
    (hread : ∀ letter ∈ received, letter.topic = topic → ∀ secs, f (⟨kind, letter.body⟩, secs) ≠ none) :
    (latest topic received = none → heard.findSome? f = none) ∧
      ∀ letter, latest topic received = some letter →
        ∃ secs, heard.findSome? f = f (⟨kind, letter.body⟩, secs) := by
  let p (x : Hearing) : Bool := x.1.kind = kind
  have hsome : ∀ x ∈ heard, p x = true → f x ≠ none := by
    intro x hx hp
    have hmem : x.1 ∈ received.map (toGuiMessage droneId) := by
      rw [← hheard]
      exact List.mem_map_of_mem hx
    obtain ⟨letter, hl, heq⟩ := List.mem_map.mp hmem
    have hk : x.1.kind = kind := of_decide_eq_true hp
    have htopic : letter.topic = topic := by
      rw [← hkind, ← hk, ← heq]
      rfl
    have hx' : x = (⟨kind, letter.body⟩, x.2) := by
      obtain ⟨⟨k, payload⟩, secs⟩ := x
      simp only [toGuiMessage, GuiMessage.mk.injEq] at heq hk
      simp [hk, ← heq.2]
    rw [hx']
    exact hread letter hl htopic x.2
  have hfind : heard.findSome? f = (heard.find? p).bind f := by
    refine findSome?_of_find? (fun x _ hp => hnone x ?_) hsome
    exact of_decide_eq_false hp
  have hfst : (heard.find? p).map Prod.fst = (latest topic received).map (toGuiMessage droneId) := by
    have hleft : (heard.find? p).map Prod.fst =
        (heard.map Prod.fst).find? fun msg => decide (msg.kind = kind) := by
      rw [List.find?_map]
      rfl
    have hright : (received.map (toGuiMessage droneId)).find? (fun msg => decide (msg.kind = kind)) =
        (latest topic received).map (toGuiMessage droneId) := by
      rw [List.find?_map, latest]
      congr 2
      funext letter
      exact decide_eq_decide.mpr (hkind letter.topic)
    rw [hleft, hheard, hright]
  constructor
  · intro hlatest
    rw [hlatest] at hfst
    have hfound : heard.find? p = none := Option.map_eq_none_iff.mp hfst
    rw [hfind, hfound]
    rfl
  · intro letter hlatest
    rw [hlatest] at hfst
    obtain ⟨⟨msg, secs⟩, hfound, hmsg⟩ := Option.map_eq_some_iff.mp hfst
    have hk : topicKind droneId letter.topic = kind := (hkind _).mpr (by simpa using List.find?_some hlatest)
    have hmsg : msg = ⟨kind, letter.body⟩ := by simpa [toGuiMessage, hk] using hmsg
    refine ⟨secs, ?_⟩
    rw [hfind, hfound, ← hmsg]
    rfl

section Letters

variable (text : Body → Bytes)

/-- What a publish that succeeds brings to the broker. -/
def letterOf : Event → Option (Letter Bytes Bytes)
  | .mqtt (.publish m) false => some ⟨m.topic, text m.body, m.retained⟩
  | _ => none

/-- What the service has published, newest first. -/
def letters (trace : List Event) : List (Letter Bytes Bytes) := trace.filterMap (letterOf text)

/-- A topic of the service tells the kind of the message. -/
theorem body_of_addressed {config : EkinoxConfig} {m : Message} (h : m.Addressed config) :
    (m.topic = config.topics.presence → ∃ payload, m.body = .presence payload) ∧
      (m.topic = config.topics.status → ∃ payload, m.body = .status payload) := by
  obtain ⟨topic, body, qos, retained⟩ := m
  have hroot (a b : Bytes) (hab : bytes "/ekinox" ++ a ≠ b) :
      config.topics.root ++ b ≠ config.topics.topicPrefix ++ a := by
    intro heq
    have hassoc : config.topics.topicPrefix ++ a = config.topics.root ++ (bytes "/ekinox" ++ a) :=
      List.append_assoc _ _ _
    exact hab (List.append_cancel_left (hassoc.symm.trans heq.symm))
  have hpeer (a b : Bytes) (hab : a ≠ b) :
      config.topics.topicPrefix ++ a ≠ config.topics.topicPrefix ++ b :=
    fun heq => hab (List.append_cancel_left heq)
  cases body with
  | presence payload =>
    refine ⟨fun _ => ⟨payload, rfl⟩, fun ht => ?_⟩
    exact absurd (h.1.symm.trans ht) (hpeer _ _ (by decide))
  | status payload =>
    refine ⟨fun ht => ?_, fun _ => ⟨payload, rfl⟩⟩
    exact absurd (h.1.symm.trans ht) (hpeer _ _ (by decide))
  | heartbeat seq uptimeS =>
    refine ⟨fun ht => ?_, fun ht => ?_⟩
    · exact absurd (h.1.symm.trans ht) (hpeer _ _ (by decide))
    · exact absurd (h.1.symm.trans ht) (hpeer _ _ (by decide))
  | ack a ts =>
    obtain ⟨htopic | htopic, -⟩ : (topic = config.topics.ack ∨ topic = config.topics.ackLegacy) ∧ _ := h
    all_goals refine ⟨fun ht => absurd (htopic.symm.trans ht) ?_, fun ht => absurd (htopic.symm.trans ht) ?_⟩
    · exact hroot _ _ (by decide)
    · exact hroot _ _ (by decide)
    · exact hpeer _ _ (by decide)
    · exact hpeer _ _ (by decide)

theorem retained_of_addressed {config : EkinoxConfig} {m : Message} (h : m.Addressed config)
    (ht : m.topic = config.topics.presence ∨ m.topic = config.topics.status) : m.retained = true := by
  obtain ⟨topic, body, qos, retained⟩ := m
  obtain ht | ht := ht
  · obtain ⟨payload, rfl⟩ := (body_of_addressed h).1 ht
    exact h.2
  · obtain ⟨payload, rfl⟩ := (body_of_addressed h).2 ht
    exact h.2

/-- The last letter on a topic of the service is what a broker retains there. -/
theorem latest_letters {config : EkinoxConfig} {topic : Bytes}
    (ht : topic = config.topics.presence ∨ topic = config.topics.status) {trace : List Event}
    (h : ∀ e ∈ trace, e.Addressed config) :
    latest topic (letters text trace) =
      (retainedOn topic trace).map fun body => ⟨topic, text body, true⟩ := by
  induction trace with
  | nil => rfl
  | cons e older ih =>
    obtain ⟨he, holder⟩ := List.forall_mem_cons.mp h
    have ih := ih holder
    cases e with
    | mqtt call threw =>
      cases threw with
      | true => cases call <;> exact ih
      | false =>
        cases call with
        | publish m =>
          have hletters : letters text (.mqtt (.publish m) false :: older) =
              ⟨m.topic, text m.body, m.retained⟩ :: letters text older := rfl
          rw [hletters, retainedOn_cons_publish, latest, List.find?_cons]
          by_cases htopic : m.topic = topic
          · have hretained := retained_of_addressed he (htopic ▸ ht)
            simp [htopic, hretained]
          · simpa [latest, htopic] using ih
        | connect | subscribe | disconnect => exact ih
    | _ => exact ih

theorem mem_letters {trace : List Event} {letter : Letter Bytes Bytes} (h : letter ∈ letters text trace) :
    ∃ m, .mqtt (.publish m) false ∈ trace ∧ letter = ⟨m.topic, text m.body, m.retained⟩ := by
  obtain ⟨e, he, hletter⟩ := List.mem_filterMap.mp h
  unfold letterOf at hletter
  split at hletter
  · exact ⟨_, he, (Option.some.inj hletter).symm⟩
  · cases hletter

end Letters

/-- What is retained has been published. -/
theorem mem_of_retainedOn {topic : Bytes} {trace : List Event} {body : Body}
    (hb : retainedOn topic trace = some body) :
    ∃ m, .mqtt (.publish m) false ∈ trace ∧ m.topic = topic ∧ m.body = body := by
  induction trace with
  | nil => cases hb
  | cons e older ih =>
    have hrest (hb : retainedOn topic older = some body) :
        ∃ m, .mqtt (.publish m) false ∈ e :: older ∧ m.topic = topic ∧ m.body = body := by
      obtain ⟨m, hm, hmt, hbody⟩ := ih hb
      exact ⟨m, List.mem_cons_of_mem _ hm, hmt, hbody⟩
    cases e with
    | mqtt call threw =>
      cases threw with
      | true => cases call <;> exact hrest hb
      | false =>
        cases call with
        | publish m =>
          rw [retainedOn_cons_publish] at hb
          split_ifs at hb with hm
          · exact ⟨m, by simp, hm.1, Option.some.inj hb⟩
          · exact hrest hb
        | connect | subscribe | disconnect => exact hrest hb
    | _ => exact hrest hb

/-- The window has got all that the broker has for it: the messages that the worker has read since it
connected are those of the log, of which the service alone writes on its topics. -/
structure CaughtUp (config : EkinoxConfig) (text : Body → Bytes) (trace : List Event)
    (heard : List Hearing) : Prop where
  feed : ∃ log received, Feed (subscriptions config.mqtt.droneId) log received ∧
    heard.map Prod.fst = received.map (toGuiMessage config.mqtt.droneId) ∧
    ∀ topic, topic = config.topics.presence ∨ topic = config.topics.status →
      log.filter (fun letter => letter.topic = topic) =
        (letters text trace).filter fun letter => letter.topic = topic

/-- The GUI can read what the service writes. -/
def Readable (fromJson : QJsonParser) (text : Body → Bytes) (trace : List Event) : Prop :=
  ∀ m, .mqtt (.publish m) false ∈ trace → fromJson (text m.body) = .ok m.body.toJson

section Window

variable {config : EkinoxConfig} {text : Body → Bytes} {trace : List Event} {heard : List Hearing}
  {fromJson : QJsonParser}

/-- What the worker has read last on a topic of the service is what a broker retains there, and all it
has read there the service has written. -/
theorem CaughtUp.received (h : CaughtUp config text trace heard)
    (haddressed : ∀ e ∈ trace, e.Addressed config) {topic : Bytes}
    (ht : topic = config.topics.presence ∨ topic = config.topics.status) :
    ∃ received, heard.map Prod.fst = received.map (toGuiMessage config.mqtt.droneId) ∧
      latest topic received = ((retainedOn topic trace).map fun body => ⟨topic, text body, true⟩) ∧
      ∀ letter ∈ received, letter.topic = topic →
        ∃ m, .mqtt (.publish m) false ∈ trace ∧ m.topic = topic ∧ letter.body = text m.body := by
  obtain ⟨log, received, hfeed, hheard, hown⟩ := h.feed
  have hsub : topic ∈ subscriptions config.mqtt.droneId := by
    obtain rfl | rfl := ht
    · simp [subscriptions, presence_topic_eq]
    · simp [subscriptions, status_topic_eq]
  have hretained : ∀ letter ∈ letters text trace, letter.topic = topic → letter.retained = true := by
    intro letter hl htopic
    obtain ⟨m, hm, rfl⟩ := mem_letters text hl
    have hmt : m.topic = topic := htopic
    exact retained_of_addressed (haddressed _ hm) (hmt ▸ ht)
  obtain ⟨hlatest, hmem⟩ := hfeed.own hsub (hown topic ht) hretained
  refine ⟨received, hheard, hlatest.trans (latest_letters text ht haddressed), fun letter hl htopic => ?_⟩
  obtain ⟨m, hm, rfl⟩ := mem_letters text (hmem letter hl htopic)
  exact ⟨m, hm, htopic, rfl⟩

/-- A reading of one kind of message, all of which can be read, ends at the retained one. -/
theorem CaughtUp.last {β : Type} {f : Hearing → Option β} {kind : TopicKind} {topic : Bytes}
    (h : CaughtUp config text trace heard) (haddressed : ∀ e ∈ trace, e.Addressed config)
    (ht : topic = config.topics.presence ∨ topic = config.topics.status)
    (hkind : ∀ t, topicKind config.mqtt.droneId t = kind ↔ t = topic)
    (hnone : ∀ x, x.1.kind ≠ kind → f x = none)
    (hread : ∀ m, .mqtt (.publish m) false ∈ trace → m.topic = topic →
      ∀ secs, f (⟨kind, text m.body⟩, secs) ≠ none) :
    (retainedOn topic trace = none → heard.findSome? f = none) ∧
      ∀ body, retainedOn topic trace = some body →
        ∃ secs, heard.findSome? f = f (⟨kind, text body⟩, secs) := by
  obtain ⟨received, hheard, hlatest, hwritten⟩ := h.received haddressed ht
  have hlast := findSome?_heard hheard hkind hnone fun letter hl htopic secs => by
    obtain ⟨m, hm, hmt, hbody⟩ := hwritten letter hl htopic
    rw [hbody]
    exact hread m hm hmt secs
  rw [hlatest] at hlast
  exact ⟨fun hretained => hlast.1 (by rw [hretained]; rfl),
    fun body hretained => hlast.2 ⟨topic, text body, true⟩ (by rw [hretained]; rfl)⟩

theorem CaughtUp.presence (h : CaughtUp config text trace heard)
    (haddressed : ∀ e ∈ trace, e.Addressed config) (hreadable : Readable fromJson text trace) :
    (heard.findSome? (ekinoxHeard fromJson)).getD false =
      (retainedOn config.topics.presence trace).any Body.isOnline := by
  have hreads (m : Message) (hm : .mqtt (.publish m) false ∈ trace) (hmt : m.topic = config.topics.presence)
      (secs : ℤ) : ekinoxHeard fromJson (⟨.ekinoxPresence, text m.body⟩, secs) = some m.body.isOnline := by
    obtain ⟨payload, hbody⟩ := (body_of_addressed (haddressed _ hm)).1 hmt
    have hparse := hreadable m hm
    simp only [ekinoxHeard, readObject, hparse]
    rw [hbody]
    rfl
  have hother (x : Hearing) (hx : x.1.kind ≠ .ekinoxPresence) : ekinoxHeard fromJson x = none := by
    obtain ⟨⟨kind, payload⟩, secs⟩ := x
    cases kind with
    | ekinoxPresence => exact absurd rfl hx
    | _ => rfl
  obtain ⟨hnone, hsome⟩ := h.last haddressed (.inl rfl)
    (topicKind_ekinoxPresence_iff config.mqtt.droneId) hother fun m hm hmt secs => by simp [hreads m hm hmt]
  cases hretained : retainedOn config.topics.presence trace with
  | none =>
    rw [hnone hretained]
    rfl
  | some body =>
    obtain ⟨secs, hlast⟩ := hsome body hretained
    obtain ⟨m, hm, hmt, rfl⟩ := mem_of_retainedOn hretained
    rw [hlast, hreads m hm hmt]
    rfl

/-- Whether a status says that the logger records. -/
def Body.tellsRecording : Body → Bool
  | .status payload => payload.recordingActive
  | _ => false

theorem CaughtUp.status (h : CaughtUp config text trace heard)
    (haddressed : ∀ e ∈ trace, e.Addressed config) (hreadable : Readable fromJson text trace) :
    (retainedOn config.topics.status trace = none → heard.findSome? (statusHeard fromJson) = none) ∧
      ∀ payload, retainedOn config.topics.status trace = some (.status payload) →
        ∃ st, heard.findSome? (statusHeard fromJson) = some st ∧ ReadAs st payload := by
  have hreads (m : Message) (hm : .mqtt (.publish m) false ∈ trace) (payload : StatusPayload)
      (hbody : m.body = .status payload) (secs : ℤ) :
      ∃ st, statusHeard fromJson (⟨.ekinoxStatus, text m.body⟩, secs) = some st ∧ ReadAs st payload := by
    have hparse : fromJson (text m.body) = .ok (buildStatusJson payload) := by
      rw [hreadable m hm, hbody]
      rfl
    obtain ⟨st, hst, hread⟩ := parseEkinoxStatusJson_build hparse {} secs
    exact ⟨st, by simp [statusHeard, hst, Except.toOption], hread⟩
  have hother (x : Hearing) (hx : x.1.kind ≠ .ekinoxStatus) : statusHeard fromJson x = none := by
    obtain ⟨⟨kind, payload⟩, secs⟩ := x
    cases kind with
    | ekinoxStatus => exact absurd rfl hx
    | _ => rfl
  have hread (m : Message) (hm : .mqtt (.publish m) false ∈ trace) (hmt : m.topic = config.topics.status)
      (secs : ℤ) : statusHeard fromJson (⟨.ekinoxStatus, text m.body⟩, secs) ≠ none := by
    obtain ⟨payload, hbody⟩ := (body_of_addressed (haddressed _ hm)).2 hmt
    obtain ⟨st, hst, -⟩ := hreads m hm payload hbody secs
    simp [hst]
  obtain ⟨hnone, hsome⟩ := h.last haddressed (.inr rfl)
    (topicKind_ekinoxStatus_iff config.mqtt.droneId) hother hread
  refine ⟨hnone, fun payload hretained => ?_⟩
  obtain ⟨secs, hlast⟩ := hsome _ hretained
  obtain ⟨m, hm, -, hbody⟩ := mem_of_retainedOn hretained
  obtain ⟨st, hst, hreadAs⟩ := hreads m hm payload hbody secs
  rw [hbody] at hst
  exact ⟨st, hlast.trans hst, hreadAs⟩

end Window

/-- **From the service to the window.** A window that has got all there is to get shows the presence and
the status that the service has published last, and its buttons follow; while the service is connected
and no publish has failed, that is the presence it believes in. -/
theorem window_shows_service (platform : Platform) (inputs : Inputs) (steps : List Step)
    {fromJson : QJsonParser} {text : Body → Bytes} {moves : List Move} {s : GuiState} :
    let w := (execSteps platform steps (initialWorld platform.config inputs)).2
    let online := (retainedOn platform.config.topics.presence w.trace).any Body.isOnline
    let recording := (retainedOn platform.config.topics.status w.trace).any Body.tellsRecording
    Readable fromJson text w.trace → GuiState.run fromJson {} moves = some s → s.Listening →
    CaughtUp platform.config text w.trace (GuiState.heardAlong fromJson {} [] moves) →
      s.window.ekinoxPresenceOnline = online ∧
      (∀ payload, retainedOn platform.config.topics.status w.trace = some (.status payload) →
        s.window.hasEkinoxStatus = true ∧ ReadAs s.window.lastEkinoxStatus payload) ∧
      s.window.btnLoggerStart = (online && !recording) ∧ s.window.btnLoggerStop = (online && recording) ∧
      (Accepted platform.config → (∀ step ∈ steps, step.inputs.QuietPublishes) → w.conn.connected = true →
        online = w.presence.presenceOnline) := by
  intro w online recording hreadable hrun hlistening hcaught
  have haddressed : AllAddressed platform.config w :=
    execSteps_addressed steps (addressed_initial platform.config inputs)
  obtain ⟨-, hpresence, hstatus, -, hstart, hstop⟩ := window_shows_heard hrun hlistening
  have honline := hcaught.presence haddressed hreadable
  have hread := hcaught.status haddressed hreadable
  have hrecording : ((GuiState.heardAlong fromJson {} [] moves).findSome? (statusHeard fromJson)).any
      (·.recordingActive) = recording := by
    cases hretained : retainedOn platform.config.topics.status w.trace with
    | none => simp [recording, hretained, hread.1 hretained]
    | some body =>
      obtain ⟨m, hm, hmt, rfl⟩ := mem_of_retainedOn hretained
      obtain ⟨payload, hbody⟩ := (body_of_addressed (haddressed _ hm)).2 hmt
      rw [hbody] at hretained
      obtain ⟨st, hst, hreadAs⟩ := hread.2 payload hretained
      simp [recording, hretained, hst, hreadAs.recordingActive, Body.tellsRecording]
  rw [honline, hrecording] at hstart hstop
  refine ⟨hpresence.trans honline, fun payload hretained => ?_, hstart, hstop,
    fun haccepted hquiet hconn => ?_⟩
  · obtain ⟨st, hst, hreadAs⟩ := hread.2 payload hretained
    rw [hst] at hstatus
    cases hhas : s.window.hasEkinoxStatus with
    | false => simp [hhas] at hstatus
    | true =>
      obtain rfl : s.window.lastEkinoxStatus = st := by simpa [hhas] using hstatus
      exact ⟨rfl, hreadAs⟩
  · have hfresh : PresenceModel.Fresh w.presenceView :=
      execSteps_fresh haccepted hquiet (fresh_initial platform.config inputs)
    have hshown := (retainedOn_presence haddressed).trans
      (congrArg (Option.map presenceState) (hfresh.shown hconn))
    obtain ⟨body, hretained, hstate⟩ := Option.map_eq_some_iff.mp hshown
    have hstates (b : Bool) : decide ((presenceState b).asString = bytes "online") = b := by
      cases b <;> decide
    have hbody : body.isOnline = w.presence.presenceOnline := by
      unfold Body.isOnline
      rw [hstate]
      exact hstates _
    simp [online, hretained, hbody]

deriving instance DecidableEq for Letter

def benchServedSteps : List Step :=
  [⟨.ensureConnection (milliseconds 1000), benchHealthy⟩,
    ⟨.requestLoggerState (bytes "poll.timer") 1000, benchHealthy⟩]

def benchServed : World :=
  (execSteps benchPlatform benchServedSteps (initialWorld benchPlatform.config benchHealthy)).2

/-- Texts and numbers as they are written. -/
def benchValue : Json → Bytes
  | .str s => bytes "\"" ++ s ++ bytes "\""
  | .bool b => if b then bytes "true" else bytes "false"
  | .int n => decimal n.toInt
  | _ => bytes "null"

/-- The members come in the order of their keys. -/
def benchText (body : Body) : Bytes :=
  match body.toJson with
  | .obj members =>
    let sorted := members.insertionSort fun a b => b.1.lex a.1 = false
    let fields := sorted.map fun (key, value) => bytes "\"" ++ key ++ bytes "\":" ++ benchValue value
    bytes "\x7b" ++ (fields.intersperse (bytes ",")).flatten ++ bytes "\x7d"
  | value => benchValue value

def benchBodies : List Body := benchServed.trace.filterMap fun
  | .mqtt (.publish m) false => some m.body
  | _ => none

def benchServedJson : QJsonParser := fun text =>
  match benchBodies.find? fun body => benchText body = text with
  | some body => .ok body.toJson
  | none => .error (bytes "illegal value")

def benchRetained (topic : Bytes) : Bytes :=
  ((retainedOn topic benchServed.trace).map benchText).getD []

/-- The GUI connects to find the two retained messages. -/
def benchServedMoves : List Move :=
  benchConnect ++ benchMessage .ekinoxPresence (benchRetained benchPlatform.config.topics.presence) 2 ++
    benchMessage .ekinoxStatus (benchRetained benchPlatform.config.topics.status) 3 ++
    List.replicate 12 .deliver

theorem benchServed_readable : Readable benchServedJson benchText benchServed.trace := by
  intro m hm
  have hbody : m.body ∈ benchBodies := List.mem_filterMap.mpr ⟨_, hm, rfl⟩
  have hfind : ∀ body ∈ benchBodies,
      benchBodies.find? (fun b => benchText b = benchText body) = some body := by decide +kernel
  simp only [benchServedJson, hfind m.body hbody]

/-- All that the broker has for the GUI are the two retained letters. -/
theorem benchServed_caughtUp : CaughtUp benchPlatform.config benchText benchServed.trace
    (GuiState.heardAlong benchServedJson {} [] benchServedMoves) := by
  let received : List (Letter Bytes Bytes) :=
    [⟨benchPlatform.config.topics.status, benchRetained benchPlatform.config.topics.status, true⟩,
      ⟨benchPlatform.config.topics.presence, benchRetained benchPlatform.config.topics.presence, true⟩]
  refine ⟨letters benchText benchServed.trace, received, fun topic ht => ?_, by decide +kernel,
    fun _ _ => rfl⟩
  have hstored : ∀ topic ∈ subscriptions benchPlatform.config.mqtt.droneId,
      received.filter (fun letter => letter.topic = topic) =
        (storedOn topic (letters benchText benchServed.trace)).toList := by decide +kernel
  exact ⟨[], letters benchText benchServed.trace, rfl, hstored topic ht⟩

/-- A service that has come online enables the start button. -/
theorem window_shows_service_online : ∃ s, GuiState.run benchServedJson {} benchServedMoves = some s ∧
    s.Listening ∧ s.window.ekinoxPresenceOnline = benchServed.presence.presenceOnline ∧
    s.window.btnLoggerStart = true := by
  have hrun : (GuiState.run benchServedJson {} benchServedMoves).isSome = true := by decide +kernel
  obtain ⟨s, hs⟩ := Option.isSome_iff_exists.mp hrun
  have hend : (GuiState.run benchServedJson {} benchServedMoves).map (fun s => decide s.Listening) =
      some true := by decide +kernel
  rw [hs] at hend
  have hlistening : s.Listening := of_decide_eq_true (Option.some.inj hend)
  have hquiet : ∀ step ∈ benchServedSteps, step.inputs.QuietPublishes := by
    simp [benchServedSteps, benchHealthy, benchInputs_quiet]
  have hready : ((retainedOn benchPlatform.config.topics.presence benchServed.trace).any Body.isOnline &&
      !(retainedOn benchPlatform.config.topics.status benchServed.trace).any Body.tellsRecording) =
        true := by decide +kernel
  obtain ⟨hpresence, -, hstart, -, hbelief⟩ := window_shows_service benchPlatform benchHealthy
    benchServedSteps benchServed_readable hs hlistening benchServed_caughtUp
  have honline := hbelief benchPlatform_accepted hquiet (by decide)
  exact ⟨s, hs, hlistening, hpresence.trans honline, hstart.trans hready⟩

end Ironsoft.Gui
