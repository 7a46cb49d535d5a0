import Ironsoft.BackendPresence
import Ironsoft.ServiceShown

/-!
# From the backend to the window

The broker hands on what the backend publishes, and its will. A window that has got all there is to get
shows the backend as the broker does: as down without a session, as up once it has announced itself.
-/
namespace Ironsoft.Backend
open Effect Ekinox BrokerModel

section Letters

variable {setup : Setup}

/-- A letter on the presence topic is the announcement, or the will. -/
def Setup.Speaks (setup : Setup) (letter : Letter Bytes Content) : Prop :=
  letter.topic = setup.topics.presence →
    letter.retained = true ∧ ((∃ ts, letter.body = .said (.presence ts)) ∨ letter.body = .lwt setup.builtAt)

/-- What the broker hands on from the backend. -/
def Setup.letters (setup : Setup) (actions : List Action) : List (Letter Bytes Content) :=
  Broker.empty.handed (System.told setup {} actions)

theorem letters_speak {actions : List Action} {letter : Letter Bytes Content}
    (h : letter ∈ setup.letters actions) : setup.Speaks letter := by
  obtain hpublished | hopened | hsession := mem_handed h
  · intro htopic
    obtain ⟨hretained, hbody⟩ := (told_announces hpublished).1 letter rfl htopic
    exact ⟨hretained, .inl hbody⟩
  · obtain rfl := Option.some.inj ((told_announces hopened).2 _ rfl)
    exact fun _ => ⟨rfl, .inr rfl⟩
  · cases hsession

/-- The broker shows of the backend what it has handed on last. -/
theorem shows_letters (actions : List Action) :
    shows setup.topics.presence Content.isOnline (System.run setup actions {}).broker =
      (latest setup.topics.presence (setup.letters actions)).any fun letter => letter.body.isOnline := by
  have hretained := retained_run (b := Broker.empty) setup.topics.presence (System.told setup {} actions)
  have hstored : storedOn setup.topics.presence (setup.letters actions) =
      latest setup.topics.presence (setup.letters actions) :=
    storedOn_eq_latest fun letter hl ht => (letters_speak hl ht).1
  have hbroker : (System.run setup actions {}).broker = Broker.empty.run (System.told setup {} actions) :=
    run_broker actions
  unfold shows
  rw [hbroker, hretained, ← hstored]
  change (Option.or ((storedOn setup.topics.presence (setup.letters actions)).map (·.body)) none).any _ = _
  cases storedOn setup.topics.presence (setup.letters actions) <;> rfl

end Letters

end Ironsoft.Backend

namespace Ironsoft.Gui
open Ekinox Backend BrokerModel

theorem topicKind_presence_iff (droneId topic : Bytes) :
    topicKind droneId topic = .presence ↔ topic = tPresence droneId := by
  constructor
  · intro h
    unfold topicKind at h
    split_ifs at h with htopic
    exact htopic
  · rintro rfl
    exact if_pos rfl

/-- A letter as it is sent. -/
def written (text : Content → Bytes) (letter : Letter Bytes Content) : Letter Bytes Bytes :=
  ⟨letter.topic, text letter.body, letter.retained⟩

/-- The window has got all that the broker has for it, and the backend alone tells of its presence. -/
def UpToDate (setup : Setup) (text : Content → Bytes) (actions : List Action) (heard : List Hearing) : Prop :=
  ∃ log received, Feed (subscriptions setup.droneId) log received ∧
    heard.map Prod.fst = received.map (toGuiMessage setup.droneId) ∧
    log.filter (fun letter => letter.topic = setup.topics.presence) =
      ((setup.letters actions).map (written text)).filter fun letter => letter.topic = setup.topics.presence

/-- The GUI can read what the backend writes. -/
def Legible (fromJson : QJsonParser) (text : Content → Bytes) (setup : Setup) (actions : List Action) : Prop :=
  ∀ letter ∈ setup.letters actions, fromJson (text letter.body) = .ok letter.body.toJson

section Backend

variable {setup : Setup} {text : Content → Bytes} {actions : List Action} {heard : List Hearing}
  {fromJson : QJsonParser}

theorem latest_written (topic : Bytes) (letters : List (Letter Bytes Content)) :
    latest topic (letters.map (written text)) = (latest topic letters).map (written text) := by
  unfold latest
  rw [List.find?_map]
  rfl

/-- What the window has heard on the presence topic, the backend has said. -/
theorem UpToDate.received (h : UpToDate setup text actions heard) :
    ∃ received, heard.map Prod.fst = received.map (toGuiMessage setup.droneId) ∧
      latest setup.topics.presence received =
        (latest setup.topics.presence (setup.letters actions)).map (written text) ∧
      ∀ letter ∈ received, letter.topic = setup.topics.presence →
        ∃ said ∈ setup.letters actions, letter = written text said := by
  obtain ⟨log, received, hfeed, hheard, hown⟩ := h
  have hsub : setup.topics.presence ∈ subscriptions setup.droneId := List.mem_cons_self
  have hretained : ∀ letter ∈ (setup.letters actions).map (written text),
      letter.topic = setup.topics.presence → letter.retained = true := by
    intro letter hl htopic
    obtain ⟨said, hs, rfl⟩ := List.mem_map.mp hl
    exact (letters_speak hs htopic).1
  obtain ⟨hlatest, hmem⟩ := hfeed.own hsub hown hretained
  refine ⟨received, hheard, hlatest.trans (latest_written _ _), fun letter hl htopic => ?_⟩
  obtain ⟨said, hs, rfl⟩ := List.mem_map.mp (hmem letter hl htopic)
  exact ⟨said, hs, rfl⟩

theorem UpToDate.presence (h : UpToDate setup text actions heard)
    (hlegible : Legible fromJson text setup actions) :
    (heard.findSome? (backendHeard fromJson)).getD false =
      shows setup.topics.presence Content.isOnline (System.run setup actions {}).broker := by
  have hreads {letter : Letter Bytes Content} (hl : letter ∈ setup.letters actions)
      (ht : letter.topic = setup.topics.presence) (secs : ℤ) :
      backendHeard fromJson (⟨.presence, text letter.body⟩, secs) = some letter.body.isOnline := by
    have hparse := hlegible letter hl
    obtain ⟨-, ⟨ts, hbody⟩ | hbody⟩ := letters_speak hl ht
    · rw [hbody] at hparse ⊢
      simp only [backendHeard, readObject, hparse]
      rfl
    · rw [hbody] at hparse ⊢
      simp only [backendHeard, readObject, hparse]
      rfl
  have hother (x : Hearing) (hx : x.1.kind ≠ .presence) : backendHeard fromJson x = none := by
    obtain ⟨⟨kind, payload⟩, secs⟩ := x
    cases kind with
    | presence => exact absurd rfl hx
    | _ => rfl
  obtain ⟨received, hheard, hlatest, hsaid⟩ := h.received
  have hlast := findSome?_heard hheard (topicKind_presence_iff setup.droneId) hother
    fun letter hl ht secs => by
      obtain ⟨said, hs, rfl⟩ := hsaid letter hl ht
      rw [show (written text said).body = text said.body from rfl, hreads hs ht]
      simp
  rw [shows_letters]
  cases hsaidLast : latest setup.topics.presence (setup.letters actions) with
  | none =>
    rw [hlast.1 (hlatest.trans (by rw [hsaidLast]; rfl))]
    rfl
  | some letter =>
    obtain ⟨secs, hread⟩ := hlast.2 (written text letter) (hlatest.trans (by rw [hsaidLast]; rfl))
    have hmem : letter ∈ setup.letters actions := List.mem_of_find?_eq_some hsaidLast
    have htopic : letter.topic = setup.topics.presence := by simpa using List.find?_some hsaidLast
    rw [hread, show (written text letter).body = text letter.body from rfl, hreads hmem htopic]
    rfl

end Backend

end Ironsoft.Gui
