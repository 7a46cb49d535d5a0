import Ironsoft.EkinoxLoop
import Ironsoft.FilterModel

/-!
# Topics of two drones

When the topics of two drones are apart, also when the subscribed ones are read as filters.
-/
namespace Ironsoft.Ekinox
open FilterModel

/-- `/`, `+` and `#` -/
def mqttWildcards : Wildcards UInt8 := ⟨47, 43, 35⟩

def EkinoxTopics.all (topics : EkinoxTopics) : List Bytes :=
  [topics.cmd, topics.cmdLegacy, topics.ack, topics.ackLegacy, topics.presence, topics.status,
    topics.heartbeat]

/-- The topics `connect_once` subscribes to. -/
def EkinoxTopics.subscribed (topics : EkinoxTopics) : List Bytes := [topics.cmd, topics.cmdLegacy]

structure Isolated (topics topics' : EkinoxTopics) : Prop where
  disjoint : ∀ topic ∈ topics.all, topic ∉ topics'.all
  unmatched : ∀ filter ∈ topics.subscribed, ∀ topic ∈ topics'.all,
    matchTopic mqttWildcards filter topic = false
  unmatched' : ∀ filter ∈ topics'.subscribed, ∀ topic ∈ topics.all,
    matchTopic mqttWildcards filter topic = false

def idLevels (droneId : Bytes) : List Bytes := levels mqttWildcards droneId

/-- The levels between the id and the last one. -/
def branch (legacy : Bool) : List Bytes := if legacy then [bytes "ekinox"] else []

/-- The last level of each topic. -/
def leaves : Bool → List Bytes
  | false => [bytes "cmd", bytes "ack"]
  | true => [bytes "cmd", bytes "ack", bytes "presence", bytes "status", bytes "heartbeat"]

def topicLevels (droneId : Bytes) (legacy : Bool) (leaf : Bytes) : List Bytes :=
  bytes "ironsoft" :: bytes "uav" :: (idLevels droneId ++ branch legacy ++ [leaf])

theorem levels_slash {level : Bytes} (head : Bytes) (h : mqttWildcards.sep ∉ level) :
    levels mqttWildcards (head ++ (mqttWildcards.sep :: level)) =
      levels mqttWildcards head ++ [level] := by
  rw [levels_append, levels_of_not_mem mqttWildcards h]

theorem levels_root (droneId : Bytes) :
    levels mqttWildcards (makeTopics droneId).root =
      bytes "ironsoft" :: bytes "uav" :: idLevels droneId := by
  have hroot : (makeTopics droneId).root =
      bytes "ironsoft" ++ mqttWildcards.sep :: (bytes "uav" ++ mqttWildcards.sep :: droneId) := rfl
  rw [hroot, levels_append, levels_append, levels_of_not_mem mqttWildcards (by decide),
    levels_of_not_mem mqttWildcards (by decide)]
  rfl

theorem levels_legacyRoot (droneId : Bytes) :
    levels mqttWildcards (makeTopics droneId).topicPrefix =
      levels mqttWildcards (makeTopics droneId).root ++ [bytes "ekinox"] :=
  levels_slash _ (by decide)

theorem levels_all (droneId : Bytes) :
    (makeTopics droneId).all.map (levels mqttWildcards) =
      [topicLevels droneId false (bytes "cmd"), topicLevels droneId true (bytes "cmd"),
        topicLevels droneId false (bytes "ack"), topicLevels droneId true (bytes "ack"),
        topicLevels droneId true (bytes "presence"), topicLevels droneId true (bytes "status"),
        topicLevels droneId true (bytes "heartbeat")] := by
  have hshort (leaf : Bytes) (h : mqttWildcards.sep ∉ leaf) :
      levels mqttWildcards ((makeTopics droneId).root ++ mqttWildcards.sep :: leaf) =
        topicLevels droneId false leaf := by
    rw [levels_slash _ h, levels_root]
    simp [topicLevels, branch]
  have hlong (leaf : Bytes) (h : mqttWildcards.sep ∉ leaf) :
      levels mqttWildcards ((makeTopics droneId).topicPrefix ++ mqttWildcards.sep :: leaf) =
        topicLevels droneId true leaf := by
    rw [levels_slash _ h, levels_legacyRoot, levels_root]
    simp [topicLevels, branch]
  rw [← hshort (bytes "cmd") (by decide), ← hlong (bytes "cmd") (by decide),
    ← hshort (bytes "ack") (by decide), ← hlong (bytes "ack") (by decide),
    ← hlong (bytes "presence") (by decide), ← hlong (bytes "status") (by decide),
    ← hlong (bytes "heartbeat") (by decide)]
  rfl

theorem mem_all_iff {droneId topic : Bytes} :
    topic ∈ (makeTopics droneId).all ↔
      ∃ legacy, ∃ leaf ∈ leaves legacy, levels mqttWildcards topic = topicLevels droneId legacy leaf := by
  have hmem : topic ∈ (makeTopics droneId).all ↔
      levels mqttWildcards topic ∈ (makeTopics droneId).all.map (levels mqttWildcards) :=
    (List.mem_map_of_injective (levels_injective mqttWildcards)).symm
  rw [hmem, levels_all]
  simp only [Bool.exists_bool, leaves, List.mem_cons, List.not_mem_nil, or_false, exists_eq_or_imp,
    exists_eq_left]
  tauto

theorem mem_subscribed_iff {droneId topic : Bytes} :
    topic ∈ (makeTopics droneId).subscribed ↔
      ∃ legacy, levels mqttWildcards topic = topicLevels droneId legacy (bytes "cmd") := by
  have hlevels := levels_all droneId
  simp only [EkinoxTopics.all, List.map_cons, List.cons.injEq] at hlevels
  simp only [EkinoxTopics.subscribed, List.mem_cons, List.not_mem_nil, or_false, Bool.exists_bool]
  rw [← hlevels.1, ← hlevels.2.1, (levels_injective mqttWildcards).eq_iff,
    (levels_injective mqttWildcards).eq_iff]

def legacyId (droneId : Bytes) : Bytes := droneId ++ bytes "/ekinox"

/-- The first id, or its legacy branch, read as a filter matches the second one or its branch. -/
def Shadows (droneId droneId' : Bytes) : Prop :=
  ∃ legacy legacy', List.Forall₂ (Covers mqttWildcards) (idLevels droneId ++ branch legacy)
    (idLevels droneId' ++ branch legacy')

structure Apart (droneId droneId' : Bytes) : Prop where
  ne_legacy : droneId ≠ legacyId droneId'
  ne_legacy' : droneId' ≠ legacyId droneId
  unshadowed : ¬ Shadows droneId droneId'
  unshadowed' : ¬ Shadows droneId' droneId

theorem idLevels_legacyId (droneId : Bytes) :
    idLevels (legacyId droneId) = idLevels droneId ++ [bytes "ekinox"] := by
  have hsep : mqttWildcards.sep ∉ bytes "ekinox" := by decide
  exact levels_slash droneId hsep

theorem topicLevels_inj {droneId droneId' leaf leaf' : Bytes} {legacy legacy' : Bool}
    (h : topicLevels droneId legacy leaf = topicLevels droneId' legacy' leaf') :
    idLevels droneId ++ branch legacy = idLevels droneId' ++ branch legacy' := by
  simp only [topicLevels, List.cons.injEq, true_and] at h
  exact (List.append_inj' h rfl).1

/-- Two topics are one only if an id is the legacy branch of the other. -/
theorem disjoint_of_apart {droneId droneId' : Bytes} (hne : droneId ≠ droneId')
    (h : Apart droneId droneId') :
    ∀ topic ∈ (makeTopics droneId).all, topic ∉ (makeTopics droneId').all := by
  intro topic hmem hmem'
  obtain ⟨legacy, leaf, -, hl⟩ := mem_all_iff.mp hmem
  obtain ⟨legacy', leaf', -, hl'⟩ := mem_all_iff.mp hmem'
  have hid := topicLevels_inj (hl.symm.trans hl')
  have hinj : Function.Injective idLevels := levels_injective mqttWildcards
  cases legacy <;> cases legacy'
  · apply hne
    apply hinj
    simpa [branch] using hid
  · apply h.ne_legacy
    apply hinj
    rw [idLevels_legacyId]
    simpa [branch] using hid
  · apply h.ne_legacy'
    apply hinj
    rw [idLevels_legacyId]
    simpa [branch] using hid.symm
  · apply hne
    apply hinj
    exact List.append_inj_left' hid rfl

theorem matchTopic_iff {filter topic droneId droneId' leaf : Bytes} {legacy legacy' : Bool}
    (hf : levels mqttWildcards filter = topicLevels droneId legacy (bytes "cmd"))
    (ht : levels mqttWildcards topic = topicLevels droneId' legacy' leaf) :
    matchTopic mqttWildcards filter topic = true ↔
      List.Forall₂ (Covers mqttWildcards) (idLevels droneId ++ branch legacy)
        (idLevels droneId' ++ branch legacy') ∧ bytes "cmd" = leaf := by
  have hlast : (topicLevels droneId legacy (bytes "cmd")).getLast? = some (bytes "cmd") := by
    rw [topicLevels, ← List.cons_append, ← List.cons_append, List.getLast?_concat]
  have hcmd : Plain mqttWildcards (bytes "cmd") := by decide
  have hironsoft : Plain mqttWildcards (bytes "ironsoft") := by decide
  have huav : Plain mqttWildcards (bytes "uav") := by decide
  rw [matchTopic, hf, ht, matchRead_iff mqttWildcards _ (by rw [hlast]; decide), topicLevels, topicLevels,
    List.forall₂_cons, List.forall₂_cons, forall₂_snoc, hironsoft.covers_iff, huav.covers_iff,
    hcmd.covers_iff]
  simp

theorem unmatched_of_unshadowed {droneId droneId' : Bytes} (h : ¬ Shadows droneId droneId') :
    ∀ filter ∈ (makeTopics droneId).subscribed, ∀ topic ∈ (makeTopics droneId').all,
      matchTopic mqttWildcards filter topic = false := by
  intro filter hf topic ht
  obtain ⟨legacy, hf⟩ := mem_subscribed_iff.mp hf
  obtain ⟨legacy', leaf, -, ht⟩ := mem_all_iff.mp ht
  apply eq_false_of_ne_true
  intro hm
  exact h ⟨legacy, legacy', ((matchTopic_iff hf ht).mp hm).1⟩

theorem exists_topic (droneId : Bytes) (legacy : Bool) :
    ∃ topic ∈ (makeTopics droneId).subscribed, topic ∈ (makeTopics droneId).all ∧
      levels mqttWildcards topic = topicLevels droneId legacy (bytes "cmd") := by
  have hlevels := levels_all droneId
  simp only [EkinoxTopics.all, List.map_cons, List.cons.injEq] at hlevels
  cases legacy
  · exact ⟨(makeTopics droneId).cmd, by simp [EkinoxTopics.subscribed], by simp [EkinoxTopics.all],
      hlevels.1⟩
  · exact ⟨(makeTopics droneId).cmdLegacy, by simp [EkinoxTopics.subscribed], by simp [EkinoxTopics.all],
      hlevels.2.1⟩

theorem unshadowed_of_unmatched {droneId droneId' : Bytes}
    (h : ∀ filter ∈ (makeTopics droneId).subscribed, ∀ topic ∈ (makeTopics droneId').all,
      matchTopic mqttWildcards filter topic = false) : ¬ Shadows droneId droneId' := by
  rintro ⟨legacy, legacy', hcovers⟩
  obtain ⟨filter, hmem, -, hf⟩ := exists_topic droneId legacy
  obtain ⟨topic, -, hmem', ht⟩ := exists_topic droneId' legacy'
  have hm := (matchTopic_iff hf ht).mpr ⟨hcovers, rfl⟩
  exact Bool.false_ne_true ((h filter hmem topic hmem').symm.trans hm)

/-- The `cmd` topic of the legacy branch of an id is a topic of the id. -/
theorem ne_legacyId_of_disjoint {droneId droneId' : Bytes}
    (h : ∀ topic ∈ (makeTopics droneId).all, topic ∉ (makeTopics droneId').all) :
    droneId ≠ legacyId droneId' := by
  rintro rfl
  obtain ⟨topic, -, hmem, ht⟩ := exists_topic (legacyId droneId') false
  apply h topic hmem
  apply mem_all_iff.mpr
  refine ⟨true, bytes "cmd", by simp [leaves], ht.trans ?_⟩
  rw [topicLevels, topicLevels, idLevels_legacyId]
  simp [branch]

/-- The topics of two drones are isolated if and only if no id is the legacy branch of the other
and none shadows the other. -/
theorem isolated_iff_apart {droneId droneId' : Bytes} (hne : droneId ≠ droneId') :
    Isolated (makeTopics droneId) (makeTopics droneId') ↔ Apart droneId droneId' := by
  constructor
  · intro h
    have hsymm : ∀ topic ∈ (makeTopics droneId').all, topic ∉ (makeTopics droneId).all :=
      fun topic hmem hmem' => h.disjoint topic hmem' hmem
    exact ⟨ne_legacyId_of_disjoint h.disjoint, ne_legacyId_of_disjoint hsymm,
      unshadowed_of_unmatched h.unmatched, unshadowed_of_unmatched h.unmatched'⟩
  · intro h
    exact ⟨disjoint_of_apart hne h, unmatched_of_unshadowed h.unshadowed,
      unmatched_of_unshadowed h.unshadowed'⟩

/-- An id of one level without wildcards. -/
structure PlainId (droneId : Bytes) : Prop where
  sep : mqttWildcards.sep ∉ droneId
  plain : Plain mqttWildcards droneId

theorem PlainId.unshadowed {droneId droneId' : Bytes} (h : PlainId droneId) (h' : PlainId droneId')
    (hne : droneId ≠ droneId') : ¬ Shadows droneId droneId' := by
  rintro ⟨legacy, legacy', hcovers⟩
  rw [idLevels, idLevels, levels_of_not_mem _ h.sep, levels_of_not_mem _ h'.sep] at hcovers
  simp only [List.cons_append, List.nil_append, List.forall₂_cons] at hcovers
  exact hne (h.plain.covers_iff.mp hcovers.1)

theorem PlainId.ne_legacyId {droneId : Bytes} (h : PlainId droneId) (droneId' : Bytes) :
    droneId ≠ legacyId droneId' := by
  rintro rfl
  have hslash : mqttWildcards.sep ∈ bytes "/ekinox" := by decide
  exact h.sep (List.mem_append_right _ hslash)

theorem apart_of_plainId {droneId droneId' : Bytes} (h : PlainId droneId) (h' : PlainId droneId')
    (hne : droneId ≠ droneId') : Apart droneId droneId' :=
  ⟨h.ne_legacyId droneId', h'.ne_legacyId droneId, h.unshadowed h' hne, h'.unshadowed h hne.symm⟩

theorem numbered_drones_isolated : Isolated (makeTopics (bytes "d1")) (makeTopics (bytes "d2")) := by
  have hne : bytes "d1" ≠ bytes "d2" := by decide
  have h₁ : PlainId (bytes "d1") := ⟨by decide, by decide⟩
  have h₂ : PlainId (bytes "d2") := ⟨by decide, by decide⟩
  exact (isolated_iff_apart hne).mpr (apart_of_plainId h₁ h₂ hne)

def benchLegacyConfig : EkinoxConfig :=
  { mqtt := { host := bytes "broker", droneId := bytes "d1/ekinox" }
    ekinox := { ip := bytes "10.0.0.2" } }

def benchLegacyText : Bytes :=
  bytes "\x7b\"mqtt\":\x7b\"host\":\"broker\",\"port\":1883,\"drone_id\":\"d1/ekinox\"\x7d," ++
    bytes "\"ekinox\":\x7b\"ip\":\"10.0.0.2\"\x7d\x7d"

def benchLegacyJson : Json :=
  .obj [(bytes "mqtt", .obj [(bytes "host", .str (bytes "broker")), (bytes "port", .int 1883),
      (bytes "drone_id", .str (bytes "d1/ekinox"))]),
    (bytes "ekinox", .obj [(bytes "ip", .str (bytes "10.0.0.2"))])]

def benchLegacyLoadEnv : LoadEnv where
  parse content := .ok (if content = benchLegacyText then some benchLegacyJson else none)
  file := some benchLegacyText

theorem benchLegacy_accepted : Accepted benchLegacyConfig :=
  ⟨benchLegacyLoadEnv, bytes "config.json", {}, rfl⟩

/-- `d1/ekinox` is commanded on the legacy topic of `d1`. -/
theorem legacy_id_not_isolated : ¬ ∀ config config', Accepted config → Accepted config' →
    config.mqtt.droneId ≠ config'.mqtt.droneId →
    Isolated (makeTopics config.mqtt.droneId) (makeTopics config'.mqtt.droneId) := by
  intro hall
  have h := hall benchPlatform.config benchLegacyConfig benchPlatform_accepted benchLegacy_accepted
    (by decide)
  have hmem : (makeTopics (bytes "d1")).cmdLegacy ∈ (makeTopics (bytes "d1")).all := by decide
  have hcmd : (makeTopics (bytes "d1")).cmdLegacy ∈ (makeTopics (bytes "d1/ekinox")).all := by decide
  exact h.disjoint _ hmem hcmd

end Ironsoft.Ekinox
