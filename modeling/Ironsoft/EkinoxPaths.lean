import Ironsoft.EkinoxAcceptance
import Ironsoft.SegmentModel
import Mathlib.Data.List.TakeWhile

/-!
# REST paths

`join_paths` puts a slash between its arguments after it has trimmed the slashes that are there.
It keeps a lone slash on the left, and then the two meet.
-/
namespace Ironsoft.Ekinox
open Effect SegmentModel

def slash : UInt8 := 47

def ensureLeadingSlash (path : Bytes) : Bytes :=
  match path with
  | [] => bytes "/"
  | front :: _ => if front = slash then path else slash :: path

/-- The loop of `trim_trailing_slash`, over a path that is read from its back. -/
def popBackSlashes : Bytes → Bytes
  | back :: next :: path =>
    if back = slash then popBackSlashes (next :: path) else back :: next :: path
  | path => path

def trimTrailingSlash (path : Bytes) : Bytes := (popBackSlashes path.reverse).reverse

def joinPaths (lhs rhs : Bytes) : Bytes :=
  let base := trimTrailingSlash (ensureLeadingSlash lhs)
  let tail := rhs.dropWhile (· = slash)
  if tail = [] then base else base ++ [slash] ++ tail

structure RestPaths where
  base : Bytes
  start : Bytes
  stop : Bytes

def buildPaths (api : RestApiConfig) : RestPaths :=
  let base := joinPaths api.basePath api.dataloggerPath
  { base := base, start := joinPaths base (bytes "start"), stop := joinPaths base (bytes "stop") }

def buildUrl (config : EkinoxConfig) (path : Bytes) : Bytes :=
  bytes "http://" ++ config.ekinox.ip ++ bytes ":" ++ decimal config.ekinox.restPort.toInt ++
    ensureLeadingSlash path

section Trimming

variable {path : Bytes} {b : UInt8}

theorem trimTrailingSlash_concat_slash (h : path ≠ []) :
    trimTrailingSlash (path ++ [slash]) = trimTrailingSlash path := by
  unfold trimTrailingSlash
  rw [List.reverse_append, List.reverse_singleton, List.singleton_append]
  obtain ⟨next, rest, hrest⟩ := List.exists_cons_of_ne_nil (List.reverse_ne_nil_iff.mpr h)
  rw [hrest, popBackSlashes, if_pos rfl]

theorem trimTrailingSlash_of_last_ne (h : b ≠ slash) :
    trimTrailingSlash (path ++ [b]) = path ++ [b] := by
  unfold trimTrailingSlash
  rw [List.reverse_append, List.reverse_singleton, List.singleton_append]
  cases hrev : path.reverse with
  | nil =>
    rw [List.reverse_eq_nil_iff.mp hrev]
    rfl
  | cons next rest =>
    rw [popBackSlashes, if_neg h, ← hrev]
    simp

/-- What trimming leaves of a path that is not empty. -/
structure Trimmed (path trimmed : Bytes) : Prop where
  isPrefix : trimmed <+: path
  ne_nil : trimmed ≠ []
  /-- The last slash stays only where it stands alone. -/
  last : trimmed.getLast? = some slash → trimmed = [slash]
  segments : segments slash trimmed = segments slash path

theorem trimTrailingSlash_trimmed (h : path ≠ []) : Trimmed path (trimTrailingSlash path) := by
  induction path using List.reverseRecOn with
  | nil => exact absurd rfl h
  | append_singleton path b ih =>
    by_cases hb : b = slash
    · by_cases hpath : path = []
      · subst hb hpath
        exact ⟨List.prefix_refl _, List.cons_ne_nil _ _, fun _ => rfl, rfl⟩
      · rw [hb, trimTrailingSlash_concat_slash hpath]
        have htrimmed := ih hpath
        exact ⟨htrimmed.isPrefix.trans (List.prefix_append _ _), htrimmed.ne_nil, htrimmed.last,
          htrimmed.segments.trans segments_concat_sep.symm⟩
    · rw [trimTrailingSlash_of_last_ne hb]
      refine ⟨List.prefix_refl _, by simp, fun hlast => ?_, rfl⟩
      rw [List.getLast?_concat, Option.some.injEq] at hlast
      exact absurd hlast hb

theorem ensureLeadingSlash_head (path : Bytes) : (ensureLeadingSlash path).head? = some slash := by
  unfold ensureLeadingSlash
  split
  · rfl
  · split_ifs with hfront
    · rw [hfront, List.head?_cons]
    · rfl

theorem ensureLeadingSlash_ne_nil : ensureLeadingSlash path ≠ [] := by
  intro h
  have hhead := ensureLeadingSlash_head path
  rw [h] at hhead
  cases hhead

theorem segments_ensureLeadingSlash :
    segments slash (ensureLeadingSlash path) = segments slash path := by
  unfold ensureLeadingSlash
  split
  · rfl
  · split_ifs
    · rfl
    · exact segments_sep_cons

theorem doubled_ensureLeadingSlash (h : Doubled slash (ensureLeadingSlash path)) :
    Doubled slash path := by
  unfold ensureLeadingSlash at h
  split at h
  · exact absurd h (by decide)
  · split_ifs at h with hfront
    · exact h
    · rcases doubled_cons.mp h with ⟨-, hhead⟩ | h
      · rw [List.head?_cons, Option.some.injEq] at hhead
        exact absurd hhead hfront
      · exact h

end Trimming

section Seam

variable {lhs rhs : Bytes}

theorem base_trimmed (lhs : Bytes) :
    Trimmed (ensureLeadingSlash lhs) (trimTrailingSlash (ensureLeadingSlash lhs)) :=
  trimTrailingSlash_trimmed ensureLeadingSlash_ne_nil

theorem base_head (lhs : Bytes) :
    (trimTrailingSlash (ensureLeadingSlash lhs)).head? = some slash := by
  obtain ⟨b, base, hbase⟩ := List.exists_cons_of_ne_nil (base_trimmed lhs).ne_nil
  obtain ⟨rest, hrest⟩ := (base_trimmed lhs).isPrefix
  have hhead := ensureLeadingSlash_head lhs
  rw [← hrest, hbase] at hhead
  rw [hbase]
  exact hhead

theorem base_segments (lhs : Bytes) :
    segments slash (trimTrailingSlash (ensureLeadingSlash lhs)) = segments slash lhs :=
  (base_trimmed lhs).segments.trans segments_ensureLeadingSlash

theorem doubled_of_base (h : Doubled slash (trimTrailingSlash (ensureLeadingSlash lhs))) :
    Doubled slash lhs :=
  doubled_ensureLeadingSlash (h.of_infix (base_trimmed lhs).isPrefix.isInfix)

/-- The base is a lone slash only for a left side of slashes. -/
theorem base_last_slash_iff :
    (trimTrailingSlash (ensureLeadingSlash lhs)).getLast? = some slash ↔ ∀ b ∈ lhs, b = slash := by
  rw [← segments_eq_nil_iff, ← base_segments]
  constructor
  · intro hlast
    rw [(base_trimmed lhs).last hlast]
    rfl
  · intro hsegments
    rw [segments_eq_nil_iff] at hsegments
    rw [List.getLast?_eq_some_getLast (base_trimmed lhs).ne_nil]
    exact congrArg some (hsegments _ (List.getLast_mem _))

theorem tail_head_ne (rhs : Bytes) : (rhs.dropWhile (· = slash)).head? ≠ some slash := by
  intro hhead
  have hnot := List.head?_dropWhile_not (· = slash) rhs
  rw [hhead] at hnot
  simp at hnot

theorem tail_eq_nil_iff : rhs.dropWhile (· = slash) = [] ↔ ¬ ∃ b ∈ rhs, b ≠ slash := by
  simp [List.dropWhile_eq_nil_iff]

theorem joinPaths_of_slashes (h : ¬ ∃ b ∈ rhs, b ≠ slash) :
    joinPaths lhs rhs = trimTrailingSlash (ensureLeadingSlash lhs) :=
  if_pos (tail_eq_nil_iff.mpr h)

theorem joinPaths_of_tail (h : ∃ b ∈ rhs, b ≠ slash) :
    joinPaths lhs rhs =
      trimTrailingSlash (ensureLeadingSlash lhs) ++ slash :: rhs.dropWhile (· = slash) := by
  have htail : rhs.dropWhile (· = slash) ≠ [] := fun hnil => tail_eq_nil_iff.mp hnil h
  unfold joinPaths
  simp only [htail, if_false, List.append_assoc, List.singleton_append]

/-- What a join has to give for the slashes around it not to matter. -/
structure JoinsCleanly (lhs rhs : Bytes) : Prop where
  leading : (joinPaths lhs rhs).head? = some slash
  segments : segments slash (joinPaths lhs rhs) = segments slash lhs ++ segments slash rhs
  doubled : Doubled slash (joinPaths lhs rhs) → Doubled slash lhs ∨ Doubled slash rhs

theorem joinPaths_leading (lhs rhs : Bytes) : (joinPaths lhs rhs).head? = some slash := by
  by_cases htail : ∃ b ∈ rhs, b ≠ slash
  · rw [joinPaths_of_tail htail, List.head?_append, base_head lhs, Option.some_or]
  · rw [joinPaths_of_slashes htail]
    exact base_head lhs

theorem joinPaths_segments (lhs rhs : Bytes) :
    segments slash (joinPaths lhs rhs) = segments slash lhs ++ segments slash rhs := by
  by_cases htail : ∃ b ∈ rhs, b ≠ slash
  · rw [joinPaths_of_tail htail, segments_append_sep, base_segments, segments_dropWhile]
  · have hnone : segments slash rhs = [] := segments_eq_nil_iff.mpr (by simpa using htail)
    rw [joinPaths_of_slashes htail, base_segments, hnone, List.append_nil]

theorem ensureLeadingSlash_joinPaths (lhs rhs : Bytes) :
    ensureLeadingSlash (joinPaths lhs rhs) = joinPaths lhs rhs := by
  obtain ⟨rest, hrest⟩ := List.head?_eq_some_iff.mp (joinPaths_leading lhs rhs)
  simp only [hrest, ensureLeadingSlash, if_true]

/-- The URL takes a joined path over as it is. -/
theorem buildUrl_joinPaths (config : EkinoxConfig) (lhs rhs : Bytes) :
    buildUrl config (joinPaths lhs rhs) =
      bytes "http://" ++ config.ekinox.ip ++ bytes ":" ++ decimal config.ekinox.restPort.toInt ++
        joinPaths lhs rhs := by
  unfold buildUrl
  rw [ensureLeadingSlash_joinPaths]

/-- A left side without a segment and a right side with one. -/
def RootSeam (lhs rhs : Bytes) : Prop := (∀ b ∈ lhs, b = slash) ∧ ∃ b ∈ rhs, b ≠ slash

theorem doubled_joinPaths (h : Doubled slash (joinPaths lhs rhs)) :
    Doubled slash lhs ∨ Doubled slash rhs ∨ RootSeam lhs rhs := by
  by_cases htail : ∃ b ∈ rhs, b ≠ slash
  · rw [joinPaths_of_tail htail, doubled_append_sep] at h
    rcases h with hbase | hrhs | hlast | hhead
    · exact .inl (doubled_of_base hbase)
    · exact .inr (.inl (hrhs.of_infix (List.dropWhile_suffix _).isInfix))
    · exact .inr (.inr ⟨base_last_slash_iff.mp hlast, htail⟩)
    · exact absurd hhead (tail_head_ne rhs)
  · rw [joinPaths_of_slashes htail] at h
    exact .inl (doubled_of_base h)

theorem RootSeam.doubled (h : RootSeam lhs rhs) : Doubled slash (joinPaths lhs rhs) := by
  rw [joinPaths_of_tail h.2, doubled_append_sep]
  exact .inr (.inr (.inl (base_last_slash_iff.mpr h.1)))

/-- The slash in front of the tail stands behind another. -/
def SeamDoubles (lhs rhs : Bytes) : Prop :=
  (lhs = [] ∨ lhs = [slash]) ∧ (∃ b ∈ rhs, b ≠ slash) ∧ ¬ Doubled slash rhs

theorem joinsCleanly_iff (lhs rhs : Bytes) : JoinsCleanly lhs rhs ↔ ¬ SeamDoubles lhs rhs := by
  constructor
  · rintro hclean ⟨hlhs, htail, hrhs⟩
    have hall : ∀ b ∈ lhs, b = slash := by
      rcases hlhs with rfl | rfl <;> simp
    rcases hclean.doubled (RootSeam.doubled ⟨hall, htail⟩) with h | h
    · rcases hlhs with rfl | rfl <;> exact absurd h (by decide)
    · exact hrhs h
  · intro hseam
    refine ⟨joinPaths_leading lhs rhs, joinPaths_segments lhs rhs, fun hdoubled => ?_⟩
    by_contra hnone
    obtain ⟨hlhs, hrhs⟩ := not_or.mp hnone
    rcases doubled_joinPaths hdoubled with h | h | ⟨hall, htail⟩
    · exact hlhs h
    · exact hrhs h
    · exact hseam ⟨eq_of_all_sep hall hlhs, htail, hrhs⟩

end Seam

/-- No path has an empty segment in it. -/
structure RestPaths.Undoubled (paths : RestPaths) : Prop where
  base : ¬ Doubled slash paths.base
  start : ¬ Doubled slash paths.start
  stop : ¬ Doubled slash paths.stop

/-- A name of its own is appended cleanly unless nothing stands before it. -/
theorem doubled_child_iff {base : Bytes} (hbase : ¬ Doubled slash base) (name : Bytes)
    (hname : ¬ Doubled slash name) (hsegment : ∃ b ∈ name, b ≠ slash) :
    Doubled slash (joinPaths base name) ↔ segments slash base = [] := by
  rw [segments_eq_nil_iff]
  constructor
  · intro hdoubled
    rcases doubled_joinPaths hdoubled with h | h | ⟨hall, -⟩
    · exact absurd h hbase
    · exact absurd h hname
    · exact hall
  · intro hall
    exact RootSeam.doubled ⟨hall, hsegment⟩

section Built

variable {api : RestApiConfig}

theorem buildPaths_base_segments :
    segments slash (buildPaths api).base =
      segments slash api.basePath ++ segments slash api.dataloggerPath :=
  joinPaths_segments api.basePath api.dataloggerPath

/-- The two command paths double a slash exactly if the base is bare. -/
theorem undoubled_iff_base (h : ¬ Doubled slash (buildPaths api).base) :
    (buildPaths api).Undoubled ↔ segments slash (buildPaths api).base ≠ [] := by
  have hstart := doubled_child_iff h (bytes "start") (by decide) (by decide)
  have hstop := doubled_child_iff h (bytes "stop") (by decide) (by decide)
  constructor
  · intro hpaths hbare
    exact hpaths.start (hstart.mpr hbare)
  · intro hsegments
    exact ⟨h, fun hdoubled => hsegments (hstart.mp hdoubled),
      fun hdoubled => hsegments (hstop.mp hdoubled)⟩

theorem root_not_undoubled (hroot : api.basePath = [slash]) : ¬ (buildPaths api).Undoubled := by
  intro hpaths
  have hall : ∀ b ∈ api.basePath, b = slash := by simp [hroot]
  by_cases hsegment : ∃ b ∈ api.dataloggerPath, b ≠ slash
  · exact hpaths.base (RootSeam.doubled ⟨hall, hsegment⟩)
  · refine (undoubled_iff_base hpaths.base).mp hpaths ?_
    have hnone : segments slash api.dataloggerPath = [] :=
      segments_eq_nil_iff.mpr (by simpa using hsegment)
    rw [buildPaths_base_segments, hnone, segments_eq_nil_iff.mpr hall, List.append_nil]

theorem buildPaths_undoubled_iff (hvalid : api.Valid) (hbase : ¬ Doubled slash api.basePath)
    (hlogger : ¬ Doubled slash api.dataloggerPath) :
    (buildPaths api).Undoubled ↔ api.basePath ≠ [slash] := by
  constructor
  · intro hpaths hroot
    exact root_not_undoubled hroot hpaths
  · intro hroot
    have hsegments : segments slash api.basePath ≠ [] := by
      intro hnone
      rcases eq_of_all_sep (segments_eq_nil_iff.mp hnone) hbase with h | h
      · exact hvalid.basePath h
      · exact hroot h
    have hjoined : ¬ Doubled slash (buildPaths api).base := by
      intro hdoubled
      rcases doubled_joinPaths hdoubled with h | h | ⟨hall, -⟩
      · exact hbase h
      · exact hlogger h
      · exact hsegments (segments_eq_nil_iff.mpr hall)
    rw [undoubled_iff_base hjoined, buildPaths_base_segments]
    exact List.append_ne_nil_of_left_ne_nil hsegments _

end Built

/-- **Join.** `join_paths` doubles a slash of its own exactly where its left side is empty or a
lone slash and its right side has a segment; so the paths of an accepted configuration are free of
doubled slashes exactly if its base path is not a lone slash. -/
theorem joinPaths_clean_iff (lhs rhs : Bytes) (config : EkinoxConfig) :
    (JoinsCleanly lhs rhs ↔ ¬ SeamDoubles lhs rhs) ∧
    (Accepted config → ¬ Doubled slash config.restApi.basePath →
      ¬ Doubled slash config.restApi.dataloggerPath →
        ((buildPaths config.restApi).Undoubled ↔ config.restApi.basePath ≠ [slash])) :=
  ⟨joinsCleanly_iff lhs rhs, fun haccepted hbase hlogger =>
    buildPaths_undoubled_iff haccepted.valid.restApi hbase hlogger⟩

/-- The bench configuration with the base path `/`. -/
def benchRootConfig : EkinoxConfig :=
  { benchPlatform.config with restApi := { basePath := [slash] } }

def benchRootJson : Json :=
  .obj [(bytes "mqtt", .obj [(bytes "host", .str (bytes "broker")), (bytes "port", .int 1883),
      (bytes "drone_id", .str (bytes "d1"))]),
    (bytes "ekinox", .obj [(bytes "ip", .str (bytes "10.0.0.2"))]),
    (bytes "rest_api", .obj [(bytes "base_path", .str [slash])])]

/-- The text `benchRootConfig` is loaded from. -/
def benchRootText : Bytes :=
  bytes "\x7b\"mqtt\":\x7b\"host\":\"broker\",\"port\":1883,\"drone_id\":\"d1\"\x7d," ++
    bytes "\"ekinox\":\x7b\"ip\":\"10.0.0.2\"\x7d,\"rest_api\":\x7b\"base_path\":\"/\"\x7d\x7d"

def benchRootEnv : LoadEnv where
  parse content := .ok (if content = benchRootText then some benchRootJson else none)
  file := some benchRootText

theorem benchRootConfig_accepted : Accepted benchRootConfig :=
  ⟨benchRootEnv, bytes "config.json", {}, rfl⟩

/-- A doubled slash is where neither the base path nor the logger's has one. -/
theorem root_base_doubles : ¬ JoinsCleanly [slash] (bytes "dataLogger") ∧
    ¬ ∀ config, Accepted config → ¬ Doubled slash config.restApi.basePath →
      ¬ Doubled slash config.restApi.dataloggerPath → (buildPaths config.restApi).Undoubled := by
  constructor
  · intro hclean
    exact absurd (hclean.doubled (by decide)) (by decide)
  · intro hall
    have hundoubled := hall benchRootConfig benchRootConfig_accepted (by decide) (by decide)
    exact absurd hundoubled.base (by decide)

/-- The default paths are clean. -/
theorem default_paths_clean : Accepted benchPlatform.config ∧
    (buildPaths benchPlatform.config.restApi).Undoubled :=
  ⟨benchPlatform_accepted, ((joinPaths_clean_iff [] [] benchPlatform.config).2
    benchPlatform_accepted (by decide) (by decide)).mpr (by decide)⟩

end Ironsoft.Ekinox
