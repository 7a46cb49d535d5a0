import Mathlib.Data.Nat.Notation
import Mathlib.Logic.Relation

/-!
# Presence

What the presence of a service is for, apart from how it is computed: a broker shows the
last announcement, an online announcement is backed by a live peer, and a service that has
gone offline stays offline until two requests in a row have succeeded.
-/
namespace Ironsoft.PresenceModel

inductive PresenceEvent
  | connect
  | announced (online : Bool)
  | result (success : Bool)
  deriving DecidableEq

open PresenceEvent

def shown : List PresenceEvent → Option Bool
  | [] => none
  | announced online :: _ => some online
  | _ :: older => shown older

/-- The results since the service went offline, newest first, or `none` while it is online.
A connection begins offline. -/
def offlineResults : List PresenceEvent → Option (List Bool)
  | [] => none
  | connect :: _ => some []
  | announced true :: _ => none
  | announced false :: older => some ((offlineResults older).getD [])
  | result success :: older => (offlineResults older).map (success :: ·)

/-- There are two successes, and no failure between the last two. -/
def TwoSuccesses (results : List Bool) : Prop :=
  ∃ older, results.dropWhile (! ·) = true :: true :: older

/-- Before every announcement that ends an offline period there are two successes. -/
def Hysteresis (history : List PresenceEvent) : Prop :=
  ∀ newer older results, history = newer ++ announced true :: older →
    offlineResults older = some results → TwoSuccesses results

theorem hysteresis_nil : Hysteresis [] := by
  intro newer older results h
  simp at h

/-- Only an announcement of being online has to be looked at. -/
theorem Hysteresis.cons {history : List PresenceEvent} (h : Hysteresis history) {e : PresenceEvent}
    (he : e = announced true → ∀ results, offlineResults history = some results →
      TwoSuccesses results) : Hysteresis (e :: history) := by
  intro newer older results hsplit
  cases newer with
  | nil =>
    obtain ⟨rfl, rfl⟩ := List.cons.inj hsplit
    exact he rfl results
  | cons _ newer => exact h newer older results (List.cons.inj hsplit).2

/-- Once online has been announced, offline is not. -/
def NeverFlaps (history : List PresenceEvent) : Prop :=
  ∀ newer older, history = newer ++ announced false :: older → announced true ∉ older

theorem NeverFlaps.cons {history : List PresenceEvent} (h : NeverFlaps history) {e : PresenceEvent}
    (he : e = announced false → announced true ∉ history) : NeverFlaps (e :: history) := by
  intro newer older hsplit
  cases newer with
  | nil =>
    obtain ⟨rfl, rfl⟩ := List.cons.inj hsplit
    exact he rfl
  | cons _ newer => exact h newer older (List.cons.inj hsplit).2

theorem NeverFlaps.of_append {newer history : List PresenceEvent} (h : NeverFlaps (newer ++ history)) :
    NeverFlaps history := by
  rintro latest older rfl
  exact h (newer ++ latest) older (List.append_assoc newer latest _).symm

theorem neverFlaps_of_not_mem {history : List PresenceEvent} (h : announced true ∉ history) :
    NeverFlaps history := by
  rintro newer older rfl hmem
  exact h (List.mem_append_right newer (List.mem_cons_of_mem _ hmem))

/-- How many results in a row have been successes. -/
def successRun (results : List Bool) : ℕ := (results.takeWhile id).length

theorem twoSuccesses_of_run {results : List Bool} (h : 2 ≤ successRun results) :
    TwoSuccesses results := by
  match results with
  | [] | [true] | false :: _ | true :: false :: _ => simp [successRun] at h
  | true :: true :: older => exact ⟨older, rfl⟩

structure PresenceView where
  connected : Bool
  online : Bool
  /-- the peer is taken to be alive -/
  alive : Bool
  /-- successes in a row, as the service counts them -/
  streak : ℕ
  history : List PresenceEvent

namespace PresenceView

def succeeded (count : ℕ → ℕ) (v : PresenceView) : PresenceView :=
  { v with alive := true, streak := count v.streak, history := result true :: v.history }

def failed (offline : Bool) (v : PresenceView) : PresenceView :=
  { v with alive := !offline, streak := 0, history := result false :: v.history }

/-- A connection has been made and nothing has been announced over it. -/
def restarted (v : PresenceView) : PresenceView :=
  { v with connected := true, online := false, alive := false, streak := 0 }

def dropped (v : PresenceView) : PresenceView :=
  { v with connected := false, online := false, streak := 0 }

end PresenceView

/-- `online` is announced, or remembered while there is no connection, or was announced
before. An announcement can get lost unless `quiet`. -/
inductive Announces (quiet : Prop) (online : Bool) (v : PresenceView) : PresenceView → Prop
  | remembered (h : v.connected = false ∨ v.online = online) :
    Announces quiet online v { v with online := online }
  | published (h : v.connected = true) :
    Announces quiet online v { v with online := online, history := announced online :: v.history }
  | lost (h : ¬quiet) : Announces quiet online v v

open PresenceView

/-- Without a connection presence is offline, and nothing is published. -/
theorem Announces.eq_of_dropped {v v' : PresenceView} {quiet : Prop}
    (h : Announces quiet false v.dropped v') :
    v' = v.dropped := by
  cases h with
  | remembered _ => rfl
  | published h => cases h
  | lost _ => rfl

theorem Announces.online_eq {quiet : Prop} {online : Bool} {v v' : PresenceView} (hquiet : quiet)
    (h : Announces quiet online v v') : v'.online = online := by
  cases h with
  | remembered | published => rfl
  | lost h => exact absurd hquiet h

theorem Announces.connected_eq {quiet : Prop} {online : Bool} {v v' : PresenceView}
    (h : Announces quiet online v v') : v'.connected = v.connected := by
  cases h <;> rfl

theorem Announces.history_append {v v' : PresenceView} {quiet : Prop} {online : Bool}
    (h : Announces quiet online v v') : ∃ newer, v'.history = newer ++ v.history := by
  cases h with
  | remembered | lost => exact ⟨[], rfl⟩
  | published => exact ⟨[announced online], rfl⟩

theorem Announces.never {v v' : PresenceView} {quiet : Prop} (h : Announces quiet false v v')
    (hv : announced true ∉ v.history) : announced true ∉ v'.history := by
  cases h with
  | remembered | lost => exact hv
  | published => exact List.not_mem_cons_of_ne_of_not_mem nofun hv

theorem NeverFlaps.announces {v v' : PresenceView} {quiet : Prop} {online : Bool}
    (hv : NeverFlaps v.history) (h : Announces quiet online v v')
    (hoffline : online = false → announced true ∉ v.history) : NeverFlaps v'.history := by
  cases h with
  | remembered | lost => exact hv
  | published => exact hv.cons fun he => hoffline (PresenceEvent.announced.inj he)

/-- A step of the service. `quiet` rules out lost announcements, and `strict` rules out
that presence is given up while successes are being counted. -/
inductive PresenceStep (quiet strict : Prop) (count : ℕ → ℕ) (v : PresenceView) :
    PresenceView → Prop
  | success {v'} (online : Bool)
    (honline : online = true → v.connected = true ∧ (2 ≤ count v.streak ∨ v.online = true))
    (hstrict : strict → v.connected = true → v.online = true → online = true)
    (h : Announces quiet online (v.succeeded count) v') : PresenceStep quiet strict count v v'
  | failure : PresenceStep quiet strict count v (v.failed false)
  | outage {v'} (h : Announces quiet false (v.failed true) v') : PresenceStep quiet strict count v v'
  | revive : PresenceStep quiet strict count v { v with alive := true }
  | ageOut {v'} (hstrict : strict → v.connected = true → v.online = true → v.streak = 0)
    (h : Announces quiet false { v with alive := false } v') : PresenceStep quiet strict count v v'
  | connecting (h : v.connected = false) :
    PresenceStep quiet strict count v { v with history := connect :: v.history }
  | session {older} (h : v.history = connect :: older) :
    PresenceStep quiet strict count v
      { v.restarted with history := announced false :: v.history }
  | sessionLost {older} (hlost : ¬quiet) (h : v.history = connect :: older) :
    PresenceStep quiet strict count v v.restarted
  | dropped : PresenceStep quiet strict count v v.dropped
  | disconnected : PresenceStep quiet strict count v { v with connected := false, streak := 0 }
  | closing {v'} (hstrict : ¬strict) (h : Announces quiet false v v') :
    PresenceStep quiet strict count v v'

/-- Whoever is announced as online is alive, and the broker shows what the service thinks. -/
structure Fresh (v : PresenceView) : Prop where
  alive : v.online = true → v.alive = true
  shown : v.connected = true → shown v.history = some v.online

theorem Fresh.announces {v v' : PresenceView} {online quiet : _} (hquiet : quiet)
    (h : Announces quiet online v v') (halive : online = true → v.alive = true)
    (hshown : v.connected = true → PresenceModel.shown v.history = some v.online) : Fresh v' := by
  cases h with
  | remembered h =>
    refine ⟨halive, fun hc => ?_⟩
    rcases h with h | h
    · exact absurd (h.symm.trans hc) Bool.false_ne_true
    · exact (hshown hc).trans (congrArg some h)
  | published h => exact ⟨halive, fun _ => rfl⟩
  | lost h => exact absurd hquiet h

theorem Fresh.step {quiet strict : Prop} {count : ℕ → ℕ} {v v' : PresenceView} (hquiet : quiet)
    (h : Fresh v) (hs : PresenceStep quiet strict count v v') : Fresh v' := by
  cases hs with
  | success online _ _ ha => exact .announces hquiet ha (fun _ => rfl) h.shown
  | failure => exact ⟨fun _ => rfl, h.shown⟩
  | outage ha => exact .announces hquiet ha nofun h.shown
  | revive => exact ⟨fun _ => rfl, h.shown⟩
  | ageOut _ ha => exact .announces hquiet ha nofun h.shown
  | connecting hc => exact ⟨h.alive, fun h' => absurd (hc.symm.trans h') Bool.false_ne_true⟩
  | session _ => exact ⟨nofun, fun _ => rfl⟩
  | sessionLost hlost _ => exact absurd hquiet hlost
  | dropped => exact ⟨nofun, nofun⟩
  | disconnected => exact ⟨h.alive, nofun⟩
  | closing _ ha => exact .announces hquiet ha nofun h.shown

theorem Fresh.steps {quiet strict : Prop} {count : ℕ → ℕ} {v v' : PresenceView} (hquiet : quiet)
    (h : Fresh v) (hs : Relation.ReflTransGen (PresenceStep quiet strict count) v v') :
    Fresh v' := by
  induction hs with
  | refl => exact h
  | tail _ hstep ih => exact ih.step hquiet hstep

/-- While the service is offline, the successes it counts all happened in this period. -/
structure Counted (v : PresenceView) : Prop where
  online : v.connected = true → v.online = true → offlineResults v.history = none
  streak : v.connected = true → v.online = false →
    ∃ results, offlineResults v.history = some results ∧ v.streak ≤ successRun results

theorem Hysteresis.announces {v v' : PresenceView} {online : Bool} {quiet : Prop}
    (hv : Hysteresis v.history) (h : Announces quiet online v v')
    (honline : online = true → ∀ results, offlineResults v.history = some results →
      TwoSuccesses results) : Hysteresis v'.history := by
  cases h with
  | remembered h => exact hv
  | published h => exact hv.cons fun he => honline (by cases he; rfl)
  | lost h => exact hv

/-- Staying offline, or going offline with nothing counted, keeps the count. -/
theorem Counted.offline {v v' : PresenceView} {quiet : Prop} (h : Counted v)
    (hstreak : v.connected = true → v.online = true → v.streak = 0)
    (ha : Announces quiet false v v') : Counted v' := by
  cases ha with
  | remembered ha =>
    refine ⟨fun _ => nofun, fun hc _ => h.streak hc ?_⟩
    exact ha.resolve_left fun hf => Bool.false_ne_true (hf.symm.trans hc)
  | published ha =>
    refine ⟨fun _ => nofun, fun hc _ => ⟨_, rfl, ?_⟩⟩
    cases ho : v.online with
    | true =>
      change v.streak ≤ _
      rw [hstreak hc ho]
      exact Nat.zero_le _
    | false =>
      obtain ⟨results, hr, hle⟩ := h.streak hc ho
      rw [hr]
      exact hle
  | lost ha => exact h

theorem Counted.succeeded {count : ℕ → ℕ} (hcount : ∀ n, count n ≤ n + 1) {v : PresenceView}
    (h : Counted v) : Counted (v.succeeded count) := by
  refine ⟨fun hc ho => ?_, fun hc ho => ?_⟩
  · simp [PresenceView.succeeded, offlineResults, h.online hc ho]
  · obtain ⟨results, hr, hle⟩ := h.streak hc ho
    refine ⟨true :: results, by simp [PresenceView.succeeded, offlineResults, hr], ?_⟩
    exact Nat.le_trans (hcount v.streak) (Nat.succ_le_succ hle)

theorem Counted.failed {v : PresenceView} (h : Counted v) (offline : Bool) :
    Counted (v.failed offline) := by
  refine ⟨fun hc ho => ?_, fun hc ho => ?_⟩
  · simp [PresenceView.failed, offlineResults, h.online hc ho]
  · obtain ⟨results, hr, -⟩ := h.streak hc ho
    exact ⟨false :: results, by simp [PresenceView.failed, offlineResults, hr], Nat.zero_le _⟩

/-- A service that counts its successes goes online. -/
theorem Counted.announcesOnline {v v' : PresenceView} {quiet : Prop} (h : Counted v)
    (ha : Announces quiet true v v') : Counted v' := by
  cases ha with
  | remembered ha =>
    refine ⟨fun hc _ => h.online hc ?_, fun _ => nofun⟩
    exact ha.resolve_left fun hf => Bool.false_ne_true (hf.symm.trans hc)
  | published ha => exact ⟨fun _ _ => rfl, fun _ => nofun⟩
  | lost ha => exact h

theorem Counted.step {quiet : Prop} {count : ℕ → ℕ} (hcount : ∀ n, count n ≤ n + 1)
    {v v' : PresenceView} (h : Counted v) (hs : PresenceStep quiet True count v v') :
    Counted v' := by
  cases hs with
  | success online _ hstrict ha =>
    cases online with
    | true => exact (h.succeeded hcount).announcesOnline ha
    | false =>
      exact (h.succeeded hcount).offline
        (fun hc ho => absurd (hstrict trivial hc ho) Bool.false_ne_true) ha
  | failure => exact h.failed false
  | outage ha => exact (h.failed true).offline (fun _ _ => rfl) ha
  | revive => exact ⟨h.online, h.streak⟩
  | ageOut hstrict ha =>
    have hv : Counted { v with alive := false } := ⟨h.online, h.streak⟩
    exact hv.offline (hstrict trivial) ha
  | connecting hc =>
    exact ⟨fun h' => absurd (hc.symm.trans h') Bool.false_ne_true,
      fun h' => absurd (hc.symm.trans h') Bool.false_ne_true⟩
  | session hv => exact ⟨fun _ => nofun, fun _ _ => ⟨_, rfl, Nat.zero_le _⟩⟩
  | sessionLost _ hv =>
    exact ⟨fun _ => nofun, fun _ _ => ⟨[], by simp [restarted, hv, offlineResults], Nat.zero_le _⟩⟩
  | dropped => exact ⟨nofun, nofun⟩
  | disconnected => exact ⟨nofun, nofun⟩
  | closing hstrict ha => exact absurd trivial hstrict

/-- What is announced in a step is announced after two successes. -/
theorem Hysteresis.step {quiet strict : Prop} {count : ℕ → ℕ} (hcount : ∀ n, count n ≤ n + 1)
    {v v' : PresenceView} (hv : Hysteresis v.history) (h : Counted v)
    (hs : PresenceStep quiet strict count v v') : Hysteresis v'.history := by
  cases hs with
  | success online honline _ ha =>
    have hresult : Hysteresis (v.succeeded count).history := hv.cons nofun
    refine hresult.announces ha fun hon results hr => ?_
    obtain ⟨hc, htwo⟩ := honline hon
    cases ho : v.online with
    | true =>
      rw [(h.succeeded hcount).online hc ho] at hr
      cases hr
    | false =>
      obtain ⟨results', hr', hle⟩ := (h.succeeded hcount).streak hc ho
      obtain rfl := Option.some.inj (hr'.symm.trans hr)
      refine twoSuccesses_of_run (Nat.le_trans ?_ hle)
      exact htwo.resolve_right fun hf => Bool.false_ne_true (ho.symm.trans hf)
  | failure => exact hv.cons nofun
  | outage ha =>
    have hresult : Hysteresis (v.failed true).history := hv.cons nofun
    exact hresult.announces ha nofun
  | ageOut _ ha => exact Hysteresis.announces (v := { v with alive := false }) hv ha nofun
  | connecting hc => exact hv.cons nofun
  | session _ => exact hv.cons nofun
  | closing _ ha => exact hv.announces ha nofun
  | revive | sessionLost | dropped | disconnected => exact hv

theorem Counted.steps {quiet : Prop} {count : ℕ → ℕ} (hcount : ∀ n, count n ≤ n + 1)
    {v v' : PresenceView} (h : Counted v)
    (hs : Relation.ReflTransGen (PresenceStep quiet True count) v v') : Counted v' := by
  induction hs with
  | refl => exact h
  | tail _ hstep ih => exact ih.step hcount hstep

theorem Hysteresis.steps {quiet : Prop} {count : ℕ → ℕ} (hcount : ∀ n, count n ≤ n + 1)
    {v v' : PresenceView} (hv : Hysteresis v.history) (h : Counted v)
    (hs : Relation.ReflTransGen (PresenceStep quiet True count) v v') : Hysteresis v'.history := by
  induction hs with
  | refl => exact hv
  | tail hprev hstep ih => exact ih.step hcount (h.steps hcount hprev) hstep

end Ironsoft.PresenceModel
