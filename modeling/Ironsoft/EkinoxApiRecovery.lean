import Ironsoft.EkinoxEnrichment
import Ironsoft.EkinoxPolls

/-!
# Recovery of `api_ok`

`api_ok` comes back with a successful result only, as long as no operation recomputes it for a
clock reading that was taken before it was lowered and at which the last success was still fresh.
-/
namespace Ironsoft.Ekinox
open Effect

set_option synthInstance.maxSize 400000
set_option synthInstance.maxHeartbeats 200000

/-- A clock that never goes back. -/
def SteadyClock (clock : ℕ → ℤ) : Prop := ∀ i j, i ≤ j → clock i ≤ clock j

/-- Clock times, by the number of readings taken so far. -/
structure Timeline where
  time : ℕ → ℤ
  steady : SteadyClock time

namespace Timeline

/-- Time stands still. -/
def still (t : ℤ) : Timeline := ⟨fun _ => t, fun _ _ _ => Int.le_refl t⟩

theorem monoMs_mono {t t' : TimePoint} (h : t ≤ t') : monoMs t ≤ monoMs t' :=
  Int.tdiv_le_tdiv (by decide) h

def running (clock : ℕ → TimePoint) (h : SteadyClock clock) : Timeline :=
  ⟨fun k => monoMs (clock k), fun i j hij => monoMs_mono (h i j hij)⟩

end Timeline

theorem RestHealth.ageMs_mono (rest : RestHealth) {t t' : ℤ} (h : t ≤ t') :
    rest.ageMs t ≤ rest.ageMs t' := by
  unfold RestHealth.ageMs
  split_ifs <;> omega

/-- What is too old stays so. -/
theorem restOfflineCondition_mono {config : EkinoxConfig} {w : World} {t t' : ℤ} (h : t ≤ t')
    (hoff : restOfflineCondition config w t = true) : restOfflineCondition config w t' = true := by
  by_contra hon
  rw [Bool.not_eq_true, restOfflineCondition_eq_false] at hon
  have hage := w.rest.ageMs_mono h
  have hfresh : restOfflineCondition config w t = false :=
    restOfflineCondition_eq_false.mpr ⟨hon.1, hon.2.1, Int.le_trans hage hon.2.2⟩
  exact absurd (hoff.symm.trans hfresh) nofun

/-- Ending a recording only shrinks the age limit, and what is offline stays so. -/
theorem restOfflineCondition_of_logger {config : EkinoxConfig} {w : World} {s : LoggerStatus} {t : ℤ}
    (hs : s.recordingActive = w.status.recordingActive ∨ s.recordingActive = false)
    (hoff : restOfflineCondition config w t = true) :
    restOfflineCondition config (atLogger.set s w) t = true := by
  by_contra hon
  have hpos := presenceTimeout_pos config
  rw [Bool.not_eq_true, restOfflineCondition_eq_false] at hon
  have hfresh : restOfflineCondition config w t = false := by
    obtain ⟨hfail, hever, hage⟩ := hon
    refine restOfflineCondition_eq_false.mpr ⟨hfail, hever, ?_⟩
    rcases hs with hsame | hidle
    · rw [← hsame]
      exact hage
    · have hshort : w.rest.ageMs t ≤ restGrace config false := hidle ▸ hage
      unfold restGrace at hshort ⊢
      split <;> simp only [Bool.false_eq_true, if_false] at hshort <;> omega
  exact absurd (hoff.symm.trans hfresh) nofun

/-- More failures with the last success left where it is do not relax the condition either. -/
theorem restOfflineCondition_of_rest {config : EkinoxConfig} {w : World} {r : RestHealth} {t : ℤ}
    (hstamp : r.lastRestOkTsMs = w.rest.lastRestOkTsMs)
    (hfails : w.rest.restFailStreak ≤ r.restFailStreak)
    (hoff : restOfflineCondition config w t = true) :
    restOfflineCondition config (atRest.set r w) t = true := by
  by_contra hon
  rw [Bool.not_eq_true, restOfflineCondition_eq_false] at hon
  have hage : r.ageMs t = w.rest.ageMs t := by
    unfold RestHealth.ageMs
    rw [hstamp]
  have hfresh : restOfflineCondition config w t = false :=
    restOfflineCondition_eq_false.mpr ⟨hfails.trans_lt hon.1, hstamp ▸ hon.2.1, hage ▸ hon.2.2⟩
  exact absurd (hoff.symm.trans hfresh) nofun

/-- While `api_ok` is lowered REST is offline at `t`. -/
def ApiSettled (config : EkinoxConfig) (t : ℤ) (w : World) : Prop :=
  w.status.apiOk = false → restOfflineCondition config w t = true

theorem ApiSettled.later {config : EkinoxConfig} {t t' : ℤ} {w : World} (h : ApiSettled config t w)
    (ht : t ≤ t') : ApiSettled config t' w := fun hapi => restOfflineCondition_mono ht (h hapi)

def Event.success? : Event → Option LoggerResult
  | .restResult result _ => if result.restSuccess then some result else none
  | _ => none

/-- The successful results so far, newest first. -/
abbrev World.successes : World → List LoggerResult := heard Event.success?

instance (c : MqttCall) (b : Bool) : Unheard Event.success? (.mqtt c b) := ⟨rfl⟩
instance (a : Ack) : Unheard Event.success? (.publishAck a) := ⟨rfl⟩
instance (r : RestRequest) : Unheard Event.success? (.restRequest r) := ⟨rfl⟩
instance (m : Bytes) : Unheard Event.success? (.errorSet m) := ⟨rfl⟩
instance (e : SbgEvent) : Unheard Event.success? (.sbg e) := ⟨rfl⟩
instance : Unheard Event.success? .sessionOpened := ⟨rfl⟩
instance (t : ℤ) : Unheard Event.success? (.linkAlive t) := ⟨rfl⟩
instance (c : CommandMessage) : Unheard Event.success? (.commandArrived c) := ⟨rfl⟩
instance (c : CommandMessage) : Unheard Event.success? (.commandHandled c) := ⟨rfl⟩

/-- `api_ok` has not come back without a success, and it is settled at `t`. -/
structure Recovered (config : EkinoxConfig) (t : ℤ) (w w' : World) : Prop where
  settled : ApiSettled config t w'
  waits : w'.successes = w.successes → w.status.apiOk = false → w'.status.apiOk = false

/-- Between two states on a timeline `api_ok` only comes back with a success. -/
structure Recovers (config : EkinoxConfig) (τ : Timeline) (w w' : World) : Prop where
  successes : w.successes <:+ w'.successes
  steady : w.taken.steady ≤ w'.taken.steady
  recovered : ApiSettled config (τ.time w.taken.steady) w →
    Recovered config (τ.time w'.taken.steady) w w'

section Relation

variable (config : EkinoxConfig) (τ : Timeline)

instance : IsPreorder World (Recovers config τ) where
  refl w := ⟨List.suffix_rfl, Nat.le_refl _, fun h => ⟨h, fun _ => id⟩⟩
  trans w₁ w₂ w₃ h h' := by
    refine ⟨h.successes.trans h'.successes, h.steady.trans h'.steady, fun hw => ?_⟩
    have h₂ := h.recovered hw
    have h₃ := h'.recovered h₂.settled
    refine ⟨h₃.settled, fun hnone hapi => ?_⟩
    have hnone₂ : w₂.successes = w₁.successes :=
      (h.successes.eq_of_length_le (hnone ▸ h'.successes.length_le)).symm
    exact h₃.waits (hnone.trans hnone₂.symm) (h₂.waits hnone₂ hapi)

/-- What `api_ok` depends on. -/
def World.apiView (w : World) : Bool × RestHealth × Bool × List LoggerResult :=
  (w.status.apiOk, w.rest, w.status.recordingActive, w.successes)

variable {config τ} in
/-- Leaving `api_ok` alone, and REST no less offline than it was. -/
theorem Recovers.of_offline {w w' : World} (hsteady : w.taken.steady ≤ w'.taken.steady)
    (hsuccesses : w'.successes = w.successes) (hapi : w'.status.apiOk = w.status.apiOk)
    (hoff : ∀ t, restOfflineCondition config w t = true → restOfflineCondition config w' t = true) :
    Recovers config τ w w' := by
  refine ⟨hsuccesses ▸ List.suffix_rfl, hsteady, fun hw => ⟨fun hlow => ?_, fun _ hlow => ?_⟩⟩
  · exact hoff _ (restOfflineCondition_mono (τ.steady _ _ hsteady) (hw (hapi ▸ hlow)))
  · exact hapi.trans hlow

variable {config τ} in
theorem Recovers.of_apiView {w w' : World} (hsteady : w.taken.steady ≤ w'.taken.steady)
    (hview : w'.apiView = w.apiView) : Recovers config τ w w' := by
  simp only [World.apiView, Prod.mk.injEq] at hview
  obtain ⟨hapi, hrest, hrecording, hsuccesses⟩ := hview
  refine .of_offline hsteady hsuccesses hapi fun t hoff => ?_
  unfold restOfflineCondition at hoff ⊢
  rwa [hrest, hrecording]

instance : IgnoresReadings (Recovers config τ) :=
  ⟨fun _ => .of_apiView (Nat.le_succ _) rfl, fun _ => .of_apiView (Nat.le_refl _) rfl,
    fun _ => .of_apiView (Nat.le_refl _) rfl, fun _ => .of_apiView (Nat.le_refl _) rfl,
    fun _ => .of_apiView (Nat.le_refl _) rfl⟩
instance : IgnoresReplies (Recovers config τ) := ⟨fun _ => .of_apiView (Nat.le_refl _) rfl⟩
instance (e : Event) [h : Unheard Event.success? e] : Emits (Recovers config τ) e := by
  refine ⟨fun w => .of_apiView (Nat.le_refl _) ?_⟩
  have hsuccesses : (w.said e).successes = w.successes := by
    unfold World.successes
    rw [World.heard_said, h.none]
    rfl
  unfold World.apiView
  rw [hsuccesses]
  rfl
instance : atError.Ignored (Recovers config τ) := ⟨fun _ _ => .of_apiView (Nat.le_refl _) rfl⟩
instance : atMarker.Ignored (Recovers config τ) := ⟨fun _ _ => .of_apiView (Nat.le_refl _) rfl⟩
instance : atConn.Ignored (Recovers config τ) := ⟨fun _ _ => .of_apiView (Nat.le_refl _) rfl⟩
instance : atRetry.Ignored (Recovers config τ) := ⟨fun _ _ => .of_apiView (Nat.le_refl _) rfl⟩
instance : atPresence.Ignored (Recovers config τ) := ⟨fun _ _ => .of_apiView (Nat.le_refl _) rfl⟩
instance : atSensor.Ignored (Recovers config τ) := ⟨fun _ _ => .of_apiView (Nat.le_refl _) rfl⟩
instance : atTimers.Ignored (Recovers config τ) := ⟨fun _ _ => .of_apiView (Nat.le_refl _) rfl⟩
instance : atPending.Ignored (Recovers config τ) := ⟨fun _ _ => .of_apiView (Nat.le_refl _) rfl⟩
instance : atBatch.Ignored (Recovers config τ) := ⟨fun _ _ => .of_apiView (Nat.le_refl _) rfl⟩

variable (env : Env)

variable {config τ} in
/-- What recomputes `api_ok` for a time it is settled at, which is not later than now. -/
theorem Recovers.of_still {t : ℤ} {w w' : World} (h : Recovers config (.still t) w w')
    (hw : ApiSettled config t w) (ht : t ≤ τ.time w.taken.steady) : Recovers config τ w w' := by
  have hrecovered := h.recovered hw
  exact ⟨h.successes, h.steady, fun _ =>
    ⟨hrecovered.settled.later (Int.le_trans ht (τ.steady _ _ h.steady)), hrecovered.waits⟩⟩

theorem loggerUpdate_recovers {f : LoggerStatus → LoggerStatus}
    (hf : ∀ s, (f s).recordingActive = s.recordingActive ∨ (f s).recordingActive = false) :
    Respects env (Recovers config τ) (atLogger.update f : M Unit) :=
  ⟨fun _ => .of_offline (Nat.le_refl _) rfl rfl fun _ => restOfflineCondition_of_logger (hf _)⟩

instance (state : ServiceState) : Respects env (Recovers config τ) (setState state) :=
  loggerUpdate_recovers config τ env fun _ => .inl rfl

instance : Respects env (Recovers config τ) clearSessionName :=
  loggerUpdate_recovers config τ env fun _ => .inl rfl

theorem restUpdate_recovers {f : RestHealth → RestHealth}
    (hf : ∀ r, (f r).lastRestOkTsMs = r.lastRestOkTsMs ∧
      (r.restFailStreak ≤ (f r).restFailStreak)) :
    Respects env (Recovers config τ) (atRest.update f : M Unit) := by
  refine ⟨fun w => .of_offline (Nat.le_refl _) rfl rfl fun t hoff => ?_⟩
  obtain ⟨hstamp, hfails⟩ := hf w.rest
  exact restOfflineCondition_of_rest hstamp hfails hoff

instance (error : Bytes) :
    Respects env (Recovers config τ) (atRest.update (.recordFailure error) : M Unit) :=
  restUpdate_recovers config τ env fun _ => ⟨rfl, le_countUp _⟩

instance (alive : Bool) :
    Respects env (Recovers config τ) (atRest.update (.setAlive alive) : M Unit) :=
  restUpdate_recovers config τ env fun _ => ⟨rfl, Nat.le_refl _⟩

/-- Recomputing `api_ok` for the time it is settled at. -/
instance (t : ℤ) : Respects env (Recovers env.config (.still t)) (updateLinkHealth t) := by
  refine ⟨fun w => ⟨List.suffix_rfl, Nat.le_refl _, fun hw => ⟨fun hlow => ?_, fun _ hlow => ?_⟩⟩⟩
  · exact (Bool.not_eq_false' _).mp hlow
  · exact (Bool.not_eq_false' _).mpr (hw hlow)

theorem storeLoggerState_recovers {result : LoggerResult} (h : result.ok = false)
    (contextReason : Bytes) :
    Respects env (Recovers config τ) (storeLoggerState result contextReason) := by
  have hidle := loggerUpdate_recovers config τ env
    (f := fun s => { s with recordingActive := false, sessionName := [] }) fun _ => .inr rfl
  unfold storeLoggerState
  rw [if_neg (by simp [h])]
  dsimp only
  infer_instance

end Relation

section Results

variable {env : Env} {t : ℤ} {w : World}

/-- `api_ok` is settled at every time. -/
def Unaged (w : World) : Prop :=
  w.status.apiOk = true ∨ 3 ≤ w.rest.restFailStreak ∨ w.rest.lastRestOkTsMs ≤ 0

theorem unaged_iff {config : EkinoxConfig} : Unaged w ↔ ∀ t, ApiSettled config t w := by
  constructor
  · intro h t hlow
    by_contra hon
    rw [Bool.not_eq_true, restOfflineCondition_eq_false] at hon
    rcases h with hapi | hfails | hnever
    · exact absurd (hlow.symm.trans hapi) nofun
    · omega
    · omega
  · intro h
    by_contra hno
    unfold Unaged at hno
    rw [not_or, not_or, Bool.not_eq_true] at hno
    obtain ⟨hlow, hfew, hever⟩ := hno
    have hoff := h w.rest.lastRestOkTsMs hlow
    rw [restOfflineCondition_of_now (by omega) rfl (by omega)] at hoff
    cases hoff

/-- What a success leaves behind. -/
structure Succeeded (w w' : World) : Prop where
  successes : ∃ newer, newer ≠ [] ∧ w'.successes = newer ++ w.successes
  steady : w.taken.steady ≤ w'.taken.steady
  unaged : Unaged w'

theorem Succeeded.recovers {config : EkinoxConfig} {τ : Timeline} {w' : World} (h : Succeeded w w') :
    Recovers config τ w w' := by
  obtain ⟨newer, hne, hnew⟩ := h.successes
  refine ⟨⟨newer, hnew.symm⟩, h.steady, fun _ => ⟨unaged_iff.mp h.unaged _, fun hnone => ?_⟩⟩
  exact absurd (List.self_eq_append_left.mp (hnone.symm.trans hnew)) hne

theorem Succeeded.then {w₁ w₂ : World} (h : Succeeded w w₁)
    (h₁ : ∀ τ : Timeline, Recovers env.config τ w₁ w₂) : Succeeded w w₂ := by
  obtain ⟨newer, hne, hnew⟩ := h.successes
  obtain ⟨newer', hnew'⟩ := (h₁ (.still 0)).successes
  refine ⟨⟨newer' ++ newer, by simp [hne], ?_⟩, h.steady.trans (h₁ (.still 0)).steady, ?_⟩
  · rw [← hnew', hnew, List.append_assoc]
  · exact unaged_iff.mpr fun t =>
      ((h₁ (.still t)).recovered (unaged_iff.mp h.unaged t)).settled

theorem markRestResult_succeeds {result : LoggerResult} (h : result.restSuccess = true)
    (contextReason : Bytes) :
    wp (markRestResult result contextReason t) env (fun _ w' => Succeeded w w')
      (fun _ w' => Succeeded w w') w := by
  have hpresence (τ : Timeline) :
    Respects env (Recovers env.config τ) (updatePresenceState t []) := inferInstance
  rw [wp_markRestResult, if_pos h]
  generalize hw₁ : World.resultMarked _ _ _ _ _ = w₁
  have h₁ : Succeeded w w₁ := by
    rw [← hw₁]
    refine ⟨⟨[result], by simp, ?_⟩, Nat.le_succ _, ?_⟩
    · have hheard : Event.success? (.restResult result t) = some result := if_pos h
      change (w.said (.restResult result t)).heard Event.success? = _
      rw [World.heard_said, hheard]
      rfl
    · by_cases ht : 0 < t
      · left
        have hfresh {v : World} (hfail : v.rest.restFailStreak < 3) (hok : v.rest.lastRestOkTsMs = t) :
            restOfflineCondition env.config v t = false := restOfflineCondition_of_now hfail (hok ▸ rfl) ht
        change (!restOfflineCondition env.config _ t) = true
        rw [hfresh (Nat.zero_lt_succ 2) rfl]
        rfl
      · exact .inr (.inr (Int.not_lt.mp ht))
  have hrun : Respects env (fun v v' => ∀ τ : Timeline, Recovers env.config τ v v')
      (updatePresenceState t []) := ⟨fun v τ => (hpresence τ).related v⟩
  exact hrun.wp_of fun _ h => h₁.then h

/-- The state in which `api_ok` is recomputed after a failure. -/
def World.failed (w : World) : World := { w with rest := w.rest.recordFailure [] }

theorem restOfflineCondition_failed {config : EkinoxConfig} (w w' : World) (error : Bytes)
    (hrest : w'.rest = w.rest.recordFailure error)
    (hrecording : w'.status.recordingActive = w.status.recordingActive) :
    restOfflineCondition config w' t = restOfflineCondition config w.failed t := by
  unfold restOfflineCondition World.failed
  rw [hrest, hrecording]
  rfl

/-- A failure that is recorded for a time at which REST is offline then. -/
theorem markRestResult_fails {τ : Timeline} {result : LoggerResult}
    (h : result.restSuccess = false) (ht : t ≤ τ.time w.taken.steady)
    (hw : ApiSettled env.config t w.failed) (contextReason : Bytes) :
    wp (markRestResult result contextReason t) env (fun _ w' => Recovers env.config τ w w')
      (fun _ w' => Recovers env.config τ w w') w := by
  have htail : Respects env (Recovers env.config (.still t)) (do
      let offline := restOfflineCondition (← read).config (← get) t
      atRest.update (.setAlive !offline)
      updateLinkHealth t
      if offline then
        updatePresenceState t [] : M Unit) := by
    dsimp only
    infer_instance
  have hunheard : Unheard Event.success? (.restResult result t) := ⟨if_neg (by simp [h])⟩
  have hhead : Respects env (Recovers env.config τ) (do
      let _ ← steadyNow
      emit (.restResult result t)
      atRest.update (.recordFailure (restFailureText result contextReason)) : M Unit) := inferInstance
  have h₁ := respects_iff_wp.mp hhead w
  rw [wp_bind, wp_steadyNow, wp_bind, wp_emit, Part.wp_update] at h₁
  unfold markRestResult
  rw [wp_bind, wp_steadyNow, wp_bind, wp_emit, h, wp_ite, if_neg nofun, wp_bind, Part.wp_update]
  have hsettled : ApiSettled env.config t (atRest.set
      ((atRest.get (w.tookSteady.said (.restResult result t))).recordFailure
        (restFailureText result contextReason)) (w.tookSteady.said (.restResult result t))) := by
    intro hlow
    refine Eq.trans (restOfflineCondition_failed w _ (restFailureText result contextReason) ?_ ?_)
      (hw hlow) <;> rfl
  have hlater {w' : World} (h' : Recovers env.config (.still t) _ w') : Recovers env.config τ w w' :=
    trans_of (Recovers env.config τ) h₁ (h'.of_still hsettled (Int.le_trans ht (τ.steady _ _ h₁.steady)))
  exact htail.wp_of fun _ => hlater

/-- The reply to the next request for the state of the logger. -/
def nextReply (env : Env) (w : World) : Except JsonException LoggerResult :=
  match validateRestTarget env.config with
  | some error => .ok error
  | none => env.rest w.taken.rest

/-- A request has been made, or it has been refused. -/
def Asked (w w' : World) : Prop := w' = w ∨ w' = w.tookRest.said (.restRequest .get)

theorem Asked.apiView {w' : World} (h : Asked w w') :
    w'.apiView = w.apiView ∧ w'.taken.steady = w.taken.steady := by
  rcases h with rfl | rfl <;> exact ⟨rfl, rfl⟩

theorem dataLoggerGet_next :
    wp dataLoggerGet env (fun result w' => nextReply env w = .ok result ∧ Asked w w')
      (fun _ w' => (∃ e, nextReply env w = .error e) ∧ Asked w w') w := by
  simp only [dataLoggerGet, callWithValidation, wp_bind, wp_read]
  unfold nextReply
  cases validateRestTarget env.config with
  | some error => exact ⟨rfl, .inl rfl⟩
  | none =>
    dsimp only
    rw [wp_performRest]
    cases hreply : env.rest w.taken.rest with
    | ok result => exact ⟨rfl, .inr rfl⟩
    | error e => exact ⟨⟨e, rfl⟩, .inr rfl⟩

theorem storeLoggerState_succeeded {result : LoggerResult} (h : result.ok = true)
    (contextReason : Bytes) {w₁ : World} (hw : Succeeded w w₁) :
    wp (storeLoggerState result contextReason) env (fun _ w' => Succeeded w w') (fun _ _ => False)
      w₁ := by
  have hsame {v : World} (hapi : v.status.apiOk = w₁.status.apiOk) (hrest : v.rest = w₁.rest)
      (htaken : v.taken = w₁.taken) (htrace : v.trace = w₁.trace) : Succeeded w v := by
    refine ⟨?_, htaken ▸ hw.steady, ?_⟩
    · unfold World.successes World.heard
      rw [htrace]
      exact hw.successes
    · unfold Unaged
      rw [hapi, hrest]
      exact hw.unaged
  simp only [storeLoggerState, setState, wp_bind, wp_ite, wp_get, wp_pure, Part.wp_update]
  rw [if_pos h]
  split_ifs
  all_goals exact hsame rfl rfl rfl rfl

/-- A reply that succeeds counts as a success. -/
class Inputs.OkIsSuccess (inputs : Inputs) : Prop where
  success : ∀ k result, inputs.rest k = .ok result → result.ok = true → result.restSuccess = true

theorem nextReply_success (hok : env.OkIsSuccess) {result : LoggerResult}
    (h : nextReply env w = .ok result) (hresult : result.ok = true) : result.restSuccess = true := by
  unfold nextReply validateRestTarget at h
  split_ifs at h
  · cases h
    cases hresult
  · cases h
    cases hresult
  · exact hok.success _ result h hresult

/-- A request for the state of the logger, if its failure recovers nothing. -/
theorem requestLoggerState_recovers {τ : Timeline} (hok : env.OkIsSuccess) (contextReason : Bytes)
    (hfail : ∀ result w₁, nextReply env w = .ok result → result.restSuccess = false →
      w₁.apiView = w.apiView → w₁.taken.steady = w.taken.steady →
      wp (markRestResult result contextReason t) env (fun _ w' => Recovers env.config τ w₁ w')
        (fun _ w' => Recovers env.config τ w₁ w') w₁) :
    wp (requestLoggerState contextReason t) env (fun _ w' => Recovers env.config τ w w')
      (fun _ w' => Recovers env.config τ w w') w := by
  unfold requestLoggerState
  rw [wp_bind]
  refine wp_mono dataLoggerGet_next (fun result w₁ h => ?_)
    fun _ _ h => .of_apiView h.2.apiView.2.ge h.2.apiView.1
  obtain ⟨hnext, hasked⟩ := h
  obtain ⟨hview, hsteady⟩ := hasked.apiView
  have hthen {w' : World} : Recovers env.config τ w₁ w' → Recovers env.config τ w w' :=
    trans_of (Recovers env.config τ) (.of_apiView hsteady.ge hview)
  rw [wp_bind]
  cases hsuccess : result.restSuccess with
  | true =>
    have hresult : result.ok = true := (Bool.and_eq_true_iff.mp hsuccess).1
    refine wp_mono (markRestResult_succeeds hsuccess contextReason) (fun _ w₂ h₂ => ?_)
      fun _ _ h₂ => hthen h₂.recovers
    rw [wp_bind]
    exact wp_mono (storeLoggerState_succeeded hresult contextReason h₂)
      (fun _ _ h₃ => hthen h₃.recovers) fun _ _ => False.elim
  | false =>
    have hresult : result.ok = false := by
      by_contra hno
      have htrue := nextReply_success hok hnext (eq_true_of_ne_false hno)
      exact absurd (hsuccess.symm.trans htrue) nofun
    have hstore := storeLoggerState_recovers env.config τ env hresult contextReason
    refine wp_mono (hfail result w₁ hnext hsuccess hview hsteady) (fun _ w₂ h₂ => ?_) fun _ _ => hthen
    rw [wp_bind]
    have hthen₂ {w' : World} (h₃ : Recovers env.config τ w₂ w') : Recovers env.config τ w w' :=
      hthen (trans_of (Recovers env.config τ) h₂ h₃)
    exact hstore.wp_of fun _ => hthen₂

/-- A request for the state of the logger, if it does not fail for a time at which REST is not
offline. -/
theorem requestLoggerState_settled {τ : Timeline} (hok : env.OkIsSuccess)
    (ht : t ≤ τ.time w.taken.steady)
    (hw : ∀ result, nextReply env w = .ok result → result.restSuccess = false →
      ApiSettled env.config t w.failed) (contextReason : Bytes) :
    wp (requestLoggerState contextReason t) env (fun _ w' => Recovers env.config τ w w')
      (fun _ w' => Recovers env.config τ w w') w := by
  refine requestLoggerState_recovers hok contextReason
    fun result w₁ hnext hsuccess hview hsteady => ?_
  simp only [World.apiView, Prod.mk.injEq] at hview
  obtain ⟨hapi, hrest, hrecording, -⟩ := hview
  refine markRestResult_fails hsuccess (hsteady ▸ ht) (fun hlow => ?_) contextReason
  refine Eq.trans (restOfflineCondition_failed w _ [] ?_ hrecording)
    (hw result hnext hsuccess (hapi.symm.trans hlow))
  exact congrArg (RestHealth.recordFailure []) hrest

instance (result : LoggerResult) (contextReason : Bytes) :
    Respects env (Recovers env.config (.still t)) (markRestResult result contextReason t) := by
  cases hsuccess : result.restSuccess with
  | true =>
    exact ⟨fun w => exec_of_wp (wp_mono (markRestResult_succeeds hsuccess contextReason)
      (fun _ _ h => h.recovers) fun _ _ h => h.recovers)⟩
  | false =>
    have hunheard : Unheard Event.success? (.restResult result t) := ⟨if_neg (by simp [hsuccess])⟩
    unfold markRestResult
    rw [hsuccess]
    simp only [Bool.false_eq_true, if_false]
    infer_instance

end Results

section Running

variable {env : Env} (hclock : SteadyClock env.steady)

theorem Recovers.of_reading {w w' : World}
    (h : Recovers env.config (.still (monoMs (env.steady w.taken.steady))) w.tookSteady w') :
    Recovers env.config (.running env.steady hclock) w w' := by
  refine ⟨h.successes, (Nat.le_succ _).trans h.steady, fun hw => ?_⟩
  have hrecovered := h.recovered hw
  have hlater : monoMs (env.steady w.taken.steady) ≤ monoMs (env.steady w'.taken.steady) :=
    Timeline.monoMs_mono (hclock _ _ ((Nat.le_succ _).trans h.steady))
  exact ⟨hrecovered.settled.later hlater, hrecovered.waits⟩

variable (env)

instance : ReadsClock env (Recovers env.config (.running env.steady hclock))
    fun k => Recovers env.config (.still (monoMs (env.steady k))) :=
  ⟨Recovers.of_reading hclock⟩

instance [hok : env.OkIsSuccess] (contextReason : Bytes) (t : ℤ) :
    Respects env (Recovers env.config (.still t)) (requestLoggerState contextReason t) := by
  refine ⟨fun w => exec_of_wp (requestLoggerState_recovers hok contextReason fun _ w₁ _ _ _ _ => ?_)⟩
  exact respects_iff_wp.mp inferInstance w₁

instance (alive : Bool) :
    Respects env (Recovers env.config (.running env.steady hclock)) (setUdpLinkAlive alive) := by
  unfold setUdpLinkAlive
  infer_instance

instance : Respects env (Recovers env.config (.running env.steady hclock)) handleSensorDisconnect := by
  unfold handleSensorDisconnect
  infer_instance

instance (reason : Bytes) : Respects env (Recovers env.config (.running env.steady hclock))
    (handleSensorError reason) := by
  unfold handleSensorError
  infer_instance

instance (id type : Bytes) (body : M Unit)
    [Respects env (Recovers env.config (.running env.steady hclock)) body] :
    Respects env (Recovers env.config (.running env.steady hclock))
      (checkedLoggerCmd id type body) := by
  unfold checkedLoggerCmd checkedRestEndpoint
  dsimp only
  infer_instance

instance [env.OkIsSuccess] (nowReason laterReason : Bytes) :
    Respects env (Recovers env.config (.running env.steady hclock))
      (verifyLoggerState nowReason laterReason) := by
  unfold verifyLoggerState
  infer_instance

instance [env.OkIsSuccess] (id type : Bytes) (cmd : Json) :
    Respects env (Recovers env.config (.running env.steady hclock)) (handleLoggerStart id type cmd) := by
  unfold handleLoggerStart concludeLoggerStart
  infer_instance

instance [env.OkIsSuccess] (id type : Bytes) :
    Respects env (Recovers env.config (.running env.steady hclock)) (handleLoggerStop id type) := by
  unfold handleLoggerStop concludeLoggerStop ackAlreadyStopped
  dsimp only
  infer_instance

instance [env.OkIsSuccess] (id type : Bytes) :
    Respects env (Recovers env.config (.running env.steady hclock)) (handleLoggerStatus id type) := by
  unfold handleLoggerStatus
  infer_instance

instance [env.OkIsSuccess] :
    Respects env (Recovers env.config (.running env.steady hclock)) handleFront := inferInstance

/-- A new session starts with a flag that only a success can raise. -/
instance (τ : Timeline) (nextRestPollMs : ℤ) :
    Respects env (Recovers env.config τ) (resetSession nextRestPollMs) :=
  ⟨fun _ => ⟨List.suffix_rfl, Nat.le_refl _, fun _ => ⟨fun _ => rfl, fun _ _ => rfl⟩⟩⟩

instance (τ : Timeline) : Respects env (Recovers env.config τ)
    (atLink.update fun s => { s with linkAlive := false } : M Unit) :=
  ⟨fun _ => .of_apiView (Nat.le_refl _) rfl⟩

instance (τ : Timeline) : Respects env (Recovers env.config τ)
    (atRest.update fun r => { r with restSuccessStreak := 0 } : M Unit) :=
  restUpdate_recovers env.config τ env fun _ => ⟨rfl, Nat.le_refl _⟩

instance : Respects env (Recovers env.config (.running env.steady hclock)) connectionLost := by
  unfold connectionLost
  infer_instance

instance : Respects env (Recovers env.config (.running env.steady hclock)) disconnect := by
  unfold disconnect
  infer_instance

instance [env.OkIsSuccess] :
    Respects env (Recovers env.config (.running env.steady hclock)) selfTest := by
  unfold selfTest
  infer_instance

end Running

/-- The time `op` recomputes `api_ok` for without a success if that time was read before, with the
state it recomputes it in. -/
def Op.recomputesAt (env : Env) (w : World) : Op → Option (ℤ × World)
  | .ensureSensorSession now => if env.hasSbg then none else some (monoMs now, w)
  | .pollSensor now =>
    if pollVerdict env now w = .inTime ∨ pollVerdict env now w = .late then some (monoMs now, w)
    else none
  | .restTimer nowMs =>
    if 0 < w.timers.nextRestPollMs ∧ w.timers.nextRestPollMs ≤ nowMs then
      failsAt nowMs (nextReply env w)
    else none
  | .requestLoggerState _ nowMs => failsAt nowMs (nextReply env w)
  | .markRestResult result _ nowMs => failsAt nowMs (.ok result)
  | _ => none
where
  failsAt (nowMs : ℤ) (reply : Except JsonException LoggerResult) : Option (ℤ × World) :=
    match reply with
    | .ok result => if result.restSuccess then none else some (nowMs, w.failed)
    | .error _ => none

/-- An operation that recomputes `api_ok` for an earlier time while it is lowered does so for a time
at which REST was offline. -/
def Op.RecomputesSoundly (env : Env) (w : World) (op : Op) : Prop :=
  ∀ t v, op.recomputesAt env w = some (t, v) → ApiSettled env.config t v

/-- The times an operation is passed are earlier readings of the clock. -/
def Op.Timed (clock : ℕ → TimePoint) (w : World) : Op → Prop
  | .ensureConnection now | .ensureSensorSession now | .pollSensor now | .statusTimer now
  | .heartbeatTimer now => ∃ j < w.taken.steady, now = clock j
  | .refreshRestHealth nowMs | .restTimer nowMs | .requestLoggerState _ nowMs
  | .markRestResult _ _ nowMs => ∃ j < w.taken.steady, nowMs = monoMs (clock j)
  | _ => True

section Operations

variable {env : Env} (hclock : SteadyClock env.steady) {w : World}

theorem monoMs_le_now {j : ℕ} (hj : j < w.taken.steady) :
    monoMs (env.steady j) ≤ (Timeline.running env.steady hclock).time w.taken.steady :=
  Timeline.monoMs_mono (hclock _ _ (Nat.le_of_lt hj))

theorem ensureSensorSession_recovers {now : TimePoint}
    (ht : monoMs now ≤ (Timeline.running env.steady hclock).time w.taken.steady)
    (hsound : (Op.ensureSensorSession now).RecomputesSoundly env w) :
    Recovers env.config (.running env.steady hclock) w (exec (ensureSensorSession now) env w).2 := by
  have hsbg : Respects env (Recovers env.config (.running env.steady hclock))
      (ensureSensorSessionSbg now) := by
    unfold ensureSensorSessionSbg
    dsimp only
    infer_instance
  have hmissing : Respects env (Recovers env.config (.still (monoMs now)))
      (ensureSensorSessionNoSbg now) := by
    unfold ensureSensorSessionNoSbg
    infer_instance
  refine exec_of_wp (I := fun w' => Recovers env.config (.running env.steady hclock) w w') ?_
  unfold ensureSensorSession
  rw [wp_bind, wp_read, wp_ite]
  split_ifs with hbuild
  · exact respects_iff_wp.mp hsbg w
  · have hw : ApiSettled env.config (monoMs now) w := hsound _ _ (if_neg hbuild)
    exact hmissing.wp_of fun _ h => h.of_still hw ht

theorem handleSensorRxTimeout_recovers {t : ℤ} (hw : ApiSettled env.config t w)
    (ht : t ≤ (Timeline.running env.steady hclock).time w.taken.steady) (recording : Bool) :
    wp (handleSensorRxTimeout recording t) env
      (fun _ w' => Recovers env.config (.running env.steady hclock) w w')
      (fun _ w' => Recovers env.config (.running env.steady hclock) w w') w := by
  have hhead : Respects env (Recovers env.config (.still t)) (do
      atSensor.update fun l =>
        { l with rxFailStreak := countUp l.rxFailStreak, rxOkStreak := 0, udpLinkAlive := false }
      updateLinkHealth t : M Unit) := inferInstance
  have htail (threshold : ℤ) : Respects env (Recovers env.config (.running env.steady hclock)) (do
      let w ← get
      if w.sensor.rxFailStreak ≥ threshold ∧ w.rxTimeoutErrorActive = false then
        setError rxTimeoutText
      if w.sensor.rxFailStreak < threshold then
        return
      if recording then
        atSensor.update fun l => { l with sensorReconnectNeeded := true }
      else
        handleSensorDisconnect) := by
    dsimp only
    infer_instance
  have h₁ := respects_iff_wp.mp hhead w
  rw [wp_bind, Part.wp_update, wp_updateLinkHealth] at h₁
  unfold handleSensorRxTimeout
  rw [wp_bind, wp_read, wp_bind, Part.wp_update, wp_bind, wp_updateLinkHealth]
  have hthen {w' : World} : Recovers env.config (.running env.steady hclock) _ w' →
      Recovers env.config (.running env.steady hclock) w w' :=
    trans_of (Recovers env.config _) (h₁.of_still hw ht)
  exact (htail _).wp_of fun _ => hthen

theorem pollSensor_recovers {now : TimePoint}
    (ht : monoMs now ≤ (Timeline.running env.steady hclock).time w.taken.steady)
    (hsound : (Op.pollSensor now).RecomputesSoundly env w) :
    Recovers env.config (.running env.steady hclock) w (exec (pollSensor now) env w).2 := by
  have hpoll : Respects env (fun v v' => ∀ τ : Timeline, Recovers env.config τ v v') sessionPoll :=
    ⟨fun v τ => (inferInstance : Respects env (Recovers env.config τ) sessionPoll).related v⟩
  have hthen {w₁ w' : World} (h : ∀ τ : Timeline, Recovers env.config τ w w₁) :
      Recovers env.config (.running env.steady hclock) w₁ w' →
      Recovers env.config (.running env.steady hclock) w w' := trans_of (Recovers env.config _) (h _)
  have hsettled {w₁ : World} (h : ∀ τ : Timeline, Recovers env.config τ w w₁)
      (hverdict : pollVerdict env now w = .inTime ∨ pollVerdict env now w = .late) :
      ApiSettled env.config (monoMs now) w₁ ∧
        monoMs now ≤ (Timeline.running env.steady hclock).time w₁.taken.steady := by
    have hw : ApiSettled env.config (monoMs now) w := hsound _ _ (if_pos hverdict)
    exact ⟨((h (.still (monoMs now))).recovered hw).settled,
      Int.le_trans ht ((Timeline.running env.steady hclock).steady _ _ (h (.still 0)).steady)⟩
  have hrecovered : Respects env (Recovers env.config (.still (monoMs now)))
      (handleSensorRxRecovered (monoMs now)) := by
    unfold handleSensorRxRecovered
    dsimp only
    infer_instance
  have hfailed (err : Bytes) : Respects env (Recovers env.config (.running env.steady hclock)) (do
      atSensor.update fun l => { l with rxFailStreak := 0, rxOkStreak := 0 }
      clearRxTimeoutError
      handleSensorError err
      return) := inferInstance
  have hgivenUp : Respects env (Recovers env.config (.running env.steady hclock))
      handleSensorDisconnect := inferInstance
  refine exec_of_wp (I := fun w' => Recovers env.config (.running env.steady hclock) w w')
    (wp_pollSensor hpoll (fun _ => refl_of _ w) (fun _ => ?_) (fun _ err w₁ h => ?_)
      (fun hverdict w₁ h => ?_) fun hverdict w₁ h => ?_)
  · exact hgivenUp.wp_of fun _ => hthen fun _ => .of_apiView (Nat.le_refl _) rfl
  · exact (hfailed err).wp_of fun _ => hthen h
  · obtain ⟨hw₁, ht₁⟩ := hsettled h (.inl hverdict)
    exact hrecovered.wp_of fun _ h' => hthen h (h'.of_still hw₁ ht₁)
  · obtain ⟨hw₁, ht₁⟩ := hsettled h (.inr hverdict)
    exact wp_mono (handleSensorRxTimeout_recovers hclock hw₁ ht₁ _) (fun _ _ => hthen h)
      fun _ _ => hthen h

theorem refreshRestHealth_recovers {nowMs : ℤ}
    (ht : nowMs ≤ (Timeline.running env.steady hclock).time w.taken.steady) :
    Recovers env.config (.running env.steady hclock) w (exec (refreshRestHealth nowMs) env w).2 := by
  have hlost (τ : Timeline) :
      Respects env (Recovers env.config τ) (atRest.update .recordTimeout : M Unit) :=
    restUpdate_recovers env.config τ env fun _ => ⟨rfl, Nat.le_refl _⟩
  have hstill : Respects env (Recovers env.config (.still nowMs)) (refreshRestHealth nowMs) := by
    have := hlost (.still nowMs)
    unfold refreshRestHealth
    infer_instance
  cases hoff : restOfflineCondition env.config w nowMs with
  | true => exact (hstill.related w).of_still (fun _ => hoff) ht
  | false =>
    refine exec_of_wp (I := fun w' => Recovers env.config (.running env.steady hclock) w w') ?_
    simp only [refreshRestHealth, wp_bind, wp_get, wp_read, hoff, if_true]
    exact (inferInstance : Respects env (Recovers env.config _)
      (atRest.update (.setAlive true) : M Unit)).related w

theorem settled_of_failsAt {nowMs : ℤ} {reply : Except JsonException LoggerResult}
    (hsound : ∀ t v, Op.recomputesAt.failsAt w nowMs reply = some (t, v) → ApiSettled env.config t v)
    {result : LoggerResult} (hreply : reply = .ok result) (hfails : result.restSuccess = false) :
    ApiSettled env.config nowMs w.failed := by
  refine hsound nowMs w.failed ?_
  subst hreply
  unfold Op.recomputesAt.failsAt
  exact if_neg (by simp [hfails])

theorem restTimer_recovers [env.OkIsSuccess] {nowMs : ℤ}
    (ht : nowMs ≤ (Timeline.running env.steady hclock).time w.taken.steady)
    (hsound : (Op.restTimer nowMs).RecomputesSoundly env w) :
    Recovers env.config (.running env.steady hclock) w (exec (restTimer nowMs) env w).2 := by
  have hpos := restPollInterval_pos env.config
  refine exec_of_wp (I := fun w' => Recovers env.config (.running env.steady hclock) w w') ?_
  simp only [restTimer, setNextRestPoll, wp_bind, wp_get, wp_ite, wp_pure, wp_read, Part.wp_update]
  split_ifs with hunset hdue hdue
  · have hlater : nowMs + env.config.restPollInterval ≤ nowMs := hdue
    omega
  · exact .of_apiView (Nat.le_refl _) rfl
  · have hfails : (Op.restTimer nowMs).recomputesAt env w =
        Op.recomputesAt.failsAt w nowMs (nextReply env w) := if_pos ⟨Int.not_le.mp hunset, hdue⟩
    refine wp_mono (requestLoggerState_settled inferInstance ht
      (fun result hreply => settled_of_failsAt (fun t v h => hsound t v (hfails.trans h)) hreply) _)
      (fun _ w₁ h₁ => ?_) fun _ _ => id
    exact trans_of (Recovers env.config _) h₁ (Part.Ignored.step (P := atTimers) w₁ _)
  · exact refl_of _ w

theorem Op.run_recovers [env.OkIsSuccess] {op : Op} (htimed : op.Timed env.steady w)
    (hsound : op.RecomputesSoundly env w) :
    Recovers env.config (.running env.steady hclock) w (exec op.run env w).2 := by
  cases op
  case ensureSensorSession now =>
    obtain ⟨j, hj, rfl⟩ := htimed
    exact ensureSensorSession_recovers hclock (monoMs_le_now hclock hj) hsound
  case pollSensor now =>
    obtain ⟨j, hj, rfl⟩ := htimed
    exact pollSensor_recovers hclock (monoMs_le_now hclock hj) hsound
  case refreshRestHealth nowMs =>
    obtain ⟨j, hj, rfl⟩ := htimed
    exact refreshRestHealth_recovers hclock (monoMs_le_now hclock hj)
  case restTimer nowMs =>
    obtain ⟨j, hj, rfl⟩ := htimed
    exact restTimer_recovers hclock (monoMs_le_now hclock hj) hsound
  case requestLoggerState contextReason nowMs =>
    obtain ⟨j, hj, rfl⟩ := htimed
    have hrequest := requestLoggerState_settled inferInstance (monoMs_le_now hclock hj)
      (fun result hreply hfails => settled_of_failsAt hsound hreply hfails) contextReason
    refine exec_of_wp (I := fun w' => Recovers env.config (.running env.steady hclock) w w') ?_
    unfold Op.run
    rw [wp_bind]
    exact hrequest
  case markRestResult result contextReason nowMs =>
    obtain ⟨j, hj, rfl⟩ := htimed
    refine exec_of_wp (I := fun w' => Recovers env.config (.running env.steady hclock) w w') ?_
    unfold Op.run
    cases hsuccess : result.restSuccess with
    | true =>
      exact wp_mono (markRestResult_succeeds hsuccess contextReason) (fun _ _ h => h.recovers)
        fun _ _ h => h.recovers
    | false =>
      have hsettled : ApiSettled env.config (monoMs (env.steady j)) w.failed :=
        hsound _ _ (if_neg (by simp [hsuccess]))
      exact markRestResult_fails hsuccess (monoMs_le_now hclock hj) hsettled contextReason
  all_goals
    refine Respects.relates ?_ w
    unfold Op.run
    dsimp only
    infer_instance

end Operations

/-- What decides whether a result counts as a success. -/
def LoggerResult.outcome (result : LoggerResult) : Bool × ℤ := (result.ok, result.httpCode)

theorem outcome_unread (outcome : Bool × ℤ) : Unread fun r => r.outcome = outcome :=
  ⟨fun _ _ => id, fun _ _ => id, fun _ _ => id, fun _ _ => id, fun _ _ => id, fun _ _ _ => id⟩

/-- Reading the body leaves the outcome of the exchange. -/
theorem performHttpRequest_outcome {parse : JsonParser} {reply : HttpReply} {r : LoggerResult}
    (h : performHttpRequest parse reply = .ok r) : r.outcome = (assembleResult reply).outcome :=
  (outcome_unread _).performHttpRequest rfl h

/-- A result is `ok` for a 2xx response only. -/
theorem performHttpRequest_success {parse : JsonParser} {reply : HttpReply} {r : LoggerResult}
    (h : performHttpRequest parse reply = .ok r) (hok : r.ok = true) : r.restSuccess = true := by
  have houtcome := performHttpRequest_outcome h
  simp only [LoggerResult.outcome, Prod.mk.injEq] at houtcome
  obtain ⟨hrok, hrcode⟩ := houtcome
  unfold LoggerResult.restSuccess
  rw [hrcode, hok]
  rw [hrok] at hok
  cases reply with
  | initFailed | failed => cases hok
  | response httpCode body =>
    unfold assembleResult at hok ⊢
    dsimp only at hok ⊢
    split_ifs at hok ⊢ with hcode
    exact decide_eq_true hcode

theorem performHttpRequest_response {parse : JsonParser} {httpCode : ℤ} {body : Bytes}
    {r : LoggerResult} (hcode : 200 ≤ httpCode ∧ httpCode < 300)
    (h : performHttpRequest parse (.response httpCode body) = .ok r) : r.restSuccess = true := by
  have houtcome := performHttpRequest_outcome h
  simp only [LoggerResult.outcome, assembleResult, if_pos hcode, Prod.mk.injEq] at houtcome
  simp [LoggerResult.restSuccess, houtcome, hcode]

/-- A step of a run with one clock and with replies as `perform_http_request` makes them, which
recomputes `api_ok` soundly. -/
structure Step.KeepsTime (platform : Platform) (clock : ℕ → TimePoint) (s : Step) (w : World) : Prop where
  steady : s.inputs.steady = clock
  replies : ∀ k, ∃ reply, s.inputs.rest k = performHttpRequest platform.parse reply
  timed : s.op.Timed clock w
  sound : s.op.RecomputesSoundly ⟨platform, s.inputs⟩ w

/-- If `api_ok` has come back, a success has been processed. -/
def RecoversBySuccess (w w' : World) : Prop :=
  w.status.apiOk = false → w'.status.apiOk = true →
    ∃ newer, newer ≠ [] ∧ w'.successes = newer ++ w.successes

theorem Recovers.bySuccess {config : EkinoxConfig} {τ : Timeline} {w w' : World}
    (h : Recovers config τ w w') (hw : ApiSettled config (τ.time w.taken.steady) w) :
    RecoversBySuccess w w' := by
  intro hlow hback
  obtain ⟨newer, hnew⟩ := h.successes
  refine ⟨newer, fun hnil => ?_, hnew.symm⟩
  subst hnil
  exact absurd (((h.recovered hw).waits hnew.symm hlow).symm.trans hback) nofun

/-- In a run whose operations recompute `api_ok` soundly it only comes back with a success. -/
theorem api_recovers_by_success (platform : Platform) (clock : ℕ → TimePoint) (hclock : SteadyClock clock)
    (inputs : Inputs) (steps : List Step)
    (hsteps : AllSteps (execStep platform) (Step.KeepsTime platform clock) steps
      (initialWorld platform.config inputs)) :
    AllSteps (execStep platform) (fun s w => RecoversBySuccess w (execStep platform s w).2) steps
      (initialWorld platform.config inputs) := by
  refine AllSteps.of_invariant _
    (I := fun w => ApiSettled platform.config (monoMs (clock w.taken.steady)) w) (fun s w hs hw => ?_)
    hsteps fun _ => rfl
  obtain ⟨rfl, hreplies, htimed, hsound⟩ := hs
  have hok : s.inputs.OkIsSuccess := ⟨fun k result hreply hresult => by
    obtain ⟨reply, hr⟩ := hreplies k
    exact performHttpRequest_success (hr.symm.trans hreply) hresult⟩
  let env : Env := ⟨platform, s.inputs⟩
  have hsteady : SteadyClock env.steady := hclock
  have h : Recovers platform.config (.running s.inputs.steady hclock) w (execStep platform s w).2 :=
    Op.run_recovers hsteady htimed hsound
  exact ⟨(h.recovered hw).settled, h.bySuccess hw⟩

/-- The clock stands at one second for `n` readings, and at ten seconds from then on. -/
def benchLateClock (n k : ℕ) : TimePoint := milliseconds (if k < n then 1000 else 10000)

theorem benchLateClock_steady (n : ℕ) : SteadyClock (benchLateClock n) := by
  intro j k h
  change (if j < n then (1000 : ℤ) else 10000) * 1000000 ≤ (if k < n then 1000 else 10000) * 1000000
  split_ifs <;> omega

/-- The `k`-th reply has the status `code k`. -/
def benchLate (n : ℕ) (code : ℕ → ℤ) : Inputs :=
  { benchInputs fun k => benchResponse (code k) with steady := benchLateClock n }

theorem benchLate_replies (n : ℕ) (code : ℕ → ℤ) (k : ℕ) :
    ∃ reply, (benchLate n code).rest k = performHttpRequest benchParse reply := by
  have hempty : (assembleResult (.response (code k) [])).body = [] := by
    unfold assembleResult
    dsimp only
    split_ifs <;> rfl
  refine ⟨.response (code k) [], ?_⟩
  unfold performHttpRequest enrichFromJson
  dsimp only
  rw [if_pos hempty]
  rfl

/-- A connection that is not heard of for nine seconds. -/
def benchLateSteps (inputs : Inputs) : List Step :=
  [⟨.ensureConnection (milliseconds 1000), inputs⟩, ⟨.readClock, inputs⟩,
    ⟨.refreshRestHealth 10000, inputs⟩, ⟨.restTimer 10000, inputs⟩]

theorem api_recovers_by_success_polled :
    let inputs := benchLate 8 fun _ => 200
    AllSteps (execStep benchPlatform)
      (fun s w => RecoversBySuccess w (execStep benchPlatform s w).2) (benchLateSteps inputs)
      (initialWorld benchPlatform.config inputs) := by
  intro inputs
  have hnone {s : Step} {w : World} (h : (s.op.recomputesAt ⟨benchPlatform, s.inputs⟩ w).isNone = true) :
      s.op.RecomputesSoundly ⟨benchPlatform, s.inputs⟩ w := fun t v hsome => by
    rw [hsome] at h
    cases h
  refine api_recovers_by_success benchPlatform inputs.steady (benchLateClock_steady 8) inputs _ ?_
  refine .cons _ ⟨rfl, benchLate_replies 8 _, ⟨0, ?_, rfl⟩, hnone ?_⟩
    (.cons _ ⟨rfl, benchLate_replies 8 _, trivial, hnone ?_⟩
      (.cons _ ⟨rfl, benchLate_replies 8 _, ⟨8, ?_, rfl⟩, hnone ?_⟩
        (.cons _ ⟨rfl, benchLate_replies 8 _, ⟨8, ?_, rfl⟩, hnone ?_⟩ trivial)))
  all_goals decide +kernel

/-- A pass whose status command takes nine seconds to fail, on a connection with a session. -/
def benchStaleSteps (inputs : Inputs) : List Step :=
  [⟨.readClock, inputs⟩, ⟨.ensureConnection (milliseconds 1000), inputs⟩,
    ⟨.ensureSensorSession (milliseconds 1000), inputs⟩, ⟨.readClock, inputs⟩] ++
    benchCommandSteps (bytes "logger.status") inputs

/-- The poll of that pass finds the success of nine seconds ago fresh again. -/
theorem api_ok_back_without_success :
    let inputs := benchLate 11 fun k => if k = 0 then 200 else 503
    let w := (execSteps benchPlatform (benchStaleSteps inputs) (initialWorld benchPlatform.config inputs)).2
    let w' := (exec (pollSensor (milliseconds 1000)) ⟨benchPlatform, inputs⟩ w).2
    SteadyClock inputs.steady ∧ (Op.pollSensor (milliseconds 1000)).Timed inputs.steady w ∧
      ¬RecoversBySuccess w w' := by
  intro inputs w w'
  have htaken : 0 < w.taken.steady := by decide +kernel
  have hlow : w.status.apiOk = false := by decide +kernel
  have hback : w'.status.apiOk = true := by decide +kernel
  have hnone : w'.successes = w.successes := by decide +kernel
  refine ⟨benchLateClock_steady 11, ⟨0, htaken, rfl⟩, fun h => ?_⟩
  obtain ⟨newer, hne, hnew⟩ := h hlow hback
  exact hne (List.self_eq_append_left.mp (hnone.symm.trans hnew))

end Ironsoft.Ekinox
