import Ironsoft.EkinoxAcks

/-!
# Failed publishes

A pass of the loop is a run of operations. An exception that leaves a publish outside
`connect_once` ends the run, and with it the commands that have been swapped out but not
handled; without one, every command is handled.
-/
namespace Ironsoft.Ekinox
open Effect

set_option synthInstance.maxSize 400000
set_option synthInstance.maxHeartbeats 200000

section Loop

variable (env : Env)

theorem isRun_op (op : Op) {x : M Unit} (h : op.run = x) : IsRun env Op.run x := h ▸ isRun_step op

instance (n : ℕ) : IsRun env Op.run (drainLoop n) := by
  have hfront : IsRun env Op.run handleFront := isRun_op env .handleFront rfl
  induction n with
  | zero => unfold drainLoop; infer_instance
  | succ n ih => unfold drainLoop; infer_instance

instance : IsRun env Op.run drainCommands := by
  have hswap : IsRun env Op.run swapCommands := isRun_op env .swapCommands rfl
  unfold drainCommands
  infer_instance

/-- A pass of the loop is a run of operations, so what holds in all runs holds between two
passes. -/
theorem runIteration_isRun : IsRun env Op.run runIteration := by
  have hclock (f : TimePoint → M Unit) (hf : ∀ now, IsRun env Op.run (f now)) :
      IsRun env Op.run (steadyNow >>= f) := by
    refine ⟨fun w => ?_⟩
    obtain ⟨ts, hts⟩ := (hf (env.steady w.taken.steady)).steps w.tookSteady
    exact ⟨.readClock :: ts, hts⟩
  unfold runIteration
  refine hclock _ fun now => ?_
  have h₁ : IsRun env Op.run (ensureConnection now) := isRun_op env (.ensureConnection now) rfl
  have h₂ : IsRun env Op.run (ensureSensorSession now) := isRun_op env (.ensureSensorSession now) rfl
  have h₃ : IsRun env Op.run (pollSensor now) := isRun_op env (.pollSensor now) rfl
  have h₄ : IsRun env Op.run (refreshRestHealth (monoMs now)) :=
    isRun_op env (.refreshRestHealth (monoMs now)) rfl
  have h₅ : IsRun env Op.run (restTimer (monoMs now)) := isRun_op env (.restTimer (monoMs now)) rfl
  have h₆ : IsRun env Op.run (statusTimer now) := isRun_op env (.statusTimer now) rfl
  have h₇ : IsRun env Op.run (heartbeatTimer now) := isRun_op env (.heartbeatTimer now) rfl
  have h₈ : IsRun env Op.run restIdle := isRun_op env .restIdle rfl
  infer_instance

end Loop

section Operations

variable (env : Env)

/-- Nothing that is waiting is lost, and nothing stays in the local queue. -/
structure NothingLost (w w' : World) : Prop where
  queued : w'.handled.reverse ++ w'.batch ++ w'.pending =
    w.handled.reverse ++ w.batch ++ w.pending
  batch : w.batch = [] → w'.batch = []

theorem NothingLost.of_kept {w w' : World} (h : w'.queues = w.queues) : NothingLost w w' := by
  simp only [World.queues, Prod.mk.injEq] at h
  obtain ⟨-, hhandled, hbatch, hpending⟩ := h
  constructor
  · rw [hhandled, hbatch, hpending]
  · exact hbatch.trans

theorem NothingLost.trans {u v w : World} (h : NothingLost u v) (h' : NothingLost v w) :
    NothingLost u w :=
  ⟨h'.queued.trans h.queued, fun hu => h'.batch (h.batch hu)⟩

theorem runIteration_loses_nothing (hquiet : env.QuietPublishes) (hreturn : env.RepliesReturn)
    (hparse : env.ParserReturns) (w : World) :
    wp runIteration env (fun _ w' => NothingLost w w') (fun _ _ => False) w := by
  have hrequest := request_throws env (fun _ => False) (.inl hreturn)
  have hcommand := handleCommandMessage_throws (.inr hquiet) (.inl hreturn) (.inl hparse)
    (p := fun _ => False)
  have hensure := ensureConnection_throws env (fun _ => False) (request_throws env _ (.inl hreturn))
  have hpublish {m : Message} (hm : m.body.kind ≠ .ack) :
      Throws env (fun _ => False) (mqttCall (.publish m)) := publish_throws env _ (.inr hquiet) hm
  have hpresence topic q :
      Throws env (fun _ => False) (mqttCall (.publish ⟨topic, .presence q, 1, true⟩)) :=
    hpublish nofun
  have hstatus topic s :
      Throws env (fun _ => False) (mqttCall (.publish ⟨topic, .status s, 1, true⟩)) :=
    hpublish nofun
  have hbeat topic n m :
      Throws env (fun _ => False) (mqttCall (.publish ⟨topic, .heartbeat n m, 0, false⟩)) :=
    hpublish nofun
  have hkept {x : M Unit} (hx : Respects env (Keeping World.queues) x)
      (ht : Throws env (fun _ => False) x) (v : World) :
      wp x env (fun _ w' => NothingLost v w') (fun _ _ => False) v :=
    wp_mono (hx.returns ht v) (fun _ _ h => .of_kept h) fun _ _ => id
  simp only [runIteration, wp_bind, wp_steadyNow]
  refine wp_mono (hkept inferInstance (hensure _) w.tookSteady) (fun _ v hv => ?_) fun _ _ => id
  have hv : NothingLost w v := ⟨hv.queued, hv.batch⟩
  rw [wp_bind, wp_get, wp_ite]
  split_ifs
  · rw [wp_bind]
    refine wp_mono (drainCommands_handles env hcommand v) (fun _ u hu => ?_) fun _ _ => id
    have hu : NothingLost v u := by
      obtain ⟨hbatch, hhandled, hpending⟩ := hu
      refine ⟨?_, fun _ => hbatch⟩
      rw [hbatch, hhandled, hpending, List.append_nil, List.append_nil]
    exact wp_mono (hkept inferInstance inferInstance u) (fun _ _ h => (hv.trans hu).trans h)
      fun _ _ => id
  · exact wp_mono (hkept inferInstance inferInstance v) (fun _ _ h => hv.trans h) fun _ _ => id

end Operations

/-- In every run in which no publish throws outside `connect_once`, save for acks, the service
goes on, whatever the callbacks of the MQTT client do in between: commands that have been
swapped out are handled one by one, and a pass of the loop leaves none of them. -/
theorem failed_publish_survived {platform : Platform} (hparse : platform.ParserReturns)
    (inputs : Inputs) {steps : List Step} (hsteps : ∀ s ∈ steps, s.Survivable) :
    ∃ w, execSteps platform steps (initialWorld platform.config inputs) = (.ok (), w) ∧
      (∀ next : List Step, (∀ s ∈ next, s.Survivable ∧ s.op ≠ .swapCommands) →
        ∃ w', execSteps platform next w = (.ok (), w') ∧
          Drained (next.countP fun s => s.op.handles) w w') ∧
      ∀ next : Inputs, next.QuietPublishes → next.RepliesReturn →
        ∃ w', exec runIteration ⟨platform, next⟩ w = (.ok (), w') ∧ NothingLost w w' := by
  obtain ⟨w, hw⟩ := execAll_returns (execStep platform)
    (fun s hs => (hsteps s hs).execStep_returns hparse) (initialWorld platform.config inputs)
  refine ⟨w, hw, fun next hnext => execSteps_drained hparse hnext w, ?_⟩
  intro next hquiet hreturn
  have hrun := runIteration_loses_nothing ⟨platform, next⟩ hquiet hreturn hparse w
  revert hrun
  unfold wp
  rcases exec runIteration ⟨platform, next⟩ w with ⟨e | ⟨⟩, w'⟩
  · exact False.elim
  · exact fun h => ⟨w', rfl, h⟩

/-- A status command and a ping are waiting. -/
def benchWaiting : List Step :=
  [⟨.ensureConnection (milliseconds 1000), benchHealthy⟩,
    ⟨.messageArrived ⟨bytes "ironsoft/uav/d1/cmd", benchPayload (bytes "logger.status")⟩, benchHealthy⟩,
    ⟨.messageArrived ⟨bytes "ironsoft/uav/d1/cmd", benchPayload (bytes "ping")⟩, benchHealthy⟩]

theorem failed_publish_survived_waiting :
    ∃ w, execSteps benchPlatform benchWaiting (initialWorld benchPlatform.config benchHealthy) =
        (.ok (), w) ∧
      (∀ next : List Step, (∀ s ∈ next, s.Survivable ∧ s.op ≠ .swapCommands) →
        ∃ w', execSteps benchPlatform next w = (.ok (), w') ∧
          Drained (next.countP fun s => s.op.handles) w w') ∧
      ∀ next : Inputs, next.QuietPublishes → next.RepliesReturn →
        ∃ w', exec runIteration ⟨benchPlatform, next⟩ w = (.ok (), w') ∧ NothingLost w w' := by
  refine failed_publish_survived benchPlatform_returns benchHealthy fun s hs => ?_
  have hinputs : s.inputs = benchHealthy := by
    simp only [benchWaiting, List.mem_cons, List.not_mem_nil, or_false] at hs
    rcases hs with rfl | rfl | rfl <;> rfl
  refine ⟨?_, .inr ?_⟩
  · rw [hinputs]
    exact benchInputs_return _
  · rw [hinputs]
    exact benchInputs_quiet _

/-- A status that cannot be published ends the loop, and the ping behind it is never handled. -/
theorem failed_status_ends_loop :
    let failing := { benchHealthy with mqttThrows := fun _ op => op = .publish .status }
    let start := execSteps benchPlatform benchWaiting (initialWorld benchPlatform.config benchHealthy)
    let pass := exec runIteration ⟨benchPlatform, failing⟩ start.2
    start.1 = .ok () ∧ pass.1 = .error .mqtt ∧ pass.2.handled = [] ∧ pass.2.batch.length = 2 := by
  decide +kernel

end Ironsoft.Ekinox
