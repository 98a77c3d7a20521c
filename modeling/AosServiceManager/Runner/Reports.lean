import AosServiceManager.Runner.Invariants

/-! What the runner reports: the result of `StartInstance` and the arrays `MonitorUnits`
passes to `UpdateRunStatus`. The general results follow from the invariants of every
reachable system; the traces replay interleavings where a report departs from what systemd
said last or from the running map. -/
namespace AosServiceManager
namespace Runner

open System

/-! ### The result of `StartInstance` -/

/-- A call's result appears at the step that begins it (an early failure) or at the
`resume` that ends its wait. -/
theorem step_returned {s : System} {e : Event} {n : Nat} {t : Starter} {rs : RunStatus}
    (hfl : ∀ t₀, s.threads n = some t₀ → t₀.InFlight = true)
    (ht : (s.step e).threads n = some t) (hr : t.phase = .returned rs) :
    (∃ a b c, e = .startInstance t.instanceID a b c ∧ t.phase = startPhase t.instanceID a b c ∧
      t.hadRunningUnit = (s.runner.runningUnits.lookup t.unitName).isSome ∧ (s.step e).runner = s.runner) ∨
    (∃ i k d, e = .resume n ∧ s.threads n = some ⟨t.instanceID, .waiting i k, t.hadRunningUnit⟩ ∧
      s.runner.startingUnits.lookup t.unitName = some d ∧
      rs = ⟨t.instanceID, (finishStartingUnit s.runner t.unitName d).2.1,
        (finishStartingUnit s.runner t.unitName d).2.2⟩ ∧
      (s.step e).runner = (finishStartingUnit s.runner t.unitName d).1) := by
  have stale : s.threads n ≠ some t := fun h => by simpa [Starter.InFlight, hr] using hfl t h
  cases e with
  | startInstance id a b c =>
    rw [step_startInstance, update_eq_some] at ht
    rcases ht with ⟨-, rfl⟩ | ⟨-, ht⟩
    · exact .inl ⟨a, b, c, rfl, rfl, rfl, rfl⟩
    · exact absurd ht stale
  | record m =>
    rcases step_record (s := s) m with he | ⟨id, i, had, -, he⟩ <;> rw [he] at ht
    · exact absurd ht stale
    · rw [update_eq_some] at ht
      rcases ht with ⟨-, rfl⟩ | ⟨-, ht⟩
      · cases hr
      · exact absurd ht stale
  | resume m =>
    rcases step_resume (s := s) m with he | ⟨id, i, k, had, d, hm, hd, he⟩ <;> rw [he] at ht ⊢
    · exact absurd ht stale
    · rw [update_eq_some] at ht
      rcases ht with ⟨rfl, rfl⟩ | ⟨-, ht⟩
      · cases hr; exact .inr ⟨i, k, d, rfl, hm, hd, rfl, rfl⟩
      · exact absurd ht stale
  | tick units => rw [(step_tick units).1] at ht; exact absurd ht stale
  | stopInstance id => exact absurd ht stale
  | stop => exact absurd ht stale

/-- No start of a unit is recorded while a new call for it may begin. -/
theorem not_starting_of_allowed {s : System} (hsh : s.Shape) {id : String} {a b : Error}
    {c : Except Error (UnitState × Option Int)} (he : (Event.startInstance id a b c).allowed s = true) :
    CreateSystemdUnitName id ∉ s.runner.startingUnits := fun hu => by
  obtain ⟨m, t, ht, hw, hn⟩ := hsh.mem_waiting _ hu
  exact allowed_startInstance he (hsh.lt_nextThread ht) ht (Starter.inFlight_of_waiting hw) hn

/-- When a `StartInstance` call returns: `Active` exactly when the entry it read at the end
of its wait was active, which then stands in the running map with that entry's exit code; a
failed call leaves the running map as it was, with an entry for its unit only if there was
one when the call began; and no starting entry of its unit is left behind. -/
theorem startInstance_return {s : System} {e : Event} {n : Nat} {t : Starter} {rs : RunStatus}
    (hs : Reachable s) (he : e.allowed s = true) (hfl : ∀ t₀, s.threads n = some t₀ → t₀.InFlight = true)
    (ht : (s.step e).threads n = some t) (hr : t.phase = .returned rs) :
    (rs.state = .active ↔ ∃ d, s.runner.startingUnits.lookup t.unitName = some d ∧ d.runState = .active ∧
      (s.step e).runner.runningUnits.lookup t.unitName = some ⟨.active, d.exitCode⟩) ∧
    (rs.state = .failed → (s.step e).runner.runningUnits = s.runner.runningUnits ∧
      (t.unitName ∈ s.runner.runningUnits → t.hadRunningUnit = true)) ∧
    t.unitName ∉ (s.step e).runner.startingUnits := by
  rcases step_returned hfl ht hr with ⟨a, b, c, rfl, hp, hhad, hrun⟩ | ⟨i, k, d, rfl, hn, hd, rfl, hrun⟩
  · have hu := not_starting_of_allowed hs.shape he
    have hf := startPhase_returned (hp ▸ hr)
    refine ⟨?_, fun _ => ⟨by rw [hrun], fun hm => ?_⟩, by rw [hrun]; exact hu⟩
    · simp only [hf, reduceCtorEq, false_iff, not_exists, not_and]
      exact fun d hd => absurd (AList.lookup_isSome.mp (hd ▸ rfl)) hu
    · rw [hhad, AList.lookup_isSome]; exact hm
  · rw [hrun, finishStartingUnit_state, finishStartingUnit_startingUnits]
    refine ⟨?_, fun hf => ⟨finishStartingUnit_runningUnits_of_ne _ _ _ (fun ha => by rw [ha] at hf; cases hf),
      fun hm => hs.shape.had_running n ⟨t.instanceID, .waiting i k, t.hadRunningUnit⟩ hn rfl hm⟩,
      fun hm => (AList.mem_erase.mp hm).1 rfl⟩
    simp only [ToInstanceState_eq_active, hd, Option.some.injEq, finishStartingUnit_running, and_true]
    constructor
    · intro ha; exact ⟨d, rfl, ha, by simp [ha]⟩
    · rintro ⟨_, rfl, ha, -⟩; exact ha

/-- A failed restart of a running instance (here its drop-in cannot be written). -/
def failedRestart : List Event :=
  [.startInstance "x" .none .none (.ok (.active, some 0)), .record 0, .resume 0,
   .startInstance "x" (.ofEnum .failed "") .none (.ok (.active, some 0))]

/-- It returns `Failed` and leaves the unit's running entry, with the exit code its first
start recorded. -/
theorem failedRestart_keeps_running :
    Reachable (System.init.run failedRestart) ∧
    (System.init.run failedRestart).threads 1 = some ⟨"x", .returned ⟨"x", .failed, .ofEnum .failed ""⟩, true⟩ ∧
    (System.init.run failedRestart).runner.runningUnits.lookup (CreateSystemdUnitName "x") =
      some ⟨.active, some 0⟩ :=
  ⟨Reachable.init.run (by decide), by decide, by decide⟩

/-- The first start of `failedRestart`, waiting. -/
def waitingStart : List Event := [.startInstance "x" .none .none (.ok (.active, some 0)), .record 0]

theorem startInstance_return_waitingStart :
    Reachable (System.init.run waitingStart) ∧
    ∃ d, (System.init.run waitingStart).runner.startingUnits.lookup (CreateSystemdUnitName "x") = some d ∧
      d.runState = .active ∧ ((System.init.run waitingStart).step (.resume 0)).runner.runningUnits.lookup
        (CreateSystemdUnitName "x") = some ⟨.active, d.exitCode⟩ :=
  have hs : Reachable (System.init.run waitingStart) := Reachable.init.run (by decide)
  have h0 : (System.init.run waitingStart).threads 0 = some ⟨"x", .waiting (.active, some 0) 0, false⟩ := by decide
  ⟨hs, ((startInstance_return (e := .resume 0) (t := ⟨"x", .returned ⟨"x", .active, .none⟩, false⟩) hs rfl
    (fun _ h => by rw [h0] at h; cases h; rfl) (by decide) rfl).1).mp rfl⟩

/-! ### Reported states and what systemd said -/

/-- An array a tick sends lists, for each running unit, the instance state and exit code of
the most recent status of the unit received since the start that inserted its entry recorded
its `GetUnitStatus` answer, that tick's answer included; or of that answer. -/
theorem emitted_fresh {s : System} (hs : Reachable s) {us : List UnitStatus} {r : Runner} {out : List RunStatus}
    (hm : s.monitoring = true) (hmu : MonitorUnits s.runner (.ok us) = some (r, some out)) {rs : RunStatus}
    (hrs : rs ∈ out) :
    ∃ k i, s.origin (CreateSystemdUnitName rs.instanceID) = some (k, i) ∧ k ≤ s.seen.length ∧
      rs.state = ToInstanceState (recentEntry (us.reverse ++ s.seen) k (CreateSystemdUnitName rs.instanceID) i).runState ∧
      rs.error = exitError (recentEntry (us.reverse ++ s.seen) k (CreateSystemdUnitName rs.instanceID) i).exitCode := by
  obtain ⟨-, hstep⟩ := step_tick_ok hm hmu
  have hs' := Reachable.step (e := .tick (.ok us)) hs rfl
  rw [hstep] at hs'
  obtain ⟨hget, hru⟩ := MonitorUnits_emitted hmu
  obtain ⟨d, hd, hst, her⟩ := GetRunningInstances_mem hget hs'.shape.running_named hrs
  obtain ⟨k, i, ho, -, rfl⟩ := hs'.fresh _ d hd
  -- the unit was running before the tick, so its start recorded before it
  have hmem : CreateSystemdUnitName rs.instanceID ∈ s.runner.runningUnits :=
    (foldl_updateUnit_mem_running _ _ _ _).mp (by rw [← hru]; exact AList.lookup_isSome.mp (by rw [hd]; rfl))
  obtain ⟨d₀, hd₀⟩ := Option.isSome_iff_exists.mp (AList.lookup_isSome.mpr hmem)
  obtain ⟨k₀, i₀, ho₀, hk₀, -⟩ := hs.fresh _ d₀ hd₀
  have hk : k ≤ s.seen.length := by
    obtain ⟨rfl, -⟩ := Prod.mk.inj (Option.some.inj (ho₀.symm.trans ho))
    exact hk₀
  exact ⟨k, i, ho, hk, hst, her⟩

/-- What a start reports and what the receiver is sent: an early failure is `Failed`; a
start that resumes reads the most recent status of its unit received since it recorded its
`GetUnitStatus` answer (else that answer); and every status of an array a tick passes to
`UpdateRunStatus` carries the state and exit code of the most recent status of its unit
received, that tick's answer included, since the start that inserted its running entry
recorded its `GetUnitStatus` answer (else that answer). -/
theorem reported_state_received {s : System} (hs : Reachable s) :
    (∀ id a b c rs, startPhase id a b c = .returned rs → rs.state = .failed) ∧
    (∀ n t i k, s.threads n = some t → t.phase = .waiting i k → k ≤ s.seen.length ∧
      (s.step (.resume n)).threads n = some ⟨t.instanceID, .returned ⟨t.instanceID,
        ToInstanceState (recentEntry s.seen k t.unitName i).runState,
        (finishStartingUnit s.runner t.unitName (recentEntry s.seen k t.unitName i)).2.2⟩, t.hadRunningUnit⟩) ∧
    ∀ us r out, s.monitoring = true → MonitorUnits s.runner (.ok us) = some (r, some out) → ∀ rs ∈ out,
      ∃ k i, s.origin (CreateSystemdUnitName rs.instanceID) = some (k, i) ∧ k ≤ s.seen.length ∧
        rs.state = ToInstanceState (recentEntry (us.reverse ++ s.seen) k (CreateSystemdUnitName rs.instanceID) i).runState ∧
        rs.error = exitError (recentEntry (us.reverse ++ s.seen) k (CreateSystemdUnitName rs.instanceID) i).exitCode := by
  refine ⟨fun _ _ _ _ _ => startPhase_returned, fun n t i k ht hp => ⟨hs.tracked.since_le n t i k ht hp, ?_⟩,
    fun _ _ _ hm hmu _ hrs => emitted_fresh hs hm hmu hrs⟩
  obtain ⟨id, p, had⟩ := t
  cases hp
  have hd := hs.tracked.entry n _ i k ht rfl
  simp only [Starter.unitName] at hd ⊢
  simp [step, apply, ht, hd, finishStartingUnit_state]

/-- A tick between a start's `GetUnitStatus` and its first locked section, listing the unit
as failed. -/
def staleStart : List Event :=
  [.startInstance "x" .none .none (.ok (.active, some 0)),
   .tick (.ok [⟨CreateSystemdUnitName "x", .failed, some 1⟩]), .record 0, .resume 0]

/-- The tick finds no entry to update, and the start reports the older `active` answer. -/
theorem staleStart_reports_active :
    Reachable (System.init.run staleStart) ∧
    (System.init.run staleStart).threads 0 = some ⟨"x", .returned ⟨"x", .active, .none⟩, false⟩ ∧
    (System.init.run staleStart).lastReceived (CreateSystemdUnitName "x") =
      some ⟨CreateSystemdUnitName "x", .failed, some 1⟩ :=
  ⟨Reachable.init.run (by decide), by decide, by decide⟩

theorem reported_state_received_waitingStart :
    Reachable (System.init.run waitingStart) ∧
    ((System.init.run waitingStart).step (.resume 0)).threads 0 = some ⟨"x", .returned ⟨"x",
      ToInstanceState (recentEntry (System.init.run waitingStart).seen 0 (CreateSystemdUnitName "x")
        (.active, some 0)).runState, .none⟩, false⟩ :=
  have hs : Reachable (System.init.run waitingStart) := Reachable.init.run (by decide)
  ⟨hs, ((reported_state_received hs).2.1 0 ⟨"x", .waiting (.active, some 0) 0, false⟩ _ _ (by decide) rfl).2⟩

/-! ### The arrays sent to the receiver -/

/-- What a tick whose `ListUnits` succeeded does to each running unit and to the receiver:
every running unit takes the instance state and exit code of the last status listed for it,
and no unit enters or leaves the map; when some unit's entry changed, the receiver is sent
`GetRunningInstances()` of the new map, which lists every running unit with its new entry, in
the order of the units' names; otherwise it is sent that or nothing. -/
theorem tick_delivered {s : System} (hs : Reachable s) (us : List UnitStatus) (hm : s.monitoring = true)
    (hc : s.runner.closed = false) :
    (∀ u, (s.step (.tick (.ok us))).runner.runningUnits.lookup u = match lastListed us u with
      | some unit => (s.runner.runningUnits.lookup u).map fun _ => ⟨ToInstanceState unit.activeState, unit.exitCode⟩
      | none => s.runner.runningUnits.lookup u) ∧
    ((∃ u, (s.step (.tick (.ok us))).runner.runningUnits.lookup u ≠ s.runner.runningUnits.lookup u) →
      (s.step (.tick (.ok us))).runner.GetRunningInstances = .ok (s.step (.tick (.ok us))).delivered ∧
      (∀ u d, (s.step (.tick (.ok us))).runner.runningUnits.lookup u = some d →
        ∃ rs ∈ (s.step (.tick (.ok us))).delivered, CreateSystemdUnitName rs.instanceID = u ∧
          rs.state = d.runState ∧ rs.error = exitError d.exitCode) ∧
      (((s.step (.tick (.ok us))).delivered.map (·.instanceID)).map CreateSystemdUnitName).Sorted
        fun a b => a.data ≤ b.data) ∧
    ((s.step (.tick (.ok us))).delivered = s.delivered ∨
      (s.step (.tick (.ok us))).runner.GetRunningInstances = .ok (s.step (.tick (.ok us))).delivered) := by
  obtain ⟨⟨r, out⟩, he⟩ := Option.ne_none_iff_exists'.mp (emitRunStatus_ne_none hs.shape us)
  have hmu : MonitorUnits s.runner (.ok us) = some (r, out) := by rw [MonitorUnits_ok _ _ hc, he]
  have hstep := (step_tick_ok hm hmu).2
  have hs' := Reachable.step (e := .tick (.ok us)) hs rfl
  rw [hstep] at hs' ⊢
  obtain ⟨hru, -, -, ⟨rfl, hri, hch, -⟩ | ⟨rfl, hget⟩⟩ := emitRunStatus_eq he
  · -- nothing sent: no running entry changed
    have hsame : r.runningUnits = s.runner.runningUnits := hru.trans (foldl_updateUnit_unchanged _ _ _ hch)
    exact ⟨fun u => (congrArg (AList.lookup u) hru).trans (foldl_updateUnit_running _ _ _ _),
      fun ⟨u, hu⟩ => absurd (by rw [hsame]) hu, .inl rfl⟩
  · have hget' : r.GetRunningInstances = .ok r.runningInstances := by
      rw [GetRunningInstances, runningEntries, hru]; exact hget
    exact ⟨fun u => (congrArg (AList.lookup u) hru).trans (foldl_updateUnit_running _ _ _ _), fun _ => ⟨hget',
      fun u d hd => GetRunningInstances_complete hget' hs'.shape.running_named hd,
      GetRunningInstances_sorted hget' hs'.shape.running_named⟩, .inr hget'⟩

/-- A start of `x` that has returned active, before any tick. -/
def startedRun : System := System.init.run (waitingStart ++ [.resume 0])

/-- The tick after it lists `x` failed with exit code 137: the receiver is sent `x` failed. -/
theorem tick_delivered_startedRun :
    Reachable startedRun ∧ startedRun.monitoring = true ∧ startedRun.runner.closed = false ∧
    (startedRun.step (.tick (.ok [⟨CreateSystemdUnitName "x", .failed, some 137⟩]))).runner.runningUnits.lookup
      (CreateSystemdUnitName "x") ≠ startedRun.runner.runningUnits.lookup (CreateSystemdUnitName "x") ∧
    (startedRun.step (.tick (.ok [⟨CreateSystemdUnitName "x", .failed, some 137⟩]))).runner.GetRunningInstances =
      .ok (startedRun.step (.tick (.ok [⟨CreateSystemdUnitName "x", .failed, some 137⟩]))).delivered :=
  have hs : Reachable startedRun := Reachable.init.run (by decide)
  have hne : (startedRun.step (.tick (.ok [⟨CreateSystemdUnitName "x", .failed, some 137⟩]))).runner.runningUnits.lookup
      (CreateSystemdUnitName "x") ≠ startedRun.runner.runningUnits.lookup (CreateSystemdUnitName "x") := by decide
  ⟨hs, rfl, rfl, hne, ((tick_delivered hs _ rfl rfl).2.1 ⟨_, hne⟩).1⟩

/-- An instance stopped and another started between two ticks. -/
def swapUnits : List Event :=
  [.startInstance "a" .none .none (.ok (.active, some 0)), .record 0, .resume 0, .tick (.ok []),
   .stopInstance "a", .startInstance "b" .none .none (.ok (.active, some 0)), .record 1, .resume 1,
   .tick (.ok [])]

/-- The running map changed but not its size, so the last tick sends nothing and the receiver
keeps the stopped instance. -/
theorem swapUnits_stale_delivered :
    Reachable (System.init.run swapUnits) ∧
    (System.init.run swapUnits).delivered = [⟨"a", .active, .none⟩] ∧
    (System.init.run swapUnits).runner.GetRunningInstances = .ok [⟨"b", .active, .none⟩] :=
  ⟨Reachable.init.run (by decide), by decide, rfl⟩

end Runner
end AosServiceManager
