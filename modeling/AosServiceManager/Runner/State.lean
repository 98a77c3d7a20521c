import AosServiceManager.Runner.UnitName

/-! The runner's shared state and the sections of `runner.cpp` that run under `mMutex`:
one iteration of the `MonitorUnits` loop, the two halves of `GetStartingUnitState` around
its wait, and the erase of `StopInstance`. Unit maps are association lists keyed by unit
name, iterated as `std::map` iterates them: by unit name. -/
namespace AosServiceManager
namespace Runner

/-- `UnitStateEnum`: the systemd active state of a unit. -/
inductive UnitState
  | active | activating | deactivating | inactive | failed
  deriving DecidableEq, Repr

/-- `InstanceRunStateEnum`, the two states the runner reports. -/
inductive InstanceRunState
  | active | failed
  deriving DecidableEq, Repr

def ToInstanceState : UnitState → InstanceRunState
  | .active => .active
  | _ => .failed

@[simp] theorem ToInstanceState_eq_active {s : UnitState} : ToInstanceState s = .active ↔ s = .active := by
  cases s <;> simp [ToInstanceState]

/-- A systemd `UnitStatus`, as `ListUnits` lists it. -/
structure UnitStatus where
  name : String
  activeState : UnitState
  exitCode : Option Int
  deriving DecidableEq, Repr

/-- `StartingUnitData` without its condition variable, whose wake-ups are the scheduling
of the model. -/
structure StartingUnitData where
  runState : UnitState
  exitCode : Option Int
  deriving DecidableEq, Repr

structure RunningUnitData where
  runState : InstanceRunState
  exitCode : Option Int
  deriving DecidableEq, Repr

structure RunStatus where
  instanceID : String
  state : InstanceRunState
  error : Error
  deriving DecidableEq, Repr

abbrev UnitMap (β : Type) := AList (fun _ : String => β)

end Runner

/-- The fields of `Runner` that its threads share under `mMutex`. -/
structure Runner where
  startingUnits : Runner.UnitMap Runner.StartingUnitData
  runningUnits : Runner.UnitMap Runner.RunningUnitData
  runningInstances : List Runner.RunStatus
  closed : Bool

namespace Runner

/-- The error a running unit reports: `Error(exitCode)`, or `Error()` without an exit code. -/
def exitError : Option Int → Error
  | some code => .ofErrno code ""
  | none => .none

/-- The element that `GetRunningInstances` makes of one running unit. -/
def runStatusOf (unitName : String) (d : RunningUnitData) : Except Error RunStatus :=
  (CreateInstanceID unitName).map fun instanceID => ⟨cStr instanceID, d.runState, exitError d.exitCode⟩

/-- `std::transform` of the running units through `runStatusOf`: the first exception escapes. -/
def runStatuses : List (Σ _ : String, RunningUnitData) → Except Error (List RunStatus)
  | [] => .ok []
  | e :: es => match runStatusOf e.1 e.2, runStatuses es with
    | .ok status, .ok statuses => .ok (status :: statuses)
    | .error err, _ => .error err
    | .ok _, .error err => .error err

/-- The entries of `mRunningUnits` in the order `std::map` iterates them: by unit name, compared
character by character as `std::string` compares. -/
def runningEntries (r : Runner) : List (Σ _ : String, RunningUnitData) :=
  r.runningUnits.entries.insertionSort fun a b => a.1.data ≤ b.1.data

def GetRunningInstances (r : Runner) : Except Error (List RunStatus) := runStatuses r.runningEntries

/-- The starting half of the `for (const auto& unit : units)` body of `MonitorUnits`: a
listed starting unit takes the listed state and exit code. -/
def updateStartingUnit (r : Runner) (unit : UnitStatus) : Runner :=
  match r.startingUnits.lookup unit.name with
  | some _ => { r with startingUnits := r.startingUnits.insert unit.name ⟨unit.activeState, unit.exitCode⟩ }
  | none => r

/-- The running half: a listed running unit whose instance state or exit code differs is
replaced, and the tick is marked changed. -/
def updateRunningUnit (r : Runner) (unit : UnitStatus) (unitChanged : Bool) : Runner × Bool :=
  match r.runningUnits.lookup unit.name with
  | some d =>
    if ToInstanceState unit.activeState ≠ d.runState ∨ unit.exitCode ≠ d.exitCode then
      ({ r with runningUnits := r.runningUnits.insert unit.name ⟨ToInstanceState unit.activeState, unit.exitCode⟩ }, true)
    else (r, unitChanged)
  | none => (r, unitChanged)

def updateUnit (acc : Runner × Bool) (unit : UnitStatus) : Runner × Bool :=
  updateRunningUnit (updateStartingUnit acc.1 unit) unit acc.2

/-- The end of a pass of `MonitorUnits`: a changed unit or a running map whose size differs
from the last snapshot's sends `GetRunningInstances()` to the receiver. -/
def emitRunStatus (r : Runner) (unitChanged : Bool) : Option (Runner × Option (List RunStatus)) :=
  if unitChanged || r.runningUnits.keys.length != r.runningInstances.length then
    match r.GetRunningInstances with
    | .ok statuses => some ({ r with runningInstances := statuses }, some statuses)
    | .error _ => none
  else some (r, none)

/-- One pass of the `MonitorUnits` loop after its wait, on the `ListUnits` answer: `none`
when the thread returns (closed, `ListUnits` failed, or an exception escaped), else the new
state and the array passed to `UpdateRunStatus`, if any. -/
def MonitorUnits (r : Runner) (units : Except Error (List UnitStatus)) :
    Option (Runner × Option (List RunStatus)) :=
  if r.closed then none else
  match units with
  | .error _ => none
  | .ok units => let acc := units.foldl updateUnit (r, false); emitRunStatus acc.1 acc.2

/-- The locked section of `GetStartingUnitState` before its wait: record the initial status. -/
def recordStartingUnit (r : Runner) (unitName : String) (initial : UnitState × Option Int) : Runner :=
  { r with startingUnits := r.startingUnits.insert unitName ⟨initial.1, initial.2⟩ }

/-- The locked section of `GetStartingUnitState` after its wait, given the entry it reads:
erase the entry; an active unit moves to `mRunningUnits`. -/
def finishStartingUnit (r : Runner) (unitName : String) (d : StartingUnitData) :
    Runner × InstanceRunState × Error :=
  let r := { r with startingUnits := r.startingUnits.erase unitName }
  if d.runState ≠ .active then
    (r, .failed, match d.exitCode with
      | some code => .ofErrno code "failed to start unit"
      | none => .ofEnum .failed "failed to start unit")
  else ({ r with runningUnits := r.runningUnits.insert unitName ⟨.active, d.exitCode⟩ }, .active, .none)

/-- The locked section of `StopInstance`. -/
def eraseRunningUnit (r : Runner) (instanceID : String) : Runner :=
  { r with runningUnits := r.runningUnits.erase (CreateSystemdUnitName instanceID) }

/-! ### Spec lemmas -/

/-- The status `CreateSystemdUnitName`'s units report: their instance ID reads back. -/
theorem runStatusOf_unitName (instanceID : String) (d : RunningUnitData) :
    runStatusOf (CreateSystemdUnitName instanceID) d = .ok ⟨cStr instanceID, d.runState, exitError d.exitCode⟩ := by
  simp [runStatusOf, CreateInstanceID_CreateSystemdUnitName, Except.map]

theorem runStatuses_ok : ∀ {es : List (Σ _ : String, RunningUnitData)} {statuses}, runStatuses es = .ok statuses →
    List.Forall₂ (fun e status => runStatusOf e.1 e.2 = .ok status) es statuses
  | [], _, h => by cases h; exact .nil
  | _ :: _, _, h => by
    simp only [runStatuses] at h
    split at h <;> cases h
    exact .cons ‹_› (runStatuses_ok ‹_›)

theorem runStatuses_mem : ∀ {es : List (Σ _ : String, RunningUnitData)} {statuses : List RunStatus},
    runStatuses es = .ok statuses → ∀ status ∈ statuses, ∃ e ∈ es, runStatusOf e.1 e.2 = .ok status
  | [], _, h, _, hs => by cases h; simp at hs
  | e :: _, _, h, status, hs => by
    simp only [runStatuses] at h
    split at h <;> cases h
    rename_i h₁ h₂
    rcases List.mem_cons.mp hs with rfl | hs
    · exact ⟨e, List.mem_cons_self _ _, h₁⟩
    · obtain ⟨e', hm, he'⟩ := runStatuses_mem h₂ status hs
      exact ⟨e', List.mem_cons_of_mem _ hm, he'⟩

theorem runStatuses_of_forall : ∀ {es : List (Σ _ : String, RunningUnitData)},
    (∀ e ∈ es, ∃ status, runStatusOf e.1 e.2 = .ok status) → ∃ statuses, runStatuses es = .ok statuses
  | [], _ => ⟨[], rfl⟩
  | e :: es, h => by
    obtain ⟨status, hs⟩ := h e (List.mem_cons_self _ _)
    obtain ⟨statuses, hss⟩ := runStatuses_of_forall fun e' he' => h e' (List.mem_cons_of_mem _ he')
    exact ⟨status :: statuses, by simp [runStatuses, hs, hss]⟩

theorem runningEntries_perm (r : Runner) : r.runningEntries.Perm r.runningUnits.entries :=
  List.perm_insertionSort _ _

theorem mem_runningEntries {r : Runner} {e : Σ _ : String, RunningUnitData} :
    e ∈ r.runningEntries ↔ r.runningUnits.lookup e.1 = some e.2 :=
  (r.runningEntries_perm.mem_iff).trans AList.mem_lookup_iff.symm

/-- `GetRunningInstances` throws only on a running unit that `CreateSystemdUnitName` did not name. -/
theorem GetRunningInstances_ok (r : Runner) (h : ∀ u ∈ r.runningUnits, ∃ id, u = CreateSystemdUnitName id) :
    ∃ statuses, r.GetRunningInstances = .ok statuses := by
  refine runStatuses_of_forall fun e he => ?_
  obtain ⟨id, hid⟩ := h e.1 (AList.lookup_isSome.mp (by rw [mem_runningEntries.mp he]; rfl))
  exact ⟨_, hid ▸ runStatusOf_unitName id e.2⟩

/-- Over named units, `GetRunningInstances` lists the instances of the running units in
`std::map` order: each status names back the unit it came from. -/
theorem GetRunningInstances_keys {r : Runner} {statuses : List RunStatus} (h : r.GetRunningInstances = .ok statuses)
    (hn : ∀ u ∈ r.runningUnits, ∃ id, u = CreateSystemdUnitName id) :
    r.runningEntries.map Sigma.fst = (statuses.map (·.instanceID)).map CreateSystemdUnitName := by
  have named : ∀ e ∈ r.runningEntries, ∃ id, e.1 = CreateSystemdUnitName id :=
    fun e he => hn e.1 (AList.lookup_isSome.mp (by rw [mem_runningEntries.mp he]; rfl))
  have hf := runStatuses_ok h
  generalize r.runningEntries = es at hf named
  clear h
  induction hf with
  | nil => rfl
  | @cons e status es statuses hst _ ih =>
    obtain ⟨id, hid⟩ := named e (List.mem_cons_self _ _)
    rw [hid, runStatusOf_unitName] at hst
    cases hst
    rw [List.map_cons, List.map_cons, List.map_cons, hid, CreateSystemdUnitName_cStr,
      ih fun e' he' => named e' (List.mem_cons_of_mem _ he')]

/-- Over named units, `GetRunningInstances` lists the instances in the order of their units'
names. -/
theorem GetRunningInstances_sorted {r : Runner} {statuses : List RunStatus} (h : r.GetRunningInstances = .ok statuses)
    (hn : ∀ u ∈ r.runningUnits, ∃ id, u = CreateSystemdUnitName id) :
    ((statuses.map (·.instanceID)).map CreateSystemdUnitName).Sorted fun a b => a.data ≤ b.data := by
  rw [← GetRunningInstances_keys h hn]
  have : IsTotal (Σ _ : String, RunningUnitData) fun a b => a.1.data ≤ b.1.data := ⟨fun a b => le_total _ _⟩
  have : IsTrans (Σ _ : String, RunningUnitData) fun a b => a.1.data ≤ b.1.data := ⟨fun _ _ _ => le_trans⟩
  exact List.pairwise_map.mpr (List.sorted_insertionSort _ _)

/-- Over named units, every status `GetRunningInstances` lists is the state and exit code of
its instance's running entry. -/
theorem GetRunningInstances_mem {r : Runner} {statuses : List RunStatus} (h : r.GetRunningInstances = .ok statuses)
    (hn : ∀ u ∈ r.runningUnits, ∃ id, u = CreateSystemdUnitName id) {rs : RunStatus} (hrs : rs ∈ statuses) :
    ∃ d, r.runningUnits.lookup (CreateSystemdUnitName rs.instanceID) = some d ∧ rs.state = d.runState ∧
      rs.error = exitError d.exitCode := by
  obtain ⟨e, he, hrs'⟩ := runStatuses_mem h rs hrs
  have hl := mem_runningEntries.mp he
  obtain ⟨id, hid⟩ := hn e.1 (AList.lookup_isSome.mp (by rw [hl]; rfl))
  rw [hid, runStatusOf_unitName] at hrs'
  cases hrs'
  exact ⟨e.2, by rw [CreateSystemdUnitName_cStr, ← hid, hl], rfl, rfl⟩

/-- Over named units, `GetRunningInstances` lists every running entry. -/
theorem GetRunningInstances_complete {r : Runner} {statuses : List RunStatus}
    (h : r.GetRunningInstances = .ok statuses) (hn : ∀ u ∈ r.runningUnits, ∃ id, u = CreateSystemdUnitName id)
    {u : String} {d : RunningUnitData} (hd : r.runningUnits.lookup u = some d) :
    ∃ rs ∈ statuses, CreateSystemdUnitName rs.instanceID = u ∧ rs.state = d.runState ∧
      rs.error = exitError d.exitCode := by
  have hu : u ∈ (statuses.map (·.instanceID)).map CreateSystemdUnitName := by
    rw [← GetRunningInstances_keys h hn]
    exact List.mem_map_of_mem Sigma.fst ((@mem_runningEntries r ⟨u, d⟩).mpr hd)
  obtain ⟨id, hid, rfl⟩ := List.mem_map.mp hu
  obtain ⟨rs, hrs, rfl⟩ := List.mem_map.mp hid
  obtain ⟨d', hd', hst, her⟩ := GetRunningInstances_mem h hn hrs
  cases hd.symm.trans hd'
  exact ⟨rs, hrs, rfl, hst, her⟩

theorem lookup_insert_eq {β : Type} (s : UnitMap β) (a u : String) (b : β) :
    (s.insert a b).lookup u = if u = a then some b else s.lookup u := by
  split
  · subst_vars; exact AList.lookup_insert _
  · exact AList.lookup_insert_ne ‹_›

theorem lookup_erase_eq {β : Type} (s : UnitMap β) (a u : String) :
    (s.erase a).lookup u = if u = a then none else s.lookup u := by
  split
  · subst_vars; exact AList.lookup_erase _ _
  · exact AList.lookup_erase_ne ‹_›

section updateUnit

variable (r : Runner) (unit : UnitStatus) (c : Bool) (u : String)

@[simp] theorem updateStartingUnit_runningUnits : (updateStartingUnit r unit).runningUnits = r.runningUnits := by
  unfold updateStartingUnit; split <;> rfl
@[simp] theorem updateStartingUnit_runningInstances :
    (updateStartingUnit r unit).runningInstances = r.runningInstances := by
  unfold updateStartingUnit; split <;> rfl
@[simp] theorem updateStartingUnit_closed : (updateStartingUnit r unit).closed = r.closed := by
  unfold updateStartingUnit; split <;> rfl

theorem updateStartingUnit_lookup : (updateStartingUnit r unit).startingUnits.lookup u =
    if u = unit.name then (r.startingUnits.lookup u).map fun _ => ⟨unit.activeState, unit.exitCode⟩
    else r.startingUnits.lookup u := by
  unfold updateStartingUnit
  by_cases hu : u = unit.name
  · subst hu; cases h : r.startingUnits.lookup unit.name <;> simp [h, lookup_insert_eq]
  · split <;> simp [hu, lookup_insert_eq]

@[simp] theorem updateRunningUnit_startingUnits : (updateRunningUnit r unit c).1.startingUnits = r.startingUnits := by
  unfold updateRunningUnit; repeat' split
  all_goals rfl
@[simp] theorem updateRunningUnit_runningInstances :
    (updateRunningUnit r unit c).1.runningInstances = r.runningInstances := by
  unfold updateRunningUnit; repeat' split
  all_goals rfl
@[simp] theorem updateRunningUnit_closed : (updateRunningUnit r unit c).1.closed = r.closed := by
  unfold updateRunningUnit; repeat' split
  all_goals rfl

/-- A listed running unit ends up with the listed instance state and exit code, whether or
not that was a change. -/
theorem updateRunningUnit_lookup : (updateRunningUnit r unit c).1.runningUnits.lookup u =
    if u = unit.name then (r.runningUnits.lookup u).map fun _ => ⟨ToInstanceState unit.activeState, unit.exitCode⟩
    else r.runningUnits.lookup u := by
  unfold updateRunningUnit
  by_cases hu : u = unit.name
  · subst hu
    cases h : r.runningUnits.lookup unit.name with
    | none => simp [h]
    | some d =>
      simp only [h, Option.map_some']
      split
      · simp [lookup_insert_eq]
      · rename_i hne
        push_neg at hne
        simp [h, hne.1, hne.2]
  · split
    · split <;> simp [hu, lookup_insert_eq]
    · simp [hu]

/-- A pass that marks no change leaves the runner as it was. -/
theorem updateRunningUnit_unchanged (h : (updateRunningUnit r unit c).2 = false) :
    c = false ∧ (updateRunningUnit r unit c).1 = r := by
  unfold updateRunningUnit at h ⊢
  repeat' split at h
  all_goals simp_all

end updateUnit

/-- The last status `ListUnits` gave for unit `u` in one answer. -/
def lastListed (units : List UnitStatus) (u : String) : Option UnitStatus :=
  units.reverse.find? fun unit => unit.name == u

@[simp] theorem lastListed_nil (u : String) : lastListed [] u = none := rfl

theorem lastListed_concat (units : List UnitStatus) (unit : UnitStatus) (u : String) :
    lastListed (units ++ [unit]) u = if unit.name = u then some unit else lastListed units u := by
  by_cases h : unit.name = u <;> simp [lastListed, h]

section tick

variable (r : Runner) (units : List UnitStatus) (c : Bool) (u : String)

@[simp] theorem foldl_updateUnit_runningInstances :
    (units.foldl updateUnit (r, c)).1.runningInstances = r.runningInstances := by
  induction units using List.reverseRecOn with
  | nil => rfl
  | append_singleton units unit ih => simp [List.foldl_append, updateUnit, ih]

@[simp] theorem foldl_updateUnit_closed : (units.foldl updateUnit (r, c)).1.closed = r.closed := by
  induction units using List.reverseRecOn with
  | nil => rfl
  | append_singleton units unit ih => simp [List.foldl_append, updateUnit, ih]

/-- After a tick, a starting unit holds the last status listed for it. -/
theorem foldl_updateUnit_starting : (units.foldl updateUnit (r, c)).1.startingUnits.lookup u =
    match lastListed units u with
    | some unit => (r.startingUnits.lookup u).map fun _ => ⟨unit.activeState, unit.exitCode⟩
    | none => r.startingUnits.lookup u := by
  induction units using List.reverseRecOn with
  | nil => rfl
  | append_singleton units unit ih =>
    simp only [List.foldl_append, List.foldl_cons, List.foldl_nil, updateUnit, updateRunningUnit_startingUnits,
      updateStartingUnit_lookup, ih, lastListed_concat]
    by_cases h : unit.name = u
    · subst h; cases lastListed units unit.name <;> simp [Function.comp_def]
    · simp [h, Ne.symm h]

/-- After a tick, a running unit holds the instance state of the last status listed for it. -/
theorem foldl_updateUnit_running : (units.foldl updateUnit (r, c)).1.runningUnits.lookup u =
    match lastListed units u with
    | some unit => (r.runningUnits.lookup u).map fun _ => ⟨ToInstanceState unit.activeState, unit.exitCode⟩
    | none => r.runningUnits.lookup u := by
  induction units using List.reverseRecOn with
  | nil => rfl
  | append_singleton units unit ih =>
    simp only [List.foldl_append, List.foldl_cons, List.foldl_nil, updateUnit, updateRunningUnit_lookup,
      updateStartingUnit_runningUnits, ih, lastListed_concat]
    by_cases h : unit.name = u
    · subst h; cases lastListed units unit.name <;> simp [Function.comp_def]
    · simp [h, Ne.symm h]

theorem foldl_updateUnit_mem_running :
    u ∈ (units.foldl updateUnit (r, c)).1.runningUnits ↔ u ∈ r.runningUnits := by
  rw [← AList.lookup_isSome, ← AList.lookup_isSome, foldl_updateUnit_running]
  cases lastListed units u <;> simp

theorem foldl_updateUnit_mem_starting :
    u ∈ (units.foldl updateUnit (r, c)).1.startingUnits ↔ u ∈ r.startingUnits := by
  rw [← AList.lookup_isSome, ← AList.lookup_isSome, foldl_updateUnit_starting]
  cases lastListed units u <;> simp

/-- A tick that marks no change leaves the running map as it was. -/
theorem foldl_updateUnit_unchanged (h : (units.foldl updateUnit (r, c)).2 = false) :
    (units.foldl updateUnit (r, c)).1.runningUnits = r.runningUnits := by
  induction units using List.reverseRecOn generalizing r c with
  | nil => rfl
  | append_singleton units unit ih =>
    simp only [List.foldl_append, List.foldl_cons, List.foldl_nil, updateUnit] at h ⊢
    obtain ⟨h₁, h₂⟩ := updateRunningUnit_unchanged _ _ _ h
    rw [h₂, updateStartingUnit_runningUnits, ih r c h₁]

end tick

/-- The monitor's pass on a `ListUnits` answer. -/
theorem MonitorUnits_ok (r : Runner) (units : List UnitStatus) (h : r.closed = false) :
    MonitorUnits r (.ok units) =
      emitRunStatus (units.foldl updateUnit (r, false)).1 (units.foldl updateUnit (r, false)).2 := by
  simp [MonitorUnits, h]

theorem emitRunStatus_eq {r : Runner} {c : Bool} {r' : Runner} {out : Option (List RunStatus)}
    (h : emitRunStatus r c = some (r', out)) :
    r'.runningUnits = r.runningUnits ∧ r'.startingUnits = r.startingUnits ∧ r'.closed = r.closed ∧
      ((out = none ∧ r'.runningInstances = r.runningInstances ∧ c = false ∧
          r.runningUnits.keys.length = r.runningInstances.length) ∨
        (out = some r'.runningInstances ∧ r.GetRunningInstances = .ok r'.runningInstances)) := by
  unfold emitRunStatus at h
  split at h
  · split at h <;> cases h
    exact ⟨rfl, rfl, rfl, .inr ⟨rfl, ‹_›⟩⟩
  · cases h
    simp_all

theorem MonitorUnits_closed {r : Runner} {units : Except Error (List UnitStatus)}
    {x : Runner × Option (List RunStatus)} (h : MonitorUnits r units = some x) : r.closed = false := by
  cases hc : r.closed
  · rfl
  · simp [MonitorUnits, hc] at h

/-- An array the monitor sends is `GetRunningInstances()` of the runner it leaves. -/
theorem MonitorUnits_emitted {r r' : Runner} {us : List UnitStatus} {out : List RunStatus}
    (h : MonitorUnits r (.ok us) = some (r', some out)) :
    r'.GetRunningInstances = .ok out ∧ r'.runningUnits = (us.foldl updateUnit (r, false)).1.runningUnits := by
  rw [MonitorUnits_ok _ _ (MonitorUnits_closed h)] at h
  obtain ⟨hru, -, -, ⟨hout, -⟩ | ⟨hout, hget⟩⟩ := emitRunStatus_eq h
  · cases hout
  · cases hout
    exact ⟨by rw [GetRunningInstances, runningEntries, hru]; exact hget, hru⟩

@[simp] theorem recordStartingUnit_runningUnits (r : Runner) (u : String) (i : UnitState × Option Int) :
    (recordStartingUnit r u i).runningUnits = r.runningUnits := rfl
@[simp] theorem recordStartingUnit_runningInstances (r : Runner) (u : String) (i : UnitState × Option Int) :
    (recordStartingUnit r u i).runningInstances = r.runningInstances := rfl
@[simp] theorem recordStartingUnit_closed (r : Runner) (u : String) (i : UnitState × Option Int) :
    (recordStartingUnit r u i).closed = r.closed := rfl
theorem recordStartingUnit_lookup (r : Runner) (u : String) (i : UnitState × Option Int) (v : String) :
    (recordStartingUnit r u i).startingUnits.lookup v = if v = u then some ⟨i.1, i.2⟩ else r.startingUnits.lookup v :=
  lookup_insert_eq _ _ _ _

@[simp] theorem eraseRunningUnit_startingUnits (r : Runner) (id : String) :
    (eraseRunningUnit r id).startingUnits = r.startingUnits := rfl
@[simp] theorem eraseRunningUnit_runningInstances (r : Runner) (id : String) :
    (eraseRunningUnit r id).runningInstances = r.runningInstances := rfl
@[simp] theorem eraseRunningUnit_closed (r : Runner) (id : String) : (eraseRunningUnit r id).closed = r.closed := rfl

section finish

variable (r : Runner) (u : String) (d : StartingUnitData)

@[simp] theorem finishStartingUnit_runningInstances :
    (finishStartingUnit r u d).1.runningInstances = r.runningInstances := by
  unfold finishStartingUnit; split <;> rfl
@[simp] theorem finishStartingUnit_closed : (finishStartingUnit r u d).1.closed = r.closed := by
  unfold finishStartingUnit; split <;> rfl
@[simp] theorem finishStartingUnit_startingUnits :
    (finishStartingUnit r u d).1.startingUnits = r.startingUnits.erase u := by
  unfold finishStartingUnit; split <;> rfl

/-- The result of a start is `Active` exactly when the entry it reads is active. -/
theorem finishStartingUnit_state : (finishStartingUnit r u d).2.1 = ToInstanceState d.runState := by
  unfold finishStartingUnit; cases h : d.runState <;> simp [h, ToInstanceState]

theorem finishStartingUnit_running (v : String) : (finishStartingUnit r u d).1.runningUnits.lookup v =
    if v = u ∧ d.runState = .active then some ⟨.active, d.exitCode⟩ else r.runningUnits.lookup v := by
  unfold finishStartingUnit
  split
  · rename_i h; simp [h]
  · rename_i h; push_neg at h; simp [lookup_insert_eq, h]

theorem finishStartingUnit_runningUnits_of_ne (h : d.runState ≠ .active) :
    (finishStartingUnit r u d).1.runningUnits = r.runningUnits := by
  simp [finishStartingUnit, h]

theorem mem_finishStartingUnit_running (v : String) : v ∈ (finishStartingUnit r u d).1.runningUnits ↔
    (v = u ∧ d.runState = .active) ∨ v ∈ r.runningUnits := by
  rw [← AList.lookup_isSome, ← AList.lookup_isSome, finishStartingUnit_running]
  split <;> simp_all

end finish

end Runner
end AosServiceManager
