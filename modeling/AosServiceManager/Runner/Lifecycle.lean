import AosServiceManager.Runner.Reports

/-! The life of one unit in the runner over every interleaving: what `mStartingUnits` and
`mRunningUnits` hold of it, and the state machine of an instance's life, `InstancePhase.Move`,
that every step follows. -/
namespace AosServiceManager
namespace Runner

open System

/-! ### Starting units -/

/-- Two overlapping `StartInstance` calls for `x`: the second begins while the first waits. -/
def overlappingStarts : List Event :=
  [.startInstance "x" .none .none (.ok (.active, some 0)), .record 0,
   .startInstance "x" .none .none (.ok (.active, some 0)), .record 1, .resume 0]

/-- When callers never overlap two `StartInstance` calls for one ID, the promise `Reachable`
carries, `mStartingUnits` holds exactly the units of the calls waiting in
`GetStartingUnitState`: the first locked section adds the entry, the second erases it, and no
failure leaves one behind. The promise is needed: with overlapping starts the first to resume
erases the entry the second waits on. -/
theorem startingUnits_waiting :
    (∀ s : System, Reachable s → ∀ u,
      (u ∈ s.runner.startingUnits ↔ ∃ n t, s.threads n = some t ∧ t.Waiting = true ∧ t.unitName = u)) ∧
    allowedRun System.init overlappingStarts = false ∧
    (System.init.run overlappingStarts).threads 1 = some ⟨"x", .waiting (.active, some 0) 0, false⟩ ∧
    CreateSystemdUnitName "x" ∉ (System.init.run overlappingStarts).runner.startingUnits :=
  ⟨fun _ hs u => ⟨hs.shape.mem_waiting u, fun ⟨n, t, ht, hw, hu⟩ => hu ▸ hs.shape.waiting_mem n t ht hw⟩,
    by decide, by decide, by decide⟩

/-! ### Running units -/

/-- The event is a `StopInstance` of unit `u`. -/
def Event.stops (u : String) : Event → Bool
  | .stopInstance id => CreateSystemdUnitName id == u
  | _ => false

namespace System

variable {s : System}

/-- No step but a `StopInstance` of it takes a unit out of `mRunningUnits`. -/
theorem running_step {u : String} (hu : u ∈ s.runner.runningUnits) {e : Event} (he : e.stops u = false) :
    u ∈ (s.step e).runner.runningUnits := by
  cases e with
  | startInstance id a b c => exact hu
  | record n =>
    rcases step_record (s := s) n with h | ⟨id, i, had, -, h⟩ <;> rw [h] <;> exact hu
  | resume n =>
    rcases step_resume (s := s) n with h | ⟨id, i, k, had, d, -, -, h⟩ <;> rw [h]
    · exact hu
    · exact (mem_finishStartingUnit_running _ _ _ _).mpr (.inr hu)
  | tick units =>
    obtain ⟨-, -, ⟨hr, -, -⟩ | ⟨us, -, -, -, ⟨hr, -, -⟩ | ⟨r, out, hem, hr, -⟩⟩⟩ := step_tick (s := s) units
    · exact hr ▸ hu
    · exact hr ▸ hu
    · rw [hr, (emitRunStatus_eq hem).1, foldl_updateUnit_mem_running]
      exact hu
  | stopInstance id => exact AList.mem_erase.mpr ⟨fun h => by simp [Event.stops, h] at he, hu⟩
  | stop => exact hu

end System

/-- A unit leaves `mRunningUnits` only through `StopInstance`: over any interleaving with no
`StopInstance` of it, a running unit stays, whatever `ListUnits` reports. A crash is no
exception: the tick that lists the unit failed keeps its entry, with the failed state. -/
theorem running_until_stopped {u : String} : ∀ {s : System} (es : List Event), u ∈ s.runner.runningUnits →
    (∀ e ∈ es, e.stops u = false) → u ∈ (s.run es).runner.runningUnits
  | _, [], hu, _ => hu
  | _, e :: es, hu, hes =>
    running_until_stopped es (running_step hu (hes e (List.mem_cons_self _ _))) fun e' he' =>
      hes e' (List.mem_cons_of_mem _ he')

/-- The tick after a start of `x` returned active lists its unit failed with exit code 137. -/
theorem running_until_stopped_crashed :
    CreateSystemdUnitName "x" ∈ startedRun.runner.runningUnits ∧
    (∀ e ∈ [Event.tick (.ok [⟨CreateSystemdUnitName "x", .failed, some 137⟩])],
      e.stops (CreateSystemdUnitName "x") = false) ∧
    CreateSystemdUnitName "x" ∈
      (startedRun.run [.tick (.ok [⟨CreateSystemdUnitName "x", .failed, some 137⟩])]).runner.runningUnits :=
  have hu : CreateSystemdUnitName "x" ∈ startedRun.runner.runningUnits := by decide
  have hes : ∀ e ∈ [Event.tick (.ok [⟨CreateSystemdUnitName "x", .failed, some 137⟩])],
      e.stops (CreateSystemdUnitName "x") = false := by decide
  ⟨hu, hes, running_until_stopped _ hu hes⟩

/-! ### A stopped instance stays stopped -/

/-- The event begins a `StartInstance` of unit `u`. -/
def Event.starts (u : String) : Event → Bool
  | .startInstance id _ _ _ => CreateSystemdUnitName id == u
  | _ => false

namespace System

variable {s : System}

/-- No `StartInstance` of unit `u` is in flight: the callers' promise of `Event.allowed` for a
new start of `u`. -/
def NoStartInFlight (s : System) (u : String) : Bool :=
  (List.range s.nextThread).all fun n =>
    match s.threads n with
    | some t => !t.InFlight || t.unitName != u
    | none => true

theorem NoStartInFlight_spec (hsh : Shape s) {u : String} (h : s.NoStartInFlight u = true) {n : Nat} {t : Starter}
    (ht : s.threads n = some t) (hf : t.InFlight = true) : t.unitName ≠ u := by
  have := List.all_eq_true.mp h n (List.mem_range.mpr (hsh.lt_nextThread ht))
  simpa [ht, hf] using this

/-- Unit `u` is not running and no start of it is in flight. -/
def Stopped (s : System) (u : String) : Prop :=
  u ∉ s.runner.runningUnits ∧ ∀ n t, s.threads n = some t → t.InFlight = true → t.unitName ≠ u

theorem stopped_step {u : String} (h : s.Stopped u) {e : Event} (he : e.starts u = false) : (s.step e).Stopped u := by
  obtain ⟨hu, hf⟩ := h
  cases e with
  | startInstance id a b c =>
    rw [step_startInstance]
    refine ⟨hu, fun n t ht hft => ?_⟩
    rcases update_eq_some.mp ht with ⟨-, rfl⟩ | ⟨-, ht⟩
    · simpa [Event.starts, Starter.unitName] using he
    · exact hf n t ht hft
  | record m =>
    rcases step_record (s := s) m with he' | ⟨id, i, had, hm, he'⟩ <;> rw [he']
    · exact ⟨hu, hf⟩
    refine ⟨hu, fun n t ht hft => ?_⟩
    rcases update_eq_some.mp ht with ⟨-, rfl⟩ | ⟨-, ht⟩
    · exact hf m ⟨id, .observed i, had⟩ hm rfl
    · exact hf n t ht hft
  | resume m =>
    rcases step_resume (s := s) m with he' | ⟨id, i, k, had, d, hm, -, he'⟩ <;> rw [he']
    · exact ⟨hu, hf⟩
    refine ⟨fun hm' => ?_, fun n t ht hft => ?_⟩
    · rcases (mem_finishStartingUnit_running _ _ _ _).mp hm' with ⟨hv, -⟩ | hm'
      · exact hf m _ hm rfl hv.symm
      · exact hu hm'
    · rcases update_eq_some.mp ht with ⟨-, rfl⟩ | ⟨-, ht⟩
      · cases hft
      · exact hf n t ht hft
  | tick units =>
    obtain ⟨hth, -, ⟨hr, -, -⟩ | ⟨us, -, -, -, ⟨hr, -, -⟩ | ⟨r, out, hem, hr, -⟩⟩⟩ := step_tick (s := s) units
    · exact ⟨hr ▸ hu, hth ▸ hf⟩
    · exact ⟨hr ▸ hu, hth ▸ hf⟩
    · refine ⟨fun hm => hu ?_, hth ▸ hf⟩
      rw [hr, (emitRunStatus_eq hem).1, foldl_updateUnit_mem_running] at hm
      exact hm
  | stopInstance id => exact ⟨fun hm => hu (AList.mem_erase.mp hm).2, hf⟩
  | stop => exact ⟨hu, hf⟩

theorem stopped_run {u : String} {es : List Event} : ∀ {s : System}, s.Stopped u →
    (∀ e ∈ es, e.starts u = false) → (s.run es).Stopped u := by
  induction es with
  | nil => exact fun h _ => h
  | cons e es ih =>
    exact fun h hes => ih (stopped_step h (hes e (List.mem_cons_self _ _))) fun e' he' =>
      hes e' (List.mem_cons_of_mem _ he')

end System

/-- `StopInstance` is final: once `StopInstance(id)` has run while no `StartInstance` of its
unit was in flight, the unit is not in `mRunningUnits` after any interleaving of later steps
that begins no new start of it, whatever `ListUnits` lists. Without the precondition it
fails: a start waiting on the unit when the stop runs puts it back when it resumes. -/
theorem stopInstance_final :
    (∀ s : System, Reachable s → ∀ id, s.NoStartInFlight (CreateSystemdUnitName id) = true →
      ∀ es : List Event, (∀ e ∈ es, e.starts (CreateSystemdUnitName id) = false) →
        CreateSystemdUnitName id ∉ ((s.step (.stopInstance id)).run es).runner.runningUnits) ∧
    ∃ (s : System) (es : List Event), Reachable s ∧ s.NoStartInFlight (CreateSystemdUnitName "x") = false ∧
      (∀ e ∈ es, e.starts (CreateSystemdUnitName "x") = false) ∧
      CreateSystemdUnitName "x" ∈ ((s.step (.stopInstance "x")).run es).runner.runningUnits := by
  refine ⟨fun s hs id hno es hes => (stopped_run (s := s.step (.stopInstance id))
    ⟨fun hm => (AList.mem_erase.mp hm).1 rfl, fun n t ht hf => NoStartInFlight_spec hs.shape hno ht hf⟩ hes).1,
    System.init.run [.startInstance "x" .none .none (.ok (.active, some 0)), .record 0], [.resume 0], ?_⟩
  exact ⟨Reachable.init.run (by decide), by decide, by decide, by decide⟩


/-! ### The instance state machine -/

/-- Where an instance stands for the runner: absent, starting while a `StartInstance` of it
is in flight, or running while `mRunningUnits` holds it. A start of a running instance, a
restart, keeps its running entry while it is in flight. -/
inductive InstancePhase
  | absent
  | starting (running : Bool)
  | running
  deriving DecidableEq, Repr

/-- The moves of unit `u`'s life, each with the event that makes it; `unitOf n` is the unit
of thread `n`'s start, so only the end of a start of `u` moves `u`. A start that fails before
its wait moves nothing; a restart that fails returns to running. -/
inductive InstancePhase.Move (u : String) (unitOf : Nat → Option String) :
    Event → InstancePhase → InstancePhase → Prop
  | start {id a b c} : CreateSystemdUnitName id = u →
      InstancePhase.Move u unitOf (.startInstance id a b c) .absent (.starting false)
  | restart {id a b c} : CreateSystemdUnitName id = u →
      InstancePhase.Move u unitOf (.startInstance id a b c) .running (.starting true)
  | finish {n running} : unitOf n = some u → InstancePhase.Move u unitOf (.resume n) (.starting running) .running
  | fail {n} : unitOf n = some u → InstancePhase.Move u unitOf (.resume n) (.starting false) .absent
  | stop {id} : CreateSystemdUnitName id = u → InstancePhase.Move u unitOf (.stopInstance id) .running .absent
  | stopStarting {id} : CreateSystemdUnitName id = u →
      InstancePhase.Move u unitOf (.stopInstance id) (.starting true) (.starting false)

namespace System

variable {s : System}

/-- The unit of thread `n`'s start. -/
def threadUnit (s : System) (n : Nat) : Option String := (s.threads n).map Starter.unitName

/-- The phase of unit `u` in the system. -/
def phaseOf (s : System) (u : String) : InstancePhase :=
  if s.NoStartInFlight u then (if u ∈ s.runner.runningUnits then .running else .absent)
  else .starting (decide (u ∈ s.runner.runningUnits))

example : startedRun.phaseOf (CreateSystemdUnitName "x") = .running := by decide

/-- A start of unit `u` is in flight. -/
def StartInFlight (s : System) (u : String) : Prop :=
  ∃ n t, s.threads n = some t ∧ t.InFlight = true ∧ t.unitName = u

theorem NoStartInFlight_iff (hsh : Shape s) {u : String} : s.NoStartInFlight u = true ↔ ¬s.StartInFlight u := by
  refine ⟨fun h ⟨n, t, ht, hf, hu⟩ => NoStartInFlight_spec hsh h ht hf hu, fun h => List.all_eq_true.mpr fun n _ => ?_⟩
  rcases ht : s.threads n with _ | t
  · rfl
  · cases hf : t.InFlight
    · simp [hf]
    · simpa [hf] using fun hu => h ⟨n, t, ht, hf, hu⟩

/-- The phase depends only on whether a start is in flight and on `mRunningUnits`. -/
theorem phaseOf_congr {s' : System} (hsh : Shape s) (hsh' : Shape s') {u : String}
    (hf : s'.StartInFlight u ↔ s.StartInFlight u) (hm : u ∈ s'.runner.runningUnits ↔ u ∈ s.runner.runningUnits) :
    s'.phaseOf u = s.phaseOf u := by
  have hn : s'.NoStartInFlight u = s.NoStartInFlight u :=
    Bool.eq_iff_iff.mpr (by rw [NoStartInFlight_iff hsh, NoStartInFlight_iff hsh', hf])
  simp only [phaseOf, hn, hm]

theorem phaseOf_of_inFlight (hsh : Shape s) {u : String} (h : s.StartInFlight u) :
    s.phaseOf u = .starting (decide (u ∈ s.runner.runningUnits)) := by
  have hn : s.NoStartInFlight u = false := Bool.eq_false_iff.mpr fun h' => (NoStartInFlight_iff hsh).mp h' h
  simp only [phaseOf, hn, Bool.false_eq_true, ↓reduceIte]

theorem phaseOf_of_not_inFlight (hsh : Shape s) {u : String} (h : ¬s.StartInFlight u) :
    s.phaseOf u = if u ∈ s.runner.runningUnits then .running else .absent := by
  simp only [phaseOf, (NoStartInFlight_iff hsh).mpr h, ↓reduceIte]

/-- A start puts a thread at `nextThread`, which was free. -/
theorem startInFlight_startInstance (hsh : Shape s) {id : String} {a b : Error}
    {c : Except Error (UnitState × Option Int)} {u : String} :
    (s.step (.startInstance id a b c)).StartInFlight u ↔ s.StartInFlight u ∨
      CreateSystemdUnitName id = u ∧ (Starter.mk id (startPhase id a b c)
        (s.runner.runningUnits.lookup (CreateSystemdUnitName id)).isSome).InFlight = true := by
  simp only [StartInFlight, step_startInstance, update_eq_some]
  constructor
  · rintro ⟨n, t, ⟨-, rfl⟩ | ⟨-, ht⟩, hf, hu⟩
    · exact .inr ⟨hu, hf⟩
    · exact .inl ⟨n, t, ht, hf, hu⟩
  · rintro (⟨n, t, ht, hf, hu⟩ | ⟨hu, hf⟩)
    · exact ⟨n, t, .inr ⟨(hsh.lt_nextThread ht).ne, ht⟩, hf, hu⟩
    · exact ⟨_, _, .inl ⟨rfl, rfl⟩, hf, hu⟩

/-- The first locked section keeps every start in flight. -/
theorem startInFlight_record (n : Nat) {u : String} : (s.step (.record n)).StartInFlight u ↔ s.StartInFlight u := by
  rcases step_record (s := s) n with he | ⟨id, i, had, hn, he⟩ <;> rw [he]
  simp only [StartInFlight, update_eq_some]
  constructor
  · rintro ⟨m, t, ⟨rfl, rfl⟩ | ⟨-, ht⟩, hf, hu⟩
    · exact ⟨m, _, hn, rfl, hu⟩
    · exact ⟨m, t, ht, hf, hu⟩
  · rintro ⟨m, t, ht, hf, hu⟩
    by_cases hm : m = n
    · subst hm
      obtain rfl := Option.some.inj (hn.symm.trans ht)
      exact ⟨m, _, .inl ⟨rfl, rfl⟩, rfl, hu⟩
    · exact ⟨m, t, .inr ⟨hm, ht⟩, hf, hu⟩

/-- The second locked section ends its own start, the only one in flight for its unit. -/
theorem startInFlight_resume (hsh : Shape s) {n : Nat} {id : String} {i : UnitState × Option Int} {k : Nat}
    {had : Bool} (hn : s.threads n = some ⟨id, .waiting i k, had⟩) {s' : System} {t' : Starter}
    (hth : s'.threads = Function.update s.threads n (some t')) (ht' : t'.InFlight = false) {u : String} :
    s'.StartInFlight u ↔ s.StartInFlight u ∧ CreateSystemdUnitName id ≠ u := by
  simp only [StartInFlight, hth, update_eq_some]
  constructor
  · rintro ⟨m, t, ⟨-, rfl⟩ | ⟨hm, ht⟩, hf, hu⟩
    · rw [ht'] at hf; cases hf
    · exact ⟨⟨m, t, ht, hf, hu⟩, fun hid => hm (hsh.unique m n t _ ht hn hf rfl (hu.trans hid.symm))⟩
  · rintro ⟨⟨m, t, ht, hf, hu⟩, hid⟩
    have hm : m ≠ n := by
      rintro rfl
      rw [hn] at ht
      cases ht
      exact hid hu
    exact ⟨m, t, .inr ⟨hm, ht⟩, hf, hu⟩

theorem startInFlight_congr {s' : System} (hth : s'.threads = s.threads) {u : String} :
    s'.StartInFlight u ↔ s.StartInFlight u := by
  simp only [StartInFlight, hth]

end System

open InstancePhase in
/-- The runner refines the per-instance state machine: in every reachable system, each
allowed step leaves the phase of every unit as it was or makes one `InstancePhase.Move` of
it, the move its event labels. In particular a unit never becomes running but at the end of
its own start, and no tick moves it, whatever `ListUnits` reports. -/
theorem phaseOf_step {s : System} (hs : Reachable s) {e : Event} (he : e.allowed s = true) (u : String) :
    (s.step e).phaseOf u = s.phaseOf u ∨ Move u s.threadUnit e (s.phaseOf u) ((s.step e).phaseOf u) := by
  have hsh := hs.shape
  have hsh' := (Reachable.step hs he).shape
  cases e with
  | startInstance id a b c =>
    by_cases hmove : CreateSystemdUnitName id = u ∧ (Starter.mk id (startPhase id a b c)
        (s.runner.runningUnits.lookup (CreateSystemdUnitName id)).isSome).InFlight = true
    · have hno : ¬s.StartInFlight u := fun ⟨n, t, ht, hf, hu⟩ =>
        allowed_startInstance he (hsh.lt_nextThread ht) ht hf (hu.trans hmove.1.symm)
      have hm' : u ∈ (s.step (.startInstance id a b c)).runner.runningUnits ↔ u ∈ s.runner.runningUnits := Iff.rfl
      rw [phaseOf_of_not_inFlight hsh hno,
        phaseOf_of_inFlight hsh' ((startInFlight_startInstance hsh).mpr (.inr hmove))]
      by_cases hm : u ∈ s.runner.runningUnits
      · simpa only [hm', hm, ↓reduceIte, decide_True] using .inr (.restart hmove.1)
      · simpa only [hm', hm, ↓reduceIte, decide_False] using .inr (.start hmove.1)
    · exact .inl (phaseOf_congr hsh hsh' ((startInFlight_startInstance hsh).trans (or_iff_left hmove)) Iff.rfl)
  | record n =>
    refine .inl (phaseOf_congr hsh hsh' (startInFlight_record n) ?_)
    rcases step_record (s := s) n with h | ⟨_, _, _, -, h⟩ <;> rw [h]
    exact Iff.rfl
  | resume n =>
    rcases step_resume (s := s) n with h | ⟨id, i, k, had, d, hn, -, h⟩
    · exact .inl (by rw [h])
    have hf : (s.step (.resume n)).StartInFlight u ↔ _ := startInFlight_resume hsh hn (by rw [h]) (by rfl)
    have hu : s.threadUnit n = some (CreateSystemdUnitName id) := by simp [threadUnit, hn, Starter.unitName]
    have hm : u ∈ (s.step (.resume n)).runner.runningUnits ↔
        u = CreateSystemdUnitName id ∧ d.runState = .active ∨ u ∈ s.runner.runningUnits := by
      rw [h]
      exact mem_finishStartingUnit_running _ _ _ _
    by_cases hid : CreateSystemdUnitName id = u
    · subst hid
      rw [phaseOf_of_inFlight hsh (u := CreateSystemdUnitName id) ⟨n, _, hn, rfl, rfl⟩,
        phaseOf_of_not_inFlight hsh' fun h' => (hf.mp h').2 rfl]
      by_cases hm' : CreateSystemdUnitName id ∈ (s.step (.resume n)).runner.runningUnits
      · simpa only [hm', ↓reduceIte] using .inr (.finish hu)
      · have hm₀ : CreateSystemdUnitName id ∉ s.runner.runningUnits := fun h₀ => hm' (hm.mpr (.inr h₀))
        simpa only [hm', hm₀, ↓reduceIte, decide_False] using .inr (.fail hu)
    · exact .inl (phaseOf_congr hsh hsh' (hf.trans (and_iff_left hid))
        (hm.trans (or_iff_right fun h' => hid h'.1.symm)))
  | tick units =>
    obtain ⟨hth, -, hr⟩ := step_tick (s := s) units
    refine .inl (phaseOf_congr hsh hsh' (startInFlight_congr hth) ?_)
    obtain ⟨hr, -, -⟩ | ⟨us, -, -, -, ⟨hr, -, -⟩ | ⟨r, out, hem, hr, -⟩⟩ := hr
    · rw [hr]
    · rw [hr]
    · rw [hr, (emitRunStatus_eq hem).1, foldl_updateUnit_mem_running]
  | stopInstance id =>
    have hf : (s.step (.stopInstance id)).StartInFlight u ↔ s.StartInFlight u := Iff.rfl
    by_cases hid : CreateSystemdUnitName id = u
    · subst hid
      have hm' : CreateSystemdUnitName id ∉ (s.step (.stopInstance id)).runner.runningUnits :=
        fun hm => (AList.mem_erase.mp hm).1 rfl
      by_cases hin : s.StartInFlight (CreateSystemdUnitName id)
      · rw [phaseOf_of_inFlight hsh hin, phaseOf_of_inFlight hsh' (hf.mpr hin)]
        by_cases hm : CreateSystemdUnitName id ∈ s.runner.runningUnits
        · simpa only [hm, hm', decide_True, decide_False] using .inr (.stopStarting rfl)
        · simp only [hm, hm', decide_False, true_or]
      · rw [phaseOf_of_not_inFlight hsh hin, phaseOf_of_not_inFlight hsh' fun h' => hin (hf.mp h')]
        by_cases hm : CreateSystemdUnitName id ∈ s.runner.runningUnits
        · simpa only [hm, hm', ↓reduceIte] using .inr (.stop rfl)
        · simp only [hm, hm', ↓reduceIte, true_or]
    · exact .inl (phaseOf_congr hsh hsh' hf (AList.mem_erase.trans (and_iff_right (Ne.symm hid))))
  | stop => exact .inl rfl

theorem phaseOf_step_start :
    Reachable System.init ∧ (Event.startInstance "x" .none .none (.ok (.active, some 0))).allowed System.init = true ∧
    ((System.init.step (.startInstance "x" .none .none (.ok (.active, some 0)))).phaseOf (CreateSystemdUnitName "x") =
        System.init.phaseOf (CreateSystemdUnitName "x") ∨
      InstancePhase.Move (CreateSystemdUnitName "x") System.init.threadUnit
        (.startInstance "x" .none .none (.ok (.active, some 0))) (System.init.phaseOf (CreateSystemdUnitName "x"))
        ((System.init.step (.startInstance "x" .none .none (.ok (.active, some 0)))).phaseOf
          (CreateSystemdUnitName "x"))) :=
  have he : (Event.startInstance "x" .none .none (.ok (.active, some 0))).allowed System.init = true := by decide
  ⟨.init, he, phaseOf_step .init he _⟩

end Runner
end AosServiceManager
