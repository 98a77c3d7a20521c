import AosServiceManager.Runner.System

/-! Invariants of every reachable runner system. `Shape` is the bookkeeping of the unit
maps and threads; `Tracked` and `Fresh` say which unit status each starting and running entry
holds. Each step is described once by an inversion lemma, and each invariant is proved per
event from it. -/
namespace AosServiceManager
namespace Runner
namespace System

variable {s : System}

/-! ### What one step does -/

theorem step_startInstance (id : String) (a b : Error) (c : Except Error (UnitState × Option Int)) :
    s.step (.startInstance id a b c) = { s with
      threads := Function.update s.threads s.nextThread
        (some ⟨id, startPhase id a b c, (s.runner.runningUnits.lookup (CreateSystemdUnitName id)).isSome⟩)
      nextThread := s.nextThread + 1 } := rfl

theorem step_record (n : Nat) : s.step (.record n) = s ∨ ∃ id i had, s.threads n = some ⟨id, .observed i, had⟩ ∧
    s.step (.record n) = { s with
      runner := recordStartingUnit s.runner (CreateSystemdUnitName id) i
      threads := Function.update s.threads n (some ⟨id, .waiting i s.seen.length, had⟩) } := by
  rcases h : s.threads n with _ | ⟨id, i | _ | _, had⟩
  all_goals simp only [step, apply, received, h, List.nil_append, true_or]
  exact .inr ⟨id, i, had, rfl, rfl⟩

theorem step_resume (n : Nat) : s.step (.resume n) = s ∨ ∃ id i k had d, s.threads n = some ⟨id, .waiting i k, had⟩ ∧
    s.runner.startingUnits.lookup (CreateSystemdUnitName id) = some d ∧
    s.step (.resume n) = { s with
      runner := (finishStartingUnit s.runner (CreateSystemdUnitName id) d).1
      threads := Function.update s.threads n (some ⟨id, .returned ⟨id, (finishStartingUnit s.runner
        (CreateSystemdUnitName id) d).2.1, (finishStartingUnit s.runner (CreateSystemdUnitName id) d).2.2⟩, had⟩)
      origin := if d.runState = .active then Function.update s.origin (CreateSystemdUnitName id) (some (k, i))
        else s.origin } := by
  rcases h : s.threads n with _ | ⟨id, _ | _ | _, had⟩
  all_goals simp only [step, apply, received, h, List.nil_append, true_or]
  rcases hd : s.runner.startingUnits.lookup (CreateSystemdUnitName id) with _ | d
  · exact .inl rfl
  · exact .inr ⟨id, _, _, had, d, rfl, hd, rfl⟩

/-- A tick receives nothing (the monitor is gone, closed, or `ListUnits` failed), or receives
a `ListUnits` answer and applies `MonitorUnits` to it. -/
theorem step_tick (units : Except Error (List UnitStatus)) :
    (s.step (.tick units)).threads = s.threads ∧ (s.step (.tick units)).nextThread = s.nextThread ∧
    ((s.step (.tick units)).runner = s.runner ∧ (s.step (.tick units)).delivered = s.delivered ∧
      (s.step (.tick units)).seen = s.seen ∨
     ∃ us, units = .ok us ∧ s.runner.closed = false ∧ (s.step (.tick units)).seen = us.reverse ++ s.seen ∧
      ((s.step (.tick units)).runner = s.runner ∧ (s.step (.tick units)).delivered = s.delivered ∧
          emitRunStatus (us.foldl updateUnit (s.runner, false)).1 (us.foldl updateUnit (s.runner, false)).2 = none ∨
        ∃ r out, emitRunStatus (us.foldl updateUnit (s.runner, false)).1 (us.foldl updateUnit (s.runner, false)).2 =
          some (r, out) ∧ (s.step (.tick units)).runner = r ∧ (s.step (.tick units)).delivered = out.getD s.delivered)) := by
  simp only [step, apply, received]
  by_cases hm : s.monitoring = true
  · rcases units with _ | us
    · simp only [hm, ↓reduceIte, MonitorUnits, ite_self, List.nil_append, and_self, reduceCtorEq, true_and,
        false_and, exists_const, or_false]
    · by_cases hc : s.runner.closed = true
      · simp only [hm, ↓reduceIte, MonitorUnits, hc, Bool.not_true, Bool.and_false, Bool.false_eq_true,
          List.nil_append, and_self, Except.ok.injEq, Bool.true_eq_false, true_and, false_and, and_false,
          exists_const, or_false]
      · have hc' : s.runner.closed = false := by simpa only [Bool.not_eq_true] using hc
        rcases he : emitRunStatus (us.foldl updateUnit (s.runner, false)).1 (us.foldl updateUnit (s.runner, false)).2
          with _ | ⟨r, out⟩
        · simp only [hm, ↓reduceIte, MonitorUnits, hc', Bool.false_eq_true, he, Bool.not_false, Bool.and_self,
            true_and, Except.ok.injEq, exists_eq_left', and_self, true_or, or_true]
        · have hmu : s.runner.MonitorUnits (.ok us) = some (r, out) := by
            simp only [MonitorUnits, hc', Bool.false_eq_true, ↓reduceIte, he]
          simp only [hm, if_true, hmu]
          exact ⟨trivial, trivial, .inr ⟨us, rfl, hc', by simp only [hm, hc', Bool.not_false, Bool.and_self, ↓reduceIte],
            .inr ⟨r, out, he, rfl, rfl⟩⟩⟩
  · simp only [hm, Bool.false_eq_true, ↓reduceIte, Bool.false_and]
    rcases units with _ | us <;> simp only [List.nil_append, and_self, true_or]

/-- A tick of the running monitor whose `ListUnits` answer `MonitorUnits` takes in. -/
theorem step_tick_ok {us : List UnitStatus} {r : Runner} {out : Option (List RunStatus)} (hm : s.monitoring = true)
    (h : MonitorUnits s.runner (.ok us) = some (r, out)) :
    s.runner.closed = false ∧
      s.step (.tick (.ok us)) = { s with runner := r, delivered := out.getD s.delivered, seen := us.reverse ++ s.seen } := by
  have hc := MonitorUnits_closed h
  exact ⟨hc, by simp [step, apply, received, hm, hc, h]⟩

theorem step_stopInstance (id : String) :
    s.step (.stopInstance id) = { s with runner := eraseRunningUnit s.runner id } := rfl

theorem step_stop : s.step .stop = { s with runner := { s.runner with closed := true } } := rfl

theorem update_eq_some {f : Nat → Option Starter} {n m : Nat} {x t : Starter} :
    Function.update f n (some x) m = some t ↔ m = n ∧ x = t ∨ m ≠ n ∧ f m = some t := by
  by_cases h : m = n <;> simp [Function.update_apply, h]

theorem startPhase_ne_waiting (id : String) (a b : Error) (c : Except Error (UnitState × Option Int))
    (i : UnitState × Option Int) (k : Nat) : startPhase id a b c ≠ .waiting i k := by
  unfold startPhase; split
  · simp
  · split
    · simp
    · split <;> simp

theorem startPhase_not_waiting (id : String) (a b : Error) (c : Except Error (UnitState × Option Int))
    (had : Bool) : (Starter.mk id (startPhase id a b c) had).Waiting = false := by
  unfold startPhase; split
  · rfl
  · split
    · rfl
    · split <;> rfl

theorem allowed_startInstance {id : String} {a b : Error} {c : Except Error (UnitState × Option Int)}
    (h : (Event.startInstance id a b c).allowed s = true) {n : Nat} {t : Starter} (hn : n < s.nextThread)
    (ht : s.threads n = some t) (hf : t.InFlight = true) : t.unitName ≠ CreateSystemdUnitName id := by
  have := List.all_eq_true.mp h n (List.mem_range.mpr hn)
  simpa [ht, hf] using this

/-! ### Threads and unit maps -/

/-- The bookkeeping of threads and unit maps that every reachable system keeps. -/
structure Shape (s : System) : Prop where
  fresh : ∀ n, s.nextThread ≤ n → s.threads n = none
  unique : ∀ m n t t', s.threads m = some t → s.threads n = some t' → t.InFlight = true →
    t'.InFlight = true → t.unitName = t'.unitName → m = n
  waiting_mem : ∀ n t, s.threads n = some t → t.Waiting = true → t.unitName ∈ s.runner.startingUnits
  mem_waiting : ∀ u ∈ s.runner.startingUnits, ∃ n t, s.threads n = some t ∧ t.Waiting = true ∧ t.unitName = u
  had_running : ∀ n t, s.threads n = some t → t.InFlight = true → t.unitName ∈ s.runner.runningUnits →
    t.hadRunningUnit = true
  running_named : ∀ u ∈ s.runner.runningUnits, ∃ id, u = CreateSystemdUnitName id
  delivered_eq : s.delivered = s.runner.runningInstances

theorem Shape.lt_nextThread (h : Shape s) {n : Nat} {t : Starter} (ht : s.threads n = some t) : n < s.nextThread :=
  Nat.lt_of_not_le fun hle => by simp [h.fresh n hle] at ht

/-- Rewriting the slot of an existing thread keeps the slots from `nextThread` on empty. -/
theorem Shape.fresh_update (h : Shape s) {n : Nat} {t : Starter} (hn : s.threads n = some t) (x : Option Starter) :
    ∀ m, s.nextThread ≤ m → Function.update s.threads n x m = none := fun m hm => by
  rw [Function.update_noteq (by have := h.lt_nextThread hn; omega)]
  exact h.fresh m hm

theorem shape_init : Shape init where
  fresh _ _ := rfl
  unique _ _ _ _ h := by simp [init] at h
  waiting_mem _ _ h := by simp [init] at h
  mem_waiting _ h := by simp [init] at h
  had_running _ _ h := by simp [init] at h
  running_named _ h := by simp [init] at h
  delivered_eq := rfl

theorem shape_startInstance (h : Shape s) {id : String} {a b : Error} {c : Except Error (UnitState × Option Int)}
    (ha : (Event.startInstance id a b c).allowed s = true) : Shape (s.step (.startInstance id a b c)) := by
  rw [step_startInstance]
  have old : ∀ {m t}, s.threads m = some t → m ≠ s.nextThread := fun ht => (h.lt_nextThread ht).ne
  constructor
  · intro n hn
    simp only at hn
    simp only [Function.update_apply, if_neg (show n ≠ s.nextThread by omega)]
    exact h.fresh n (by omega)
  · intro m n t t' hm hn hf hf' hu
    simp only [Function.update_apply] at hm hn
    split at hm <;> split at hn
    · omega
    · cases hm; exact absurd hu.symm (allowed_startInstance ha (h.lt_nextThread hn) hn hf')
    · cases hn; exact absurd hu (allowed_startInstance ha (h.lt_nextThread hm) hm hf)
    · exact h.unique m n t t' hm hn hf hf' hu
  · intro n t ht hw
    simp only [Function.update_apply] at ht
    split at ht
    · cases ht; exact absurd hw (by rw [startPhase_not_waiting]; decide)
    · exact h.waiting_mem n t ht hw
  · intro u hu
    obtain ⟨n, t, ht, hw, hn⟩ := h.mem_waiting u hu
    exact ⟨n, t, (Function.update_noteq (old ht) _ _).trans ht, hw, hn⟩
  · intro n t ht hf hr
    simp only [Function.update_apply] at ht
    split at ht
    · cases ht; exact AList.lookup_isSome.mpr hr
    · exact h.had_running n t ht hf hr
  · exact h.running_named
  · exact h.delivered_eq

theorem shape_record (h : Shape s) {n : Nat} {id : String} {i : UnitState × Option Int} {k : Nat} {had : Bool}
    (hn : s.threads n = some ⟨id, .observed i, had⟩) :
    Shape { s with runner := recordStartingUnit s.runner (CreateSystemdUnitName id) i
                   threads := Function.update s.threads n (some ⟨id, .waiting i k, had⟩) } := by
  constructor
  · exact h.fresh_update hn _
  · intro m₁ m₂ t₁ t₂ h₁ h₂ hf₁ hf₂ hu
    simp only [update_eq_some] at h₁ h₂
    rcases h₁ with ⟨rfl, rfl⟩ | ⟨hm₁, h₁⟩ <;> rcases h₂ with ⟨rfl, rfl⟩ | ⟨hm₂, h₂⟩
    · rfl
    · exact absurd (h.unique _ _ _ _ hn h₂ rfl hf₂ hu).symm hm₂
    · exact absurd (h.unique _ _ _ _ h₁ hn hf₁ rfl hu) hm₁
    · exact h.unique _ _ _ _ h₁ h₂ hf₁ hf₂ hu
  · intro m t ht hw
    simp only [update_eq_some] at ht
    rcases ht with ⟨rfl, rfl⟩ | ⟨-, ht⟩
    · exact (AList.mem_insert _).mpr (.inl rfl)
    · exact (AList.mem_insert _).mpr (.inr (h.waiting_mem m t ht hw))
  · intro v hv
    simp only [recordStartingUnit, AList.mem_insert] at hv
    rcases hv with rfl | hv
    · exact ⟨n, ⟨id, .waiting i k, had⟩, by simp, rfl, rfl⟩
    · obtain ⟨m, t, ht, hw, hu⟩ := h.mem_waiting v hv
      have hm : m ≠ n := by rintro rfl; cases hn.symm.trans ht; cases hw
      exact ⟨m, t, (Function.update_noteq hm _ _).trans ht, hw, hu⟩
  · intro m t ht hf hr
    simp only [update_eq_some] at ht
    rcases ht with ⟨rfl, rfl⟩ | ⟨-, ht⟩
    · exact h.had_running _ ⟨id, .observed i, had⟩ hn rfl hr
    · exact h.had_running m t ht hf hr
  · exact h.running_named
  · exact h.delivered_eq

theorem shape_resume (h : Shape s) {n : Nat} {id : String} {i : UnitState × Option Int} {k : Nat} {had : Bool}
    {d : StartingUnitData} (hn : s.threads n = some ⟨id, .waiting i k, had⟩)
    (o : String → Option (Nat × (UnitState × Option Int))) :
    Shape { s with runner := (finishStartingUnit s.runner (CreateSystemdUnitName id) d).1
                   threads := Function.update s.threads n (some ⟨id, .returned ⟨id,
                     (finishStartingUnit s.runner (CreateSystemdUnitName id) d).2.1,
                     (finishStartingUnit s.runner (CreateSystemdUnitName id) d).2.2⟩, had⟩)
                   origin := o } := by
  have other : ∀ {m t}, s.threads m = some t → t.InFlight = true → m ≠ n → t.unitName ≠ CreateSystemdUnitName id :=
    fun ht hf hm hu => hm (h.unique _ _ _ _ ht hn hf rfl hu)
  constructor
  · exact h.fresh_update hn _
  · intro m₁ m₂ t₁ t₂ h₁ h₂ hf₁ hf₂ hu
    simp only [update_eq_some] at h₁ h₂
    rcases h₁ with ⟨rfl, rfl⟩ | ⟨-, h₁⟩
    · cases hf₁
    rcases h₂ with ⟨rfl, rfl⟩ | ⟨-, h₂⟩
    · cases hf₂
    exact h.unique _ _ _ _ h₁ h₂ hf₁ hf₂ hu
  · intro m t ht hw
    simp only [update_eq_some] at ht
    rcases ht with ⟨rfl, rfl⟩ | ⟨hm, ht⟩
    · cases hw
    · simp only [finishStartingUnit_startingUnits, AList.mem_erase]
      exact ⟨other ht (Starter.inFlight_of_waiting hw) hm, h.waiting_mem m t ht hw⟩
  · intro v hv
    simp only [finishStartingUnit_startingUnits, AList.mem_erase] at hv
    obtain ⟨m, t, ht, hw, rfl⟩ := h.mem_waiting v hv.2
    have hm : m ≠ n := by rintro rfl; cases hn.symm.trans ht; exact hv.1 rfl
    exact ⟨m, t, (Function.update_noteq hm _ _).trans ht, hw, rfl⟩
  · intro m t ht hf hr
    simp only [update_eq_some] at ht
    rcases ht with ⟨rfl, rfl⟩ | ⟨hm, ht⟩
    · cases hf
    · rw [mem_finishStartingUnit_running] at hr
      rcases hr with ⟨hu, -⟩ | hr
      · exact absurd hu (other ht hf hm)
      · exact h.had_running m t ht hf hr
  · intro v hv
    rw [mem_finishStartingUnit_running] at hv
    rcases hv with ⟨rfl, -⟩ | hv
    · exact ⟨id, rfl⟩
    · exact h.running_named v hv
  · simpa using h.delivered_eq

/-- `Shape` depends on the unit maps only through their keys. -/
theorem Shape.congr (h : Shape s) {s' : System} (hth : s'.threads = s.threads) (hnx : s'.nextThread = s.nextThread)
    (hst : ∀ u, u ∈ s'.runner.startingUnits ↔ u ∈ s.runner.startingUnits)
    (hru : ∀ u, u ∈ s'.runner.runningUnits ↔ u ∈ s.runner.runningUnits)
    (hd : s'.delivered = s'.runner.runningInstances) : Shape s' where
  fresh := hth ▸ hnx ▸ h.fresh
  unique := hth ▸ h.unique
  waiting_mem n t ht hw := (hst _).mpr (h.waiting_mem n t (hth ▸ ht) hw)
  mem_waiting u hu := hth ▸ h.mem_waiting u ((hst u).mp hu)
  had_running n t ht hf hr := h.had_running n t (hth ▸ ht) hf ((hru _).mp hr)
  running_named u hu := h.running_named u ((hru u).mp hu)
  delivered_eq := hd

theorem shape_tick (h : Shape s) (units : Except Error (List UnitStatus)) : Shape (s.step (.tick units)) := by
  obtain ⟨hth, hnx, ⟨hr, hd, -⟩ | ⟨us, -, -, -, ⟨hr, hd, -⟩ | ⟨r, out, he, hr, hd⟩⟩⟩ := step_tick (s := s) units
  · exact h.congr hth hnx (by simp [hr]) (by simp [hr]) (by rw [hr, hd]; exact h.delivered_eq)
  · exact h.congr hth hnx (by simp [hr]) (by simp [hr]) (by rw [hr, hd]; exact h.delivered_eq)
  · obtain ⟨hru, hst, -, hout⟩ := emitRunStatus_eq he
    refine h.congr hth hnx (fun u => ?_) (fun u => ?_) ?_
    · rw [hr, hst, foldl_updateUnit_mem_starting]
    · rw [hr, hru, foldl_updateUnit_mem_running]
    · rw [hd, hr]
      rcases hout with ⟨rfl, hri, -⟩ | ⟨rfl, -⟩
      · simpa [hri] using h.delivered_eq
      · rfl

theorem shape_stopInstance (h : Shape s) (id : String) : Shape (s.step (.stopInstance id)) := by
  rw [step_stopInstance]
  exact { h with
    had_running := fun n t ht hf hr => h.had_running n t ht hf (AList.mem_erase.mp hr).2
    running_named := fun u hu => h.running_named u (AList.mem_erase.mp hu).2 }

theorem shape_stop (h : Shape s) : Shape (s.step .stop) := by
  rw [step_stop]; exact { h with }

theorem Shape.step (h : Shape s) {e : Event} (ha : e.allowed s = true) : Shape (s.step e) := by
  cases e with
  | startInstance id a b c => exact shape_startInstance h ha
  | record n =>
    rcases step_record (s := s) n with he | ⟨id, i, had, hn, he⟩ <;> rw [he]
    · exact h
    · exact shape_record h hn
  | resume n =>
    rcases step_resume (s := s) n with he | ⟨id, i, k, had, d, hn, -, he⟩ <;> rw [he]
    · exact h
    · exact shape_resume h hn _
  | tick units => exact shape_tick h units
  | stopInstance id => exact shape_stopInstance h id
  | stop => exact shape_stop h

/-! ### Early results -/

theorem startPhase_returned {id : String} {a b : Error} {c : Except Error (UnitState × Option Int)} {rs : RunStatus}
    (h : startPhase id a b c = .returned rs) : rs.state = .failed := by
  unfold startPhase at h
  split at h
  · cases h; rfl
  · split at h
    · cases h; rfl
    · split at h <;> cases h; rfl

/-! ### A waiting start reads the most recent status received since it recorded -/

theorem recentEntry_append (l seen : List UnitStatus) {k : Nat} (hk : k ≤ seen.length) (u : String)
    (i : UnitState × Option Int) :
    recentEntry (l ++ seen) k u i = match l.find? (·.name == u) with
      | some unit => ⟨unit.activeState, unit.exitCode⟩
      | none => recentEntry seen k u i := by
  have ht : (l ++ seen).take ((l ++ seen).length - k) = l ++ seen.take (seen.length - k) := by
    rw [List.take_append_eq_append_take, List.length_append, List.take_of_length_le (by omega),
      show l.length + seen.length - k - l.length = seen.length - k by omega]
  unfold recentEntry; rw [ht, List.find?_append]; cases l.find? _ <;> rfl

@[simp] theorem recentEntry_length (seen : List UnitStatus) (u : String) (i : UnitState × Option Int) :
    recentEntry seen seen.length u i = ⟨i.1, i.2⟩ := by
  simp [recentEntry]

/-- `GetRunningInstances` never throws in a system with the bookkeeping of `Shape`. -/
theorem emitRunStatus_ne_none (hsh : Shape s) (us : List UnitStatus) :
    emitRunStatus (us.foldl updateUnit (s.runner, false)).1 (us.foldl updateUnit (s.runner, false)).2 ≠ none := by
  obtain ⟨statuses, hg⟩ := GetRunningInstances_ok (us.foldl updateUnit (s.runner, false)).1 fun u hu =>
    hsh.running_named u ((foldl_updateUnit_mem_running _ _ _ _).mp hu)
  unfold emitRunStatus; split
  · simp [hg]
  · simp

/-- The entry each waiting start will read is the most recent status of its unit received
since it recorded its `GetUnitStatus` answer, or that answer. -/
structure Tracked (s : System) : Prop where
  since_le : ∀ n t i k, s.threads n = some t → t.phase = .waiting i k → k ≤ s.seen.length
  entry : ∀ n t i k, s.threads n = some t → t.phase = .waiting i k →
    s.runner.startingUnits.lookup t.unitName = some (recentEntry s.seen k t.unitName i)

theorem tracked_init : Tracked init where
  since_le _ _ _ _ h := by simp [init] at h
  entry _ _ _ _ h := by simp [init] at h

/-- A new call is not waiting yet: the waiting starts are those of before. -/
theorem tracked_startInstance (h : Tracked s) (id : String) (a b : Error) (c : Except Error (UnitState × Option Int)) :
    Tracked (s.step (.startInstance id a b c)) := by
  rw [step_startInstance]
  constructor
  all_goals intro m t i k ht hp; simp only [update_eq_some] at ht
  all_goals rcases ht with ⟨-, rfl⟩ | ⟨-, ht⟩
  · exact absurd hp (startPhase_ne_waiting id a b c i k)
  · exact h.since_le m t i k ht hp
  · exact absurd hp (startPhase_ne_waiting id a b c i k)
  · exact h.entry m t i k ht hp

theorem tracked_record (hsh : Shape s) (h : Tracked s) {n : Nat} {id : String} {i : UnitState × Option Int}
    {had : Bool} (hn : s.threads n = some ⟨id, .observed i, had⟩) :
    Tracked { s with runner := recordStartingUnit s.runner (CreateSystemdUnitName id) i
                     threads := Function.update s.threads n (some ⟨id, .waiting i s.seen.length, had⟩) } := by
  constructor
  · intro m t i' k ht hp
    simp only [update_eq_some] at ht
    rcases ht with ⟨-, rfl⟩ | ⟨-, ht⟩
    · cases hp; exact le_rfl
    · exact h.since_le m t i' k ht hp
  · intro m t i' k ht hp
    simp only [update_eq_some] at ht
    rcases ht with ⟨-, rfl⟩ | ⟨hm, ht⟩
    · cases hp; simp [recordStartingUnit_lookup, Starter.unitName]
    · have hu : t.unitName ≠ CreateSystemdUnitName id := fun hu =>
        hm (hsh.unique _ _ _ _ ht hn (Starter.inFlight_of_waiting (by simp [Starter.Waiting, hp])) rfl hu)
      simpa [recordStartingUnit_lookup, hu] using h.entry m t i' k ht hp

theorem tracked_resume (hsh : Shape s) (h : Tracked s) {n : Nat} {id : String} {i : UnitState × Option Int}
    {k : Nat} {had : Bool} {d : StartingUnitData} (hn : s.threads n = some ⟨id, .waiting i k, had⟩)
    (o : String → Option (Nat × (UnitState × Option Int))) :
    Tracked { s with runner := (finishStartingUnit s.runner (CreateSystemdUnitName id) d).1
                     threads := Function.update s.threads n (some ⟨id, .returned ⟨id,
                       (finishStartingUnit s.runner (CreateSystemdUnitName id) d).2.1,
                       (finishStartingUnit s.runner (CreateSystemdUnitName id) d).2.2⟩, had⟩)
                     origin := o } := by
  constructor
  · intro m t i' k' ht hp
    simp only [update_eq_some] at ht
    rcases ht with ⟨-, rfl⟩ | ⟨-, ht⟩
    · cases hp
    · exact h.since_le m t i' k' ht hp
  · intro m t i' k' ht hp
    simp only [update_eq_some] at ht
    rcases ht with ⟨-, rfl⟩ | ⟨hm, ht⟩
    · cases hp
    · have hu : t.unitName ≠ CreateSystemdUnitName id := fun hu =>
        hm (hsh.unique _ _ _ _ ht hn (Starter.inFlight_of_waiting (by simp [Starter.Waiting, hp])) rfl hu)
      simpa [lookup_erase_eq, hu] using h.entry m t i' k' ht hp

theorem tracked_tick (hsh : Shape s) (h : Tracked s) (units : Except Error (List UnitStatus)) :
    Tracked (s.step (.tick units)) := by
  obtain ⟨hth, -, ⟨hr, -, hseen⟩ | ⟨us, -, -, hseen, ⟨-, -, he⟩ | ⟨r, out, he, hr, -⟩⟩⟩ := step_tick (s := s) units
  · exact ⟨fun n t i k ht => hseen ▸ h.since_le n t i k (hth ▸ ht),
      fun n t i k ht => hseen ▸ hr ▸ h.entry n t i k (hth ▸ ht)⟩
  · exact absurd he (emitRunStatus_ne_none hsh us)
  obtain ⟨-, hst, -, -⟩ := emitRunStatus_eq he
  constructor
  · intro n t i k ht hp
    have := h.since_le n t i k (hth ▸ ht) hp
    rw [hseen, List.length_append]; omega
  · intro n t i k ht hp
    rw [hth] at ht
    rw [hr, hst, foldl_updateUnit_starting, hseen, recentEntry_append _ _ (h.since_le n t i k ht hp),
      h.entry n t i k ht hp, lastListed]
    cases List.find? _ us.reverse <;> rfl

theorem Tracked.step (hsh : Shape s) (h : Tracked s) (e : Event) : Tracked (s.step e) := by
  cases e with
  | startInstance id a b c => exact tracked_startInstance h id a b c
  | record n =>
    rcases step_record (s := s) n with he | ⟨id, i, had, hn, he⟩ <;> rw [he]
    · exact h
    · exact tracked_record hsh h hn
  | resume n =>
    rcases step_resume (s := s) n with he | ⟨id, i, k, had, d, hn, -, he⟩ <;> rw [he]
    · exact h
    · exact tracked_resume hsh h hn _
  | tick units => exact tracked_tick hsh h units
  | stopInstance id => exact ⟨h.since_le, h.entry⟩
  | stop => exact ⟨h.since_le, h.entry⟩

/-! ### A running entry holds the most recent status received since its start recorded -/

theorem origin_tick (units : Except Error (List UnitStatus)) : (s.step (.tick units)).origin = s.origin := by
  simp only [step, apply]
  split
  · split <;> rfl
  · rfl

/-- Every running entry is what the start that inserted it read at the end of its wait,
brought up to date by the ticks since: the instance state and exit code of the most recent
status of its unit received since that start recorded its `GetUnitStatus` answer, or of that
answer. -/
def Fresh (s : System) : Prop :=
  ∀ u d, s.runner.runningUnits.lookup u = some d → ∃ k i, s.origin u = some (k, i) ∧ k ≤ s.seen.length ∧
    d = ⟨ToInstanceState (recentEntry s.seen k u i).runState, (recentEntry s.seen k u i).exitCode⟩

theorem fresh_init : Fresh init := fun _ _ h => by simp [init] at h

/-- A start that moves its unit to `mRunningUnits` becomes the entry's origin. -/
theorem fresh_resume (ht : Tracked s) (h : Fresh s) {n : Nat} {id : String} {i : UnitState × Option Int} {k : Nat}
    {had : Bool} {d : StartingUnitData} (hn : s.threads n = some ⟨id, .waiting i k, had⟩)
    (hd : s.runner.startingUnits.lookup (CreateSystemdUnitName id) = some d) :
    Fresh { s with runner := (finishStartingUnit s.runner (CreateSystemdUnitName id) d).1
                   threads := Function.update s.threads n (some ⟨id, .returned ⟨id,
                     (finishStartingUnit s.runner (CreateSystemdUnitName id) d).2.1,
                     (finishStartingUnit s.runner (CreateSystemdUnitName id) d).2.2⟩, had⟩)
                   origin := if d.runState = .active then
                     Function.update s.origin (CreateSystemdUnitName id) (some (k, i)) else s.origin } := by
  have hde : d = recentEntry s.seen k (CreateSystemdUnitName id) i :=
    Option.some.inj (hd.symm.trans (ht.entry n _ i k hn rfl))
  intro u d' hd'
  simp only [finishStartingUnit_running] at hd'
  by_cases hu : u = CreateSystemdUnitName id ∧ d.runState = .active
  · rw [if_pos hu] at hd'
    cases hd'
    obtain ⟨rfl, ha⟩ := hu
    refine ⟨k, i, by simp [ha], ht.since_le n _ i k hn rfl, ?_⟩
    rw [← hde, ha]
    rfl
  · rw [if_neg hu] at hd'
    obtain ⟨k', i', ho, hk', he⟩ := h u d' hd'
    refine ⟨k', i', ?_, hk', he⟩
    dsimp only
    split
    · rw [Function.update_noteq fun hu' => hu ⟨hu', ‹_›⟩, ho]
    · exact ho

/-- A tick brings every listed running entry up to date, as it brings `seen`. -/
theorem fresh_tick (hsh : Shape s) (h : Fresh s) (units : Except Error (List UnitStatus)) :
    Fresh (s.step (.tick units)) := by
  obtain ⟨-, -, ⟨hr, -, hseen⟩ | ⟨us, -, -, hseen, ⟨-, -, he⟩ | ⟨r, out, he, hr, -⟩⟩⟩ := step_tick (s := s) units
  · intro u d hd
    rw [hr] at hd
    rw [origin_tick, hseen]
    exact h u d hd
  · exact absurd he (emitRunStatus_ne_none hsh us)
  intro u d hd
  rw [hr, (emitRunStatus_eq he).1, foldl_updateUnit_running] at hd
  rw [origin_tick, hseen]
  have hl : us.reverse.find? (·.name == u) = lastListed us u := rfl
  rcases hu : lastListed us u with _ | unit <;> rw [hu] at hd
  · obtain ⟨k, i, ho, hk, rfl⟩ := h u d hd
    refine ⟨k, i, ho, by simp only [List.length_append]; omega, ?_⟩
    rw [recentEntry_append _ _ hk, hl, hu]
  · obtain ⟨d₀, hd₀, rfl⟩ := Option.map_eq_some'.mp hd
    obtain ⟨k, i, ho, hk, -⟩ := h u d₀ hd₀
    refine ⟨k, i, ho, by simp only [List.length_append]; omega, ?_⟩
    rw [recentEntry_append _ _ hk, hl, hu]

theorem Fresh.step (hsh : Shape s) (ht : Tracked s) (h : Fresh s) (e : Event) : Fresh (s.step e) := by
  cases e with
  | startInstance id a b c => rw [step_startInstance]; exact h
  | record n => rcases step_record (s := s) n with he | ⟨id, i, had, -, he⟩ <;> rw [he] <;> exact h
  | resume n =>
    rcases step_resume (s := s) n with he | ⟨id, i, k, had, d, hn, hd, he⟩ <;> rw [he]
    · exact h
    · exact fresh_resume ht h hn hd
  | tick units => exact fresh_tick hsh h units
  | stopInstance id =>
    intro u d hd
    simp only [step_stopInstance, eraseRunningUnit, lookup_erase_eq] at hd
    split at hd
    · cases hd
    · exact h u d hd
  | stop => exact h

end System

open System

theorem Reachable.shape {s : System} (h : Reachable s) : s.Shape := by
  induction h with
  | init => exact shape_init
  | step _ ha ih => exact ih.step ha

theorem Reachable.tracked {s : System} (h : Reachable s) : s.Tracked := by
  induction h with
  | init => exact tracked_init
  | step hs _ ih => exact ih.step hs.shape _

theorem Reachable.fresh {s : System} (h : Reachable s) : s.Fresh := by
  induction h with
  | init => exact fresh_init
  | step hs _ ih => exact ih.step hs.shape hs.tracked _

end Runner
end AosServiceManager
