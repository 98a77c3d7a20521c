import AosServiceManager.Runner.State

/-! The runner as a concurrent system: the monitor thread and the `StartInstance` and
`StopInstance` calls interleaved at `mMutex`, a start's wait between its two locked sections
ending at any later step. `seen` and `origin` are ghost state. -/
namespace AosServiceManager
namespace Runner

/-- Where a `StartInstance` call is. -/
inductive Phase
  /-- `GetUnitStatus` answered; the first locked section of `GetStartingUnitState` is next. -/
  | observed (initial : UnitState × Option Int)
  /-- The entry is recorded and the call waits on its condition variable. `initial` (the
  recorded answer) and `since` (how many statuses the runner had received then) are ghost. -/
  | waiting (initial : UnitState × Option Int) (since : Nat)
  | returned (status : RunStatus)
  deriving DecidableEq, Repr

structure Starter where
  instanceID : String
  phase : Phase
  /-- Whether `mRunningUnits` held the unit when the call began. -/
  hadRunningUnit : Bool
  deriving DecidableEq, Repr

namespace Starter

def unitName (t : Starter) : String := CreateSystemdUnitName t.instanceID

def InFlight (t : Starter) : Bool :=
  match t.phase with
  | .returned _ => false
  | _ => true

def Waiting (t : Starter) : Bool :=
  match t.phase with
  | .waiting _ _ => true
  | _ => false

theorem inFlight_of_waiting {t : Starter} (h : t.Waiting = true) : t.InFlight = true := by
  obtain ⟨_, _ | _ | _, _⟩ := t <;> simp_all [Waiting, InFlight]

end Starter

structure System where
  runner : Runner
  threads : Nat → Option Starter
  nextThread : Nat
  monitoring : Bool
  /-- The array last passed to `RunStatusReceiver::UpdateRunStatus`. -/
  delivered : List RunStatus
  /-- Every unit status a `ListUnits` answer gave the monitor, newest first. -/
  seen : List UnitStatus
  /-- For the start that last moved unit `u` to `mRunningUnits`: how many statuses `seen`
  held when it recorded its `GetUnitStatus` answer, and that answer. -/
  origin : String → Option (Nat × (UnitState × Option Int))

/-- A step of one thread, with the answers systemd and the file system give it. -/
inductive Event
  /-- A new `StartInstance(instanceID)` runs up to its `GetUnitStatus`. -/
  | startInstance (instanceID : String) (setParams startUnit : Error)
      (unitStatus : Except Error (UnitState × Option Int))
  | record (thread : Nat)
  | resume (thread : Nat)
  | tick (units : Except Error (List UnitStatus))
  | stopInstance (instanceID : String)
  | stop

/-- `StartInstance` up to its `GetUnitStatus`: where the call is afterwards. -/
def startPhase (instanceID : String) (setParams startUnit : Error)
    (unitStatus : Except Error (UnitState × Option Int)) : Phase :=
  if !setParams.IsNone then .returned ⟨instanceID, .failed, setParams⟩
  else if !startUnit.IsNone then .returned ⟨instanceID, .failed, startUnit⟩
  else match unitStatus with
    | .error err => .returned ⟨instanceID, .failed, err.wrap "failed to get unit status"⟩
    | .ok initial => .observed initial

namespace System

def init : System := ⟨⟨∅, ∅, [], false⟩, fun _ => none, 0, true, [], [], fun _ => none⟩

/-- The runner and its threads after one step, before `seen` grows. -/
def apply (s : System) : Event → System
  | .startInstance id setParams startUnit unitStatus =>
    { s with
      threads := Function.update s.threads s.nextThread
        (some ⟨id, startPhase id setParams startUnit unitStatus,
          (s.runner.runningUnits.lookup (CreateSystemdUnitName id)).isSome⟩)
      nextThread := s.nextThread + 1 }
  | .record n =>
    match s.threads n with
    | some ⟨id, .observed initial, had⟩ =>
      { s with
        runner := recordStartingUnit s.runner (CreateSystemdUnitName id) initial
        threads := Function.update s.threads n (some ⟨id, .waiting initial s.seen.length, had⟩) }
    | _ => s
  | .resume n =>
    match s.threads n with
    | some ⟨id, .waiting initial since, had⟩ =>
      match s.runner.startingUnits.lookup (CreateSystemdUnitName id) with
      | some d =>
        let (r, state, err) := finishStartingUnit s.runner (CreateSystemdUnitName id) d
        { s with runner := r, threads := Function.update s.threads n (some ⟨id, .returned ⟨id, state, err⟩, had⟩)
                 origin := if d.runState = .active then
                   Function.update s.origin (CreateSystemdUnitName id) (some (since, initial)) else s.origin }
      | none => s
    | _ => s
  | .tick units =>
    if s.monitoring then
      match MonitorUnits s.runner units with
      | some (r, out) => { s with runner := r, delivered := out.getD s.delivered }
      | none => { s with monitoring := false }
    else s
  | .stopInstance id => { s with runner := eraseRunningUnit s.runner id }
  | .stop => { s with runner := { s.runner with closed := true } }

/-- The unit statuses a step's `ListUnits` answer gives the monitor, newest first. -/
def received (s : System) : Event → List UnitStatus
  | .tick (.ok units) => if s.monitoring && !s.runner.closed then units.reverse else []
  | _ => []

def step (s : System) (e : Event) : System := { s.apply e with seen := s.received e ++ s.seen }

def run (s : System) (events : List Event) : System := events.foldl step s

/-- The most recent status of unit `u` that a `ListUnits` answer gave the monitor. -/
def lastReceived (s : System) (u : String) : Option UnitStatus := s.seen.find? (·.name == u)

/-- What a start of unit `u` that recorded `initial` when `since` statuses had been received
should read after its wait: the most recent status of `u` received since, else `initial`. -/
def recentEntry (seen : List UnitStatus) (since : Nat) (u : String) (initial : UnitState × Option Int) :
    StartingUnitData :=
  match (seen.take (seen.length - since)).find? (·.name == u) with
  | some unit => ⟨unit.activeState, unit.exitCode⟩
  | none => ⟨initial.1, initial.2⟩

end System

/-- The callers' promise: a start begins only when no start of the same unit is in flight. -/
def Event.allowed (s : System) : Event → Bool
  | .startInstance id _ _ _ => (List.range s.nextThread).all fun n =>
      match s.threads n with
      | some t => !t.InFlight || t.unitName != CreateSystemdUnitName id
      | none => true
  | _ => true

inductive Reachable : System → Prop
  | init : Reachable System.init
  | step {s : System} {e : Event} : Reachable s → e.allowed s = true → Reachable (s.step e)

/-- Every event of the list keeps the callers' promise when it happens. -/
def allowedRun : System → List Event → Bool
  | _, [] => true
  | s, e :: es => e.allowed s && allowedRun (s.step e) es

theorem Reachable.run {s : System} (h : Reachable s) : ∀ {es : List Event}, allowedRun s es = true →
    Reachable (s.run es)
  | [], _ => h
  | _ :: _, ha => by
    simp only [allowedRun, Bool.and_eq_true] at ha
    exact (Reachable.step h ha.1).run ha.2

end Runner
end AosServiceManager
