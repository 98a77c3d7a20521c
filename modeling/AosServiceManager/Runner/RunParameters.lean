import AosServiceManager.Runner.State

/-! The run parameters of `StartInstance`: the defaults it fills in, the deadline it gives
`StartUnit` and the wait of `GetStartingUnitState`, and the values `SetRunParameters` prints
into the unit's drop-in; and `StopInstance`, which removes that drop-in. -/
namespace AosServiceManager
namespace Runner

/-- `aos::Duration`: nanoseconds in a signed 64-bit integer. -/
structure Duration where
  ns : Int
  ns_ge : -2 ^ 63 ≤ ns
  ns_lt : ns < 2 ^ 63

namespace Duration

/-- An integer times a duration, in 64-bit arithmetic. -/
def mul (k : Int) (d : Duration) : Duration := ⟨toSigned 64 (k * d.ns), toSigned_64_ge _, toSigned_64_lt _⟩

/-- `Seconds()`: whole seconds, truncated toward zero. -/
def Seconds (d : Duration) : Int := d.ns.tdiv 1000000000

/-- `Milliseconds()`: whole milliseconds, truncated toward zero. -/
def Milliseconds (d : Duration) : Int := d.ns.tdiv 1000000

end Duration

/-- `RunParameters`: each field may be absent. -/
structure RunParameters where
  startInterval : Option Duration
  startBurst : Option Int
  restartInterval : Option Duration

/-- The parameters once `StartInstance` has filled in the defaults. -/
structure FixedRunParameters where
  startInterval : Duration
  startBurst : Int
  restartInterval : Duration

/-- The "Fix run parameters" step of `StartInstance`. -/
def fixRunParameters (cDefaultStartInterval : Duration) (cDefaultStartBurst : Int) (cDefaultRestartInterval : Duration)
    (params : RunParameters) : FixedRunParameters :=
  ⟨params.startInterval.getD cDefaultStartInterval, params.startBurst.getD cDefaultStartBurst,
    params.restartInterval.getD cDefaultRestartInterval⟩

/-- Modelled from the spec: `cStartTimeMultiplier` of `runner.hpp`, the start deadline being
"`5 × startInterval`". -/
def cStartTimeMultiplier : Int := 5

/-- The deadline `StartInstance` passes to `StartUnit` and to `GetStartingUnitState`. -/
def startTime (params : FixedRunParameters) : Duration := params.startInterval.mul cStartTimeMultiplier

/-- The wait of `GetStartingUnitState` on that deadline, in milliseconds. -/
def startTimeout (params : FixedRunParameters) : Int := (startTime params).Milliseconds

/-- The values `SetRunParameters` prints into the drop-in: the two intervals through
`static_cast<uint32_t>` of their seconds, and the burst. -/
def dropInValues (params : FixedRunParameters) : Nat × Int × Nat :=
  (toUnsigned 32 params.startInterval.Seconds, params.startBurst, toUnsigned 32 params.restartInterval.Seconds)

/-- The drop-in directory of a unit under `dropInsDir`, which `SetRunParameters` creates and
`RemoveRunParameters` removes. -/
def parametersDir (dropInsDir unitName : String) : String := dropInsDir ++ "/" ++ unitName ++ ".d"

/-- `SetRunParameters`: the drop-in file it writes under `dropInsDir` and its content. -/
def SetRunParameters (dropInsDir cParametersFileName unitName : String) (params : FixedRunParameters) :
    String × String :=
  (parametersDir dropInsDir unitName ++ "/" ++ cParametersFileName,
    "[Unit]\nStartLimitIntervalSec=" ++ toString (dropInValues params).1 ++ "s\nStartLimitBurst=" ++
      toString (dropInValues params).2.1 ++ "\n\n[Service]\nRestartSec=" ++ toString (dropInValues params).2.2 ++ "s\n")

theorem startTime_ns (params : FixedRunParameters) :
    (startTime params).ns = toSigned 64 (5 * params.startInterval.ns) := rfl

section

variable (cDefaultStartInterval : Duration) (cDefaultStartBurst : Int) (cDefaultRestartInterval : Duration)

/-- The start deadline is `5 × startInterval`, neither wrapped nor negative, exactly for a
start interval in `[0, (2 ^ 63 - 1) / 5]`, and the wait is then not negative either; the
drop-in states the whole seconds of an interval exactly when they lie in `[0, 2 ^ 32)`. -/
theorem runParameters_ranges (params : RunParameters) :
    let fixed := fixRunParameters cDefaultStartInterval cDefaultStartBurst cDefaultRestartInterval params
    ((startTime fixed).ns = cStartTimeMultiplier * fixed.startInterval.ns ∧ 0 ≤ (startTime fixed).ns ↔
      0 ≤ fixed.startInterval.ns ∧ 5 * fixed.startInterval.ns < 2 ^ 63) ∧
    (0 ≤ (startTime fixed).ns → 0 ≤ startTimeout fixed) ∧
    (((dropInValues fixed).1 : Int) = fixed.startInterval.Seconds ↔
      0 ≤ fixed.startInterval.Seconds ∧ fixed.startInterval.Seconds < 2 ^ 32) ∧
    (((dropInValues fixed).2.2 : Int) = fixed.restartInterval.Seconds ↔
      0 ≤ fixed.restartInterval.Seconds ∧ fixed.restartInterval.Seconds < 2 ^ 32) := by
  intro fixed
  have hd := fixed.startInterval.ns_ge
  refine ⟨?_, fun h => Int.tdiv_nonneg h (by decide), toUnsigned_32_eq_self_iff _, toUnsigned_32_eq_self_iff _⟩
  rw [startTime_ns, cStartTimeMultiplier]
  constructor
  · rintro ⟨h₁, h₂⟩
    have := (toSigned_64_eq_self_iff _).mp h₁
    omega
  · rintro ⟨h₁, h₂⟩
    rw [(toSigned_64_eq_self_iff _).mpr (by omega)]
    omega

end

/-- What `StartInstance` makes of a request that gives only its start interval, in nanoseconds. -/
def givenStartInterval (ns : Int) (h : -2 ^ 63 ≤ ns ∧ ns < 2 ^ 63) : FixedRunParameters :=
  fixRunParameters ⟨0, by decide, by decide⟩ 3 ⟨0, by decide, by decide⟩ ⟨some ⟨ns, h.1, h.2⟩, none, none⟩

/-- Start intervals of `2 ^ 62` ns, `-1` s and `2 ^ 32` s: the deadline of the first wraps,
that of the second is negative, and the drop-in of the third states `StartLimitIntervalSec=0s`. -/
theorem runParameters_out_of_range :
    (startTime (givenStartInterval (2 ^ 62) (by decide))).ns ≠ 5 * 2 ^ 62 ∧
    (startTime (givenStartInterval (-1000000000) (by decide))).ns < 0 ∧
    (dropInValues (givenStartInterval 4294967296000000000 (by decide))).1 = 0 := by
  decide

/-! ### Stopping an instance -/

/-- `StopInstance`, given the errors of `StopUnit`, `ResetFailedUnit` and
`RemoveRunParameters`: the runner after its locked erase, the directory it removes, and the
error it returns. -/
def StopInstance (dropInsDir : String) (r : Runner) (instanceID : String) (stopErr releaseErr rmErr : Error) :
    Runner × String × Error :=
  let unitName := CreateSystemdUnitName instanceID
  let err := if !stopErr.IsNone && stopErr.Is .notFound then .none else stopErr
  let err := if !releaseErr.IsNone && !releaseErr.Is .notFound && err.IsNone then releaseErr else err
  (eraseRunningUnit r instanceID, parametersDir dropInsDir unitName, if !rmErr.IsNone && err.IsNone then rmErr else err)

end Runner
end AosServiceManager
