import AosServiceManager.Convert.Types

/-! The encoders of `utils/convert.cpp`: aos values into the protobuf messages sent to the
communication manager. Each `ConvertToProto` takes the message it writes into and returns it
written. `Convert` is `StaticString<cErrorMessageLen>::Convert` of the aos library, which
prints an error: the error of the printing, and the text. -/
namespace AosServiceManager

section Errors

variable (Convert : Error → Error × String)

def ConvertAosErrorToProto (error : Error) : Pb.ErrorInfo :=
  { aosCode := error.value.toCtorIdx
    exitCode := error.errno
    message := if !error.IsNone then
        if (Convert error).1.IsNone then cStr (Convert error).2 else cStr error.message
      else "" }

/-- `SetErrorInfo`: the `error` field it leaves in the message. -/
def SetErrorInfo (src : Error) : Option Pb.ErrorInfo :=
  if !src.IsNone then some (ConvertAosErrorToProto Convert src) else none

end Errors

def InstanceIdent.ConvertToProto (src : InstanceIdent) (dst : Pb.InstanceIdent) : Pb.InstanceIdent :=
  { dst with serviceId := cStr src.serviceID, subjectId := cStr src.subjectID, instanceIndex := src.instanceIndex }

/-- `ConvertToProto(InstanceFilter)`: an absent instance is sent as `-1`. -/
def InstanceFilter.ConvertToProto (src : InstanceFilter) (dst : Pb.InstanceFilter) : Pb.InstanceFilter :=
  let dst := match src.serviceID with
    | some id => { dst with serviceId := cStr id }
    | none => dst
  let dst := match src.subjectID with
    | some id => { dst with subjectId := cStr id }
    | none => dst
  let dst := { dst with instanceIndex := -1 }
  match src.instanceIndex with
  | some i => { dst with instanceIndex := toSigned 64 i.toNat }
  | none => dst

section InstanceFilter

variable (serviceID subjectID : Option String) (instanceIndex : Option UInt64) (dst : Pb.InstanceFilter)

@[simp] theorem InstanceFilter.ConvertToProto_serviceId :
    (InstanceFilter.ConvertToProto ⟨serviceID, subjectID, instanceIndex⟩ dst).serviceId =
      (serviceID.map cStr).getD dst.serviceId := by
  obtain ⟨_, _, _⟩ := dst; cases serviceID <;> cases subjectID <;> cases instanceIndex <;> rfl

@[simp] theorem InstanceFilter.ConvertToProto_subjectId :
    (InstanceFilter.ConvertToProto ⟨serviceID, subjectID, instanceIndex⟩ dst).subjectId =
      (subjectID.map cStr).getD dst.subjectId := by
  obtain ⟨_, _, _⟩ := dst; cases serviceID <;> cases subjectID <;> cases instanceIndex <;> rfl

@[simp] theorem InstanceFilter.ConvertToProto_none :
    (InstanceFilter.ConvertToProto ⟨serviceID, subjectID, none⟩ dst).instanceIndex = -1 := by
  cases serviceID <;> cases subjectID <;> rfl

@[simp] theorem InstanceFilter.ConvertToProto_some (i : UInt64) :
    (InstanceFilter.ConvertToProto ⟨serviceID, subjectID, some i⟩ dst).instanceIndex = toSigned 64 i.toNat := by
  cases serviceID <;> cases subjectID <;> simp only [InstanceFilter.ConvertToProto]

end InstanceFilter

/-- `TimestampToPB`: the nanoseconds are cast to `int32_t`. -/
def TimestampToPB (time : Time) : Pb.Timestamp := ⟨time.sec, toSigned 32 time.nsec⟩

/-! ### Monitoring -/

section Monitoring

variable {CPU : Type} (toUInt64 : CPU → UInt64)

/-- `ConvertToProto(MonitoringData, timestamp)`, where `toUInt64` is the `static_cast<uint64_t>`
of the CPU value: it sets the scalars and the timestamp, and appends the partitions to those
`dst` holds. -/
def MonitoringData.ConvertToProto (src : MonitoringData CPU) (timestamp : Time) (dst : Pb.MonitoringData) :
    Pb.MonitoringData :=
  { dst with ram := src.ram, cpu := toUInt64 src.cpu, download := src.download, upload := src.upload,
             timestamp := some (TimestampToPB timestamp),
             partitions := dst.partitions ++ src.partitions.map fun partition => ⟨cStr partition.name, partition.usedSize⟩ }

/-- `ConvertToProto(NodeMonitoringData)`: the node's data into `dstMonitoringData`, and one
`InstanceMonitoring` per service instance appended to `dstInstanceMonitoring`, each stamped
with the node's timestamp. -/
def NodeMonitoringData.ConvertToProto (src : NodeMonitoringData CPU) (dstMonitoringData : Pb.MonitoringData)
    (dstInstanceMonitoring : List Pb.InstanceMonitoring) : Pb.MonitoringData × List Pb.InstanceMonitoring :=
  (src.monitoringData.ConvertToProto toUInt64 src.timestamp dstMonitoringData,
    dstInstanceMonitoring ++ src.serviceInstances.map fun serviceInstance =>
      { instanceIdent := some (serviceInstance.instanceIdent.ConvertToProto default)
        monitoringData := some (serviceInstance.monitoringData.ConvertToProto toUInt64 src.timestamp default) })

end Monitoring

/-! ### Errors on the wire -/

def PushLog.ConvertToProto (Convert : Error → Error × String) {LogStatus : Type} (logStatus : LogStatus → String)
    (src : PushLog LogStatus) (dst : Pb.LogData) : Pb.LogData :=
  { dst with logId := cStr src.logID, partCount := src.partsCount, part := src.part, data := cStr src.content,
             status := cStr (logStatus src.status), error := SetErrorInfo Convert src.errorInfo }

/-- `ConvertToProto(InstanceStatus)`: it clears `error_info` whatever the status's error. -/
def InstanceStatus.ConvertToProto (runState : Runner.InstanceRunState → String) (src : InstanceStatus)
    (dst : Pb.InstanceStatus) : Pb.InstanceStatus :=
  { dst with instanceIdent := some (src.instanceIdent.ConvertToProto (dst.instanceIdent.getD default)),
             serviceVersion := cStr src.serviceVersion, runState := cStr (runState src.runState),
             errorInfo := none }

def EnvVarStatus.ConvertToProto (Convert : Error → Error × String) (src : EnvVarStatus) (dst : Pb.EnvVarStatus) :
    Pb.EnvVarStatus :=
  { dst with name := cStr src.name, error := if !src.error.IsNone then SetErrorInfo Convert src.error else dst.error }

/-- An instance that failed with an exit code. -/
def failedInstanceStatus : InstanceStatus :=
  ⟨⟨"service0", "subject0", 0⟩, "1.0.0", .failed, .ofErrno 137 "failed to start unit"⟩

/-- Its encoding has no `error_info`, where `SetErrorInfo` would write one. -/
theorem failedInstanceStatus_loses_error (Convert : Error → Error × String)
    (runState : Runner.InstanceRunState → String) :
    (failedInstanceStatus.ConvertToProto runState default).errorInfo = none ∧
      SetErrorInfo Convert failedInstanceStatus.error = some (ConvertAosErrorToProto Convert failedInstanceStatus.error) ∧
      (ConvertAosErrorToProto Convert failedInstanceStatus.error).exitCode = 137 :=
  ⟨rfl, by simp [SetErrorInfo, failedInstanceStatus, Error.ofErrno, Error.IsNone], rfl⟩

end AosServiceManager
