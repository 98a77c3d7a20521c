import AosServiceManager.Runner.State

/-! The aos types and the protobuf messages (under `Pb`) that `utils/convert.cpp` converts, with
the fields it reads and writes; a message field is an `Option`, absent in a fresh message, and
enums the converters only print are type parameters with their `ToString()` tables. -/
namespace AosServiceManager

/-- `aos::Time`, as the `timespec` it holds. -/
structure Time where
  sec : Int
  nsec : Int
  deriving DecidableEq, Repr, Inhabited

/-- `Time::Unix(sec, nsec)`. -/
def Time.Unix (sec nsec : Int) : Time := ⟨sec, nsec⟩

structure InstanceIdent where
  serviceID : String
  subjectID : String
  instanceIndex : UInt64
  deriving DecidableEq, Repr, Inhabited

/-- `cloudprotocol::InstanceFilter`: every field may be absent. -/
structure InstanceFilter where
  serviceID : Option String
  subjectID : Option String
  instanceIndex : Option UInt64
  deriving DecidableEq, Repr, Inhabited

structure InstanceStatus where
  instanceIdent : InstanceIdent
  serviceVersion : String
  runState : Runner.InstanceRunState
  error : Error

structure PushLog (LogStatus : Type) where
  logID : String
  partsCount : UInt64
  part : UInt64
  content : String
  status : LogStatus
  errorInfo : Error

structure EnvVarStatus where
  name : String
  error : Error

structure FirewallRule where
  dstIP : String
  dstPort : String
  proto : String
  srcIP : String
  deriving DecidableEq, Repr

/-- `NetworkParameters`, its arrays bounded by `cMaxNumDNSServers` and `cMaxNumFirewallRules`. -/
structure NetworkParameters (cMaxNumDNSServers cMaxNumFirewallRules : Nat) where
  networkID : String
  subnet : String
  ip : String
  vlanID : UInt64
  dnsServers : StaticArray String cMaxNumDNSServers
  firewallRules : StaticArray FirewallRule cMaxNumFirewallRules

structure InstanceInfo (cMaxNumDNSServers cMaxNumFirewallRules : Nat) where
  instanceIdent : InstanceIdent
  uid : UInt32
  priority : UInt64
  storagePath : String
  statePath : String
  networkParameters : NetworkParameters cMaxNumDNSServers cMaxNumFirewallRules

structure EnvVarInfo where
  name : String
  value : String
  ttl : Option Time
  deriving DecidableEq, Repr

/-- `cloudprotocol::EnvVarsInstanceInfo`, its variables bounded by `cMaxNumEnvVariables`. -/
structure EnvVarsInstanceInfo (cMaxNumEnvVariables : Nat) where
  filter : InstanceFilter
  envVariables : StaticArray EnvVarInfo cMaxNumEnvVariables

/-! ### Monitoring and logs -/

/-- `monitoring::PartitionInfo`, with the fields the converter reads. -/
structure PartitionInfo where
  name : String
  usedSize : UInt64
  deriving DecidableEq, Repr

/-- `monitoring::MonitoringData`. `CPU` is the type of `mCPU`, declared in the aos library,
which the converter casts to `uint64_t`. -/
structure MonitoringData (CPU : Type) where
  ram : UInt64
  cpu : CPU
  download : UInt64
  upload : UInt64
  partitions : List PartitionInfo

structure InstanceMonitoringData (CPU : Type) where
  instanceIdent : InstanceIdent
  monitoringData : MonitoringData CPU

structure NodeMonitoringData (CPU : Type) where
  monitoringData : MonitoringData CPU
  timestamp : Time
  serviceInstances : List (InstanceMonitoringData CPU)

/-- `cloudprotocol::LogFilter`, with the fields the converters set (`mFrom` is `fromTime`). -/
structure LogFilter where
  fromTime : Option Time
  till : Option Time
  instanceFilter : InstanceFilter
  deriving DecidableEq, Repr, Inhabited

/-- `cloudprotocol::RequestLog`, with the fields the converters set. -/
structure RequestLog where
  logID : String
  filter : LogFilter
  deriving DecidableEq, Repr, Inhabited

/-- `ServiceInfo`, with the fields the converter sets; the digest is its bytes. -/
structure ServiceInfo where
  serviceID : String
  providerID : String
  version : String
  gid : UInt32
  url : String
  sha256 : List UInt8
  size : UInt64
  deriving DecidableEq, Repr

/-- `LayerInfo`, with the fields the converter sets. -/
structure LayerInfo where
  layerID : String
  layerDigest : String
  version : String
  url : String
  sha256 : List UInt8
  size : UInt64
  deriving DecidableEq, Repr

/-! ### Alerts -/

/-- The tag of each alternative of `cloudprotocol::AlertVariant`. -/
inductive AlertTag
  | systemAlert | coreAlert | systemQuotaAlert | instanceQuotaAlert | deviceAllocateAlert
  | resourceValidateAlert | downloadAlert | serviceInstanceAlert
  deriving DecidableEq, Repr

section Alerts

variable (CoreComponent QuotaAlertState : Type)

structure SystemAlert where
  timestamp : Time
  message : String

structure CoreAlert where
  timestamp : Time
  coreComponent : CoreComponent
  message : String

structure SystemQuotaAlert where
  timestamp : Time
  parameter : String
  value : UInt64
  status : QuotaAlertState

structure InstanceQuotaAlert where
  timestamp : Time
  instanceIdent : InstanceIdent
  parameter : String
  value : UInt64
  status : QuotaAlertState

structure DeviceAllocateAlert where
  timestamp : Time
  instanceIdent : InstanceIdent
  device : String
  message : String

structure ResourceValidateAlert where
  timestamp : Time
  name : String
  errors : List Error

structure DownloadAlert where
  timestamp : Time

structure ServiceInstanceAlert where
  timestamp : Time
  instanceIdent : InstanceIdent
  serviceVersion : String
  message : String

inductive AlertVariant
  | systemAlert (val : SystemAlert)
  | coreAlert (val : CoreAlert CoreComponent)
  | systemQuotaAlert (val : SystemQuotaAlert QuotaAlertState)
  | instanceQuotaAlert (val : InstanceQuotaAlert QuotaAlertState)
  | deviceAllocateAlert (val : DeviceAllocateAlert)
  | resourceValidateAlert (val : ResourceValidateAlert)
  | downloadAlert (val : DownloadAlert)
  | serviceInstanceAlert (val : ServiceInstanceAlert)

/-- The `ToString()` tables of the enums an alert prints. -/
structure AlertStrings where
  tag : AlertTag → String
  coreComponent : CoreComponent → String
  quotaAlertState : QuotaAlertState → String

end Alerts

namespace AlertVariant

variable {CoreComponent QuotaAlertState : Type}

/-- The `AlertItem` tag each alternative is built with. -/
def tag : AlertVariant CoreComponent QuotaAlertState → AlertTag
  | .systemAlert _ => .systemAlert
  | .coreAlert _ => .coreAlert
  | .systemQuotaAlert _ => .systemQuotaAlert
  | .instanceQuotaAlert _ => .instanceQuotaAlert
  | .deviceAllocateAlert _ => .deviceAllocateAlert
  | .resourceValidateAlert _ => .resourceValidateAlert
  | .downloadAlert _ => .downloadAlert
  | .serviceInstanceAlert _ => .serviceInstanceAlert

def timestamp : AlertVariant CoreComponent QuotaAlertState → Time
  | .systemAlert val => val.timestamp
  | .coreAlert val => val.timestamp
  | .systemQuotaAlert val => val.timestamp
  | .instanceQuotaAlert val => val.timestamp
  | .deviceAllocateAlert val => val.timestamp
  | .resourceValidateAlert val => val.timestamp
  | .downloadAlert val => val.timestamp
  | .serviceInstanceAlert val => val.timestamp

end AlertVariant

/-! ### Protobuf messages -/

namespace Pb

/-- `common::v1::ErrorInfo`. -/
structure ErrorInfo where
  aosCode : Int
  exitCode : Int
  message : String
  deriving DecidableEq, Repr, Inhabited

/-- `common::v1::InstanceIdent`. -/
structure InstanceIdent where
  serviceId : String
  subjectId : String
  instanceIndex : UInt64
  deriving DecidableEq, Repr, Inhabited

structure InstanceStatus where
  instanceIdent : Option InstanceIdent
  serviceVersion : String
  runState : String
  errorInfo : Option ErrorInfo
  deriving DecidableEq, Repr, Inhabited

structure LogData where
  logId : String
  partCount : UInt64
  part : UInt64
  data : String
  status : String
  error : Option ErrorInfo
  deriving DecidableEq, Repr, Inhabited

structure EnvVarStatus where
  name : String
  error : Option ErrorInfo
  deriving DecidableEq, Repr, Inhabited

/-- `servicemanager::v4::InstanceFilter`; `instance` is an `int64`. -/
structure InstanceFilter where
  serviceId : String
  subjectId : String
  instanceIndex : Int
  deriving DecidableEq, Repr, Inhabited

/-- `google::protobuf::Timestamp`. -/
structure Timestamp where
  seconds : Int
  nanos : Int
  deriving DecidableEq, Repr, Inhabited

structure FirewallRule where
  dstIp : String
  dstPort : String
  proto : String
  srcIp : String
  deriving DecidableEq, Repr, Inhabited

structure NetworkParameters where
  networkId : String
  subnet : String
  ip : String
  vlanId : UInt64
  dnsServers : List String
  rules : List FirewallRule
  deriving DecidableEq, Repr, Inhabited

structure InstanceInfo where
  instanceIdent : Option InstanceIdent
  uid : UInt32
  priority : UInt64
  storagePath : String
  statePath : String
  networkParameters : Option NetworkParameters
  deriving DecidableEq, Repr, Inhabited

structure EnvVarInfo where
  name : String
  value : String
  ttl : Option Timestamp
  deriving DecidableEq, Repr, Inhabited

structure OverrideInstanceEnvVar where
  instanceFilter : Option InstanceFilter
  envVariables : List EnvVarInfo
  deriving DecidableEq, Repr, Inhabited

structure OverrideEnvVars where
  envVars : List OverrideInstanceEnvVar
  deriving DecidableEq, Repr, Inhabited

structure SystemAlert where
  message : String
  deriving DecidableEq, Repr, Inhabited

structure CoreAlert where
  coreComponent : String
  message : String
  deriving DecidableEq, Repr, Inhabited

structure SystemQuotaAlert where
  parameter : String
  value : UInt64
  status : String
  deriving DecidableEq, Repr, Inhabited

structure InstanceQuotaAlert where
  instanceIdent : Option InstanceIdent
  parameter : String
  value : UInt64
  status : String
  deriving DecidableEq, Repr, Inhabited

structure DeviceAllocateAlert where
  instanceIdent : Option InstanceIdent
  device : String
  message : String
  deriving DecidableEq, Repr, Inhabited

structure ResourceValidateAlert where
  name : String
  errors : List ErrorInfo
  deriving DecidableEq, Repr, Inhabited

/-- `servicemanager::v4::InstanceAlert`, the case the oneof has for a service instance alert. -/
structure InstanceAlert where
  instanceIdent : Option InstanceIdent
  serviceVersion : String
  message : String
  deriving DecidableEq, Repr, Inhabited

structure PartitionUsage where
  name : String
  usedSize : UInt64
  deriving DecidableEq, Repr, Inhabited

structure MonitoringData where
  ram : UInt64
  cpu : UInt64
  download : UInt64
  upload : UInt64
  timestamp : Option Timestamp
  partitions : List PartitionUsage
  deriving DecidableEq, Repr, Inhabited

/-- `servicemanager::v4::InstanceMonitoring` (`instance` is `instanceIdent`). -/
structure InstanceMonitoring where
  instanceIdent : Option InstanceIdent
  monitoringData : Option MonitoringData
  deriving DecidableEq, Repr, Inhabited

/-- `servicemanager::v4::SystemLogRequest` (`from` is `fromTime`). -/
structure SystemLogRequest where
  logId : String
  fromTime : Option Timestamp
  till : Option Timestamp
  deriving DecidableEq, Repr, Inhabited

/-- `servicemanager::v4::InstanceLogRequest`; `InstanceCrashLogRequest` has the same fields. -/
structure InstanceLogRequest where
  logId : String
  instanceFilter : Option InstanceFilter
  fromTime : Option Timestamp
  till : Option Timestamp
  deriving DecidableEq, Repr, Inhabited

structure InstanceCrashLogRequest where
  logId : String
  instanceFilter : Option InstanceFilter
  fromTime : Option Timestamp
  till : Option Timestamp
  deriving DecidableEq, Repr, Inhabited

/-- `servicemanager::v4::ServiceInfo`; `sha256` is a `bytes` field. -/
structure ServiceInfo where
  serviceId : String
  providerId : String
  version : String
  gid : UInt32
  url : String
  sha256 : List UInt8
  size : UInt64
  deriving DecidableEq, Repr, Inhabited

structure LayerInfo where
  layerId : String
  digest : String
  version : String
  url : String
  sha256 : List UInt8
  size : UInt64
  deriving DecidableEq, Repr, Inhabited

/-- The `AlertItem` oneof of `servicemanager::v4::Alert`. -/
inductive AlertItem
  | systemAlert (val : SystemAlert)
  | coreAlert (val : CoreAlert)
  | systemQuotaAlert (val : SystemQuotaAlert)
  | instanceQuotaAlert (val : InstanceQuotaAlert)
  | deviceAllocateAlert (val : DeviceAllocateAlert)
  | resourceValidateAlert (val : ResourceValidateAlert)
  | instanceAlert (val : InstanceAlert)
  deriving DecidableEq, Repr

structure Alert where
  tag : String
  timestamp : Option Timestamp
  alertItem : Option AlertItem
  deriving DecidableEq, Repr, Inhabited

end Pb

end AosServiceManager
