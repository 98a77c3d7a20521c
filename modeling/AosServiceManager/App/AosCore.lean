import AosServiceManager.Config.Sections

/-! `AosCore::Init` of `app/aoscore.cpp`: the service manager's components are initialised one
after the other, each call checked by `AOS_ERROR_CHECK_AND_THROW`. What a component returns is
an argument, but for the runner, whose `Init` returns `eNone` on every path. -/
namespace AosServiceManager
namespace App

open Configuration

/-- The exception `AOS_ERROR_CHECK_AND_THROW(err, message)` throws. -/
structure AosException where
  err : Error
  message : String
  deriving DecidableEq, Repr

/-- Calls made one after the other, each followed by `AOS_ERROR_CHECK_AND_THROW`: the calls
made, and the exception of the first that fails, which ends the sequence. -/
def checkAll {κ : Type} (result : κ → Error) (message : κ → String) : List κ → List κ × Option AosException
  | [] => ([], none)
  | c :: cs =>
    if !(result c).IsNone then ([c], some ⟨result c, message c⟩)
    else ((checkAll result message cs).1.cons c, (checkAll result message cs).2)

section CheckAll

variable {κ : Type} (result : κ → Error) (message : κ → String)

/-- The calls made are those up to the first that fails, that one included, and the
exception is the first failure's. -/
theorem checkAll_spec (cs : List κ) :
    checkAll result message cs = (cs.take ((cs.takeWhile fun c => (result c).IsNone).length + 1),
      (cs.find? fun c => !(result c).IsNone).map fun c => ⟨result c, message c⟩) := by
  induction cs with
  | nil => rfl
  | cons c cs ih =>
    by_cases h : (result c).IsNone <;> simp [checkAll, h, ih, List.find?_cons, List.takeWhile_cons]

theorem checkAll_prefix (cs : List κ) : (checkAll result message cs).1 <+: cs := by
  rw [checkAll_spec]
  exact List.take_prefix _ _

end CheckAll

/-! ### `Init` -/

/-- `Runner::Init` stores the listener and returns `eNone`. -/
def runnerInit : Error := .none

/-- A call of `AosCore::Init` after the config is parsed, with what it passes of the config.
The node type the resource manager is given comes from `GetNodeInfo`, a collaborator, and
is not kept. -/
inductive InitCall (cMaxNumHostBinds cMaxNumHosts : Nat)
  | cryptoProvider
  | certLoader
  | iamClientPublic (config : IAMClientConfig)
  | getNodeInfo
  | iamClientPermissions (iamProtectedServerURL certStorage : String)
  | hostDeviceManager
  | resourceManager (nodeConfigFile : String)
  | database (workingDir : String) (migration : MigrationConfig)
  | trafficMonitor
  | networkInterfaceManager
  | namespaceManager
  | cni
  | networkManager (workingDir : String)
  | resourceUsageProvider
  | resourceMonitor (monitoring : MonitoringConfig)
  | downloadServicesSpaceAllocator (downloadDir : String)
  | downloadLayersSpaceAllocator (downloadDir : String)
  | servicesSpaceAllocator (servicesDir : String) (partLimit : UInt64)
  | layersSpaceAllocator (layersDir : String) (partLimit : UInt64)
  | imageHandler
  | serviceManager (config : ManagerConfig)
  | layerManager (config : ManagerConfig)
  | runner
  | launcher (config : LauncherConfig cMaxNumHostBinds cMaxNumHosts)
  | smClient (config : SMClientConfig)
  | logProvider (config : LoggingConfig)
  | journalAlerts (config : JournalAlertsConfig)

namespace InitCall

variable {cMaxNumHostBinds cMaxNumHosts : Nat}

/-- The message `Init` throws with when the call fails. -/
def message : InitCall cMaxNumHostBinds cMaxNumHosts → String
  | cryptoProvider => "can't initialize crypto provider"
  | certLoader => "can't initialize cert loader"
  | iamClientPublic _ => "can't initialize public IAM client"
  | getNodeInfo => "can't get node info"
  | iamClientPermissions _ _ => "can't initialize permissions IAM client"
  | hostDeviceManager => "can't initialize host device manager"
  | resourceManager _ => "can't initialize resource manager"
  | database _ _ => "can't initialize database"
  | trafficMonitor => "can't initialize traffic monitor"
  | networkInterfaceManager => "can't initialize network interface manager"
  | namespaceManager => "can't initialize namespace manager"
  | cni => "can't initialize CNI"
  | networkManager _ => "can't initialize network manager"
  | resourceUsageProvider => "can't initialize resource usage provider"
  | resourceMonitor _ => "can't initialize resource monitor"
  | downloadServicesSpaceAllocator _ => "can't initialize download services space allocator"
  | downloadLayersSpaceAllocator _ => "can't initialize download layers space allocator"
  | servicesSpaceAllocator _ _ => "can't initialize services space allocator"
  | layersSpaceAllocator _ _ => "can't initialize layers space allocator"
  | imageHandler => "can't initialize image handler"
  | serviceManager _ => "can't initialize service manager"
  | layerManager _ => "can't initialize layer manager"
  | runner => "can't initialize runner"
  | launcher _ => "can't initialize launcher"
  | smClient _ => "can't initialize SM client"
  | logProvider _ => "can't initialize logprovider"
  | journalAlerts _ => "can't initialize journalalerts"

/-- What the call returns: `runnerInit` for the runner, else the collaborator's answer. -/
def result (answer : InitCall cMaxNumHostBinds cMaxNumHosts → Error) : InitCall cMaxNumHostBinds cMaxNumHosts → Error
  | runner => runnerInit
  | call => answer call

end InitCall

variable {cMaxNumHostBinds cMaxNumHosts : Nat}

/-- The calls of `AosCore::Init` after `ParseConfig`, in order, on the config it parsed. -/
def initCalls (config : Config cMaxNumHostBinds cMaxNumHosts) : List (InitCall cMaxNumHostBinds cMaxNumHosts) :=
  [.cryptoProvider, .certLoader, .iamClientPublic config.iamClientConfig, .getNodeInfo,
   .iamClientPermissions config.iamProtectedServerURL config.certStorage, .hostDeviceManager,
   .resourceManager (cStr config.nodeConfigFile), .database config.workingDir config.migration, .trafficMonitor,
   .networkInterfaceManager, .namespaceManager, .cni, .networkManager (cStr config.workingDir),
   .resourceUsageProvider, .resourceMonitor config.monitoring,
   .downloadServicesSpaceAllocator config.serviceManagerConfig.downloadDir,
   .downloadLayersSpaceAllocator config.layerManagerConfig.downloadDir,
   .servicesSpaceAllocator config.serviceManagerConfig.dir config.serviceManagerConfig.partLimit,
   .layersSpaceAllocator config.layerManagerConfig.dir config.layerManagerConfig.partLimit, .imageHandler,
   .serviceManager config.serviceManagerConfig, .layerManager config.layerManagerConfig, .runner,
   .launcher config.launcherConfig, .smClient config.smClientConfig, .logProvider config.logging,
   .journalAlerts config.journalAlerts]

section Init

variable {Obj : Type} (L : Library Obj) (cLogContentLen : UInt64) (cDefaultConfigFile : String)
  (readFile : String → Option String)

/-- `AosCore::Init(configFile)` on the core's `mConfig`: `loggerInit` is what `mLogger.Init()`
returns, `readFile` the text of a file (none when it cannot be opened) and `answer` what each
component call returns. The calls made, the exception, and the config. -/
def Init (loggerInit : Error) (answer : InitCall cMaxNumHostBinds cMaxNumHosts → Error) (configFile : String)
    (config : Config cMaxNumHostBinds cMaxNumHosts) :
    List (InitCall cMaxNumHostBinds cMaxNumHosts) × Option AosException × Config cMaxNumHostBinds cMaxNumHosts :=
  if !loggerInit.IsNone then ([], some ⟨loggerInit, "can't initialize logger"⟩, config) else
  let parsed := ParseConfig L cLogContentLen (readFile (if configFile.isEmpty then cDefaultConfigFile else configFile))
    config
  if !parsed.1.IsNone then ([], some ⟨parsed.1, "can't parse config"⟩, parsed.2) else
  ((checkAll (InitCall.result answer) InitCall.message (initCalls parsed.2)).1,
    (checkAll (InitCall.result answer) InitCall.message (initCalls parsed.2)).2, parsed.2)

/-- In a prefix of `a ++ y :: b` that holds `y`, and `y` not in `a`, every element of `a`
stands. -/
theorem mem_of_prefix_before {α : Type} {l a b : List α} {x y : α} (hp : l <+: a ++ y :: b) (hy : y ∈ l)
    (ha : y ∉ a) (hx : x ∈ a) : x ∈ l := by
  rcases List.prefix_or_prefix_of_prefix hp (List.prefix_append a (y :: b)) with h | h
  · exact absurd (h.subset hy) ha
  · exact h.subset hx

/-- What `Init` does: a failed logger or `ParseConfig` ends it before any component, with the
config as that step left it; otherwise it makes the calls of `initCalls` on the config
`ParseConfig` returned, in order, up to the first that fails, and throws with that call's
message. So the journal alerts are initialised only with priorities in `[0, 7]`, and the
download space allocator of the layers only on the directory the one of the services was
initialised on before it. -/
theorem Init_components (loggerInit : Error) (answer : InitCall cMaxNumHostBinds cMaxNumHosts → Error)
    (configFile : String) (config : Config cMaxNumHostBinds cMaxNumHosts) :
    let parsed := ParseConfig L cLogContentLen (readFile (if configFile.isEmpty then cDefaultConfigFile else configFile))
      config
    let init := Init L cLogContentLen cDefaultConfigFile readFile loggerInit answer configFile config
    (loggerInit.IsNone = false → init = ([], some ⟨loggerInit, "can't initialize logger"⟩, config)) ∧
    (loggerInit.IsNone = true → parsed.1.IsNone = false → init = ([], some ⟨parsed.1, "can't parse config"⟩, parsed.2)) ∧
    (loggerInit.IsNone = true → parsed.1.IsNone = true →
      init = ((initCalls parsed.2).take (((initCalls parsed.2).takeWhile fun c => (c.result answer).IsNone).length + 1),
        ((initCalls parsed.2).find? fun c => !(c.result answer).IsNone).map fun c => ⟨c.result answer, c.message⟩,
        parsed.2) ∧
      parsed.2.journalAlerts.Valid ∧ parsed.2.serviceManagerConfig.downloadDir = parsed.2.layerManagerConfig.downloadDir) ∧
    (∀ c, InitCall.journalAlerts c ∈ init.1 → c.Valid) ∧
    ∀ dir, InitCall.downloadLayersSpaceAllocator dir ∈ init.1 → InitCall.downloadServicesSpaceAllocator dir ∈ init.1 := by
  intro parsed init
  -- the three ways `Init` ends
  have logger : loggerInit.IsNone = false → init = ([], some ⟨loggerInit, "can't initialize logger"⟩, config) :=
    fun hl => by simp only [init, Init, hl, Bool.not_false, ↓reduceIte]
  have parse : loggerInit.IsNone = true → parsed.1.IsNone = false →
      init = ([], some ⟨parsed.1, "can't parse config"⟩, parsed.2) := fun hl hp => by
    simp only [parsed] at hp
    simp only [init, parsed, Init, hl, hp, Bool.not_true, Bool.false_eq_true, ↓reduceIte, Bool.not_false]
  have success : loggerInit.IsNone = true → parsed.1.IsNone = true →
      init = ((checkAll (InitCall.result answer) InitCall.message (initCalls parsed.2)).1,
        (checkAll (InitCall.result answer) InitCall.message (initCalls parsed.2)).2, parsed.2) := fun hl hp => by
    simp only [parsed] at hp
    simp only [init, parsed, Init, hl, hp, Bool.not_true, Bool.false_eq_true, ↓reduceIte]
  have valid : parsed.1.IsNone = true → parsed.2.journalAlerts.Valid := fun hp =>
    let ⟨_, object, _, _, hr⟩ := ParseConfig_IsNone_object L cLogContentLen hp
    parseObject_journalAlerts_valid L cLogContentLen object config () _ trivial hr
  refine ⟨logger, parse,
    fun hl hp => ⟨by rw [success hl hp, checkAll_spec], valid hp, ParseConfig_downloadDir L cLogContentLen hp⟩, ?_⟩
  -- the components called are a prefix of `initCalls` on a parsed config
  have calls : init.1 = [] ∨ parsed.1.IsNone = true ∧ init.1 <+: initCalls parsed.2 := by
    cases hl : loggerInit.IsNone
    · exact .inl (by rw [logger hl])
    · cases hp : parsed.1.IsNone
      · exact .inl (by rw [parse hl hp])
      · exact .inr ⟨rfl, by rw [success hl hp]; exact checkAll_prefix _ _ _⟩
  rcases calls with h | ⟨hp, hpre⟩
  · simp only [h, List.not_mem_nil, false_implies, implies_true, and_self]
  have hd : parsed.2.serviceManagerConfig.downloadDir = parsed.2.layerManagerConfig.downloadDir :=
    ParseConfig_downloadDir L cLogContentLen hp
  refine ⟨fun c hc => ?_, fun dir hc => ?_⟩
  · have hm := hpre.subset hc
    simp only [initCalls, List.mem_cons, reduceCtorEq, InitCall.journalAlerts.injEq, List.not_mem_nil,
      false_or, or_false] at hm
    exact hm ▸ valid hp
  · have hm := hpre.subset hc
    simp only [initCalls, List.mem_cons, reduceCtorEq, InitCall.downloadLayersSpaceAllocator.injEq,
      List.not_mem_nil, false_or, or_false] at hm
    subst hm
    refine mem_of_prefix_before (a := (initCalls _).take 16) (b := (initCalls _).drop 17) hpre hc
      (by simp [initCalls]) ?_
    simp only [initCalls, hd, List.take, List.mem_cons, true_or, or_true]

end Init

end App
end AosServiceManager
