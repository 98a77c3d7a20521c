import AosServiceManager.Runner.RunParameters

/-! `config/config.cpp`: `ParseConfig` reads the JSON file into the `Config` it is given, each
part through a parser that writes its out-parameter as it goes and may throw (`Parse`). What
the parsers use of Poco and of the aos libraries is a parameter, `Library`. -/
namespace AosServiceManager
namespace Configuration

open Runner (Duration)

/-- The error an exception carries once `ToAosError` has turned it into an `Error`: never
`eNone`. -/
def Failure : Type := {err : Error // err.IsNone = false}

/-- A parser writing an out-parameter of type `σ`: the fields written before an exception
stay written. -/
abbrev Parse (σ : Type) := ExceptT Failure (StateM σ)

namespace Parse

variable {σ τ α β : Type}

/-- Run `p` from the state `s`: how it ends, and the state it leaves. -/
def exec (p : Parse σ α) (s : σ) : Except Failure α × σ := p.run.run s

/-- A value of the library that may be an exception. -/
def ofExcept (x : Except Failure α) : Parse σ α := ExceptT.mk (pure x)

/-- Run `p` on the member of the state that `get` reads and `set` writes, as a parser is
handed a member of its caller's config by reference. -/
def onPart (get : σ → τ) (set : σ → τ → σ) (p : Parse τ α) : Parse σ α :=
  ExceptT.mk fun s => ((p.exec (get s)).1, set s (p.exec (get s)).2)

@[simp] theorem exec_pure (a : α) (s : σ) : (pure a : Parse σ α).exec s = (.ok a, s) := rfl

@[simp] theorem exec_throw (e : Failure) (s : σ) : (throw e : Parse σ α).exec s = (.error e, s) := rfl

@[simp] theorem exec_modify (f : σ → σ) (s : σ) : (modify f : Parse σ PUnit).exec s = (.ok ⟨⟩, f s) := rfl

@[simp] theorem exec_get (s : σ) : (get : Parse σ σ).exec s = (.ok s, s) := rfl

@[simp] theorem exec_ofExcept (x : Except Failure α) (s : σ) : (ofExcept x : Parse σ α).exec s = (x, s) := rfl

@[simp] theorem exec_onPart (get : σ → τ) (set : σ → τ → σ) (p : Parse τ α) (s : σ) :
    (onPart get set p).exec s = ((p.exec (get s)).1, set s (p.exec (get s)).2) := rfl

theorem exec_bind (p : Parse σ α) (f : α → Parse σ β) (s : σ) :
    (p >>= f).exec s = match p.exec s with
      | (.ok a, s') => (f a).exec s'
      | (.error e, s') => (.error e, s') := by
  simp only [exec, ExceptT.run_bind, StateT.run_bind]
  rcases p.run.run s with ⟨_ | _, _⟩ <;> rfl

/-! ### Triples

`Triple P p Q`: a run of `p` from a state satisfying `P` that ends without an exception ends
in a state satisfying `Q` of its result. -/

def Triple (P : σ → Prop) (p : Parse σ α) (Q : α → σ → Prop) : Prop :=
  ∀ s a s', P s → p.exec s = (.ok a, s') → Q a s'

namespace Triple

variable {P : σ → Prop} {Q : α → σ → Prop}

theorem pure_rule {a : α} (h : ∀ s, P s → Q a s) : Triple P (Pure.pure a) Q := by
  rintro s b s' hs ⟨⟩
  exact h s hs

theorem modify_rule {f : σ → σ} {Q : PUnit → σ → Prop} (h : ∀ s, P s → Q ⟨⟩ (f s)) :
    Triple P (modify f : Parse σ PUnit) Q := by
  rintro s ⟨⟩ s' hs ⟨⟩
  exact h s hs

theorem ofExcept_rule {x : Except Failure α} (h : ∀ s a, P s → x = .ok a → Q a s) : Triple P (Parse.ofExcept x) Q := by
  intro s a s' hs he
  simp only [exec_ofExcept, Prod.mk.injEq] at he
  exact he.2 ▸ h s a hs he.1

theorem throw_rule {e : Failure} : Triple P (throw e : Parse σ α) Q := by
  rintro s a s' - ⟨⟩

theorem bind_rule {R : α → σ → Prop} {p : Parse σ α} {f : α → Parse σ β} {Q : β → σ → Prop}
    (hp : Triple P p R) (hf : ∀ a, Triple (R a) (f a) Q) : Triple P (p >>= f) Q := by
  intro s b s'' hs h
  rw [exec_bind] at h
  rcases hps : p.exec s with ⟨_ | a, s'⟩ <;> rw [hps] at h
  · cases h
  · exact hf a s' b s'' (hp s a s' hs hps) h

theorem mono {P' : σ → Prop} {Q' : α → σ → Prop} {p : Parse σ α} (h : Triple P p Q) (hP : ∀ s, P' s → P s)
    (hQ : ∀ a s, Q a s → Q' a s) : Triple P' p Q' :=
  fun s a s' hs he => hQ a s' (h s a s' (hP s hs) he)

/-- Any run that ends without an exception ends somewhere. -/
theorem true_rule (p : Parse σ α) : Triple P p fun _ _ => True := fun _ _ _ _ _ => trivial

/-- A parser on a member of the state keeps what depends only on the other members. -/
theorem onPart_frame {get : σ → τ} {set : σ → τ → σ} (g : σ → β) (hg : ∀ s t, g (set s t) = g s) (R : β → Prop)
    (p : Parse τ α) : Triple (fun s => R (g s)) (onPart get set p) fun _ s => R (g s) := by
  intro s a s' hs he
  simp only [exec_onPart, Prod.mk.injEq] at he
  rw [← he.2, hg]
  exact hs

/-- What a parser on a member of the state establishes of that member. -/
theorem onPart_part {get : σ → τ} {set : σ → τ → σ} (hget : ∀ s t, get (set s t) = t) {R : α → τ → Prop}
    {p : Parse τ α} (hp : Triple (fun _ => True) p R) :
    Triple (fun _ => True) (onPart get set p) fun a s => R a (get s) := by
  rintro s a s' - he
  simp only [exec_onPart, Prod.mk.injEq] at he
  rw [← he.2, hget]
  exact hp _ a _ trivial (Prod.ext he.1 rfl)

end Triple

end Parse

/-! ### The library -/

/-- What the parsers use of Poco and of the aos common library. `Obj` is a JSON object as
`CaseInsensitiveObjectWrapper` reads it: whether it `Has` a key, the object under a key, and
`GetOptionalValue<T>` of a key for each type `T` read, absent for a missing key and an error
where the conversion throws. `GetStrings` and `GetObjects` are `GetArrayValue` of a key, and
`empty` is a fresh `Poco::JSON::Object`. `parse` is `Poco::JSON::Parser` on the file's text,
`ParseDuration` parses a duration, and `ToAosError` is the error the `catch` of `ParseConfig`
returns for the exception of `AOS_ERROR_CHECK_AND_THROW(err, message)`. An exception's error
is a `Failure`, as `ToAosError` gives it. `StaticString cap s` is the aos `StaticString<cap>`
built from the C string `s`, whose text is `s` when it fits `cap` bytes; `cFilePathLen`,
`cIPLen` and `cHostNameLen` are the capacities of a path and of a host's texts. -/
structure Library (Obj : Type) where
  parse : String → Except Failure Obj
  Has : Obj → String → Bool
  GetObject : Obj → String → Except Failure Obj
  empty : Obj
  GetString : Obj → String → Except Failure (Option String)
  GetInt : Obj → String → Except Failure (Option Int)
  GetUInt64 : Obj → String → Except Failure (Option UInt64)
  GetUInt32 : Obj → String → Except Failure (Option UInt32)
  GetStrings : Obj → String → Except Failure (List String)
  GetObjects : Obj → String → Except Failure (List Obj)
  ParseDuration : String → Duration × Error
  ToAosError : Failure → String → Failure
  StaticString : Nat → String → String
  cFilePathLen : Nat
  cIPLen : Nat
  cHostNameLen : Nat

/-! ### The configuration -/

def cDefaultServiceTTLDays : String := "30d"
def cDefaultLayerTTLDays : String := "30d"
def cDefaultCMReconnectTimeout : String := "10s"
def cDefaultMonitoringPollPeriod : String := "35s"
def cDefaultMonitoringAverageWindow : String := "35s"
def cDefaultServiceAlertPriority : Int := 4
def cDefaultSystemAlertPriority : Int := 3
def cMaxAlertPriorityLevel : Int := 7
def cMinAlertPriorityLevel : Int := 0

structure IAMClientConfig where
  iamPublicServerURL : String
  caCert : String

/-- The fields `ParseConfig` sets of `layermanager::Config` and of `servicemanager::Config`,
alike in both: the directory of the layers or services, the download directory, the
partition limit, the time to live and the period of the removal of outdated items. -/
structure ManagerConfig where
  dir : String
  downloadDir : String
  partLimit : UInt64
  ttl : Duration
  removeOutdatedPeriod : Duration

structure Host where
  ip : String
  hostname : String

/-- `launcher::Config`, its host binds and hosts bounded by `cMaxNumHostBinds` and
`cMaxNumHosts`. -/
structure LauncherConfig (cMaxNumHostBinds cMaxNumHosts : Nat) where
  storageDir : String
  stateDir : String
  workDir : String
  hostBinds : StaticArray String cMaxNumHostBinds
  hosts : StaticArray Host cMaxNumHosts
  removeOutdatedPeriod : Duration

structure SMClientConfig where
  certStorage : String
  cmServerURL : String
  cmReconnectTimeout : Duration

structure MonitoringConfig where
  pollPeriod : Duration
  averageWindow : Duration

structure LoggingConfig where
  maxPartSize : UInt64
  maxPartCount : UInt64

structure JournalAlertsConfig where
  filter : List String
  serviceAlertPriority : Int
  systemAlertPriority : Int

structure MigrationConfig where
  migrationPath : String
  mergedMigrationPath : String

structure Config (cMaxNumHostBinds cMaxNumHosts : Nat) where
  iamClientConfig : IAMClientConfig
  layerManagerConfig : ManagerConfig
  serviceManagerConfig : ManagerConfig
  launcherConfig : LauncherConfig cMaxNumHostBinds cMaxNumHosts
  smClientConfig : SMClientConfig
  certStorage : String
  iamProtectedServerURL : String
  workingDir : String
  servicesPartLimit : UInt32
  layersPartLimit : UInt32
  nodeConfigFile : String
  monitoring : MonitoringConfig
  logging : LoggingConfig
  journalAlerts : JournalAlertsConfig
  migration : MigrationConfig

/-- `JoinPath`: `std::filesystem::path(base) / entry` for a relative `entry`, which puts a
separator between them unless `base` is empty or ends in one. -/
def JoinPath (base entry : String) : String :=
  if base.isEmpty || base.endsWith "/" then base ++ entry else base ++ "/" ++ entry

/-- The check `ParseJournalAlertsConfig` makes of a priority it reads: one outside
`[cMinAlertPriorityLevel, cMaxAlertPriorityLevel]` is replaced by `default`, with the warning
it logs, which prints `logged`. -/
def checkAlertPriority (kind : String) (value : Option Int) (default logged : Int) : Int × Option String :=
  let priority := value.getD default
  if priority > cMaxAlertPriorityLevel ∨ priority < cMinAlertPriorityLevel then
    (default, some ("Default value is set for " ++ kind ++ " alert priority: value=" ++ toString logged))
  else (priority, none)

/-! ### The parsers -/

section Parsers

variable {Obj : Type} (L : Library Obj) {σ α : Type}

/-- `GetValue<T>(key, default)`: the value of `GetOptionalValue<T>(key)`, or `default`. -/
def getValue (read : Obj → String → Except Failure (Option α)) (object : Obj) (key : String) (default : α) :
    Parse σ α :=
  Parse.ofExcept ((read object key).map (·.getD default))

/-- `AOS_ERROR_CHECK_AND_THROW(err, message)`. -/
def errorCheckAndThrow (err : Error) (message : String) : Parse σ Unit :=
  if h : !err.IsNone then throw (L.ToAosError ⟨err, by simpa using h⟩ message) else pure ()

/-- `Tie(field, err) = ParseDuration(text)`, then `AOS_ERROR_CHECK_AND_THROW(err, message)`:
the field is written before the check. -/
def tieDuration (text : String) (set : σ → Duration → σ) (message : String) : Parse σ Unit := do
  let (duration, err) := L.ParseDuration text
  modify (set · duration)
  errorCheckAndThrow L err message

@[simp] theorem getValue_exec (read : Obj → String → Except Failure (Option α)) (object : Obj) (key : String)
    (default : α) (s : σ) :
    (getValue read object key default : Parse σ α).exec s = ((read object key).map (·.getD default), s) := rfl

@[simp] theorem errorCheckAndThrow_of_IsNone {err : Error} (h : err.IsNone) (message : String) :
    (errorCheckAndThrow L err message : Parse σ Unit) = pure () :=
  dif_neg (by rw [h]; decide)

/-- The optional `removeOutdatedPeriod` of the layer manager, service manager and launcher. -/
def parseRemoveOutdatedPeriod (object : Obj) (set : σ → Duration → σ) : Parse σ Unit := do
  match ← Parse.ofExcept (L.GetString object "removeOutdatedPeriod") with
  | some removeOutdatedPeriod => tieDuration L removeOutdatedPeriod set "error parsing removeOutdatedPeriod tag"
  | none => pure ()

def ParseMonitoringConfig (object : Obj) : Parse MonitoringConfig Unit := do
  let pollPeriod ← (if L.Has object "monitoring" then do
      let monitoring ← Parse.ofExcept (L.GetObject object "monitoring")
      getValue L.GetString monitoring "pollPeriod" cDefaultMonitoringPollPeriod
    else pure cDefaultMonitoringPollPeriod)
  let averageWindow ← (if L.Has object "monitoring" then do
      let monitoring ← Parse.ofExcept (L.GetObject object "monitoring")
      getValue L.GetString monitoring "averageWindow" cDefaultMonitoringAverageWindow
    else pure cDefaultMonitoringAverageWindow)
  tieDuration L pollPeriod (fun c d => { c with pollPeriod := d }) "error parsing pollPeriod tag"
  tieDuration L averageWindow (fun c d => { c with averageWindow := d }) "error parsing averageWindow tag"

/-- `ParseLoggingConfig`; `cLogContentLen` is the length of a log part of the cloud protocol. -/
def ParseLoggingConfig (cLogContentLen : UInt64) (object : Obj) : Parse LoggingConfig Unit := do
  let maxPartSize ← getValue L.GetUInt64 object "maxPartSize" cLogContentLen
  modify fun c => { c with maxPartSize := maxPartSize }
  let maxPartCount ← getValue L.GetUInt64 object "maxPartCount" 80
  modify fun c => { c with maxPartCount := maxPartCount }

/-- `ParseJournalAlertsConfig`, returning the warnings it logs. -/
def ParseJournalAlertsConfig (object : Obj) : Parse JournalAlertsConfig (List String) := do
  let filter ← Parse.ofExcept (L.GetStrings object "filter")
  modify fun c => { c with filter := filter }
  let service := checkAlertPriority "service" (← Parse.ofExcept (L.GetInt object "serviceAlertPriority"))
    cDefaultServiceAlertPriority cDefaultServiceAlertPriority
  modify fun c => { c with serviceAlertPriority := service.1 }
  let system := checkAlertPriority "system" (← Parse.ofExcept (L.GetInt object "systemAlertPriority"))
    cDefaultSystemAlertPriority cDefaultServiceAlertPriority
  modify fun c => { c with systemAlertPriority := system.1 }
  pure (service.2.toList ++ system.2.toList)

def ParseHostConfig (object : Obj) : Except Failure Host := do
  let ip ← (L.GetString object "ip").map (·.getD "")
  let hostname ← (L.GetString object "hostname").map (·.getD "")
  pure ⟨L.StaticString L.cIPLen (cStr ip), L.StaticString L.cHostNameLen (cStr hostname)⟩

def ParseMigrationConfig (object : Obj) (workingDir : String) : Parse MigrationConfig Unit := do
  let migrationPath ← getValue L.GetString object "migrationPath" "/usr/share/aos/servicemanager/migration"
  modify fun c => { c with migrationPath := migrationPath }
  let mergedMigrationPath ← getValue L.GetString object "mergedMigrationPath"
    (cStr (JoinPath workingDir "mergedMigration"))
  modify fun c => { c with mergedMigrationPath := mergedMigrationPath }

def ParseIAMClientConfig (object : Obj) : Parse IAMClientConfig Unit := do
  let iamPublicServerURL ← getValue L.GetString object "iamPublicServerURL" ""
  modify fun c => { c with iamPublicServerURL := iamPublicServerURL }
  let caCert ← getValue L.GetString object "caCert" ""
  modify fun c => { c with caCert := caCert }

/-- `ParseServiceManagerConfig` and `ParseLayerManagerConfig`, which differ in the keys of the
directory, of the partition limit and of the time to live, in the directory's name and in
the default time to live. -/
def parseManagerConfig (dirKey dirName partLimitKey ttlKey cDefaultTTL ttlMessage : String) (object : Obj)
    (workingDir : String) : Parse ManagerConfig Unit := do
  let dir ← getValue L.GetString object dirKey (JoinPath workingDir dirName)
  modify fun c => { c with dir := cStr dir }
  let downloadDir ← getValue L.GetString object "downloadDir" (JoinPath workingDir "downloads")
  modify fun c => { c with downloadDir := cStr downloadDir }
  let partLimit ← getValue L.GetUInt64 object partLimitKey 0
  modify fun c => { c with partLimit := partLimit }
  let ttl ← getValue L.GetString object ttlKey cDefaultTTL
  tieDuration L ttl (fun c d => { c with ttl := d }) ttlMessage
  parseRemoveOutdatedPeriod L object fun c d => { c with removeOutdatedPeriod := d }

def ParseServiceManagerConfig : Obj → String → Parse ManagerConfig Unit :=
  parseManagerConfig L "servicesDir" "services" "servicesPartLimit" "serviceTTL" cDefaultServiceTTLDays
    "error parsing serviceTTL tag"

def ParseLayerManagerConfig : Obj → String → Parse ManagerConfig Unit :=
  parseManagerConfig L "layersDir" "layers" "layersPartLimit" "layerTTL" cDefaultLayerTTLDays
    "error parsing layerTTL tag"

/-- A host bind as `EmplaceBack(hostBind.c_str())` stores it: the `StaticString<cFilePathLen>`
of its C string. -/
def hostBindEntry (hostBind : String) : String := L.StaticString L.cFilePathLen (cStr hostBind)

def ParseLauncherConfig {cMaxNumHostBinds cMaxNumHosts : Nat} (object : Obj) (workingDir : String) :
    Parse (LauncherConfig cMaxNumHostBinds cMaxNumHosts) Unit := do
  let storageDir ← getValue L.GetString object "storageDir" (JoinPath workingDir "storages")
  modify fun c => { c with storageDir := L.StaticString L.cFilePathLen (cStr storageDir) }
  let stateDir ← getValue L.GetString object "stateDir" (JoinPath workingDir "states")
  modify fun c => { c with stateDir := L.StaticString L.cFilePathLen (cStr stateDir) }
  modify fun c => { c with workDir := L.StaticString L.cFilePathLen (cStr workingDir) }
  let hostBinds ← Parse.ofExcept (L.GetStrings object "hostBinds")
  let pushed := (← get).hostBinds.pushAll (hostBinds.map (hostBindEntry L))
  modify fun c => { c with hostBinds := pushed.2 }
  errorCheckAndThrow L pushed.1 "error parsing hostBinds tag"
  let hosts ← Parse.ofExcept ((← Parse.ofExcept (L.GetObjects object "hosts")).mapM (ParseHostConfig L))
  let pushed := (← get).hosts.pushAll hosts
  modify fun c => { c with hosts := pushed.2 }
  errorCheckAndThrow L pushed.1 "error parsing hosts tag"
  parseRemoveOutdatedPeriod L object fun c d => { c with removeOutdatedPeriod := d }

def ParseSMClientConfig (object : Obj) : Parse SMClientConfig Unit := do
  let certStorage ← getValue L.GetString object "certStorage" ""
  modify fun c => { c with certStorage := cStr certStorage }
  let cmServerURL ← getValue L.GetString object "cmServerURL" ""
  modify fun c => { c with cmServerURL := cmServerURL }
  let cmReconnectTimeout ← getValue L.GetString object "cmReconnectTimeout" cDefaultCMReconnectTimeout
  tieDuration L cmReconnectTimeout (fun c d => { c with cmReconnectTimeout := d })
    "error parsing cmReconnectTimeout tag"

variable {cMaxNumHostBinds cMaxNumHosts : Nat}

/-- The `try` block of `ParseConfig`, once the file is parsed into `object`. -/
def parseObject (cLogContentLen : UInt64) (object : Obj) : Parse (Config cMaxNumHostBinds cMaxNumHosts) Unit := do
  let workingDir ← getValue L.GetString object "workingDir" ""
  modify fun c => { c with workingDir := workingDir }
  Parse.onPart (·.iamClientConfig) (fun c x => { c with iamClientConfig := x }) (ParseIAMClientConfig L object)
  Parse.onPart (·.layerManagerConfig) (fun c x => { c with layerManagerConfig := x })
    (ParseLayerManagerConfig L object workingDir)
  Parse.onPart (·.serviceManagerConfig) (fun c x => { c with serviceManagerConfig := x })
    (ParseServiceManagerConfig L object workingDir)
  Parse.onPart (·.launcherConfig) (fun c x => { c with launcherConfig := x }) (ParseLauncherConfig L object workingDir)
  Parse.onPart (·.smClientConfig) (fun c x => { c with smClientConfig := x }) (ParseSMClientConfig L object)
  let certStorage ← getValue L.GetString object "certStorage" "/var/aos/crypt/sm/"
  modify fun c => { c with certStorage := certStorage }
  let iamProtectedServerURL ← getValue L.GetString object "iamProtectedServerURL" ""
  modify fun c => { c with iamProtectedServerURL := iamProtectedServerURL }
  let servicesPartLimit ← getValue L.GetUInt32 object "servicesPartLimit" 0
  modify fun c => { c with servicesPartLimit := servicesPartLimit }
  let layersPartLimit ← getValue L.GetUInt32 object "layersPartLimit" 0
  modify fun c => { c with layersPartLimit := layersPartLimit }
  let nodeConfigFile ← getValue L.GetString object "nodeConfigFile" (JoinPath workingDir "aos_node.cfg")
  modify fun c => { c with nodeConfigFile := nodeConfigFile }
  Parse.onPart (·.monitoring) (fun c x => { c with monitoring := x }) (ParseMonitoringConfig L object)
  let logging ← (if L.Has object "logging" then Parse.ofExcept (L.GetObject object "logging") else pure L.empty)
  let journalAlerts ←
    (if L.Has object "journalAlerts" then Parse.ofExcept (L.GetObject object "journalAlerts") else pure L.empty)
  let migration ← (if L.Has object "migration" then Parse.ofExcept (L.GetObject object "migration") else pure L.empty)
  Parse.onPart (·.logging) (fun c x => { c with logging := x }) (ParseLoggingConfig L cLogContentLen logging)
  let _ ← Parse.onPart (·.journalAlerts) (fun c x => { c with journalAlerts := x })
    (ParseJournalAlertsConfig L journalAlerts)
  Parse.onPart (·.migration) (fun c x => { c with migration := x }) (ParseMigrationConfig L migration workingDir)

/-- `ParseConfig`: `file` is the text of the file, absent when it cannot be opened. It returns
the error and the config as written. -/
def ParseConfig (cLogContentLen : UInt64) (file : Option String) (config : Config cMaxNumHostBinds cMaxNumHosts) :
    Error × Config cMaxNumHostBinds cMaxNumHosts :=
  match file with
  | none => (.ofEnum .notFound "", config)
  | some text =>
    match (Parse.ofExcept (L.parse text) >>= parseObject L cLogContentLen).exec config with
    | (.ok _, config) => (.none, config)
    | (.error err, config) => (err.1, config)

end Parsers

/-! ### Alert priorities -/

/-- A priority within `[cMinAlertPriorityLevel, cMaxAlertPriorityLevel]`. -/
def ValidAlertPriority (level : Int) : Prop := cMinAlertPriorityLevel ≤ level ∧ level ≤ cMaxAlertPriorityLevel

instance (level : Int) : Decidable (ValidAlertPriority level) :=
  inferInstanceAs (Decidable (_ ∧ _))

/-- Both priorities of the journal alerts are valid. -/
def JournalAlertsConfig.Valid (config : JournalAlertsConfig) : Prop :=
  ValidAlertPriority config.serviceAlertPriority ∧ ValidAlertPriority config.systemAlertPriority

section Check

variable (kind : String) (value : Option Int) (default logged : Int)

theorem checkAlertPriority_of_valid (h : ValidAlertPriority (value.getD default)) :
    checkAlertPriority kind value default logged = (value.getD default, none) := by
  simp only [ValidAlertPriority, cMinAlertPriorityLevel, cMaxAlertPriorityLevel] at h
  simp only [checkAlertPriority, cMinAlertPriorityLevel, cMaxAlertPriorityLevel]
  rw [if_neg (by omega)]

theorem checkAlertPriority_of_invalid (h : ¬ ValidAlertPriority (value.getD default)) :
    checkAlertPriority kind value default logged =
      (default, some ("Default value is set for " ++ kind ++ " alert priority: value=" ++ toString logged)) := by
  simp only [ValidAlertPriority, cMinAlertPriorityLevel, cMaxAlertPriorityLevel] at h
  simp only [checkAlertPriority, cMinAlertPriorityLevel, cMaxAlertPriorityLevel]
  rw [if_pos (by omega)]

/-- The check keeps a valid priority and replaces any other by `default`: with a valid
default, what it returns is valid. -/
theorem checkAlertPriority_valid (h : ValidAlertPriority default) :
    ValidAlertPriority (checkAlertPriority kind value default logged).1 := by
  by_cases hv : ValidAlertPriority (value.getD default)
  · rw [checkAlertPriority_of_valid kind value default logged hv]; exact hv
  · rw [checkAlertPriority_of_invalid kind value default logged hv]; exact h

end Check

section Journal

variable {Obj : Type} (L : Library Obj)

theorem ParseJournalAlertsConfig_ok {object : Obj} {c c' : JournalAlertsConfig} {warnings : List String}
    (h : (ParseJournalAlertsConfig L object).exec c = (.ok warnings, c')) :
    ∃ filter service system, L.GetStrings object "filter" = .ok filter ∧
      L.GetInt object "serviceAlertPriority" = .ok service ∧ L.GetInt object "systemAlertPriority" = .ok system ∧
      c' = ⟨filter, (checkAlertPriority "service" service cDefaultServiceAlertPriority cDefaultServiceAlertPriority).1,
        (checkAlertPriority "system" system cDefaultSystemAlertPriority cDefaultServiceAlertPriority).1⟩ ∧
      warnings = (checkAlertPriority "service" service cDefaultServiceAlertPriority cDefaultServiceAlertPriority).2.toList ++
        (checkAlertPriority "system" system cDefaultSystemAlertPriority cDefaultServiceAlertPriority).2.toList := by
  simp only [ParseJournalAlertsConfig, Parse.exec_bind, Parse.exec_ofExcept, Parse.exec_modify, Parse.exec_pure] at h
  rcases hf : L.GetStrings object "filter" with _ | filter <;> simp only [hf] at h
  · cases h
  rcases hs : L.GetInt object "serviceAlertPriority" with _ | service <;> simp only [hs] at h
  · cases h
  rcases hy : L.GetInt object "systemAlertPriority" with _ | system <;> simp only [hy] at h
  · cases h
  obtain ⟨⟩ := h
  exact ⟨filter, service, system, rfl, rfl, rfl, rfl, rfl⟩

theorem ParseJournalAlertsConfig_valid (object : Obj) :
    Parse.Triple (fun _ => True) (ParseJournalAlertsConfig L object) fun _ c => c.Valid := by
  rintro c warnings c' - h
  obtain ⟨filter, service, system, -, -, -, rfl, -⟩ := ParseJournalAlertsConfig_ok L h
  exact ⟨checkAlertPriority_valid _ _ _ _ (by decide), checkAlertPriority_valid _ _ _ _ (by decide)⟩

end Journal

/-! ### The whole file -/

section File

variable {Obj : Type} (L : Library Obj) {cMaxNumHostBinds cMaxNumHosts : Nat} (cLogContentLen : UInt64)

/-- After a `try` block that ends without an exception, both journal alert priorities are
valid: the journal alerts are parsed last but one, and the migration parser after them
writes only its own member. -/
theorem parseObject_journalAlerts_valid (object : Obj) :
    Parse.Triple (fun _ => True) (parseObject L cLogContentLen object : Parse (Config cMaxNumHostBinds cMaxNumHosts) Unit)
      fun _ c => c.journalAlerts.Valid := by
  have journal : ∀ o, Parse.Triple (fun _ => True)
      (Parse.onPart (·.journalAlerts) (fun c x => { c with journalAlerts := x }) (ParseJournalAlertsConfig L o) :
        Parse (Config cMaxNumHostBinds cMaxNumHosts) _) fun _ c => c.journalAlerts.Valid :=
    fun o => Parse.Triple.onPart_part (fun _ _ => rfl) (ParseJournalAlertsConfig_valid L o)
  have migration : ∀ p : Parse MigrationConfig Unit, Parse.Triple (fun c => c.journalAlerts.Valid)
      (Parse.onPart (·.migration) (fun c x => { c with migration := x }) p : Parse (Config cMaxNumHostBinds cMaxNumHosts) _)
      fun _ c => c.journalAlerts.Valid :=
    fun p => Parse.Triple.onPart_frame Config.journalAlerts (by intros; rfl) _ p
  simp only [parseObject]
  repeat' first
    | with_reducible exact Parse.Triple.bind_rule (journal _) fun _ => migration _
    | refine Parse.Triple.bind_rule (Parse.Triple.true_rule _) fun _ => ?_

/-- `ParseConfig` returns no error only when the file opens and its `try` block ends without an
exception, in the config it returns. -/
theorem ParseConfig_IsNone {file : Option String} {config : Config cMaxNumHostBinds cMaxNumHosts}
    (h : (ParseConfig L cLogContentLen file config).1.IsNone) : ∃ text, file = some text ∧
      (Parse.ofExcept (L.parse text) >>= parseObject L cLogContentLen).exec config =
        (.ok (), (ParseConfig L cLogContentLen file config).2) := by
  obtain _ | text := file
  · simp [ParseConfig] at h
  refine ⟨text, rfl, ?_⟩
  simp only [ParseConfig] at h ⊢
  split at h <;> rename_i r c hr
  · rw [hr]
  · exact absurd h (by simpa using r.2)

/-- Whatever the file, a config that `ParseConfig` reports parsed has valid journal alert
priorities. -/
theorem ParseConfig_journalAlerts_valid (file : Option String) (config : Config cMaxNumHostBinds cMaxNumHosts)
    (h : (ParseConfig L cLogContentLen file config).1.IsNone) :
    (ParseConfig L cLogContentLen file config).2.journalAlerts.Valid := by
  obtain ⟨text, -, hr⟩ := ParseConfig_IsNone L cLogContentLen h
  exact Parse.Triple.bind_rule (Parse.Triple.true_rule _ : Parse.Triple (fun _ => True) _ _)
    (parseObject_journalAlerts_valid L cLogContentLen) config () _ trivial hr

end File

/-! ### Running the parsers -/

/-- A value of a flat JSON object. -/
inductive FlatValue
  | text (s : String)
  | number (n : Int)
  deriving DecidableEq

/-- The value of `key` in a flat object. -/
def flatLookup (object : List (String × FlatValue)) (key : String) : Option FlatValue :=
  (object.find? (·.1 == key)).map (·.2)

/-- A library over flat JSON objects of texts and numbers, to run the parsers on concrete
files: the object under any key is the object itself, every duration parses as zero, the
file's text is ignored for `object`, and a static string keeps the first `cap` characters. -/
def flatLibrary (object : List (String × FlatValue)) : Library (List (String × FlatValue)) where
  parse _ := .ok object
  Has o key := (flatLookup o key).isSome
  GetObject o _ := .ok o
  empty := []
  GetString o key := .ok (match flatLookup o key with | some (FlatValue.text s) => some s | _ => none)
  GetInt o key := .ok (match flatLookup o key with | some (FlatValue.number n) => some n | _ => none)
  GetUInt64 o key := .ok (match flatLookup o key with | some (FlatValue.number n) => some (UInt64.ofNat n.toNat) | _ => none)
  GetUInt32 o key := .ok (match flatLookup o key with | some (FlatValue.number n) => some (UInt32.ofNat n.toNat) | _ => none)
  GetStrings _ _ := .ok []
  GetObjects _ _ := .ok []
  ParseDuration _ := (⟨0, by decide, by decide⟩, .none)
  ToAosError err _ := err
  StaticString cap s := ⟨s.data.take cap⟩
  cFilePathLen := 256
  cIPLen := 16
  cHostNameLen := 64

/-- A config of empty texts, zero numbers and durations, and invalid priorities. -/
def zeroConfig : Config 0 0 :=
  let zero : Duration := ⟨0, by decide, by decide⟩
  ⟨⟨"", ""⟩, ⟨"", "", 0, zero, zero⟩, ⟨"", "", 0, zero, zero⟩, ⟨"", "", "", .empty, .empty, zero⟩,
    ⟨"", "", zero⟩, "", "", "", 0, 0, "", ⟨zero, zero⟩, ⟨0, 0⟩, ⟨[], 9, 9⟩, ⟨"", ""⟩⟩

theorem ParseConfig_journalAlerts_valid_flat :
    let L := flatLibrary [("journalAlerts", .number 0), ("systemAlertPriority", .number 9)]
    (ParseConfig L 1024 (some "") zeroConfig).1.IsNone ∧ (ParseConfig L 1024 (some "") zeroConfig).2.journalAlerts.Valid :=
  ⟨by decide, ParseConfig_journalAlerts_valid _ 1024 (some "") zeroConfig (by decide)⟩

end Configuration
end AosServiceManager
