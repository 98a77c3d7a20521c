import AosServiceManager.Convert.ToProto

/-! The decoders of `utils/convert.cpp`: protobuf messages received from the communication
manager into aos values. Strings are read through `c_str()`; the aos arrays are filled by
`PushBack`, whose error the network converter ignores and the env-var converter returns. -/
namespace AosServiceManager
namespace Pb

def InstanceIdent.ConvertToAos (val : InstanceIdent) : AosServiceManager.InstanceIdent :=
  ⟨cStr val.serviceId, cStr val.subjectId, val.instanceIndex⟩

/-- `ConvertToAos(Timestamp)`: a timestamp with no positive seconds is absent. -/
def Timestamp.ConvertToAos (val : Timestamp) : Option Time :=
  if val.seconds > 0 then some (Time.Unix val.seconds val.nanos) else none

/-- `ConvertToAos(InstanceFilter)`: an empty ID and the instance `-1` are absent. -/
def InstanceFilter.ConvertToAos (val : InstanceFilter) : AosServiceManager.InstanceFilter :=
  { serviceID := if val.serviceId ≠ "" then some (cStr val.serviceId) else none
    subjectID := if val.subjectId ≠ "" then some (cStr val.subjectId) else none
    instanceIndex := if val.instanceIndex ≠ -1 then some (UInt64.ofNat (toUnsigned 64 val.instanceIndex)) else none }

section Network

variable {cMaxNumDNSServers cMaxNumFirewallRules : Nat}

def NetworkParameters.ConvertToAos (val : NetworkParameters) :
    AosServiceManager.NetworkParameters cMaxNumDNSServers cMaxNumFirewallRules :=
  { networkID := cStr val.networkId, subnet := cStr val.subnet, ip := cStr val.ip, vlanID := val.vlanId
    dnsServers := val.dnsServers.foldl (fun servers dns => (servers.PushBack (cStr dns)).2) .empty
    firewallRules := val.rules.foldl (fun rules rule =>
      (rules.PushBack ⟨cStr rule.dstIp, cStr rule.dstPort, cStr rule.proto, cStr rule.srcIp⟩).2) .empty }

def InstanceInfo.ConvertToAos (val : InstanceInfo) :
    AosServiceManager.InstanceInfo cMaxNumDNSServers cMaxNumFirewallRules :=
  ⟨(val.instanceIdent.getD default).ConvertToAos, val.uid, val.priority, cStr val.storagePath, cStr val.statePath,
    (val.networkParameters.getD default).ConvertToAos⟩

end Network

def EnvVarInfo.ConvertToAos (val : EnvVarInfo) : AosServiceManager.EnvVarInfo :=
  ⟨cStr val.name, cStr val.value, (val.ttl.getD default).ConvertToAos⟩

/-! ### Log requests and images -/

/-- The body of the three log-request decoders: the log ID, the time bounds, and the instance
filter of a request that has one; the others keep a default filter. -/
def requestLog (logId : String) (fromTime till : Option Timestamp) (instanceFilter : Option (Option InstanceFilter)) :
    RequestLog :=
  ⟨cStr logId, ⟨(fromTime.getD default).ConvertToAos, (till.getD default).ConvertToAos,
    (instanceFilter.map fun filter => (filter.getD default).ConvertToAos).getD default⟩⟩

def SystemLogRequest.ConvertToAos (val : SystemLogRequest) : RequestLog :=
  requestLog val.logId val.fromTime val.till none

def InstanceLogRequest.ConvertToAos (val : InstanceLogRequest) : RequestLog :=
  requestLog val.logId val.fromTime val.till (some val.instanceFilter)

def InstanceCrashLogRequest.ConvertToAos (val : InstanceCrashLogRequest) : RequestLog :=
  requestLog val.logId val.fromTime val.till (some val.instanceFilter)

/-- `ConvertToAos(ServiceInfo)`: the texts are read as C strings, the digest as all its
bytes. -/
def ServiceInfo.ConvertToAos (val : ServiceInfo) : AosServiceManager.ServiceInfo :=
  ⟨cStr val.serviceId, cStr val.providerId, cStr val.version, val.gid, cStr val.url, val.sha256, val.size⟩

def LayerInfo.ConvertToAos (val : LayerInfo) : AosServiceManager.LayerInfo :=
  ⟨cStr val.layerId, cStr val.digest, cStr val.version, cStr val.url, val.sha256, val.size⟩

section EnvVars

variable {cMaxNumEnvVariables cMaxNumEnvVarsInstances : Nat}

/-- The loop of `ConvertToAos(OverrideEnvVars)` over `env_vars`: the first `PushBack` that
fails ends it with its error. -/
def OverrideEnvVars.convertLoop : List OverrideInstanceEnvVar →
    StaticArray (EnvVarsInstanceInfo cMaxNumEnvVariables) cMaxNumEnvVarsInstances →
    Error × StaticArray (EnvVarsInstanceInfo cMaxNumEnvVariables) cMaxNumEnvVarsInstances
  | [], dst => (.none, dst)
  | envVar :: envVars, dst =>
    let instanceFilter := (envVar.instanceFilter.getD default).ConvertToAos
    let vars := StaticArray.empty.pushAll (envVar.envVariables.map EnvVarInfo.ConvertToAos)
    if !vars.1.IsNone then
      (vars.1.wrap "received instance's env vars count exceeds application limit", dst)
    else if !(dst.PushBack ⟨instanceFilter, vars.2⟩).1.IsNone then
      ((dst.PushBack ⟨instanceFilter, vars.2⟩).1.wrap "received env vars instances count exceeds application limit",
        dst)
    else convertLoop envVars (dst.PushBack ⟨instanceFilter, vars.2⟩).2

def OverrideEnvVars.ConvertToAos (src : OverrideEnvVars)
    (dst : StaticArray (EnvVarsInstanceInfo cMaxNumEnvVariables) cMaxNumEnvVarsInstances) :
    Error × StaticArray (EnvVarsInstanceInfo cMaxNumEnvVariables) cMaxNumEnvVarsInstances :=
  convertLoop src.envVars dst

end EnvVars

end Pb

/-! ### Instance filters -/

section Filter

open Pb

theorem filter_eq_self_iff {α : Type} (p : α → Bool) (o : Option α) : o.filter p = o ↔ ∀ a ∈ o, p a = true := by
  rcases o with _ | a
  · simp
  · by_cases h : p a <;> simp [Option.filter_some, h]

theorem optionID_roundTrip (o : Option String) (h : ∀ s ∈ o, NoNul s) :
    (if (o.map cStr).getD "" ≠ "" then some (cStr ((o.map cStr).getD "")) else none) = o.filter (· != "") := by
  rcases o with _ | s
  · rfl
  · simp only [Option.map_some', Option.getD_some, cStr_of_noNul (h s rfl)]
    by_cases hs : s = "" <;> simp [hs, Option.filter]

theorem instanceIndex_roundTrip (i : UInt64) :
    (if toSigned 64 i.toNat ≠ -1 then some (UInt64.ofNat (toUnsigned 64 (toSigned 64 i.toNat))) else none) =
      (some i).filter (·.toNat != 2 ^ 64 - 1) := by
  have hi : i.toNat < 2 ^ 64 := i.toBitVec.isLt
  rw [Option.filter_some]
  by_cases h : i.toNat = 2 ^ 64 - 1
  · rw [(toSigned_64_eq_neg_one_iff hi).mpr h]; simp [h]
  · rw [if_pos (mt (toSigned_64_eq_neg_one_iff hi).mp h), toUnsigned_toSigned_64 hi, if_pos (by simpa using h)]
    exact congrArg some (UInt64.toNat.inj (UInt64.toNat_ofNat_of_lt hi))

/-- Decoding an encoded filter gives it back, except that a present empty ID and the
instance `2 ^ 64 - 1` come back absent. -/
theorem InstanceFilter_roundTrip (f : InstanceFilter) (hs : ∀ s ∈ f.serviceID, NoNul s)
    (hj : ∀ s ∈ f.subjectID, NoNul s) :
    (f.ConvertToProto default).ConvertToAos =
      ⟨f.serviceID.filter (· != ""), f.subjectID.filter (· != ""), f.instanceIndex.filter (·.toNat != 2 ^ 64 - 1)⟩ ∧
    ((f.ConvertToProto default).ConvertToAos = f ↔
      f.serviceID ≠ some "" ∧ f.subjectID ≠ some "" ∧ f.instanceIndex.map UInt64.toNat ≠ some (2 ^ 64 - 1)) := by
  obtain ⟨s, j, i⟩ := f
  dsimp only at hs hj
  have h : (InstanceFilter.ConvertToProto ⟨s, j, i⟩ default).ConvertToAos =
      ⟨s.filter (· != ""), j.filter (· != ""), i.filter (·.toNat != 2 ^ 64 - 1)⟩ := by
    have hd : (default : Pb.InstanceFilter) = ⟨"", "", 0⟩ := rfl
    rw [Pb.InstanceFilter.ConvertToAos, InstanceFilter.ConvertToProto_serviceId, InstanceFilter.ConvertToProto_subjectId,
      hd, optionID_roundTrip _ hs, optionID_roundTrip _ hj]
    rcases i with _ | i
    · rw [InstanceFilter.ConvertToProto_none]; rfl
    · rw [InstanceFilter.ConvertToProto_some, instanceIndex_roundTrip]
  refine ⟨h, ?_⟩
  rw [h, InstanceFilter.mk.injEq, filter_eq_self_iff, filter_eq_self_iff, filter_eq_self_iff]
  rcases s with _ | s <;> rcases j with _ | j <;> rcases i with _ | i <;> simp

theorem InstanceFilter_roundTrip_service :
    (InstanceFilter.ConvertToProto ⟨some "service0", none, some 3⟩ default).ConvertToAos = ⟨some "service0", none, some 3⟩ :=
  (InstanceFilter_roundTrip ⟨some "service0", none, some 3⟩ (by rintro s ⟨⟩; decide) (by rintro s ⟨⟩)).2.mpr
    (by decide)

/-- A present empty service ID, and the instance whose `int64_t` image is the sentinel `-1`. -/
theorem InstanceFilter_roundTrip_lossy :
    (InstanceFilter.ConvertToProto ⟨some "", none, none⟩ default).ConvertToAos = ⟨none, none, none⟩ ∧
    (InstanceFilter.ConvertToProto ⟨none, none, some 18446744073709551615⟩ default).ConvertToAos = ⟨none, none, none⟩ := by
  decide

end Filter

/-! ### Network parameters -/

section Network

variable {cMaxNumDNSServers cMaxNumFirewallRules : Nat}

/-- `ConvertToAos(NetworkParameters)` keeps the first `cMaxNumDNSServers` DNS servers and the
first `cMaxNumFirewallRules` rules, in order, and drops the rest. -/
theorem NetworkParameters_ConvertToAos_lists (val : Pb.NetworkParameters) :
    (val.ConvertToAos : NetworkParameters cMaxNumDNSServers cMaxNumFirewallRules).dnsServers.items =
      (val.dnsServers.map cStr).take cMaxNumDNSServers ∧
    (val.ConvertToAos : NetworkParameters cMaxNumDNSServers cMaxNumFirewallRules).firewallRules.items =
      (val.rules.map fun rule => (⟨cStr rule.dstIp, cStr rule.dstPort, cStr rule.proto, cStr rule.srcIp⟩ : FirewallRule)).take
        cMaxNumFirewallRules := by
  exact ⟨StaticArray.foldl_PushBack_items _ _ _, StaticArray.foldl_PushBack_items _ _ _⟩

/-- A network with one DNS server more than `n`. -/
def overfullNetwork (n : Nat) : Pb.NetworkParameters :=
  ⟨"network0", "172.17.0.0/16", "172.17.0.2", 0, List.replicate (n + 1) "10.0.0.1", []⟩

/-- An instance on a network with `cMaxNumDNSServers + 1` DNS servers is decoded with the
last one dropped, and the decoder has no error to report it. -/
theorem overfullNetwork_drops_dnsServer :
    (overfullNetwork cMaxNumDNSServers).dnsServers.length = cMaxNumDNSServers + 1 ∧
    ((⟨none, 0, 0, "", "", some (overfullNetwork cMaxNumDNSServers)⟩ : Pb.InstanceInfo).ConvertToAos :
      InstanceInfo cMaxNumDNSServers cMaxNumFirewallRules).networkParameters.dnsServers.items =
        List.replicate cMaxNumDNSServers "10.0.0.1" := by
  refine ⟨List.length_replicate _ _, ?_⟩
  rw [Pb.InstanceInfo.ConvertToAos, Option.getD_some, (NetworkParameters_ConvertToAos_lists _).1]
  simp only [overfullNetwork, List.map_replicate, List.take_replicate, Nat.min_eq_left (Nat.le_succ _)]
  rfl

end Network

/-! ### Env-var overrides -/

section EnvVars

variable {cMaxNumEnvVariables cMaxNumEnvVarsInstances : Nat}

/-- What the decoded overrides hold of each entry: its filter and its variables. -/
def EnvVarsInstanceInfo.view (x : EnvVarsInstanceInfo cMaxNumEnvVariables) : InstanceFilter × List EnvVarInfo :=
  (x.filter, x.envVariables.items)

/-- The decoding of one entry of `env_vars`. -/
def Pb.OverrideInstanceEnvVar.view (e : Pb.OverrideInstanceEnvVar) :
    AosServiceManager.InstanceFilter × List AosServiceManager.EnvVarInfo :=
  ((e.instanceFilter.getD default).ConvertToAos, e.envVariables.map Pb.EnvVarInfo.ConvertToAos)

theorem pushAll_envVariables (e : Pb.OverrideInstanceEnvVar) :
    ((StaticArray.empty : StaticArray EnvVarInfo cMaxNumEnvVariables).pushAll
      (e.envVariables.map Pb.EnvVarInfo.ConvertToAos)).1.IsNone ↔ e.envVariables.length ≤ cMaxNumEnvVariables := by
  simp [StaticArray.pushAll_none_iff]

section
variable {e : Pb.OverrideInstanceEnvVar} {l : List Pb.OverrideInstanceEnvVar}
  {dst : StaticArray (EnvVarsInstanceInfo cMaxNumEnvVariables) cMaxNumEnvVarsInstances}

theorem convertLoop_cons_of_lt (hv : e.envVariables.length ≤ cMaxNumEnvVariables)
    (hd : dst.items.length < cMaxNumEnvVarsInstances) :
    Pb.OverrideEnvVars.convertLoop (e :: l) dst = Pb.OverrideEnvVars.convertLoop l (dst.PushBack
      ⟨(e.instanceFilter.getD default).ConvertToAos,
        (StaticArray.empty.pushAll (e.envVariables.map Pb.EnvVarInfo.ConvertToAos)).2⟩).2 := by
  simp [Pb.OverrideEnvVars.convertLoop, (pushAll_envVariables e).mpr hv, (StaticArray.PushBack_of_lt _ _ hd).1]

theorem convertLoop_cons_of_full (hv : e.envVariables.length ≤ cMaxNumEnvVariables)
    (hd : cMaxNumEnvVarsInstances ≤ dst.items.length) :
    Pb.OverrideEnvVars.convertLoop (e :: l) dst =
      ((Error.ofEnum .noMemory "").wrap "received env vars instances count exceeds application limit", dst) := by
  simp [Pb.OverrideEnvVars.convertLoop, (Error.IsNone_iff _).mp ((pushAll_envVariables e).mpr hv),
    (StaticArray.PushBack_of_le _ _ hd).1, Error.ofEnum, Error.IsNone]

theorem convertLoop_cons_of_many (hv : cMaxNumEnvVariables < e.envVariables.length) :
    Pb.OverrideEnvVars.convertLoop (e :: l) dst =
      ((Error.ofEnum .noMemory "").wrap "received instance's env vars count exceeds application limit", dst) := by
  have hf : ((StaticArray.empty : StaticArray EnvVarInfo cMaxNumEnvVariables).pushAll
      (e.envVariables.map Pb.EnvVarInfo.ConvertToAos)).1.IsNone = false := by
    simpa using mt (@pushAll_envVariables cMaxNumEnvVariables e).mp (by omega)
  simp [Pb.OverrideEnvVars.convertLoop, hf, StaticArray.pushAll_error _ _ hf]

theorem convertLoop_cons_error
    (h : ¬(e.envVariables.length ≤ cMaxNumEnvVariables ∧ dst.items.length < cMaxNumEnvVarsInstances)) :
    (Pb.OverrideEnvVars.convertLoop (e :: l) dst).1.IsNone = false := by
  by_cases hv : e.envVariables.length ≤ cMaxNumEnvVariables
  · rw [convertLoop_cons_of_full hv (by omega)]; rfl
  · rw [convertLoop_cons_of_many (by omega)]; rfl

end

theorem convertLoop_none_iff (l : List Pb.OverrideInstanceEnvVar)
    (dst : StaticArray (EnvVarsInstanceInfo cMaxNumEnvVariables) cMaxNumEnvVarsInstances) :
    (Pb.OverrideEnvVars.convertLoop l dst).1.IsNone ↔
      dst.items.length + l.length ≤ cMaxNumEnvVarsInstances ∧ ∀ e ∈ l, e.envVariables.length ≤ cMaxNumEnvVariables := by
  induction l generalizing dst with
  | nil => simpa [Pb.OverrideEnvVars.convertLoop] using dst.size_le
  | cons e l ih =>
    simp only [List.length_cons, List.forall_mem_cons]
    by_cases h : e.envVariables.length ≤ cMaxNumEnvVariables ∧ dst.items.length < cMaxNumEnvVarsInstances
    · rw [convertLoop_cons_of_lt h.1 h.2, ih, (StaticArray.PushBack_of_lt _ _ h.2).2]
      simp only [List.length_append, List.length_singleton, h.1, true_and]
      constructor <;> rintro ⟨h₁, h₂⟩ <;> exact ⟨by omega, h₂⟩
    · rw [convertLoop_cons_error h]
      simp only [Bool.false_eq_true, false_iff, not_and]
      exact fun h₁ h₂ _ => h ⟨h₂, by omega⟩

theorem convertLoop_items (l : List Pb.OverrideInstanceEnvVar)
    (dst : StaticArray (EnvVarsInstanceInfo cMaxNumEnvVariables) cMaxNumEnvVarsInstances)
    (h : (Pb.OverrideEnvVars.convertLoop l dst).1.IsNone = true) :
    (Pb.OverrideEnvVars.convertLoop l dst).2.items.map EnvVarsInstanceInfo.view =
      dst.items.map EnvVarsInstanceInfo.view ++ l.map Pb.OverrideInstanceEnvVar.view := by
  induction l generalizing dst with
  | nil => simp [Pb.OverrideEnvVars.convertLoop]
  | cons e l ih =>
    have hc := (convertLoop_none_iff _ _).mp h
    simp only [List.length_cons, List.forall_mem_cons] at hc
    have hd : dst.items.length < cMaxNumEnvVarsInstances := by omega
    rw [convertLoop_cons_of_lt hc.2.1 hd] at h ⊢
    rw [ih _ h, (StaticArray.PushBack_of_lt _ _ hd).2]
    simp [EnvVarsInstanceInfo.view, Pb.OverrideInstanceEnvVar.view,
      StaticArray.pushAll_items _ _ ((pushAll_envVariables e).mpr hc.2.1)]

/-- `ConvertToAos(OverrideEnvVars)` returns no error exactly when every entry and all its
variables fit their arrays, and then `dst` holds what it held followed by every entry
decoded, in order. -/
theorem OverrideEnvVars_ConvertToAos_spec (src : Pb.OverrideEnvVars)
    (dst : StaticArray (EnvVarsInstanceInfo cMaxNumEnvVariables) cMaxNumEnvVarsInstances) :
    ((src.ConvertToAos dst).1.IsNone ↔ dst.items.length + src.envVars.length ≤ cMaxNumEnvVarsInstances ∧
      ∀ e ∈ src.envVars, e.envVariables.length ≤ cMaxNumEnvVariables) ∧
    ((src.ConvertToAos dst).1.IsNone → (src.ConvertToAos dst).2.items.map EnvVarsInstanceInfo.view =
      dst.items.map EnvVarsInstanceInfo.view ++ src.envVars.map Pb.OverrideInstanceEnvVar.view) :=
  ⟨convertLoop_none_iff _ _, convertLoop_items _ _⟩

end EnvVars

end AosServiceManager
