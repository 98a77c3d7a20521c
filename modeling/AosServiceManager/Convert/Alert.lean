import AosServiceManager.Convert.ToProto

/-! `AlertVisitor` of `utils/convert.cpp`: an alert variant becomes a `servicemanager.v4.Alert`
with the item's tag and timestamp and, for six of the eight alternatives, the oneof case that
carries the payload; a service instance alert is sent without its `instance_alert` case. -/
namespace AosServiceManager

variable {CoreComponent QuotaAlertState : Type} (S : AlertStrings CoreComponent QuotaAlertState)
  (Convert : Error → Error × String)

/-- `AlertVisitor::CreateAlert`: the tag and the timestamp of the alert item. -/
def CreateAlert (tag : AlertTag) (timestamp : Time) : Pb.Alert :=
  { (default : Pb.Alert) with tag := cStr (S.tag tag), timestamp := some (TimestampToPB timestamp) }

/-- `AlertVisitor::Visit`, one case per alternative. -/
def AlertVisitor.Visit : AlertVariant CoreComponent QuotaAlertState → Pb.Alert
  | .systemAlert val => { CreateAlert S .systemAlert val.timestamp with
      alertItem := some (.systemAlert ⟨cStr val.message⟩) }
  | .coreAlert val => { CreateAlert S .coreAlert val.timestamp with
      alertItem := some (.coreAlert ⟨cStr (S.coreComponent val.coreComponent), cStr val.message⟩) }
  | .systemQuotaAlert val => { CreateAlert S .systemQuotaAlert val.timestamp with
      alertItem := some (.systemQuotaAlert ⟨cStr val.parameter, val.value, cStr (S.quotaAlertState val.status)⟩) }
  | .instanceQuotaAlert val => { CreateAlert S .instanceQuotaAlert val.timestamp with
      alertItem := some (.instanceQuotaAlert ⟨some (val.instanceIdent.ConvertToProto default), cStr val.parameter,
        val.value, cStr (S.quotaAlertState val.status)⟩) }
  | .deviceAllocateAlert val => { CreateAlert S .deviceAllocateAlert val.timestamp with
      alertItem := some (.deviceAllocateAlert ⟨some (val.instanceIdent.ConvertToProto default), cStr val.device,
        cStr val.message⟩) }
  | .resourceValidateAlert val => { CreateAlert S .resourceValidateAlert val.timestamp with
      alertItem := some (.resourceValidateAlert ⟨cStr val.name, val.errors.map (ConvertAosErrorToProto Convert)⟩) }
  | .downloadAlert val => CreateAlert S .downloadAlert val.timestamp
  | .serviceInstanceAlert val => CreateAlert S .serviceInstanceAlert val.timestamp

/-- `ConvertToProto(AlertVariant)`: the message is replaced by the visitor's. -/
def AlertVariant.ConvertToProto (src : AlertVariant CoreComponent QuotaAlertState) (_dst : Pb.Alert) : Pb.Alert :=
  AlertVisitor.Visit S Convert src

/-- An instance ident copied field by field into its wire form. -/
def InstanceIdent.copied (i : InstanceIdent) : Pb.InstanceIdent := ⟨i.serviceID, i.subjectID, i.instanceIndex⟩

theorem InstanceIdent.ConvertToProto_of_noNul {i : InstanceIdent} (hs : NoNul i.serviceID) (hj : NoNul i.subjectID)
    (dst : Pb.InstanceIdent) : i.ConvertToProto dst = i.copied := by
  rw [ConvertToProto, cStr_of_noNul hs, cStr_of_noNul hj]
  rfl

namespace AlertVariant

/-- The oneof case that copies every payload field of the alert's alternative: strings as they
are, enumerators by their `ToString()` texts, the instance ident field by field and the errors
element by element; a service instance alert has the `instance_alert` case, a download alert
none. -/
def copiedItem : AlertVariant CoreComponent QuotaAlertState → Option Pb.AlertItem
  | .systemAlert val => some (.systemAlert ⟨val.message⟩)
  | .coreAlert val => some (.coreAlert ⟨S.coreComponent val.coreComponent, val.message⟩)
  | .systemQuotaAlert val => some (.systemQuotaAlert ⟨val.parameter, val.value, S.quotaAlertState val.status⟩)
  | .instanceQuotaAlert val => some (.instanceQuotaAlert ⟨some val.instanceIdent.copied, val.parameter, val.value,
      S.quotaAlertState val.status⟩)
  | .deviceAllocateAlert val => some (.deviceAllocateAlert ⟨some val.instanceIdent.copied, val.device, val.message⟩)
  | .resourceValidateAlert val =>
    some (.resourceValidateAlert ⟨val.name, val.errors.map (ConvertAosErrorToProto Convert)⟩)
  | .downloadAlert _ => none
  | .serviceInstanceAlert val => some (.instanceAlert ⟨some val.instanceIdent.copied, val.serviceVersion, val.message⟩)

/-- The strings of an alert's payload. -/
def strings : AlertVariant CoreComponent QuotaAlertState → List String
  | .systemAlert val => [val.message]
  | .coreAlert val => [val.message]
  | .systemQuotaAlert val => [val.parameter]
  | .instanceQuotaAlert val => [val.instanceIdent.serviceID, val.instanceIdent.subjectID, val.parameter]
  | .deviceAllocateAlert val => [val.instanceIdent.serviceID, val.instanceIdent.subjectID, val.device, val.message]
  | .resourceValidateAlert val => [val.name]
  | .downloadAlert _ => []
  | .serviceInstanceAlert val => [val.instanceIdent.serviceID, val.instanceIdent.subjectID, val.serviceVersion,
      val.message]

end AlertVariant

/-- The `ToString()` tables print every enumerator as a text without NUL. -/
structure AlertStrings.NulFree : Prop where
  coreComponent : ∀ c, NoNul (S.coreComponent c)
  quotaAlertState : ∀ q, NoNul (S.quotaAlertState q)

variable {S Convert}

/-- The visitor's oneof case is the field-by-field copy for every alternative but a service
instance alert, whose visitor sends no case at all. -/
theorem ConvertToProto_alertItem (hS : S.NulFree) {a : AlertVariant CoreComponent QuotaAlertState}
    (ha : ∀ s ∈ a.strings, NoNul s) (dst : Pb.Alert) :
    (a.ConvertToProto S Convert dst).alertItem =
      if a.tag = .serviceInstanceAlert then none else a.copiedItem S Convert := by
  cases a <;> simp only [AlertVariant.strings, List.mem_cons, List.mem_singleton, List.not_mem_nil, forall_eq,
    forall_eq_or_imp, or_false] at ha
  all_goals simp only [AlertVariant.ConvertToProto, AlertVisitor.Visit, CreateAlert, AlertVariant.copiedItem,
    AlertVariant.tag, reduceCtorEq, if_false, if_true, cStr_of_noNul, ha, hS.coreComponent, hS.quotaAlertState,
    InstanceIdent.ConvertToProto_of_noNul]
  -- a download or service instance alert keeps the default `alertItem`
  all_goals rfl

/-- `ConvertToProto` of a service instance alert, whose visitor sends tag and timestamp only. -/
def encodeServiceAlert (message : String) : Pb.Alert :=
  (AlertVariant.serviceInstanceAlert ⟨⟨1, 0⟩, ⟨"service0", "subject0", 0⟩, "1.0.0", message⟩ : AlertVariant Bool Bool).ConvertToProto
    ⟨fun _ => "alert", fun _ => "", fun _ => ""⟩ (fun e => (.none, e.message)) default

/-- Every alert is sent with its item's tag and timestamp, and its oneof case copies the payload
field by field, except a service instance alert: its visitor fills no `instance_alert` case, so
two service instance alerts that differ only in their message reach the wire alike. -/
theorem serviceInstanceAlert_payload_unsent :
    (∀ (S : AlertStrings CoreComponent QuotaAlertState) Convert (a : AlertVariant CoreComponent QuotaAlertState)
      (dst : Pb.Alert), S.NulFree → (∀ s ∈ a.strings, NoNul s) →
      (a.ConvertToProto S Convert dst).tag = cStr (S.tag a.tag) ∧
      (a.ConvertToProto S Convert dst).timestamp = some (TimestampToPB a.timestamp) ∧
      ((a.ConvertToProto S Convert dst).alertItem = a.copiedItem S Convert ↔ a.tag ≠ .serviceInstanceAlert)) ∧
    (encodeServiceAlert "Hello").alertItem = none ∧ encodeServiceAlert "Hello" = encodeServiceAlert "Bye" := by
  refine ⟨fun S Convert a dst hS ha => ⟨by cases a <;> rfl, by cases a <;> rfl, ?_⟩, rfl, rfl⟩
  rw [ConvertToProto_alertItem hS ha]
  cases a <;> simp [AlertVariant.tag, AlertVariant.copiedItem]

end AosServiceManager
