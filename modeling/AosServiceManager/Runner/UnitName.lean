import AosServiceManager.Common

/-! Unit naming of the runner: `CreateSystemdUnitName` puts an instance ID into the
systemd unit template and `CreateInstanceID` parses it back out. -/
namespace AosServiceManager
namespace Runner

/-- Modelled from the spec: `cSystemdUnitNameTemplate` of `runner.hpp`, "a fixed template
`aos-service@<instanceID>.service`", as the text before and after its `%s`. -/
def cSystemdUnitNameTemplate : String × String := ("aos-service@", ".service")

/-- `Runner::CreateSystemdUnitName`: the instance ID is read through `CStr()`. -/
def CreateSystemdUnitName (instanceID : String) : String :=
  cSystemdUnitNameTemplate.1 ++ cStr instanceID ++ cSystemdUnitNameTemplate.2

/-- The prefix and suffix that `CreateInstanceID` checks. -/
def unitPrefix : List Char := "aos-service@".data
def unitSuffix : List Char := ".service".data

/-- `size_t` subtraction of two string lengths (both below `2 ^ 64`): it wraps when `b > a`. -/
def sizeSub (a b : Nat) : Nat := if b ≤ a then a - b else 2 ^ 64 - (b - a)

/-- `Runner::CreateInstanceID`: `substr` of the text between prefix and suffix, or the
`eInvalidArgument` exception. -/
def CreateInstanceID (unitname : String) : Except Error String :=
  if unitPrefix.isPrefixOf unitname.data && unitSuffix.isSuffixOf unitname.data then
    .ok ⟨(unitname.data.drop unitPrefix.length).take
      (sizeSub (sizeSub unitname.data.length unitPrefix.length) unitSuffix.length)⟩
  else .error (.ofEnum .invalidArgument "not a valid Aos service name")

theorem sizeSub_of_le {a b : Nat} (h : b ≤ a) : sizeSub a b = a - b := if_pos h

@[simp] theorem unitPrefix_length : unitPrefix.length = 12 := rfl
@[simp] theorem unitSuffix_length : unitSuffix.length = 8 := rfl

theorem CreateSystemdUnitName_data (instanceID : String) :
    (CreateSystemdUnitName instanceID).data = unitPrefix ++ (cStr instanceID).data ++ unitSuffix := rfl

/-- The prefix ends in `@`, which the suffix does not hold, so an accepted name has room
for both: the `size_t` length never wraps. -/
theorem prefix_suffix_disjoint {l : List Char} (hp : unitPrefix <+: l) (hs : unitSuffix <:+ l) :
    unitPrefix.length + unitSuffix.length ≤ l.length := by
  obtain ⟨x, rfl⟩ := hp
  by_contra hlt
  simp only [unitPrefix_length, unitSuffix_length, List.length_append] at hlt
  have hk : (unitPrefix ++ x).length - 8 ≤ unitPrefix.length := by simp; omega
  have hsuf := List.suffix_iff_eq_drop.mp hs
  rw [unitSuffix_length, List.drop_append_of_le_length hk] at hsuf
  have hat : '@' ∈ unitPrefix.drop ((unitPrefix ++ x).length - 8) :=
    (by decide : ∀ k < 12, '@' ∈ unitPrefix.drop k) _ (by simp; omega)
  have : '@' ∈ unitSuffix := hsuf ▸ List.mem_append_left _ hat
  exact absurd this (by decide)

theorem CreateInstanceID_ok_iff (unitname : String) :
    (∃ v, CreateInstanceID unitname = .ok v) ↔ unitPrefix <+: unitname.data ∧ unitSuffix <:+ unitname.data := by
  unfold CreateInstanceID
  split <;> simp_all

/-- On an accepted name, `CreateInstanceID` returns exactly the middle part. -/
theorem CreateInstanceID_eq_ok {unitname v : String} (h : CreateInstanceID unitname = .ok v) :
    unitPrefix.length + unitSuffix.length ≤ unitname.data.length ∧
      unitname.data = unitPrefix ++ v.data ++ unitSuffix := by
  have hv := h
  unfold CreateInstanceID at hv
  split at hv
  · rename_i hc
    simp only [Bool.and_eq_true, List.isPrefixOf_iff_prefix, List.isSuffixOf_iff_suffix] at hc
    have hle := prefix_suffix_disjoint hc.1 hc.2
    cases hv
    refine ⟨hle, ?_⟩
    set l := unitname.data
    simp only [unitPrefix_length, unitSuffix_length] at hle ⊢
    rw [sizeSub_of_le (show 12 ≤ l.length by omega), sizeSub_of_le (show 8 ≤ l.length - 12 by omega)]
    have hp : l.take 12 = unitPrefix := (List.prefix_iff_eq_take.mp hc.1).symm
    have hs : l.drop (l.length - 8) = unitSuffix := (List.suffix_iff_eq_drop.mp hc.2).symm
    calc l = l.take (12 + (l.length - 12 - 8)) ++ l.drop (l.length - 8) := by
          rw [show 12 + (l.length - 12 - 8) = l.length - 8 by omega, List.take_append_drop]
      _ = unitPrefix ++ (l.drop 12).take (l.length - 12 - 8) ++ unitSuffix := by
          rw [List.take_add, hp, hs]
  · cases hv

theorem CreateInstanceID_of_data {unitname : String} {m : List Char}
    (h : unitname.data = unitPrefix ++ m ++ unitSuffix) : CreateInstanceID unitname = .ok ⟨m⟩ := by
  have hp : unitPrefix.isPrefixOf unitname.data = true := by simp [h, List.append_assoc]
  have hs : unitSuffix.isSuffixOf unitname.data = true := by
    simpa [h] using List.suffix_append (unitPrefix ++ m) unitSuffix
  have hl : unitname.data.length = 12 + m.length + 8 := by simp [h]; omega
  have hm : (unitname.data.drop 12).take (unitname.data.length - 12 - 8) = m := by
    simp [h, List.append_assoc]
  simp only [CreateInstanceID, hp, hs, Bool.and_self, if_true, unitPrefix_length, unitSuffix_length]
  rw [sizeSub_of_le (show 12 ≤ unitname.data.length by omega),
    sizeSub_of_le (show 8 ≤ unitname.data.length - 12 by omega), hm]

/-- Parsing the unit name gives back the instance ID as a C string reads it. -/
theorem CreateInstanceID_CreateSystemdUnitName (instanceID : String) :
    CreateInstanceID (CreateSystemdUnitName instanceID) = .ok (cStr instanceID) :=
  CreateInstanceID_of_data (CreateSystemdUnitName_data instanceID)

@[simp] theorem CreateSystemdUnitName_cStr (instanceID : String) :
    CreateSystemdUnitName (cStr instanceID) = CreateSystemdUnitName instanceID := by
  simp [CreateSystemdUnitName]

theorem noNul_of_data {u v : String} (h : u.data = unitPrefix ++ v.data ++ unitSuffix) (hu : NoNul u) :
    NoNul v := fun hv => hu (h ▸ List.mem_append_left _ (List.mem_append_right _ hv))

theorem unitName_bijection :
    (∀ s, NoNul s → CreateInstanceID (CreateSystemdUnitName s) = .ok s) ∧
    ∀ u, ((∃ v, CreateInstanceID u = .ok v) ↔ unitPrefix <+: u.data ∧ unitSuffix <:+ u.data) ∧
      ∀ v, CreateInstanceID u = .ok v → unitPrefix.length + unitSuffix.length ≤ u.data.length ∧
        (NoNul u → CreateSystemdUnitName v = u) := by
  refine ⟨fun s hs => by rw [CreateInstanceID_CreateSystemdUnitName, cStr_of_noNul hs],
    fun u => ⟨CreateInstanceID_ok_iff u, fun v hv => ?_⟩⟩
  obtain ⟨hle, hdata⟩ := CreateInstanceID_eq_ok hv
  refine ⟨hle, fun hu => String.ext ?_⟩
  rw [CreateSystemdUnitName_data, cStr_of_noNul (noNul_of_data hdata hu), hdata]

theorem unitName_bijection_x :
    CreateInstanceID (CreateSystemdUnitName "x") = .ok "x" ∧
      CreateSystemdUnitName "x" = "aos-service@x.service" :=
  ⟨unitName_bijection.1 "x" (by decide),
    ((unitName_bijection.2 _).2 "x" (unitName_bijection.1 "x" (by decide))).2 (by decide)⟩

/-- A unit name with a NUL byte between prefix and suffix. -/
def nulUnitName : String := ⟨unitPrefix ++ [nul] ++ unitSuffix⟩

/-- Its instance ID is cut at the NUL when it is made a unit name again. -/
theorem CreateSystemdUnitName_CreateInstanceID_nul :
    CreateInstanceID nulUnitName = .ok ⟨[nul]⟩ ∧ CreateSystemdUnitName ⟨[nul]⟩ ≠ nulUnitName :=
  ⟨CreateInstanceID_of_data rfl, by decide⟩

end Runner
end AosServiceManager
