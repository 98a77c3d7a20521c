import Mathlib

/-! The aos library types that the service manager's code reads: errors, the bounded
`StaticArray`, C-string reads of strings and the fixed-width integer casts. Only the
members the modelled code uses are kept. -/
namespace AosServiceManager

/-- `aos::ErrorEnum`, enumerators in declaration order. -/
inductive ErrorEnum
  | none | failed | runtime | noMemory | outOfRange | notFound | invalidArgument | timeout
  | alreadyExist | wrongState | invalidChecksum | alreadyLoggedIn | notSupported | canceled
  deriving DecidableEq, Repr

/-- `aos::Error`: the code `Value()`, the wrapped `Errno()` and the message. -/
structure Error where
  value : ErrorEnum
  errno : Int
  message : String
  deriving DecidableEq, Repr

namespace Error

/-- `Error()`, that is `ErrorEnum::eNone`. -/
def none : Error := ⟨.none, 0, ""⟩

/-- `Error(ErrorEnum err, message)`. -/
def ofEnum (err : ErrorEnum) (message : String) : Error := ⟨err, 0, message⟩

/-- `Error(int errNo, message)`: a zero errno is no error. -/
def ofErrno (errNo : Int) (message : String) : Error :=
  ⟨if errNo = 0 then .none else .failed, errNo, message⟩

/-- `Error(const Error& err, message)`: the same code and errno under a new message. -/
def wrap (err : Error) (message : String) : Error := { err with message := message }

def IsNone (err : Error) : Bool := err.value == .none

def Is (err : Error) (e : ErrorEnum) : Bool := err.value == e

@[simp] theorem none_IsNone : none.IsNone = true := rfl
@[simp] theorem wrap_value (err : Error) (m : String) : (err.wrap m).value = err.value := rfl
@[simp] theorem wrap_errno (err : Error) (m : String) : (err.wrap m).errno = err.errno := rfl
@[simp] theorem wrap_IsNone (err : Error) (m : String) : (err.wrap m).IsNone = err.IsNone := rfl
@[simp] theorem ofEnum_IsNone (e : ErrorEnum) (m : String) : (ofEnum e m).IsNone = (e == .none) := rfl

theorem IsNone_iff (err : Error) : err.IsNone = true ↔ err.value = .none := by
  simp [IsNone]

end Error

/-- The NUL character that ends a C string. -/
def nul : Char := Char.ofNat 0

/-- What a C string reads of `s`: the characters before its first NUL, as in
`String(s.c_str())` and `std::string(s.CStr())`. -/
def cStr (s : String) : String := ⟨s.data.takeWhile (· != nul)⟩

/-- `s` holds no NUL byte. -/
def NoNul (s : String) : Prop := nul ∉ s.data

instance (s : String) : Decidable (NoNul s) := inferInstanceAs (Decidable (nul ∉ s.data))

theorem cStr_of_noNul {s : String} (h : NoNul s) : cStr s = s := by
  have hp : ∀ c ∈ s.data, (c != nul) = true := fun c hc => by
    simpa using fun he : c = nul => h (he ▸ hc)
  simp [cStr, List.takeWhile_eq_self_iff.mpr hp]

@[simp] theorem cStr_data (s : String) : (cStr s).data = s.data.takeWhile (· != nul) := rfl

theorem noNul_cStr (s : String) : NoNul (cStr s) := fun h => by
  simpa using List.mem_takeWhile_imp h

@[simp] theorem cStr_cStr (s : String) : cStr (cStr s) = cStr s := cStr_of_noNul (noNul_cStr s)

/-- `static_cast` of an integer into a signed `w`-bit integer (two's complement). -/
def toSigned (w : Nat) (x : Int) : Int := x.bmod (2 ^ w)

/-- `static_cast` of an integer into an unsigned `w`-bit integer. -/
def toUnsigned (w : Nat) (x : Int) : Nat := (x % (2 ^ w : Nat)).toNat

theorem toSigned_64_ge (x : Int) : -2 ^ 63 ≤ toSigned 64 x := by
  have h := Int.le_bmod (x := x) (m := 2 ^ 64) (by decide)
  simp only [Nat.reducePow, Nat.reduceDiv] at h
  exact h

theorem toSigned_64_lt (x : Int) : toSigned 64 x < 2 ^ 63 := by
  have h := Int.bmod_lt (x := x) (m := 2 ^ 64) (by decide)
  simp only [Nat.reducePow, Nat.reduceAdd, Nat.reduceDiv] at h
  exact h

theorem toSigned_64_eq_self_iff (x : Int) : toSigned 64 x = x ↔ -2 ^ 63 ≤ x ∧ x < 2 ^ 63 := by
  simp only [toSigned, Int.bmod_def, Nat.reducePow]
  split <;> omega

theorem toUnsigned_32_eq_self_iff (x : Int) : (toUnsigned 32 x : Int) = x ↔ 0 ≤ x ∧ x < 2 ^ 32 := by
  simp only [toUnsigned, Nat.reducePow]
  omega

/-- An unsigned 64-bit value survives the round trip through `int64_t`. -/
theorem toUnsigned_toSigned_64 {n : Nat} (h : n < 2 ^ 64) : toUnsigned 64 (toSigned 64 n) = n := by
  simp only [toSigned, toUnsigned, Int.bmod_def, Nat.reducePow] at *
  split <;> omega

/-- The only unsigned 64-bit value whose `int64_t` image is `-1`. -/
theorem toSigned_64_eq_neg_one_iff {n : Nat} (h : n < 2 ^ 64) : toSigned 64 n = -1 ↔ n = 2 ^ 64 - 1 := by
  simp only [toSigned, Int.bmod_def, Nat.reducePow] at *
  split <;> omega

/-- `aos::StaticArray<T, cap>`: at most `cap` items, in order. -/
structure StaticArray (α : Type) (cap : Nat) where
  items : List α
  size_le : items.length ≤ cap

namespace StaticArray

variable {α : Type} {cap : Nat}

def empty : StaticArray α cap := ⟨[], Nat.zero_le _⟩

@[simp] theorem empty_items : (empty : StaticArray α cap).items = [] := rfl

/-- `PushBack`: appends when there is room, else reports `eNoMemory` and keeps the array. -/
def PushBack (a : StaticArray α cap) (x : α) : Error × StaticArray α cap :=
  if h : a.items.length < cap then
    (.none, ⟨a.items ++ [x], by simpa using h⟩)
  else (.ofEnum .noMemory "", a)

theorem PushBack_of_lt (a : StaticArray α cap) (x : α) (h : a.items.length < cap) :
    (a.PushBack x).1 = .none ∧ (a.PushBack x).2.items = a.items ++ [x] := by
  simp [PushBack, h]

theorem PushBack_of_le (a : StaticArray α cap) (x : α) (h : cap ≤ a.items.length) :
    (a.PushBack x).1 = .ofEnum .noMemory "" ∧ (a.PushBack x).2 = a := by
  simp [PushBack, Nat.not_lt.mpr h]

theorem PushBack_items (a : StaticArray α cap) (x : α) :
    (a.PushBack x).2.items = (a.items ++ [x]).take cap := by
  by_cases h : a.items.length < cap
  · rw [(PushBack_of_lt a x h).2, List.take_of_length_le (by simpa using h)]
  · rw [(PushBack_of_le a x (by omega)).2, List.take_append_of_le_length (by omega),
      List.take_of_length_le a.size_le]

/-- A loop of `PushBack`s whose errors are ignored keeps the first `cap` items. -/
theorem foldl_PushBack_items {β : Type} (f : β → α) (xs : List β) (a : StaticArray α cap) :
    (xs.foldl (fun a x => (a.PushBack (f x)).2) a).items = (a.items ++ xs.map f).take cap := by
  induction xs generalizing a with
  | nil => simp [List.take_of_length_le a.size_le]
  | cons x xs ih =>
    have key : ∀ l m : List α, l.length ≤ cap + 1 → (l.take cap ++ m).take cap = (l ++ m).take cap :=
      fun l m hl => by
        rw [List.take_append_eq_append_take, List.take_append_eq_append_take, List.take_take, Nat.min_self,
          List.length_take]
        congr 2; omega
    rw [List.foldl_cons, ih, PushBack_items, key _ _ (by simpa using a.size_le), List.append_assoc, List.map_cons,
      List.singleton_append]

/-- A loop of `PushBack`s that returns the first error. -/
def pushAll (a : StaticArray α cap) : List α → Error × StaticArray α cap
  | [] => (.none, a)
  | x :: xs => if (a.PushBack x).1.IsNone then pushAll (a.PushBack x).2 xs else a.PushBack x

theorem pushAll_none_iff (a : StaticArray α cap) (xs : List α) :
    (a.pushAll xs).1.IsNone ↔ a.items.length + xs.length ≤ cap := by
  induction xs generalizing a with
  | nil => simpa [pushAll] using a.size_le
  | cons x xs ih =>
    by_cases h : a.items.length < cap
    · simp [pushAll, PushBack_of_lt a x h, ih]; omega
    · simp [pushAll, PushBack_of_le a x (by omega)]; omega

theorem pushAll_error (a : StaticArray α cap) (xs : List α) (h : (a.pushAll xs).1.IsNone = false) :
    (a.pushAll xs).1 = .ofEnum .noMemory "" := by
  induction xs generalizing a with
  | nil => simp [pushAll] at h
  | cons x xs ih =>
    by_cases hl : a.items.length < cap
    · simp only [pushAll, (PushBack_of_lt a x hl).1, Error.none_IsNone, if_true] at h ⊢
      exact ih _ h
    · simp [pushAll, (PushBack_of_le a x (Nat.le_of_not_lt hl)).1]

theorem pushAll_items (a : StaticArray α cap) (xs : List α) (h : (a.pushAll xs).1.IsNone) :
    (a.pushAll xs).2.items = a.items ++ xs := by
  induction xs generalizing a with
  | nil => simp [pushAll]
  | cons x xs ih =>
    have hl : a.items.length < cap := by have := (pushAll_none_iff a _).mp h; simp at this; omega
    simp only [pushAll, PushBack_of_lt a x hl, Error.none_IsNone, if_true] at h ⊢
    rw [ih _ h, (PushBack_of_lt a x hl).2, List.append_assoc, List.singleton_append]

end StaticArray

end AosServiceManager
