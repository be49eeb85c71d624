import Mathlib.Data.List.TakeWhile

/-! Strings that end at a zero byte, and the texts whose encoding can be one of them. -/

namespace TypeDBDriver.Library

/-- The bytes of a string without its terminator. A byte that reads as the terminator cannot
be among them. -/
structure CString where
  bytes : List UInt8
  noTerminator : 0 ∉ bytes

namespace CString

def new (bytes : List UInt8) : Option CString :=
  if interior : 0 ∈ bytes then none else some ⟨bytes, interior⟩

def memory (string : CString) : List UInt8 :=
  string.bytes ++ [0]

def read (memory : List UInt8) : List UInt8 :=
  memory.takeWhile (· != 0)

theorem new_eq_none_iff {bytes : List UInt8} : new bytes = none ↔ 0 ∈ bytes := by
  unfold new
  split <;> simp_all

theorem new_of_not_mem {bytes : List UInt8} (noTerminator : 0 ∉ bytes) :
    new bytes = some ⟨bytes, noTerminator⟩ := by
  simp [new, noTerminator]

@[simp] theorem read_memory (string : CString) : read string.memory = string.bytes := by
  have all : ∀ byte ∈ string.bytes, (byte != 0) = true := by
    intro byte member
    have differs : byte ≠ 0 := by
      intro same
      exact string.noTerminator (same ▸ member)
    simpa using differs
  rw [read, memory, List.takeWhile_append_of_pos all]
  simp

end CString

def nul : Char := Char.ofNat 0

def utf8Bytes (text : String) : List UInt8 :=
  text.toUTF8.data.toList

theorem utf8Bytes_eq_flatMap (text : String) :
    utf8Bytes text = text.toList.flatMap String.utf8EncodeChar := by
  unfold utf8Bytes
  rw [String.toUTF8_eq_toByteArray, ← String.ofList_toList (s := text), String.toByteArray_ofList,
    String.ofList_toList, List.utf8Encode, List.toList_data_toByteArray]

theorem zero_ne_or {byte marker : UInt8} (marked : marker ≠ 0) : 0 ≠ byte ||| marker := by
  intro zero
  exact marked (UInt8.or_eq_zero_iff.mp zero.symm).2

theorem nul_of_size_one {char : Char} (size : char.utf8Size = 1) (zero : char.val.toUInt8 = 0) :
    char = nul := by
  have bound := UInt32.le_iff_toNat_le.mp (Char.utf8Size_eq_one_iff.mp size)
  have small : char.val.toNat % 256 = 0 := congrArg UInt8.toNat zero
  have limit : (127 : UInt32).toNat = 127 := rfl
  apply Char.ext
  apply UInt32.toNat_inj.mp
  change char.val.toNat = 0
  omega

/-- The bytes of a longer encoding all carry a marker, so that none of them is zero. -/
theorem zero_mem_utf8EncodeChar_iff (char : Char) :
    0 ∈ String.utf8EncodeChar char ↔ char = nul := by
  constructor
  · intro member
    rcases Char.utf8Size_eq char with size | size | size | size
    · rw [String.utf8EncodeChar_eq_singleton size, List.mem_singleton] at member
      exact nul_of_size_one size member.symm
    · simp only [String.utf8EncodeChar_eq_cons_cons size, List.mem_cons, List.not_mem_nil,
        or_false] at member
      rcases member with zero | zero <;> exact absurd zero (zero_ne_or (by decide))
    · simp only [String.utf8EncodeChar_eq_cons_cons_cons size, List.mem_cons, List.not_mem_nil,
        or_false] at member
      rcases member with zero | zero | zero <;> exact absurd zero (zero_ne_or (by decide))
    · simp only [String.utf8EncodeChar_eq_cons_cons_cons_cons size, List.mem_cons,
        List.not_mem_nil, or_false] at member
      rcases member with zero | zero | zero | zero <;>
        exact absurd zero (zero_ne_or (by decide))
  · intro same
    subst same
    decide

theorem zero_mem_utf8Bytes_iff (text : String) : 0 ∈ utf8Bytes text ↔ nul ∈ text.toList := by
  rw [utf8Bytes_eq_flatMap, List.mem_flatMap]
  constructor
  · intro encoded
    obtain ⟨char, member, zero⟩ := encoded
    rw [← (zero_mem_utf8EncodeChar_iff char).mp zero]
    exact member
  · intro member
    exact ⟨nul, member, (zero_mem_utf8EncodeChar_iff nul).mpr rfl⟩

theorem utf8Bytes_eq_nil_iff (text : String) : utf8Bytes text = [] ↔ text = "" := by
  constructor
  · intro empty
    rw [utf8Bytes_eq_flatMap, List.flatMap_eq_nil_iff] at empty
    apply String.toList_inj.mp
    cases chars : text.toList with
    | nil => rfl
    | cons first rest =>
      have length := congrArg List.length (empty first (by simp [chars]))
      rw [String.length_utf8EncodeChar] at length
      exact absurd length (Nat.ne_of_gt first.utf8Size_pos)
  · intro empty
    rw [empty]
    rfl

end TypeDBDriver.Library
