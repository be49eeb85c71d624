import TypeDBDriver.Library.CString
import TypeDBDriver.Library.DecimalText
import TypeDBDriver.Library.Outcome

/-! String slices by byte positions. The bytes of a string are UTF-8, and a slice that begins or
ends inside a character ends the running thread. -/

namespace TypeDBDriver.Library

abbrev Str := List UInt8

namespace Str

variable {ε : Type}

def isContinuation (byte : UInt8) : Bool := 0x80 ≤ byte && byte < 0xC0

def isCharBoundary (str : Str) (index : Nat) : Bool :=
  if index = 0 then true
  else
    match str[index]? with
    | some byte => !isContinuation byte
    | none => index == str.length

def sliceFrom (str : Str) (start : Nat) : Outcome ε Str :=
  if isCharBoundary str start then .ok (str.drop start) else .panicked

def sliceTo (str : Str) (stop : Nat) : Outcome ε Str :=
  if isCharBoundary str stop then .ok (str.take stop) else .panicked

def byteAt (str : Str) (index : Nat) : Outcome ε UInt8 := Outcome.unwrap str[index]?

def beginsCharacter : Str → Bool
  | [] => true
  | byte :: _ => !isContinuation byte

variable {front rest : Str}

theorem isCharBoundary_append (some_ : front ≠ []) :
    isCharBoundary (front ++ rest) front.length = beginsCharacter rest := by
  have position : front.length ≠ 0 := by simpa using some_
  unfold isCharBoundary
  rw [if_neg position, List.getElem?_append_right (Nat.le_refl _), Nat.sub_self]
  cases rest with
  | nil => simp [beginsCharacter]
  | cons byte rest => rfl

theorem sliceFrom_append (some_ : front ≠ []) :
    (sliceFrom (front ++ rest) front.length : Outcome ε Str) =
      if beginsCharacter rest then .ok rest else .panicked := by
  rw [sliceFrom, isCharBoundary_append some_, List.drop_left]

theorem sliceTo_append (some_ : front ≠ []) :
    (sliceTo (front ++ rest) front.length : Outcome ε Str) =
      if beginsCharacter rest then .ok front else .panicked := by
  rw [sliceTo, isCharBoundary_append some_, List.take_left]

theorem byteAt_append (front : Str) (byte : UInt8) (rest : Str) :
    (byteAt (front ++ byte :: rest) front.length : Outcome ε UInt8) = .ok byte := by
  rw [byteAt, List.getElem?_append_right (Nat.le_refl _), Nat.sub_self]
  rfl

variable {char : Char}

theorem ofUInt8_eq_iff {byte : UInt8} (narrow : char.toNat < 256) :
    Char.ofUInt8 byte = char ↔ byte = char.toUInt8 := by
  rw [← Char.val_inj, ← UInt32.toNat_inj, ← UInt8.toNat_inj]
  change byte.toUInt32.toNat = char.toNat ↔ byte.toNat = char.val.toUInt8.toNat
  rw [UInt8.toNat_toUInt32, UInt32.toNat_toUInt8]
  change _ ↔ byte.toNat = char.toNat % 2 ^ 8
  omega

def isAsciiDigit (byte : UInt8) : Bool := 48 ≤ byte && byte ≤ 57

def number (digits : Str) : Nat := Nat.ofDigitChars 10 (digits.map Char.ofUInt8) 0

def parseU64 (digits : Str) : Option UInt64 :=
  if number digits < 2 ^ 64 then some (UInt64.ofNat (number digits)) else none

theorem toNat_of_isDigit (digit : char.isDigit = true) : 48 ≤ char.toNat ∧ char.toNat ≤ 57 := by
  simp only [Char.isDigit, ge_iff_le, Bool.and_eq_true, decide_eq_true_eq] at digit
  exact ⟨UInt32.le_iff_toNat_le.mp digit.1, UInt32.le_iff_toNat_le.mp digit.2⟩

theorem toNat_toUInt8 (digit : char.isDigit = true) : char.toUInt8.toNat = char.toNat := by
  obtain ⟨_, upper⟩ := toNat_of_isDigit digit
  change char.val.toUInt8.toNat = _
  rw [UInt32.toNat_toUInt8]
  exact Nat.mod_eq_of_lt (by change char.toNat < _; omega)

theorem isAsciiDigit_toUInt8 (digit : char.isDigit = true) : isAsciiDigit char.toUInt8 = true := by
  obtain ⟨lower, upper⟩ := toNat_of_isDigit digit
  have same := toNat_toUInt8 digit
  simp only [isAsciiDigit, Bool.and_eq_true, decide_eq_true_eq, UInt8.le_iff_toNat_le]
  change 48 ≤ char.toUInt8.toNat ∧ char.toUInt8.toNat ≤ 57
  omega

theorem utf8EncodeChar_of_ascii (ascii : char.toNat < 128) :
    String.utf8EncodeChar char = [char.toUInt8] := by
  apply String.utf8EncodeChar_eq_singleton
  rw [Char.utf8Size_eq_one_iff, UInt32.le_iff_toNat_le]
  change char.toNat ≤ 127
  omega

theorem encode_digits {digits : Text} (numeric : ∀ char ∈ digits, char.isDigit = true) :
    digits.flatMap String.utf8EncodeChar = digits.map Char.toUInt8 := by
  induction digits with
  | nil => rfl
  | cons char digits ih =>
    rw [List.forall_mem_cons] at numeric
    obtain ⟨_, upper⟩ := toNat_of_isDigit numeric.1
    rw [List.flatMap_cons, utf8EncodeChar_of_ascii (by omega), ih numeric.2]
    rfl

theorem number_digits {digits : Text} (numeric : ∀ char ∈ digits, char.isDigit = true) :
    number (digits.map Char.toUInt8) = Nat.ofDigitChars 10 digits 0 := by
  have back : (digits.map Char.toUInt8).map Char.ofUInt8 = digits := by
    have each : ∀ char ∈ digits, Char.ofUInt8 char.toUInt8 = id char := by
      intro char listed
      obtain ⟨_, upper⟩ := toNat_of_isDigit (numeric char listed)
      have narrow : char.toNat < 256 := by omega
      exact (ofUInt8_eq_iff narrow).mpr rfl
    exact (List.map_map.trans (List.map_congr_left each)).trans (List.map_id digits)
  rw [number, back]

theorem isContinuation_iff {byte : UInt8} :
    isContinuation byte = true ↔ 128 ≤ byte.toNat ∧ byte.toNat < 192 := by
  simp only [isContinuation, Bool.and_eq_true, decide_eq_true_eq, UInt8.le_iff_toNat_le,
    UInt8.lt_iff_toNat_lt]
  rfl

theorem utf8EncodeChar_wide (wide : 128 ≤ char.toNat) :
    ∃ lead next rest, String.utf8EncodeChar char = lead :: next :: rest ∧
      192 ≤ lead.toNat ∧ isContinuation next = true := by
  have notAscii : ¬ char.val.toNat ≤ 127 := Nat.not_le.mpr wide
  simp only [isContinuation_iff]
  rw [String.utf8EncodeChar.eq_1, if_neg notAscii]
  split_ifs
  all_goals
    refine ⟨_, _, _, rfl, ?_⟩
    simp only [UInt8.toNat_ofNat']
    omega

/-- The bytes of some text. -/
def Valid (str : Str) : Prop := ∃ text : Text, str = text.flatMap String.utf8EncodeChar

theorem Valid.cases {byte : UInt8} {rest : Str} (valid : Valid (byte :: rest)) :
    (byte.toNat < 128 ∧ Valid rest) ∨ (192 ≤ byte.toNat ∧ beginsCharacter rest = false) := by
  obtain ⟨_ | ⟨char, text⟩, shape⟩ := valid
  · cases shape
  rw [List.flatMap_cons] at shape
  by_cases ascii : char.toNat < 128
  · rw [utf8EncodeChar_of_ascii ascii] at shape
    cases shape
    refine .inl ⟨?_, text, rfl⟩
    change char.val.toUInt8.toNat < 128
    rw [UInt32.toNat_toUInt8]
    exact Nat.lt_of_le_of_lt (Nat.mod_le _ _) ascii
  · obtain ⟨lead, next, more, encoded, first, continues⟩ :=
      utf8EncodeChar_wide (Nat.le_of_not_lt ascii)
    rw [encoded] at shape
    cases shape
    exact .inr ⟨first, by simp [beginsCharacter, continues]⟩

theorem Valid.beginsCharacter {str : Str} (valid : Valid str) : beginsCharacter str = true := by
  cases str with
  | nil => rfl
  | cons byte rest =>
    have other : isContinuation byte = false := by
      rw [Bool.eq_false_iff, ne_eq, isContinuation_iff]
      rcases valid.cases with ⟨ascii, -⟩ | ⟨lead, -⟩ <;> omega
    simp [Str.beginsCharacter, other]

theorem valid_cons_iff {byte : UInt8} {rest : Str} (ascii : byte.toNat < 128) :
    Valid (byte :: rest) ↔ Valid rest := by
  constructor
  · intro valid
    rcases valid.cases with ⟨-, after⟩ | ⟨lead, -⟩
    · exact after
    · omega
  · rintro ⟨text, rfl⟩
    have narrow : (Char.ofUInt8 byte).toNat < 128 := by
      change byte.toUInt32.toNat < 128
      rwa [UInt8.toNat_toUInt32]
    have same : byte = (Char.ofUInt8 byte).toUInt8 := (ofUInt8_eq_iff (by omega)).mp rfl
    refine ⟨Char.ofUInt8 byte :: text, ?_⟩
    rw [List.flatMap_cons, utf8EncodeChar_of_ascii narrow, ← same]
    rfl

theorem valid_append_iff (ascii : ∀ byte ∈ front, byte.toNat < 128) :
    Valid (front ++ rest) ↔ Valid rest := by
  induction front with
  | nil => rfl
  | cons byte front ih =>
    rw [List.forall_mem_cons] at ascii
    rw [List.cons_append, valid_cons_iff ascii.1, ih ascii.2]

theorem toNat_lt_of_isAsciiDigit {byte : UInt8} (digit : isAsciiDigit byte = true) :
    byte.toNat < 128 := by
  simp only [isAsciiDigit, Bool.and_eq_true, decide_eq_true_eq, UInt8.le_iff_toNat_le] at digit
  exact Nat.lt_of_le_of_lt digit.2 (by decide)

end Str

end TypeDBDriver.Library
