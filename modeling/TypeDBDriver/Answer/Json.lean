import Mathlib.Tactic.IntervalCases
import TypeDBDriver.Common.Float
import TypeDBDriver.Library.JsonWeight

/-! The JSON values in which fetched documents are returned, and their text. -/

namespace TypeDBDriver

open Library
open Proto (F64)

/-- The members of an object stand in the iteration order of the `HashMap` that holds them. -/
abbrev JSON := Json F64

namespace JSON

def asciiControl : Nat := 0x20

def hex : UInt8 := 0

def escapeTable : List UInt8 :=
  [hex, hex, hex, hex, hex, hex, hex, hex,
    'b'.toUInt8, 't'.toUInt8, 'n'.toUInt8, hex, 'f'.toUInt8, 'r'.toUInt8, hex, hex,
    hex, hex, hex, hex, hex, hex, hex, hex, hex, hex, hex, hex, hex, hex, hex, hex]

def hexDigits : List UInt8 := "0123456789abcdef".toList.map Char.toUInt8

/-- What one round of the loop in `write_escaped_string` appends to the buffer. -/
def escapeByte (byte : UInt8) : List UInt8 :=
  if byte.toNat < asciiControl then
    let special := escapeTable.getD byte.toNat hex
    if special = hex then
      ['\\'.toUInt8, 'u'.toUInt8, '0'.toUInt8, '0'.toUInt8,
        hexDigits.getD ((byte &&& 0xF0) >>> 4).toNat 0, hexDigits.getD (byte &&& 0x0F).toNat 0]
    else
      ['\\'.toUInt8, special]
  else if byte = '"'.toUInt8 ∨ byte = '\\'.toUInt8 then ['\\'.toUInt8, byte]
  else [byte]

/-- `String::from_utf8_unchecked`, whose result is not defined on bytes that are not UTF-8. -/
def fromUtf8Unchecked (bytes : List UInt8) : Text :=
  (bytes.toByteArray.utf8Decode?.getD #[]).toList

def bytes (text : Text) : List UInt8 := text.flatMap String.utf8EncodeChar

def writeEscapedString (string : String) : Text :=
  '"' :: fromUtf8Unchecked ((bytes string.toList).flatMap escapeByte) ++ ['"']

def escapeCharacter (char : Char) : Text :=
  if char.toNat < 0x80 then
    (escapeByte (UInt8.ofNat char.toNat)).map fun byte => Char.ofNat byte.toNat
  else
    [char]

theorem fromUtf8Unchecked_bytes (text : Text) : fromUtf8Unchecked (bytes text) = text := by
  have decoded : (bytes text).toByteArray.utf8Decode? = some text.toArray :=
    List.utf8Decode?_utf8Encode
  simp [fromUtf8Unchecked, decoded]

private theorem escapeByte_ascii : ∀ code < 0x80,
    (String.utf8EncodeChar (Char.ofNat code)).flatMap escapeByte =
      bytes (escapeCharacter (Char.ofNat code)) := by
  decide +kernel

theorem utf8EncodeChar_nonAscii {char : Char} (wide : 0x80 ≤ char.toNat) :
    ∀ byte ∈ String.utf8EncodeChar char, 0x80 ≤ byte.toNat := by
  have large : ∀ {low high : Nat}, 0x80 ≤ high → low + high < 0x100 →
      0x80 ≤ (UInt8.ofNat (low + high)).toNat := by
    intro low high isHigh fits
    rw [UInt8.toNat_ofNat', Nat.mod_eq_of_lt fits]
    omega
  have wideValue : ¬ char.val.toNat ≤ 127 := Nat.not_le_of_lt wide
  intro byte listed
  rw [String.utf8EncodeChar.eq_1, if_neg wideValue] at listed
  repeat' split at listed
  all_goals
    simp only [List.mem_cons, List.not_mem_nil, or_false] at listed
    rcases listed with rfl | rfl | rfl | rfl | rfl <;> exact large (by decide) (by omega)

theorem escapeByte_nonAscii {byte : UInt8} (wide : 0x80 ≤ byte.toNat) :
    escapeByte byte = [byte] := by
  have notQuote : byte ≠ '"'.toUInt8 := by
    intro isQuote
    rw [isQuote] at wide
    exact absurd wide (by decide)
  have notBackslash : byte ≠ '\\'.toUInt8 := by
    intro isBackslash
    rw [isBackslash] at wide
    exact absurd wide (by decide)
  have printable : ¬ byte.toNat < asciiControl := by
    unfold asciiControl
    omega
  simp [escapeByte, printable, notQuote, notBackslash]

theorem flatMap_escapeByte_utf8EncodeChar (char : Char) :
    (String.utf8EncodeChar char).flatMap escapeByte = bytes (escapeCharacter char) := by
  by_cases ascii : char.toNat < 0x80
  · have escaped := escapeByte_ascii char.toNat ascii
    rwa [Char.ofNat_toNat] at escaped
  · have wide := utf8EncodeChar_nonAscii (Nat.le_of_not_lt ascii)
    have unchanged : (String.utf8EncodeChar char).flatMap escapeByte =
        (String.utf8EncodeChar char).flatMap fun byte => [byte] :=
      List.flatMap_congr fun byte listed => escapeByte_nonAscii (wide byte listed)
    simp [unchanged, escapeCharacter, ascii, bytes]

/-- Escaping byte by byte is escaping character by character: the bytes of a character beyond
ASCII are left as they are. -/
theorem flatMap_escapeByte_bytes (text : Text) :
    (bytes text).flatMap escapeByte = bytes (text.flatMap escapeCharacter) := by
  simp only [bytes, List.flatMap_assoc]
  exact List.flatMap_congr fun char _ => flatMap_escapeByte_utf8EncodeChar char

theorem writeEscapedString_eq (string : String) :
    writeEscapedString string = '"' :: string.toList.flatMap escapeCharacter ++ ['"'] := by
  rw [writeEscapedString, flatMap_escapeByte_bytes, fromUtf8Unchecked_bytes]

private theorem escapeCharacter_ascii : ∀ code < 0x80,
    (Json.Plain (Char.ofNat code) → escapeCharacter (Char.ofNat code) = [Char.ofNat code]) ∧
      Json.weight (escapeCharacter (Char.ofNat code)) = Json.escapeCost (Char.ofNat code) := by
  decide +kernel

private theorem character_control : ∀ code < 0x20, ∀ rest,
    Json.char (escapeCharacter (Char.ofNat code) ++ rest) = some (Char.ofNat code, rest) := by
  intro code control rest
  interval_cases code <;> rfl

private theorem head?_control : ∀ code < 0x20,
    (escapeCharacter (Char.ofNat code)).head? = some '\\' := by
  decide +kernel

theorem escapeCharacter_plain {char : Char} (plain : Json.Plain char) :
    escapeCharacter char = [char] := by
  by_cases ascii : char.toNat < 0x80
  · have unchanged := (escapeCharacter_ascii char.toNat ascii).1
    rw [Char.ofNat_toNat] at unchanged
    exact unchanged plain
  · rw [escapeCharacter, if_neg ascii]

theorem spells_control {char : Char} (control : char.toNat < 0x20) :
    Json.Spells (escapeCharacter char) char := by
  have begins := head?_control char.toNat control
  have read := character_control char.toNat control
  rw [Char.ofNat_toNat] at begins read
  obtain ⟨others, shape⟩ := List.head?_eq_some_iff.mp begins
  exact ⟨⟨'\\', others, shape, by decide⟩, read⟩

theorem spells_escapeCharacter (char : Char) : Json.Spells (escapeCharacter char) char := by
  by_cases isQuote : char = '"'
  · subst isQuote
    exact ⟨⟨'\\', ['"'], rfl, by decide⟩, fun _ => rfl⟩
  by_cases isBackslash : char = '\\'
  · subst isBackslash
    exact ⟨⟨'\\', ['\\'], rfl, by decide⟩, fun _ => rfl⟩
  by_cases control : char.toNat < 0x20
  · exact spells_control control
  · have plain : Json.Plain char := ⟨isQuote, isBackslash, Nat.le_of_not_lt control⟩
    rw [escapeCharacter_plain plain]
    exact Json.spells_plain plain

private theorem literalUnit_control : ∀ code < 0x20,
    Json.LiteralUnit (escapeCharacter (Char.ofNat code)) := by
  intro code control
  interval_cases code
  case «8» | «9» | «10» | «12» | «13» => exact .short rfl
  all_goals exact .unicode rfl rfl rfl rfl

theorem literalUnit_escapeCharacter (char : Char) : Json.LiteralUnit (escapeCharacter char) := by
  by_cases isQuote : char = '"'
  · subst isQuote
    exact .short rfl
  by_cases isBackslash : char = '\\'
  · subst isBackslash
    exact .short rfl
  by_cases control : char.toNat < 0x20
  · have unit := literalUnit_control char.toNat control
    rwa [Char.ofNat_toNat] at unit
  · have plain : Json.Plain char := ⟨isQuote, isBackslash, Nat.le_of_not_lt control⟩
    rw [escapeCharacter_plain plain]
    exact .unescaped plain

theorem stringLiteral_writeEscapedString (string : String) :
    Json.StringLiteral (writeEscapedString string) := by
  refine ⟨string.toList.map escapeCharacter, ?_, ?_⟩
  · rw [List.forall_mem_map]
    exact fun char _ => literalUnit_escapeCharacter char
  · rw [writeEscapedString_eq, List.flatMap_def]

theorem quoted_writeEscapedString (string : String) :
    Json.quoted (writeEscapedString string) = some (string, []) := by
  have spelled : ∀ denoted ∈ string.toList, Json.Spells (escapeCharacter denoted) denoted :=
    fun denoted _ => spells_escapeCharacter denoted
  have read := (Json.quoted_spelled spelled).reads [] Json.delimits_nil
  rwa [List.append_nil, ← writeEscapedString_eq] at read

theorem isValidUTF8_flatMap_escapeByte (text : Text) :
    ((bytes text).flatMap escapeByte).toByteArray.IsValidUTF8 := by
  rw [flatMap_escapeByte_bytes]
  exact ⟨text.flatMap escapeCharacter, rfl⟩

/-- Whatever the string, the bytes that are not checked are UTF-8, the text is a literal of the
grammar, and the grammar reads the string back from it. -/
theorem writeEscapedString_roundTrip (string : String) :
    ((bytes string.toList).flatMap escapeByte).toByteArray.IsValidUTF8 ∧
      Json.StringLiteral (writeEscapedString string) ∧
      Json.quoted (writeEscapedString string) = some (string, []) :=
  ⟨isValidUTF8_flatMap_escapeByte string.toList, stringLiteral_writeEscapedString string,
    quoted_writeEscapedString string⟩

theorem weight_escapeCharacter (char : Char) :
    Json.weight (escapeCharacter char) = Json.escapeCost char := by
  by_cases ascii : char.toNat < 0x80
  · have weighed := (escapeCharacter_ascii char.toNat ascii).2
    rwa [Char.ofNat_toNat] at weighed
  · have notAscii : ∀ other : Char, other.toNat < 0x80 → char ≠ other := by
      intro other small same
      exact ascii (same ▸ small)
    have plain : Json.Plain char :=
      ⟨notAscii '"' (by decide), notAscii '\\' (by decide), by omega⟩
    rw [escapeCharacter_plain plain, Json.escapeCost_of_plain plain]

/-- `fmt::Display for JSON`. The text of a number is that of `fmt::Display for f64`. -/
def fmt (number : F64 → Text) : JSON → Text :=
  Json.fold {
    object := fun members =>
      -- a key is written between quotes as it is
      '{' :: Json.joined (members.map fun (key, value) =>
        '"' :: key.toList ++ ['"', ':', ' '] ++ value) ++ ['}']
    array := fun elems => '[' :: Json.joined elems ++ [']']
    string := writeEscapedString
    number := number
    boolean := fun boolean =>
      if boolean then ['t', 'r', 'u', 'e'] else ['f', 'a', 'l', 's', 'e']
    null := ['n', 'u', 'l', 'l']
  }

def memberText (number : F64 → Text) (member : String × JSON) : Text :=
  '"' :: member.1.toList ++ ['"', ':', ' '] ++ fmt number member.2

variable (number : F64 → Text)

@[simp] theorem fmt_object (members : List (String × JSON)) :
    fmt number (.object members) =
      '{' :: Json.joined (members.map (memberText number)) ++ ['}'] := by
  simp only [fmt, Json.fold_object, List.map_map]
  rfl

@[simp] theorem fmt_array (elems : List JSON) :
    fmt number (.array elems) = '[' :: Json.joined (elems.map (fmt number)) ++ [']'] := by
  simp only [fmt, Json.fold_array]

@[simp] theorem fmt_string (content : String) :
    fmt number (.string content) = writeEscapedString content := rfl

@[simp] theorem fmt_number (value : F64) : fmt number (.number value) = number value := rfl

@[simp] theorem fmt_boolean (value : Bool) : fmt number (.boolean value) =
    if value then ['t', 'r', 'u', 'e'] else ['f', 'a', 'l', 's', 'e'] := rfl

@[simp] theorem fmt_null : fmt number .null = ['n', 'u', 'l', 'l'] := rfl

end JSON

end TypeDBDriver
