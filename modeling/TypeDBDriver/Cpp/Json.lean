import Mathlib.Data.String.Basic
import TypeDBDriver.Common.Float
import TypeDBDriver.Library.JsonPrinting

/-! JSON values of the C++ driver: `JSON::parse`, which builds them from the values of
`nlohmann::json`, and `JSON::toString`. What is assumed of this library is in `Nlohmann`. -/

namespace TypeDBDriver.Cpp

open Library
open Proto (F64)

/-- A number as it is written. An integer has neither a fraction nor an exponent. -/
structure Literal where
  numeral : Json.Numeral
  isInteger : Bool
  deriving DecidableEq, Repr

def endsInteger (char : Char) : Bool := ['.', 'e', 'E'].contains char

def literal : Parser Literal := fun text => do
  let (numeral, rest) ← Json.numeral text
  let written := text.take (text.length - rest.length)
  some (⟨numeral, !written.any endsInteger⟩, rest)

def Literal.integer? (literal : Literal) : Option Int :=
  if literal.isInteger then
    some (if literal.numeral.negative then -literal.numeral.digits else literal.numeral.digits)
  else none

/-- `number_integer`, `number_unsigned` and `number_float`. -/
inductive NlohmannNumber where
  | integer (value : Int64)
  | unsigned (value : UInt64)
  | float (value : F64)
  deriving DecidableEq

/-- The parser refuses a float that is out of range. -/
def NlohmannNumber.isFinite : NlohmannNumber → Bool
  | .float value => decide value.Finite
  | _ => true

def insertKey {α : Type} (key : String) (value : α) : List (String × α) → List (String × α)
  | [] => [(key, value)]
  | (other, held) :: rest =>
    if key < other then (key, value) :: (other, held) :: rest
    else if key = other then (key, value) :: rest
    else (other, held) :: insertKey key value rest

def mapOf {α : Type} (members : List (String × α)) : List (String × α) :=
  members.foldl (fun map member => insertKey member.1 member.2 map) []

/-- The tree with a map for the members of each object, where the last value of a key counts. -/
def withMaps {ν : Type} : Json ν → Json ν :=
  Json.fold {
    object := fun members => .object (mapOf members)
    array := .array
    string := .string
    number := .number
    boolean := .boolean
    null := .null
  }

/-- The parser of the library. A text is JSON or refused. Integers are unsigned unless they have a
sign, and what fits neither type is a float. -/
structure Nlohmann where
  parse : Text → Option (Json NlohmannNumber)
  classify : Literal → NlohmannNumber
  parse_eq : ∀ string, parse string = (Json.parseOf literal string).bind fun tree =>
    if tree.numbers.all fun literal => (classify literal).isFinite then
      some ((withMaps tree).map classify)
    else none
  signed : ∀ literal integer, literal.integer? = some integer → literal.numeral.negative = true →
    -2 ^ 63 ≤ integer → classify literal = .integer (.ofInt integer)
  unsigned : ∀ literal integer, literal.integer? = some integer →
    literal.numeral.negative = false → integer < 2 ^ 64 →
    classify literal = .unsigned (.ofNat integer.toNat)
  float : ∀ literal integer, literal.integer? = some integer →
    integer < -2 ^ 63 ∨ 2 ^ 64 ≤ integer → ∃ value, classify literal = .float value

inductive Number where
  | long (value : Int64)
  | double (value : F64)
  deriving DecidableEq

def Number.asLong : Number → Option Int64
  | .long value => some value
  | .double _ => none

/-- The members of an object stand in the order of a map. -/
abbrev JSON := Json Number

/-- The conversions to `int` and to `unsigned` keep 32 bits. -/
def buildNumber : NlohmannNumber → Number
  | .integer value => .long value.toInt32.toInt64
  | .unsigned value => .long value.toUInt32.toUInt64.toInt64
  | .float value => .double value

def build (value : Json NlohmannNumber) : JSON := value.map buildNumber

def JSON.parse (nlohmann : Nlohmann) (string : Text) : Option JSON :=
  (nlohmann.parse string).map build

/-- How an output stream writes a double is left open. -/
def numberText (doubleText : F64 → Text) : Number → Text
  | .long value => integerText value.toInt
  | .double value => doubleText value

def commaText : List Text → Text := [',', ' '].intercalate

def memberText (member : String × Text) : Text :=
  '"' :: member.1.toList ++ '"' :: ':' :: ' ' :: member.2

def appendToString (doubleText : F64 → Text) : JSON → Text :=
  Json.fold {
    object := fun members => '{' :: commaText (members.map memberText) ++ ['}']
    array := fun elems => '[' :: commaText elems ++ [']']
    string := fun content => '"' :: content.toList ++ ['"']
    number := numberText doubleText
    boolean := fun value => if value then ['t', 'r', 'u', 'e'] else ['f', 'a', 'l', 's', 'e']
    null := ['n', 'u', 'l', 'l']
  }

def JSON.toString (doubleText : F64 → Text) (json : JSON) : Text := appendToString doubleText json

theorem toInt_unsigned (value : UInt64) :
    (value.toUInt32.toUInt64.toInt64).toInt = (value.toNat % 2 ^ 32 : Nat) := by
  have kept : value.toUInt32.toUInt64.toBitVec.toNat = value.toNat % 2 ^ 32 := by simp
  have bound : value.toNat % 2 ^ 32 < 2 ^ 32 := Nat.mod_lt _ (by decide)
  have pos : 2 * value.toUInt32.toUInt64.toBitVec.toNat < 2 ^ 64 := by omega
  rw [← kept]
  exact BitVec.toInt_eq_toNat_of_lt pos

theorem toInt_integer (value : Int64) :
    (value.toInt32.toInt64).toInt = value.toInt.bmod (2 ^ 32) := by
  rw [Int32.toInt_toInt64, Int64.toInt_toInt32]

theorem Literal.sign {literal : Literal} {integer : Int}
    (written : literal.integer? = some integer) :
    if literal.numeral.negative = true then integer ≤ 0 else 0 ≤ integer := by
  unfold Literal.integer? at written
  split at written
  · cases written
    split <;> omega
  · cases written

variable {nlohmann : Nlohmann}

theorem Literal.asLong_iff {literal : Literal} {integer : Int}
    (written : literal.integer? = some integer) :
    (buildNumber (nlohmann.classify literal)).asLong.map Int64.toInt = some integer ↔
      -2 ^ 31 ≤ integer ∧ integer < 2 ^ 32 := by
  have sign := Literal.sign written
  by_cases wide : integer < -2 ^ 63 ∨ 2 ^ 64 ≤ integer
  · obtain ⟨value, float⟩ := nlohmann.float literal integer written wide
    rw [float]
    refine iff_of_false (fun found => by cases found) ?_
    omega
  · split at sign
    · next negative =>
        have held : (Int64.ofInt integer).toInt = integer :=
          Int64.toInt_ofInt_of_le (by omega) (by omega)
        rw [nlohmann.signed literal integer written negative (by omega), buildNumber,
          Number.asLong, Option.map_some, Option.some_inj, toInt_integer, held]
        simp only [Int.bmod]
        split <;> omega
    · next pos =>
        have small : integer.toNat < UInt64.size := by
          change integer.toNat < 2 ^ 64
          omega
        have held : (UInt64.ofNat integer.toNat).toNat = integer.toNat :=
          UInt64.toNat_ofNat_of_lt' small
        rw [nlohmann.unsigned literal integer written (by simpa using pos) (by omega),
          buildNumber, Number.asLong, Option.map_some, Option.some_inj, toInt_unsigned, held]
        omega

/-- The tree has each integer of the text in its place. The places are in the order of the tree. -/
def IntegersKept (literals : Json Literal) (json : JSON) : Prop :=
  List.Forall₂ (fun literal number => ∀ integer, literal.integer? = some integer →
    number.asLong.map Int64.toInt = some integer) literals.numbers json.numbers

theorem parse_eq_some_iff {string : Text} {json : JSON} :
    JSON.parse nlohmann string = some json ↔
      ∃ literals, Json.parseOf literal string = some literals ∧
        (∀ literal ∈ literals.numbers, (nlohmann.classify literal).isFinite = true) ∧
        json = build ((withMaps literals).map nlohmann.classify) := by
  simp only [JSON.parse, nlohmann.parse_eq, Option.map_eq_some_iff, Option.bind_eq_some_iff,
    Option.ite_none_right_eq_some, List.all_eq_true]
  constructor
  · rintro ⟨value, ⟨literals, read, finite, ⟨⟩⟩, rfl⟩
    exact ⟨literals, read, finite, rfl⟩
  · rintro ⟨literals, read, finite, rfl⟩
    exact ⟨_, ⟨literals, read, finite, rfl⟩, rfl⟩

/-- A text is parsed to a tree with its integers exactly if its floats are in range, and each
integer that is not overwritten by another member fits into `int` or `unsigned`. -/
theorem JSON.parse_integers_iff (nlohmann : Nlohmann) (string : Text) (literals : Json Literal)
    (read : Json.parseOf literal string = some literals) :
    (∃ json, JSON.parse nlohmann string = some json ∧
        IntegersKept (withMaps literals) json) ↔
      (∀ literal ∈ literals.numbers, (nlohmann.classify literal).isFinite = true) ∧
        ∀ literal ∈ (withMaps literals).numbers, ∀ integer, literal.integer? = some integer →
          -2 ^ 31 ≤ integer ∧ integer < 2 ^ 32 := by
  have kept : IntegersKept (withMaps literals)
        (build ((withMaps literals).map nlohmann.classify)) ↔
      ∀ literal ∈ (withMaps literals).numbers, ∀ integer, literal.integer? = some integer →
        -2 ^ 31 ≤ integer ∧ integer < 2 ^ 32 := by
    rw [IntegersKept, build, Json.map_map, Json.numbers_map, List.forall₂_map_right_iff,
      List.forall₂_same]
    refine forall₂_congr fun literal _ => forall₂_congr fun integer written => ?_
    exact Literal.asLong_iff written
  rw [← kept]
  constructor
  · rintro ⟨json, parsed, same⟩
    obtain ⟨others, readToo, finite, rfl⟩ := parse_eq_some_iff.mp parsed
    obtain rfl : literals = others := Option.some.inj (read.symm.trans readToo)
    exact ⟨finite, same⟩
  · rintro ⟨finite, same⟩
    exact ⟨_, parse_eq_some_iff.mpr ⟨literals, read, finite, rfl⟩, same⟩

/-- Such a parser, with floats that are rounded once. -/
def Nlohmann.rounding : Nlohmann :=
  let classify (literal : Literal) : NlohmannNumber :=
    match literal.integer? with
    | none => .float (.ofNumeral literal.numeral)
    | some integer =>
      if integer < -2 ^ 63 ∨ 2 ^ 64 ≤ integer then .float (.ofNumeral literal.numeral)
      else if literal.numeral.negative then .integer (.ofInt integer)
      else .unsigned (.ofNat integer.toNat)
  { parse := fun string => (Json.parseOf literal string).bind fun tree =>
      if tree.numbers.all fun literal => (classify literal).isFinite then
        some ((withMaps tree).map classify)
      else none
    classify
    parse_eq := fun _ => rfl
    signed := by
      intro literal integer written negative fits
      have sign := Literal.sign written
      rw [if_pos negative] at sign
      simp only [classify, written, negative, if_true]
      exact if_neg (by omega)
    unsigned := by
      intro literal integer written pos fits
      have sign := Literal.sign written
      rw [pos] at sign
      simp only [classify, written, pos, Bool.false_eq_true, if_false] at sign ⊢
      exact if_neg (by omega)
    float := by
      intro literal integer written wide
      simp only [classify, written]
      exact ⟨_, if_pos wide⟩ }

theorem JSON.parse_integers_iff_small :
    ∃ json, JSON.parse .rounding "[-2147483648]".toList = some json ∧
      IntegersKept (withMaps (.array [.number ⟨⟨true, 2147483648, 0⟩, true⟩])) json := by
  refine (JSON.parse_integers_iff .rounding _ _ (by rfl)).mpr ⟨?_, ?_⟩
  · intro literal listed
    rw [List.mem_singleton.mp listed]
    rw [Nlohmann.rounding.signed _ (-2147483648) rfl rfl (by decide)]
    rfl
  · intro literal listed integer written
    rw [List.mem_singleton.mp listed] at written
    cases written
    decide

/-- An integer of 33 bits loses its highest bit. -/
theorem JSON.parse_truncates :
    JSON.parse .rounding "[4294967297]".toList = some (.array [.number (.long 1)]) := by
  have classified :
      Nlohmann.rounding.classify ⟨⟨false, 4294967297, 0⟩, true⟩ = .unsigned 4294967297 :=
    Nlohmann.rounding.unsigned _ 4294967297 rfl rfl (by decide)
  have converted : buildNumber (.unsigned 4294967297) = .long 1 := by decide
  refine parse_eq_some_iff.mpr
    ⟨.array [.number ⟨⟨false, 4294967297, 0⟩, true⟩], by rfl, ?_, ?_⟩
  · intro literal listed
    rw [List.mem_singleton.mp listed, classified]
    rfl
  · change _ = Json.array [.number (buildNumber (Nlohmann.rounding.classify _))]
    rw [classified, converted]

end TypeDBDriver.Cpp
