import Mathlib.Tactic.Ring
import TypeDBDriver.Library.Binary64
import TypeDBDriver.Library.DecimalText
import TypeDBDriver.Proto.Message

/-! The conversions of the type `f64` of the standard library: to text, from text and from
`i64`. -/

namespace TypeDBDriver

open Library
open Proto (F64)
open Binary64 (infinity nearest ofDecimal precision shortestDecimal)

namespace Proto.F64

def negative (double : F64) : Bool := decide (2 ^ 63 ≤ double.bits.toNat)

def ordinal (double : F64) : Nat := double.bits.toNat % 2 ^ 63

def ofParts (negative : Bool) (ordinal : Nat) : F64 :=
  ⟨UInt64.ofNat ((if negative then 2 ^ 63 else 0) + ordinal)⟩

def Finite (double : F64) : Prop := double.ordinal < infinity

instance : DecidablePred Finite := fun _ => inferInstanceAs (Decidable (_ < _))

/-- `fmt::Display for f64`: the shortest decimal that rounds back, without an exponent. -/
def display (double : F64) : Text :=
  if infinity < double.ordinal then ['N', 'a', 'N']
  else
    (if double.negative then ['-'] else []) ++
      if double.ordinal = infinity then ['i', 'n', 'f']
      else
        let decimal := shortestDecimal double.ordinal
        positionalText decimal.1 decimal.2

def ofNumeral (numeral : Json.Numeral) : F64 :=
  ofParts numeral.negative (ofDecimal numeral.digits numeral.exp)

theorem ofParts_negative_ordinal (double : F64) :
    ofParts double.negative double.ordinal = double := by
  have bound := double.bits.toNat_lt
  have whole : (if double.negative = true then 2 ^ 63 else 0) + double.ordinal =
      double.bits.toNat := by
    unfold negative ordinal
    by_cases below : 2 ^ 63 ≤ double.bits.toNat
    · simp only [below, decide_true, if_true]
      omega
    · simp only [below, decide_false, Bool.false_eq_true, if_false]
      omega
  rw [ofParts, whole, UInt64.ofNat_toNat]

variable {negative : Bool} {ordinal : Nat}

theorem bits_ofParts (fits : ordinal < 2 ^ 63) :
    (ofParts negative ordinal).bits.toNat = (if negative then 2 ^ 63 else 0) + ordinal := by
  simp only [ofParts, UInt64.toNat_ofNat']
  apply Nat.mod_eq_of_lt
  cases negative <;> simp <;> omega

theorem negative_ofParts (fits : ordinal < 2 ^ 63) :
    (ofParts negative ordinal).negative = negative := by
  rw [F64.negative, bits_ofParts fits]
  cases negative with
  | false => simp; omega
  | true => simp

theorem ordinal_ofParts (fits : ordinal < 2 ^ 63) :
    (ofParts negative ordinal).ordinal = ordinal := by
  rw [F64.ordinal, bits_ofParts fits]
  cases negative <;> simp <;> omega

theorem ofDecimal_positionalNumeral (negative : Bool) (digits : Nat) (exp : Int) :
    ofDecimal (Json.positionalNumeral negative digits exp).digits
        (Json.positionalNumeral negative digits exp).exp =
      ofDecimal digits exp := by
  have value := stripZeros_value digits (-exp).toNat
  simp only [Json.positionalNumeral, ofDecimal, Int.neg_neg, Int.toNat_natCast,
    Int.toNat_neg_natCast, Nat.pow_zero, Nat.mul_one]
  apply Binary64.nearest_congr (Nat.pow_pos (by decide)) (Nat.pow_pos (by decide))
  calc (stripZeros digits (-exp).toNat).1 * 10 ^ exp.toNat * 2 ^ precision *
        10 ^ (-exp).toNat
      = (stripZeros digits (-exp).toNat).1 * 10 ^ (-exp).toNat *
          (10 ^ exp.toNat * 2 ^ precision) := by ring
    _ = digits * 10 ^ (stripZeros digits (-exp).toNat).2 *
          (10 ^ exp.toNat * 2 ^ precision) := by rw [value]
    _ = digits * 10 ^ exp.toNat * 2 ^ precision *
          10 ^ (stripZeros digits (-exp).toNat).2 := by ring

variable {double : F64}

theorem display_of_finite (finite : double.Finite) :
    double.display = (if double.negative then ['-'] else []) ++
      positionalText (shortestDecimal double.ordinal).1
        (shortestDecimal double.ordinal).2 := by
  have number : double.ordinal < infinity := finite
  rw [display, if_neg (Nat.not_lt_of_lt number), if_neg (Nat.ne_of_lt number)]

def printedNumeral (double : F64) : Json.Numeral :=
  let decimal := shortestDecimal double.ordinal
  Json.positionalNumeral double.negative decimal.1 decimal.2

theorem ofNumeral_printedNumeral (finite : double.Finite) :
    ofNumeral double.printedNumeral = double := by
  have roundsBack := Binary64.shortestDecimal_roundsBack finite
  unfold printedNumeral
  generalize shortestDecimal double.ordinal = decimal at roundsBack
  rw [ofNumeral, ofDecimal_positionalNumeral, roundsBack]
  exact ofParts_negative_ordinal double

theorem reads_display (finite : double.Finite) (fuel : Nat) :
    Json.Reads (Json.value (fuel + 1)) double.display (.number double.printedNumeral) := by
  have shape := display_of_finite finite
  unfold printedNumeral
  generalize shortestDecimal double.ordinal = decimal at shape
  obtain ⟨first, others, begins, numeric⟩ := Json.signed_begins double.negative decimal.1 decimal.2
  apply Json.reads_number (shape.trans begins) numeric
  intro rest delimited
  rw [shape]
  exact Json.numeral_signed double.negative decimal.1 decimal.2 delimited.ends

theorem mem_display (finite : double.Finite) {char : Char} (listed : char ∈ double.display) :
    char.isDigit = true ∨ char = '.' ∨ char = '-' := by
  rw [display_of_finite finite] at listed
  rcases List.mem_append.mp listed with sign | digit
  · have isSign : char = '-' := by
      split at sign <;> simp_all
    exact .inr (.inr isSign)
  · rcases Json.mem_fixedPointText digit with numeric | point
    · exact .inl numeric
    · exact .inr (.inl point)

end Proto.F64

def asF64 (integer : Int64) : F64 :=
  .ofParts (decide (integer.toInt < 0))
    (nearest (integer.toInt.natAbs * 2 ^ precision) 1)

namespace Proto.F64

/-- The integer that a double is. Negative zero is not one of them. -/
def toInt? (double : F64) : Option Int :=
  let units := Binary64.units double.ordinal
  if double.Finite ∧ 2 ^ precision ∣ units ∧ ¬ (double.negative ∧ units = 0) then
    let magnitude : Int := (units / 2 ^ precision : Nat)
    some (if double.negative then -magnitude else magnitude)
  else
    none

end Proto.F64

def roundInteger (integer : Int64) : Int :=
  let magnitude : Int := Binary64.roundInteger integer.toInt.natAbs
  if integer.toInt < 0 then -magnitude else magnitude

theorem toInt?_asF64 (integer : Int64) : (asF64 integer).toInt? = some (roundInteger integer) := by
  have bounded : integer.toInt.natAbs < 2 ^ 64 := by
    have lower := integer.le_toInt
    have upper := integer.toInt_lt
    omega
  obtain ⟨finite, units⟩ := Binary64.nearest_integer bounded
  have fits : nearest (integer.toInt.natAbs * 2 ^ precision) 1 < 2 ^ 63 :=
    Nat.lt_trans finite (by decide)
  have isFinite : (asF64 integer).Finite := by
    rw [F64.Finite, asF64, F64.ordinal_ofParts fits]
    exact finite
  have sign : (asF64 integer).negative = decide (integer.toInt < 0) := F64.negative_ofParts fits
  have magnitude : Binary64.units (asF64 integer).ordinal =
      Binary64.roundInteger integer.toInt.natAbs * 2 ^ precision := by
    rw [asF64, F64.ordinal_ofParts fits, units]
  have power : 0 < 2 ^ precision := Nat.pow_pos (by decide)
  have notNegativeZero : ¬ (decide (integer.toInt < 0) = true ∧
      Binary64.roundInteger integer.toInt.natAbs * 2 ^ precision = 0) := by
    intro negativeZero
    have below : integer.toInt < 0 := of_decide_eq_true negativeZero.1
    have pos := Binary64.roundInteger_pos (show 0 < integer.toInt.natAbs by omega)
    exact Nat.ne_of_gt (Nat.mul_pos pos power) negativeZero.2
  simp only [F64.toInt?, sign, magnitude]
  rw [if_pos ⟨isFinite, Nat.dvd_mul_left _ _, notNegativeZero⟩, Nat.mul_div_cancel _ power]
  simp [roundInteger]

/-- At most 53 bits lie between the first and the last one bit. -/
def HasSignificand (integer : Int64) : Prop :=
  2 ^ (integer.toInt.natAbs.log2 - 52) ∣ integer.toInt.natAbs

instance : DecidablePred HasSignificand := fun _ => inferInstanceAs (Decidable (_ ∣ _))

theorem roundInteger_eq_iff (integer : Int64) :
    roundInteger integer = integer.toInt ↔ HasSignificand integer := by
  rw [HasSignificand, ← Binary64.roundInteger_eq_self_iff]
  unfold roundInteger
  dsimp only
  split <;> omega

end TypeDBDriver
