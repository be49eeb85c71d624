import Mathlib.Algebra.Field.Rat
import TypeDBDriver.Library.JsonReading

/-! Decimal numbers written in positional notation, and how the grammar of JSON texts reads
them. -/

namespace TypeDBDriver.Library

open Nat (toDigits)

def zeroPadded (width number : Nat) : Text :=
  List.replicate (width - (toDigits 10 number).length) '0' ++ toDigits 10 number

def integerText (number : Int) : Text :=
  (if number < 0 then ['-'] else []) ++ toDigits 10 number.natAbs

def stripZeros (digits : Nat) : Nat → Nat × Nat
  | 0 => (digits, 0)
  | places + 1 =>
    if digits % 10 = 0 then stripZeros (digits / 10) places else (digits, places + 1)

def fixedPointText (digits places : Nat) : Text :=
  if places = 0 then toDigits 10 digits
  else toDigits 10 (digits / 10 ^ places) ++ '.' :: zeroPadded places (digits % 10 ^ places)

/-- `digits * 10 ^ exponent` without an exponent and without zeros at the end of the fraction. -/
def positionalText (digits : Nat) (exp : Int) : Text :=
  let stripped := stripZeros digits (-exp).toNat
  fixedPointText (stripped.1 * 10 ^ exp.toNat) stripped.2

theorem stripZeros_value (digits places : Nat) :
    (stripZeros digits places).1 * 10 ^ places = digits * 10 ^ (stripZeros digits places).2 := by
  induction places generalizing digits with
  | zero => rfl
  | succ places ih =>
    unfold stripZeros
    split
    · next divisible =>
        have tens : digits = digits / 10 * 10 := by omega
        rw [Nat.pow_succ, ← Nat.mul_assoc, ih, Nat.mul_right_comm, ← tens]
    · rfl

theorem isDigit_zeroPadded {width number : Nat} {char : Char}
    (listed : char ∈ zeroPadded width number) : char.isDigit = true := by
  rcases List.mem_append.mp listed with zero | digit
  · rw [(List.mem_replicate.mp zero).2]
    rfl
  · exact Nat.isDigit_of_mem_toDigits (by decide) (by decide) digit

theorem length_zeroPadded {width number : Nat} (wide : 0 < width) (fits : number < 10 ^ width) :
    (zeroPadded width number).length = width := by
  have bound := (Nat.length_toDigits_le_iff (by decide) wide).mpr fits
  rw [zeroPadded, List.length_append, List.length_replicate]
  omega

theorem ofDigitChars_zeroPadded (width number : Nat) :
    Nat.ofDigitChars 10 (zeroPadded width number) 0 = number := by
  rw [zeroPadded, Nat.ofDigitChars_append, Nat.ofDigitChars_replicate_zero, Nat.mul_zero,
    Nat.ofDigitChars_ten_toDigits]

theorem integerText_injective : Function.Injective integerText := by
  intro first second same
  have negative : ∀ number : Int, (integerText number).head? = some '-' ↔ number < 0 := by
    intro number
    unfold integerText
    split
    · next below => simp [below]
    · next notBelow =>
        constructor
        · intro begins
          have listed : '-' ∈ toDigits 10 number.natAbs := List.mem_of_mem_head? begins
          exact absurd (Nat.isDigit_of_mem_toDigits (by decide) (by decide) listed) (by decide)
        · intro below
          exact absurd below notBelow
  have signs : first < 0 ↔ second < 0 := by rw [← negative, ← negative, same]
  have magnitudes : first.natAbs = second.natAbs := by
    unfold integerText at same
    rw [if_congr signs rfl rfl, List.append_cancel_left_eq] at same
    rw [← @Nat.ofDigitChars_ten_toDigits first.natAbs, same, Nat.ofDigitChars_ten_toDigits]
  omega

theorem fixedPointText_parts {whole fraction places : Nat} (wide : 0 < places)
    (fits : fraction < 10 ^ places) :
    fixedPointText (whole * 10 ^ places + fraction) places =
      toDigits 10 whole ++ '.' :: zeroPadded places fraction := by
  have pos : 0 < 10 ^ places := Nat.pow_pos (by decide)
  have quotient : (whole * 10 ^ places + fraction) / 10 ^ places = whole := by
    rw [Nat.mul_comm, Nat.mul_add_div pos, Nat.div_eq_of_lt fits, Nat.add_zero]
  have remainder : (whole * 10 ^ places + fraction) % 10 ^ places = fraction := by
    rw [Nat.mul_comm, Nat.mul_add_mod, Nat.mod_eq_of_lt fits]
  rw [fixedPointText, if_neg (Nat.ne_of_gt wide), quotient, remainder]

namespace Json

variable {rest : Text}

theorem digits_append {read : Text} (some_ : read ≠ [])
    (numeric : ∀ char ∈ read, char.isDigit = true)
    (ends : ∀ next ∈ rest.head?, next.isDigit = false) :
    digits (read ++ rest) = some (read, rest) := by
  have taken : rest.takeWhile Char.isDigit = [] ∧ rest.dropWhile Char.isDigit = rest := by
    cases rest with
    | nil => exact ⟨rfl, rfl⟩
    | cons next rest => simp [ends next rfl]
  unfold digits
  rw [List.takeWhile_append_of_pos numeric, List.dropWhile_append_of_pos numeric, taken.1, taken.2,
    List.append_nil]
  cases read with
  | nil => exact absurd rfl some_
  | cons first others => rfl

theorem head?_toDigits_ne_zero {number : Nat} (pos : 0 < number) :
    (toDigits 10 number).head? ≠ some '0' := by
  induction number using Nat.strongRecOn with
  | ind number ih =>
    rw [Nat.toDigits_eq_if (by decide)]
    split
    · next small =>
        have each : ∀ digit < 10, 0 < digit → [Nat.digitChar digit].head? ≠ some '0' := by decide
        exact each number small pos
    · have nonempty : (toDigits 10 (number / 10)) ≠ [] := Nat.toDigits_ne_nil
      rw [List.head?_append_of_ne_nil _ nonempty]
      exact ih (number / 10) (by omega) (by omega)

theorem integerPart_toDigits (number : Nat) (ends : ∀ next ∈ rest.head?, next.isDigit = false) :
    integerPart (toDigits 10 number ++ rest) = some (toDigits 10 number, rest) := by
  have numeric : ∀ char ∈ toDigits 10 number, char.isDigit = true := by
    intro char listed
    exact Nat.isDigit_of_mem_toDigits (by decide) (by decide) listed
  rcases Nat.eq_zero_or_pos number with rfl | pos
  · rfl
  · unfold integerPart
    split
    · next shape =>
        exfalso
        apply head?_toDigits_ne_zero pos
        rw [← List.head?_append_of_ne_nil _ Nat.toDigits_ne_nil, shape]
        rfl
    · exact digits_append Nat.toDigits_ne_nil numeric ends

theorem Ends.not_numeric (ends : Ends rest) :
    ∀ next ∈ rest.head?, next.isDigit = false ∧ next ≠ '.' ∧ next ≠ 'e' ∧ next ≠ 'E' := by
  intro next begins
  rcases ends next begins with (rfl | rfl | rfl | rfl) | blank
  · decide
  · decide
  · decide
  · decide
  · simp only [isBlank, Bool.or_eq_true, beq_iff_eq] at blank
    rcases blank with ((rfl | rfl) | rfl) | rfl <;> decide

theorem Ends.not_isDigit (ends : Ends rest) : ∀ next ∈ rest.head?, next.isDigit = false :=
  fun next begins => (ends.not_numeric next begins).1

theorem Ends.fractionPart_eq (ends : Ends rest) : fractionPart rest = some ([], rest) := by
  unfold fractionPart
  split
  · exact absurd rfl (ends.not_numeric '.' rfl).2.1
  · rfl

theorem Ends.exponentPart_eq (ends : Ends rest) : exponentPart rest = some (0, rest) := by
  unfold exponentPart
  split
  · exact absurd rfl (ends.not_numeric 'e' rfl).2.2.1
  · exact absurd rfl (ends.not_numeric 'E' rfl).2.2.2
  · rfl

theorem magnitude_fixedPointText (negative : Bool) (digits places : Nat) (ends : Ends rest) :
    magnitude negative (fixedPointText digits places ++ rest) =
      some (⟨negative, digits, -places⟩, rest) := by
  unfold fixedPointText magnitude
  split
  · next whole =>
      subst whole
      simp [integerPart_toDigits digits ends.not_isDigit, ends.fractionPart_eq,
        ends.exponentPart_eq]
  · next fractional =>
      have wide : 0 < places := Nat.pos_of_ne_zero fractional
      have fits : digits % 10 ^ places < 10 ^ places := Nat.mod_lt _ (Nat.pow_pos (by decide))
      have width := length_zeroPadded wide fits
      have nonempty : zeroPadded places (digits % 10 ^ places) ≠ [] := by
        intro empty
        rw [empty] at width
        exact fractional width.symm
      have point : ∀ next ∈ ('.' :: (zeroPadded places (digits % 10 ^ places) ++ rest)).head?,
          next.isDigit = false := by simp
      have read : Nat.ofDigitChars 10 (toDigits 10 (digits / 10 ^ places) ++
          zeroPadded places (digits % 10 ^ places)) 0 = digits := by
        rw [Nat.ofDigitChars_append, Nat.ofDigitChars_ten_toDigits,
          Nat.ofDigitChars_eq_ofDigitChars_zero, ofDigitChars_zeroPadded, width]
        exact Nat.div_add_mod digits (10 ^ places)
      rw [List.append_assoc, List.cons_append, integerPart_toDigits _ point]
      simp only [Option.bind_eq_bind, Option.bind_some, fractionPart,
        digits_append nonempty (fun _ listed => isDigit_zeroPadded listed) ends.not_isDigit,
        ends.exponentPart_eq, read, width]
      simp

theorem fixedPointText_begins (digits places : Nat) :
    ∃ first others, fixedPointText digits places = first :: others ∧ first.isDigit = true := by
  have begins : ∀ number, ∃ first others, toDigits 10 number = first :: others ∧
      first.isDigit = true := by
    intro number
    cases shape : toDigits 10 number with
    | nil => exact absurd shape Nat.toDigits_ne_nil
    | cons first others =>
      have listed : first ∈ toDigits 10 number := by simp [shape]
      exact ⟨first, others, rfl, Nat.isDigit_of_mem_toDigits (by decide) (by decide) listed⟩
  unfold fixedPointText
  split
  · exact begins digits
  · obtain ⟨first, others, shape, numeric⟩ := begins (digits / 10 ^ places)
    exact ⟨first, _, by rw [shape, List.cons_append], numeric⟩

def positionalNumeral (negative : Bool) (digits : Nat) (exp : Int) : Numeral :=
  let stripped := stripZeros digits (-exp).toNat
  { negative, digits := stripped.1 * 10 ^ exp.toNat, exp := -stripped.2 }

theorem signed_begins (negative : Bool) (digits : Nat) (exp : Int) :
    ∃ first others, (if negative then ['-'] else []) ++ positionalText digits exp =
      first :: others ∧ (first = '-' ∨ first.isDigit = true) := by
  obtain ⟨first, others, shape, numeric⟩ := fixedPointText_begins
    ((stripZeros digits (-exp).toNat).1 * 10 ^ exp.toNat)
    (stripZeros digits (-exp).toNat).2
  cases negative with
  | false => exact ⟨first, others, shape, .inr numeric⟩
  | true => exact ⟨'-', _, rfl, .inl rfl⟩

theorem numeral_fixedPointText (negative : Bool) (digits places : Nat) (ends : Ends rest) :
    numeral ((if negative then ['-'] else []) ++ fixedPointText digits places ++ rest) =
      some (⟨negative, digits, -places⟩, rest) := by
  have read := magnitude_fixedPointText negative digits places ends
  cases negative with
  | true => exact read
  | false =>
    obtain ⟨first, others, shape, numeric⟩ := fixedPointText_begins digits places
    simp only [Bool.false_eq_true, if_false, List.nil_append]
    rw [shape] at read ⊢
    unfold numeral
    split
    · next sign =>
        rw [(List.cons.inj sign).1] at numeric
        exact absurd numeric (by decide)
    · exact read

theorem numeral_signed (negative : Bool) (digits : Nat) (exp : Int) (ends : Ends rest) :
    numeral ((if negative then ['-'] else []) ++ positionalText digits exp ++ rest) =
      some (positionalNumeral negative digits exp, rest) :=
  numeral_fixedPointText negative _ _ ends

theorem mem_fixedPointText {digits places : Nat} {char : Char}
    (listed : char ∈ fixedPointText digits places) : char.isDigit = true ∨ char = '.' := by
  have numeric : ∀ number, char ∈ toDigits 10 number → char.isDigit = true := by
    intro number digit
    exact Nat.isDigit_of_mem_toDigits (by decide) (by decide) digit
  unfold fixedPointText at listed
  split at listed
  · exact .inl (numeric _ listed)
  · rcases List.mem_append.mp listed with integer | fraction
    · exact .inl (numeric _ integer)
    · rcases List.mem_cons.mp fraction with point | digit
      · exact .inr point
      · exact .inl (isDigit_zeroPadded digit)

def Numeral.rational (numeral : Numeral) : Rat :=
  (if numeral.negative then -1 else 1) * numeral.digits * 10 ^ numeral.exp

def Denotes (text : Text) (number : Rat) : Prop :=
  ∃ read, numeral text = some (read, []) ∧ read.rational = number

theorem Denotes.unique {text : Text} {first second : Rat} (denotesFirst : Denotes text first)
    (denotesSecond : Denotes text second) : first = second := by
  obtain ⟨read, found, rfl⟩ := denotesFirst
  obtain ⟨again, foundAgain, rfl⟩ := denotesSecond
  rw [found, Option.some.injEq, Prod.mk.injEq] at foundAgain
  rw [foundAgain.1]

end Json

end TypeDBDriver.Library
