import Mathlib.Algebra.Ring.Nat
import TypeDBDriver.Library.JsonGrammar

/-! A text holds at least as many escapes as the tree it denotes needs. -/

namespace TypeDBDriver.Library.Json

open Option (bind_eq_bind bind_eq_some_iff)

variable {α β ν ξ : Type}

/-- The characters by which escapes are counted: each one begins with a backslash, and the
letter separates the long ones from the short ones. -/
def weight (text : Text) : Nat := text.countP fun char => char == '\\' || char == 'u'

theorem weight_append (first second : Text) :
    weight (first ++ second) = weight first + weight second :=
  List.countP_append

theorem weight_cons (first : Char) (rest : Text) :
    weight (first :: rest) = weight [first] + weight rest :=
  weight_append [first] rest

theorem weight_le_of_sublist {first second : Text} (sublist : first.Sublist second) :
    weight first ≤ weight second :=
  sublist.countP_le

theorem weight_skipBlanks_le (text : Text) : weight (skipBlanks text) ≤ weight text :=
  weight_le_of_sublist (List.dropWhile_sublist _)

def escapeCost (char : Char) : Nat :=
  if char = '\\' then 2
  else if char = '"' then 1
  else if char = '\x08' ∨ char = '\t' ∨ char = '\n' ∨ char = '\x0c' ∨
      char = '\r' then 1
  else if char.toNat < 0x20 then 2
  else if char = 'u' then 1
  else 0

theorem escapeCost_le_two (char : Char) : escapeCost char ≤ 2 := by
  unfold escapeCost
  repeat' split
  all_goals decide

theorem escapeCost_of_plain {char : Char} (plain : Plain char) :
    escapeCost char = weight [char] := by
  obtain ⟨notQuote, notBackslash, printable⟩ := plain
  have notShort : ¬ (char = '\x08' ∨ char = '\t' ∨ char = '\n' ∨
      char = '\x0c' ∨ char = '\r') := by
    intro short
    rcases short with rfl | rfl | rfl | rfl | rfl <;> exact absurd printable (by decide)
  unfold escapeCost
  rw [if_neg notBackslash, if_neg notQuote, if_neg notShort, if_neg (by omega)]
  split
  · next isLetter => subst isLetter; rfl
  · next notLetter => simp [weight, notBackslash, notLetter]

theorem weight_lt_escapeCost {char : Char} (special : ¬ Plain char) :
    weight [char] < escapeCost char := by
  by_cases isBackslash : char = '\\'
  · subst isBackslash; decide
  by_cases isQuote : char = '"'
  · subst isQuote; decide
  have control : char.toNat < 0x20 := by
    by_contra printable
    exact special ⟨isQuote, isBackslash, by omega⟩
  have notLetter : char ≠ 'u' := by
    intro isLetter
    subst isLetter
    exact absurd control (by decide)
  have weightless : weight [char] = 0 := by simp [weight, isBackslash, notLetter]
  rw [weightless, escapeCost, if_neg isBackslash, if_neg isQuote]
  split <;> decide

theorem sum_map_add {first second both : α → Nat} {items : List α}
    (each : ∀ item ∈ items, first item + second item = both item) :
    (items.map first).sum + (items.map second).sum = (items.map both).sum := by
  induction items with
  | nil => rfl
  | cons item items ih =>
    have head := each item List.mem_cons_self
    have tail := ih fun other listed => each other (List.mem_cons_of_mem _ listed)
    simp only [List.map_cons, List.sum_cons]
    omega

def contentCost (content : Text) : Nat := (content.map escapeCost).sum

def cost : Json ν → Nat :=
  fold {
    object := fun members => (members.map fun member => contentCost member.1.toList + member.2).sum
    array := List.sum
    string := fun content => contentCost content.toList
    number := fun _ => 0
    boolean := fun value => if value then 1 else 0
    null := 1
  }

@[simp] theorem cost_object (members : List (String × Json ν)) :
    cost (.object members) =
      (members.map fun member => contentCost member.1.toList + member.2.cost).sum := by
  simp only [cost, fold_object, List.map_map]
  rfl

@[simp] theorem cost_array (elems : List (Json ν)) :
    cost (.array elems) = (elems.map cost).sum := by
  simp only [cost, fold_array]

@[simp] theorem cost_number (value : ν) : cost (.number value) = 0 := rfl

theorem Same.cost_eq {first second : Json ν} (same : Same first second) :
    first.cost = second.cost :=
  same.fold_eq fun reordered => (reordered.map _).sum_nat

theorem cost_map (convert : ν → ξ) (json : Json ν) : (json.map convert).cost = json.cost := by
  induction json with
  | object members ih =>
    simp only [map_object, cost_object, List.map_map]
    congr 1
    apply List.map_congr_left
    intro member listed
    simp only [Function.comp_apply, ih member listed]
  | array elems ih =>
    simp only [map_array, cost_array, List.map_map]
    congr 1
    apply List.map_congr_left
    intro elem listed
    exact ih elem listed
  | string content => rfl
  | number value => rfl
  | boolean value => rfl
  | null => rfl

theorem weight_le_contentCost (content : Text) : weight content ≤ contentCost content := by
  induction content with
  | nil => exact Nat.le_refl 0
  | cons first rest ih =>
    have bound : weight [first] ≤ escapeCost first := by
      by_cases plain : Plain first
      · exact (escapeCost_of_plain plain).ge
      · exact Nat.le_of_lt (weight_lt_escapeCost plain)
    rw [weight_cons]
    simp only [contentCost, List.map_cons, List.sum_cons] at ih ⊢
    omega

theorem weight_eq_contentCost_iff (content : Text) :
    weight content = contentCost content ↔ ∀ char ∈ content, Plain char := by
  induction content with
  | nil => simp [weight, contentCost]
  | cons first rest ih =>
    have bound := weight_le_contentCost rest
    rw [List.forall_mem_cons, ← ih, weight_cons]
    simp only [contentCost, List.map_cons, List.sum_cons] at bound ⊢
    by_cases plain : Plain first
    · rw [escapeCost_of_plain plain]
      simp only [plain, true_and]
      omega
    · have less := weight_lt_escapeCost plain
      simp only [plain, false_and, iff_false]
      omega

def Weighs (price : α → Nat) (parser : Parser α) : Prop :=
  ∀ {text value rest}, parser text = some (value, rest) →
    price value + weight rest ≤ weight text

def Leaves (parser : Parser α) : Prop :=
  ∀ {text value rest}, parser text = some (value, rest) → rest <:+ text

theorem Leaves.weight_le {parser : Parser α} (leaves : Leaves parser) {text rest : Text} {value : α}
    (read : parser text = some (value, rest)) : weight rest ≤ weight text :=
  weight_le_of_sublist (leaves read).sublist

theorem codeUnit_leaves : Leaves codeUnit := by
  intro text unit rest read
  unfold codeUnit at read
  split at read
  · next first second third fourth following =>
      simp only [bind_eq_bind, bind_eq_some_iff, Option.some.injEq, Prod.mk.injEq] at read
      obtain ⟨_, _, _, _, _, _, _, _, _, remains⟩ := read
      rw [← remains]
      exact List.suffix_append [first, second, third, fourth] following
  · exact absurd read (by simp)

theorem unicodeEscape_leaves : Leaves unicodeEscape := by
  intro text denoted rest read
  unfold unicodeEscape at read
  simp only [bind_eq_bind, bind_eq_some_iff, Prod.exists] at read
  obtain ⟨unit, following, first, read⟩ := read
  have afterFirst : following <:+ text := codeUnit_leaves first
  split at read
  · split at read
    · next paired =>
        simp only [bind_eq_some_iff, Prod.exists] at read
        obtain ⟨low, remaining, second, read⟩ := read
        have afterSecond : remaining <:+ paired := codeUnit_leaves second
        have afterMark : paired <:+ text :=
          (List.suffix_append ['\\', 'u'] paired).trans afterFirst
        split at read
        · simp only [Option.some.injEq, Prod.mk.injEq] at read
          rw [← read.2]
          exact afterSecond.trans afterMark
        · exact absurd read (by simp)
    · exact absurd read (by simp)
  · split at read
    · exact absurd read (by simp)
    · simp only [Option.some.injEq, Prod.mk.injEq] at read
      rw [← read.2]
      exact afterFirst

theorem shortEscape_cost {escaped denoted : Char} (short : shortEscape escaped = some denoted) :
    escapeCost denoted ≤ 1 + weight [escaped] := by
  unfold shortEscape at short
  split at short <;> simp only [Option.some.injEq, reduceCtorEq] at short <;> subst short <;> decide

theorem character_weighs : Weighs escapeCost char := by
  intro text denoted rest read
  unfold char at read
  split at read
  · exact absurd read (by simp)
  · next first following =>
      split at read
      · next isBackslash =>
          subst isBackslash
          split at read
          · exact absurd read (by simp)
          · next following =>
              have remaining := unicodeEscape_leaves.weight_le read
              have bound := escapeCost_le_two denoted
              have marks : weight ['\\'] = 1 ∧ weight ['u'] = 1 := ⟨rfl, rfl⟩
              rw [weight_cons, weight_cons 'u']
              omega
          · next escaped following _ =>
              simp only [Option.map_eq_some_iff, Prod.mk.injEq] at read
              obtain ⟨named, short, rfl, rfl⟩ := read
              have bound := shortEscape_cost short
              have mark : weight ['\\'] = 1 := rfl
              rw [weight_cons, weight_cons escaped]
              omega
      · split at read
        · next plain =>
            simp only [Option.some.injEq, Prod.mk.injEq] at read
            obtain ⟨rfl, rfl⟩ := read
            rw [escapeCost_of_plain plain, weight_cons first following]
        · exact absurd read (by simp)

theorem characters_weighs (fuel : Nat) : Weighs contentCost (chars fuel) := by
  induction fuel with
  | zero =>
    intro text content rest read
    exact absurd read (by simp [chars])
  | succ fuel ih =>
    intro text content rest read
    unfold chars at read
    split at read
    · next following =>
        simp only [Option.some.injEq, Prod.mk.injEq] at read
        obtain ⟨rfl, rfl⟩ := read
        rw [weight_cons]
        simp only [contentCost, List.map_nil, List.sum_nil]
        omega
    · simp only [bind_eq_bind, bind_eq_some_iff, Prod.exists, Option.some.injEq,
        Prod.mk.injEq] at read
      obtain ⟨first, following, readFirst, others, remaining, readOthers, rfl, rfl⟩ := read
      have firstBound := character_weighs readFirst
      have othersBound := ih readOthers
      simp only [contentCost, List.map_cons, List.sum_cons] at othersBound ⊢
      omega

theorem quoted_weighs : Weighs (fun content => contentCost content.toList) quoted := by
  intro text content rest read
  unfold quoted at read
  split at read
  · next following =>
      simp only [bind_eq_bind, bind_eq_some_iff, Prod.exists, Option.some.injEq,
        Prod.mk.injEq] at read
      obtain ⟨denoted, remaining, readContent, rfl, rfl⟩ := read
      have bound := characters_weighs _ readContent
      simp only [String.toList_ofList, weight_cons '"' following]
      omega
  · exact absurd read (by simp)

theorem digits_leaves : Leaves digits := by
  intro text read rest result
  unfold digits at result
  split at result
  · exact absurd result (by simp)
  · simp only [Option.some.injEq, Prod.mk.injEq] at result
    rw [← result.2]
    exact List.dropWhile_suffix _

theorem integerPart_leaves : Leaves integerPart := by
  intro text read rest result
  unfold integerPart at result
  split at result
  · next following =>
      simp only [Option.some.injEq, Prod.mk.injEq] at result
      rw [← result.2]
      exact List.suffix_cons '0' following
  · exact digits_leaves result

theorem fractionPart_leaves : Leaves fractionPart := by
  intro text read rest result
  unfold fractionPart at result
  split at result
  · next following => exact (digits_leaves result).trans (List.suffix_cons '.' following)
  · simp only [Option.some.injEq, Prod.mk.injEq] at result
    obtain ⟨-, rfl⟩ := result
    exact List.suffix_refl _

theorem signedDigits_leaves : Leaves signedDigits := by
  intro text read rest result
  unfold signedDigits at result
  split at result <;>
    simp only [bind_eq_bind, bind_eq_some_iff, Prod.exists, Option.some.injEq,
      Prod.mk.injEq] at result
  · next following =>
      obtain ⟨_, remaining, readDigits, _, rfl⟩ := result
      exact (digits_leaves readDigits).trans (List.suffix_cons '-' following)
  · next following =>
      obtain ⟨_, remaining, readDigits, _, rfl⟩ := result
      exact (digits_leaves readDigits).trans (List.suffix_cons '+' following)
  · obtain ⟨_, remaining, readDigits, _, rfl⟩ := result
    exact digits_leaves readDigits

theorem exponentPart_leaves : Leaves exponentPart := by
  intro text read rest result
  unfold exponentPart at result
  split at result
  · next following =>
      exact (signedDigits_leaves result).trans (List.suffix_cons 'e' following)
  · next following =>
      exact (signedDigits_leaves result).trans (List.suffix_cons 'E' following)
  · simp only [Option.some.injEq, Prod.mk.injEq] at result
    obtain ⟨-, rfl⟩ := result
    exact List.suffix_refl _

theorem magnitude_leaves (negative : Bool) : Leaves (magnitude negative) := by
  intro text read rest result
  unfold magnitude at result
  simp only [bind_eq_bind, bind_eq_some_iff, Prod.exists, Option.some.injEq,
    Prod.mk.injEq] at result
  obtain ⟨_, _, integer, _, _, fraction, _, _, exp, _, rfl⟩ := result
  exact (exponentPart_leaves exp).trans
    ((fractionPart_leaves fraction).trans (integerPart_leaves integer))

theorem numeral_leaves : Leaves numeral := by
  intro text read rest result
  unfold numeral at result
  split at result
  · next following =>
      exact (magnitude_leaves true result).trans (List.suffix_cons '-' following)
  · exact magnitude_leaves false result

variable {price : α → Nat}

theorem padded_weighs {parser : Parser α} (weighs : Weighs price parser) :
    Weighs price (padded parser) := by
  intro text value rest read
  simp only [padded, bind_eq_bind, bind_eq_some_iff, Prod.exists, Option.some.injEq,
    Prod.mk.injEq] at read
  obtain ⟨_, following, read, rfl, rfl⟩ := read
  have bound := weighs read
  have before := weight_skipBlanks_le text
  have after := weight_skipBlanks_le following
  omega

theorem separated_weighs {item : Parser α} (close : Char) (weighs : Weighs price item)
    (fuel : Nat) : Weighs (fun values => (values.map price).sum) (separated close item fuel) := by
  induction fuel with
  | zero =>
    intro text values rest read
    exact absurd read (by simp [separated])
  | succ fuel ih =>
    intro text values rest read
    simp only [separated, bind_eq_bind, bind_eq_some_iff, Prod.exists] at read
    obtain ⟨value, following, readValue, read⟩ := read
    have bound := weighs readValue
    cases following with
    | nil => exact absurd read (by simp)
    | cons next following =>
      rw [weight_cons] at bound
      simp only at read
      split at read
      · simp only [bind_eq_some_iff, Prod.exists, Option.some.injEq, Prod.mk.injEq] at read
        obtain ⟨others, remaining, readOthers, rfl, rfl⟩ := read
        have othersBound := ih readOthers
        simp only [List.map_cons, List.sum_cons] at othersBound ⊢
        omega
      · split at read
        · simp only [Option.some.injEq, Prod.mk.injEq] at read
          obtain ⟨rfl, rfl⟩ := read
          simp only [List.map_cons, List.map_nil, List.sum_cons, List.sum_nil]
          omega
        · exact absurd read (by simp)

theorem bracketed_weighs {item : Parser α} (close : Char) (weighs : Weighs price item) :
    Weighs (fun values => (values.map price).sum) (bracketed close item) := by
  intro text values rest read
  have skipped := weight_skipBlanks_le text
  unfold bracketed at read
  split at read
  · exact absurd read (by simp)
  · next next following begins =>
      rw [begins] at skipped
      split at read
      · simp only [Option.some.injEq, Prod.mk.injEq] at read
        obtain ⟨rfl, rfl⟩ := read
        rw [weight_cons] at skipped
        simp only [List.map_nil, List.sum_nil]
        omega
      · have bound := separated_weighs close (padded_weighs weighs) _ read
        exact Nat.le_trans bound skipped

theorem member_weighs {content : Parser α} (weighs : Weighs price content) :
    Weighs (fun member => contentCost member.1.toList + price member.2) (member content) := by
  intro text read rest result
  simp only [member, bind_eq_bind, bind_eq_some_iff, Prod.exists] at result
  obtain ⟨key, following, readKey, result⟩ := result
  have keyBound := quoted_weighs readKey
  have beforeColon := weight_skipBlanks_le following
  split at result
  · next remaining begins =>
      simp only [bind_eq_some_iff, Prod.exists, Option.some.injEq, Prod.mk.injEq] at result
      obtain ⟨denoted, _, readContent, rfl, rfl⟩ := result
      have contentBound := weighs readContent
      have afterColon := weight_skipBlanks_le remaining
      rw [begins, weight_cons] at beforeColon
      simp only at keyBound ⊢
      omega
  · exact absurd result (by simp)

theorem valueOf_weighs {number : Parser ν} (leaves : Leaves number) (fuel : Nat) :
    Weighs cost (valueOf number fuel) := by
  induction fuel with
  | zero =>
    intro text json rest read
    exact absurd read (by simp [valueOf])
  | succ fuel ih =>
    intro text json rest read
    unfold valueOf at read
    split at read
    · next following =>
        simp only [bind_eq_bind, bind_eq_some_iff, Prod.exists, Option.some.injEq,
          Prod.mk.injEq] at read
        obtain ⟨members, _, readMembers, rfl, rfl⟩ := read
        have bound := bracketed_weighs '}' (member_weighs ih) readMembers
        rw [weight_cons, cost_object]
        exact Nat.le_trans bound (Nat.le_add_left _ _)
    · next following =>
        simp only [bind_eq_bind, bind_eq_some_iff, Prod.exists, Option.some.injEq,
          Prod.mk.injEq] at read
        obtain ⟨elems, _, readElements, rfl, rfl⟩ := read
        have bound := bracketed_weighs ']' ih readElements
        rw [weight_cons, cost_array]
        exact Nat.le_trans bound (Nat.le_add_left _ _)
    · next following =>
        simp only [bind_eq_bind, bind_eq_some_iff, Prod.exists, Option.some.injEq,
          Prod.mk.injEq] at read
        obtain ⟨content, _, readContent, rfl, rfl⟩ := read
        exact quoted_weighs readContent
    · next following =>
        simp only [Option.some.injEq, Prod.mk.injEq] at read
        obtain ⟨rfl, rfl⟩ := read
        exact (weight_append ['t', 'r', 'u', 'e'] following).ge
    · next following =>
        simp only [Option.some.injEq, Prod.mk.injEq] at read
        obtain ⟨rfl, rfl⟩ := read
        exact (weight_append ['f', 'a', 'l', 's', 'e'] following).ge
    · next following =>
        simp only [Option.some.injEq, Prod.mk.injEq] at read
        obtain ⟨rfl, rfl⟩ := read
        exact (weight_append ['n', 'u', 'l', 'l'] following).ge
    · simp only [bind_eq_bind, bind_eq_some_iff, Prod.exists, Option.some.injEq,
        Prod.mk.injEq] at read
      obtain ⟨number, _, readNumber, rfl, rfl⟩ := read
      have bound := leaves.weight_le readNumber
      rw [cost_number, Nat.zero_add]
      exact bound

theorem cost_le_weight {number : Parser ν} (leaves : Leaves number) {text : Text} {json : Json ν}
    (denotes : parseOf number text = some json) : json.cost ≤ weight text := by
  unfold parseOf at denotes
  split at denotes
  · next read =>
      simp only [Option.some.injEq] at denotes
      subst denotes
      exact Nat.le_trans (Nat.le_add_right _ _) (padded_weighs (valueOf_weighs leaves _) read)
  · exact absurd denotes (by simp)

end TypeDBDriver.Library.Json
