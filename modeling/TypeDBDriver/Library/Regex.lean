import Mathlib.Data.List.TakeDrop
import TypeDBDriver.Library.JsonGrammar

/-! Regular expressions with capturing groups, as a backtracking matcher runs them: an optional
part is tried before it is skipped, and a repetition is tried with the greatest count first. -/

namespace TypeDBDriver.Library

inductive Regex where
  | empty
  | one (accepts : Char → Bool)
  | seq (first second : Regex)
  | optional (body : Regex)
  | repeated (accepts : Char → Bool) (least : Nat) (most : Option Nat)
  | group (index : Nat) (body : Regex)

abbrev Captures := Nat → Option Text

namespace Regex

variable {α : Type}

def descending (attempt : Nat → Option α) (least : Nat) : Nat → Option α
  | 0 => if least = 0 then attempt 0 else none
  | count + 1 =>
    if least ≤ count + 1 then (attempt (count + 1)).or (descending attempt least count) else none

def runLength (accepts : Char → Bool) (most : Option Nat) (text : Text) : Nat :=
  most.elim (text.takeWhile accepts).length (min (text.takeWhile accepts).length)

/-- What is left after the match goes to `further`, and a failure there is backtracked. -/
def matchWith : Regex → Text → Captures → (Text → Captures → Option α) → Option α
  | .empty, text, captures, further => further text captures
  | .one accepts, text, captures, further =>
    match text with
    | [] => none
    | char :: rest => if accepts char then further rest captures else none
  | .seq first second, text, captures, further =>
    first.matchWith text captures fun rest captures => second.matchWith rest captures further
  | .optional body, text, captures, further =>
    (body.matchWith text captures further).or (further text captures)
  | .repeated accepts least most, text, captures, further =>
    descending (fun count => further (text.drop count) captures) least
      (runLength accepts most text)
  | .group index body, text, captures, further =>
    body.matchWith text captures fun rest captures =>
      further rest (Function.update captures index
        (some (text.take (text.length - rest.length))))

def fullMatch (regex : Regex) (text : Text) : Option Captures :=
  regex.matchWith text (fun _ => none) fun rest captures =>
    if rest = [] then some captures else none

inductive Matches : Regex → Text → Prop where
  | empty : Matches .empty []
  | one {accepts : Char → Bool} {char : Char} (accepted : accepts char = true) :
      Matches (.one accepts) [char]
  | seq {first second : Regex} {left right : Text} (matchesFirst : Matches first left)
      (matchesSecond : Matches second right) : Matches (.seq first second) (left ++ right)
  | skipped {body : Regex} : Matches (.optional body) []
  | taken {body : Regex} {text : Text} (matchesBody : Matches body text) :
      Matches (.optional body) text
  | repeated {accepts : Char → Bool} {least : Nat} {most : Option Nat} {text : Text}
      (all : ∀ char ∈ text, accepts char = true) (enough : least ≤ text.length)
      (few : ∀ bound, most = some bound → text.length ≤ bound) :
      Matches (.repeated accepts least most) text
  | group {index : Nat} {body : Regex} {text : Text} (matchesBody : Matches body text) :
      Matches (.group index body) text

variable {attempt : Nat → Option α} {least count : Nat} {result : α}
  {accepts : Char → Bool} {most : Option Nat} {text : Text} {captures : Captures}
  {further : Text → Captures → Option α}

theorem descending_of_some (enough : least ≤ count) (found : attempt count = some result) :
    descending attempt least count = some result := by
  cases count with
  | zero => rw [descending, if_pos (Nat.le_zero.mp enough), found]
  | succ count => rw [descending, if_pos enough, found, Option.some_or]

theorem descending_eq_none (fails : ∀ number ≤ count, attempt number = none) :
    descending attempt least count = none := by
  induction count with
  | zero => rw [descending, fails 0 (Nat.le_refl 0), ite_self]
  | succ count ih =>
    have rest := ih fun number bound => fails number (Nat.le_succ_of_le bound)
    rw [descending, fails (count + 1) (Nat.le_refl _), rest, Option.none_or, ite_self]

theorem descending_eq_some (found : descending attempt least count = some result) :
    ∃ number, least ≤ number ∧ number ≤ count ∧ attempt number = some result := by
  induction count with
  | zero =>
    rw [descending, Option.ite_none_right_eq_some] at found
    exact ⟨0, Nat.le_of_eq found.1, Nat.le_refl 0, found.2⟩
  | succ count ih =>
    rw [descending, Option.ite_none_right_eq_some, Option.or_eq_some_iff] at found
    obtain ⟨enough, first | ⟨-, later⟩⟩ := found
    · exact ⟨count + 1, enough, Nat.le_refl _, first⟩
    · obtain ⟨number, enough, bound, found⟩ := ih later
      exact ⟨number, enough, Nat.le_succ_of_le bound, found⟩

theorem runLength_le_run (accepts : Char → Bool) (most : Option Nat) (text : Text) :
    runLength accepts most text ≤ (text.takeWhile accepts).length := by
  cases most with
  | none => exact Nat.le_refl _
  | some bound => exact Nat.min_le_left _ _

theorem runLength_le_most {bound : Nat} (same : most = some bound) :
    runLength accepts most text ≤ bound := by
  rw [same]
  exact Nat.min_le_right _ _

theorem accepts_of_mem_take {char : Char} (few : count ≤ (text.takeWhile accepts).length)
    (listed : char ∈ text.take count) : accepts char = true := by
  have within : text.take count <+: text.takeWhile accepts := by
    refine List.prefix_of_prefix_length_le (List.take_prefix _ _) (List.takeWhile_prefix _) ?_
    rw [List.length_take]
    exact Nat.le_trans (Nat.min_le_left _ _) few
  exact List.mem_takeWhile_imp (within.subset listed)

theorem matchWith_sound {regex : Regex}
    (matched : regex.matchWith text captures further = some result) :
    ∃ used rest after, text = used ++ rest ∧ Matches regex used ∧
      further rest after = some result := by
  induction regex generalizing text captures further with
  | empty => exact ⟨[], text, captures, rfl, .empty, matched⟩
  | one accepts =>
    cases text with
    | nil => cases matched
    | cons char rest =>
      rw [matchWith, Option.ite_none_right_eq_some] at matched
      exact ⟨[char], rest, captures, rfl, .one matched.1, matched.2⟩
  | seq first second firstIH secondIH =>
    obtain ⟨left, middle, after, rfl, matchesFirst, matched⟩ := firstIH matched
    obtain ⟨right, rest, last, rfl, matchesSecond, matched⟩ := secondIH matched
    exact ⟨left ++ right, rest, last, (List.append_assoc _ _ _).symm,
      .seq matchesFirst matchesSecond, matched⟩
  | optional body ih =>
    rw [matchWith, Option.or_eq_some_iff] at matched
    rcases matched with matched | ⟨-, matched⟩
    · obtain ⟨used, rest, after, split, matchesBody, matched⟩ := ih matched
      exact ⟨used, rest, after, split, .taken matchesBody, matched⟩
    · exact ⟨[], text, captures, rfl, .skipped, matched⟩
  | repeated accepts least most =>
    obtain ⟨number, enough, bound, matched⟩ := descending_eq_some matched
    have few := Nat.le_trans bound (runLength_le_run accepts most text)
    have length : (text.take number).length = number := by
      rw [List.length_take]
      exact Nat.min_eq_left (Nat.le_trans few (List.takeWhile_prefix _).length_le)
    refine ⟨text.take number, text.drop number, captures, (List.take_append_drop _ _).symm,
      .repeated (fun _ listed => accepts_of_mem_take few listed) ?_ ?_, matched⟩
    · rw [length]
      exact enough
    · intro bound same
      rw [length]
      exact Nat.le_trans ‹_› (runLength_le_most same)
  | group index body ih =>
    obtain ⟨used, rest, after, split, matchesBody, matched⟩ := ih matched
    exact ⟨used, rest, _, split, .group matchesBody, matched⟩

theorem matches_of_fullMatch {regex : Regex} {found : Captures}
    (matched : regex.fullMatch text = some found) : Matches regex text := by
  obtain ⟨used, rest, after, rfl, matches_, ended⟩ := matchWith_sound matched
  rw [Option.ite_none_right_eq_some] at ended
  rw [ended.1, List.append_nil]
  exact matches_

theorem matches_seq {first second : Regex} (matched : Matches (.seq first second) text) :
    ∃ left right, text = left ++ right ∧ Matches first left ∧ Matches second right := by
  cases matched with
  | seq matchesFirst matchesSecond => exact ⟨_, _, rfl, matchesFirst, matchesSecond⟩

theorem matches_one (matched : Matches (.one accepts) text) :
    ∃ char, text = [char] ∧ accepts char = true := by
  cases matched with
  | one accepted => exact ⟨_, rfl, accepted⟩

def leading (digit : Char → Bool) (text : Text) : Option Char := (text.dropWhile digit).head?

def literal (ignoreCase : Bool) (letter char : Char) : Bool :=
  char == letter || (ignoreCase && char == letter.toLower)

/-- `(?:(integer)designator)?` -/
def numbered (integer : Regex) (index : Nat) (designator : Char → Bool) : Regex :=
  .optional (.seq (.group index integer) (.one designator))

/-- `(?:(integer)(?:point(digit{least,most}))?designator)?` -/
def fractional (integer : Regex) (index : Nat) (point digit : Char → Bool)
    (fractionIndex least : Nat)
    (most : Option Nat) (designator : Char → Bool) : Regex :=
  .optional (.seq (.group index integer) (.seq
    (.optional (.seq (.one point) (.group fractionIndex (.repeated digit least most))))
    (.one designator)))

/-- `(?:(integer)H)?(?:(integer)M)?(?:(integer)(?:point(digit{least,most}))?S)?` as the groups 4
to 7: the hours, minutes and seconds of ISO 8601. -/
def timePattern (ignoreCase : Bool) (integer : Regex) (point digit : Char → Bool) (least : Nat)
    (most : Option Nat) : Regex :=
  .seq (numbered integer 4 (literal ignoreCase 'H'))
    (.seq (numbered integer 5 (literal ignoreCase 'M'))
      (fractional integer 6 point digit 7 least most (literal ignoreCase 'S')))

def ReadsDigits (digit : Char → Bool) (integer : Regex) (text : Text) : Prop :=
  ∀ {α : Type} (captures : Captures) (further : Text → Captures → Option α),
    integer.matchWith text captures further =
      (repeated digit 1 none).matchWith text captures further

variable {digit designator point : Char → Bool} {integer : Regex} {index fractionIndex : Nat}
  {digits fraction rest : Text} {letter mark : Char}

section

variable (numeric : ∀ char ∈ digits, digit char = true) (ended : digit letter = false)

include numeric ended

theorem takeWhile_digits : (digits ++ letter :: rest).takeWhile digit = digits := by
  rw [List.takeWhile_append_of_pos numeric, List.takeWhile_cons_of_neg (by simp [ended]),
    List.append_nil]

theorem leading_digits : leading digit (digits ++ letter :: rest) = some letter := by
  rw [leading, List.dropWhile_append_of_pos numeric, List.dropWhile_cons_of_neg (by simp [ended])]
  rfl

theorem matchWith_group_repeated (enough : least ≤ digits.length)
    (few : ∀ bound, most = some bound → digits.length ≤ bound)
    (found : further (letter :: rest) (Function.update captures index (some digits)) =
      some result) :
    (group index (.repeated digit least most)).matchWith (digits ++ letter :: rest) captures
      further = some result := by
  have run : runLength digit most (digits ++ letter :: rest) = digits.length := by
    unfold runLength
    rw [takeWhile_digits numeric ended]
    cases most with
    | none => rfl
    | some bound => exact Nat.min_eq_left (few bound rfl)
  rw [matchWith, matchWith, run]
  refine descending_of_some enough ?_
  have taken : (digits ++ letter :: rest).take
      ((digits ++ letter :: rest).length - (letter :: rest).length) = digits := by
    rw [List.length_append, Nat.add_sub_cancel, List.take_left]
  rw [List.drop_left, taken]
  exact found

end

theorem matchWith_group_digits (reads : ReadsDigits digit integer (digits ++ letter :: rest))
    (numeric : ∀ char ∈ digits, digit char = true) (some_ : digits ≠ [])
    (ended : digit letter = false)
    (found : further (letter :: rest) (Function.update captures index (some digits)) =
      some result) :
    (group index integer).matchWith (digits ++ letter :: rest) captures further =
      some result := by
  have enough : 1 ≤ digits.length := List.length_pos_iff.mpr some_
  rw [matchWith, reads]
  exact matchWith_group_repeated numeric ended enough (fun _ impossible => by cases impossible)
    found

theorem matchWith_seq (first second : Regex) :
    (seq first second).matchWith text captures further = first.matchWith text captures
      fun rest captures => second.matchWith rest captures further := rfl

theorem matchWith_optional (body : Regex) :
    (optional body).matchWith text captures further =
      (body.matchWith text captures further).or (further text captures) := rfl

theorem matchWith_one_of_pos (accepted : accepts letter = true) :
    (one accepts).matchWith (letter :: rest) captures further = further rest captures := by
  rw [matchWith, if_pos accepted]

theorem matchWith_one_of_neg (rejected : accepts letter = false) :
    (one accepts).matchWith (letter :: rest) captures further = none := by
  rw [matchWith, if_neg (by simp [rejected])]

section

variable (reads : ReadsDigits digit integer text)
    (apart : ∀ char, digit char = true → designator char = false)
    (other : ∀ char, leading digit text = some char → designator char = false)

include reads apart other

theorem matchWith_number_fails :
    (seq (.group index integer) (.one designator)).matchWith text captures further = none := by
  rw [matchWith, matchWith, reads]
  refine descending_eq_none fun number bound => ?_
  cases left : text.drop number with
  | nil => rfl
  | cons char rest =>
    refine matchWith_one_of_neg ?_
    have bound := Nat.le_trans bound (runLength_le_run digit none text)
    have split : text.takeWhile digit ++ text.dropWhile digit = text :=
      List.takeWhile_append_dropWhile
    have place : text[number]? = some char := by
      rw [← List.head?_drop, left, List.head?_cons]
    rw [← split] at place
    by_cases inside : number < (text.takeWhile digit).length
    · rw [List.getElem?_append_left inside] at place
      exact apart char (List.mem_takeWhile_imp (List.mem_of_getElem? place))
    · have last : number = (text.takeWhile digit).length :=
        Nat.le_antisymm bound (Nat.le_of_not_lt inside)
      rw [List.getElem?_append_right (Nat.le_of_eq last.symm), last, Nat.sub_self,
        ← List.head?_eq_getElem?] at place
      exact other char place

theorem matchWith_numbered_skip :
    (numbered integer index designator).matchWith text captures further =
      further text captures := by
  rw [numbered, matchWith_optional, matchWith_number_fails reads apart other, Option.none_or]

end

section

variable (reads : ReadsDigits digit integer (digits ++ letter :: rest))
    (numeric : ∀ char ∈ digits, digit char = true) (some_ : digits ≠ [])
    (ended : digit letter = false)

include reads numeric some_ ended

theorem matchWith_numbered_take (designated : designator letter = true)
    (found : further rest (Function.update captures index (some digits)) = some result) :
    (numbered integer index designator).matchWith (digits ++ letter :: rest) captures further =
      some result := by
  rw [numbered, matchWith_optional, matchWith_seq, matchWith_group_digits reads numeric some_ ended]
  · exact Option.some_or
  · rw [matchWith_one_of_pos designated]
    exact found

theorem matchWith_fractional_whole (whole : point letter = false)
    (designated : designator letter = true)
    (found : further rest (Function.update captures index (some digits)) = some result) :
    (fractional integer index point digit fractionIndex least most designator).matchWith
      (digits ++ letter :: rest) captures further = some result := by
  rw [fractional, matchWith_optional, matchWith_seq,
    matchWith_group_digits reads numeric some_ ended]
  · exact Option.some_or
  · rw [matchWith_seq, matchWith_optional, matchWith_seq, matchWith_one_of_neg whole,
      Option.none_or, matchWith_one_of_pos designated]
    exact found

end

theorem matchWith_fractional_take
    (reads : ReadsDigits digit integer (digits ++ mark :: (fraction ++ letter :: rest)))
    (numeric : ∀ char ∈ digits, digit char = true) (some_ : digits ≠ [])
    (pointEnded : digit mark = false) (marked : point mark = true)
    (fractionNumeric : ∀ char ∈ fraction, digit char = true) (ended : digit letter = false)
    (enough : least ≤ fraction.length) (few : ∀ bound, most = some bound → fraction.length ≤ bound)
    (designated : designator letter = true)
    (found : further rest (Function.update (Function.update captures index (some digits))
      fractionIndex (some fraction)) = some result) :
    (fractional integer index point digit fractionIndex least most designator).matchWith
      (digits ++ mark :: (fraction ++ letter :: rest)) captures further = some result := by
  rw [fractional, matchWith_optional, matchWith_seq,
    matchWith_group_digits reads numeric some_ pointEnded]
  · exact Option.some_or
  · rw [matchWith_seq, matchWith_optional, matchWith_seq, matchWith_one_of_pos marked,
      matchWith_group_repeated fractionNumeric ended enough few]
    · exact Option.some_or
    · rw [matchWith_one_of_pos designated]
      exact found

theorem matchWith_fractional_nil (reads : ReadsDigits digit integer []) :
    (fractional integer index point digit fractionIndex least most designator).matchWith
      [] captures further = further [] captures := by
  have fails : (group index integer).matchWith [] captures (fun rest captures =>
      (seq (.optional (.seq (.one point) (.group fractionIndex (.repeated digit least most))))
        (.one designator)).matchWith rest captures further) = none := by
    rw [matchWith, reads]
    rfl
  rw [fractional, matchWith_optional, matchWith_seq, fails, Option.none_or]

end Regex

end TypeDBDriver.Library
