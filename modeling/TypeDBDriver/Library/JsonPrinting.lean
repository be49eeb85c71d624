import TypeDBDriver.Library.DecimalText
import TypeDBDriver.Library.JsonLayout
import TypeDBDriver.Library.JsonWeight

/-! Trees that are printed without escapes. What their texts lack of escapes shows how much of the
strings is lost. -/

namespace TypeDBDriver.Library.Json

variable {ν : Type} {json : Json ν}

theorem numberToken_integerText (integer : Int) :
    NumberToken numeral (integerText integer) ⟨decide (integer < 0), integer.natAbs, 0⟩ where
  begins := by
    obtain ⟨first, others, shape, numeric⟩ := fixedPointText_begins integer.natAbs 0
    have digits : Nat.toDigits 10 integer.natAbs = first :: others := shape
    unfold integerText
    rw [digits]
    split
    · exact ⟨'-', first :: others, rfl, .inl rfl⟩
    · exact ⟨first, others, rfl, .inr numeric⟩
  reads := by
    intro rest ends
    have read := numeral_fixedPointText (decide (integer < 0)) integer.natAbs 0 ends
    simp only [decide_eq_true_eq] at read
    exact read

/-- The escapes that a text lacks, because strings are written without any. -/
def lacking (json : Json ν) : Nat :=
  (json.strings.map fun content =>
    contentCost content.toList - weight content.toList).sum

theorem lacking_eq_zero_iff : lacking json = 0 ↔
    ∀ content ∈ json.strings, ∀ char ∈ content.toList, Plain char := by
  rw [lacking, List.sum_eq_zero_iff_forall_eq_nat, List.forall_mem_map]
  refine forall₂_congr fun content _ => ?_
  have bound := weight_le_contentCost content.toList
  rw [← weight_eq_contentCost_iff]
  omega

theorem weight_intercalate {separator : Text} (light : weight separator = 0) (texts : List Text) :
    weight (separator.intercalate texts) = (texts.map weight).sum := by
  induction texts with
  | nil => rfl
  | cons text others ih =>
    cases others with
    | nil => simp [List.intercalate]
    | cons next others =>
      rw [List.intercalate_cons_cons, weight_append, weight_append, ih, light]
      simp

theorem weight_integerText (integer : Int) : weight (integerText integer) = 0 := by
  apply List.countP_eq_zero.mpr
  intro char listed
  rcases List.mem_append.mp listed with sign | digit
  · split at sign
    · rw [List.mem_singleton.mp sign]
      decide
    · cases sign
  · have numeric := Nat.isDigit_of_mem_toDigits (by decide) (by decide) digit
    intro marked
    rcases (Bool.or_eq_true _ _).mp marked with same | same <;> rw [eq_of_beq same] at numeric <;>
      exact absurd numeric (by decide)

theorem lacking_object (members : List (String × Json ν)) :
    lacking (.object members) = (members.map fun member =>
      contentCost member.1.toList - weight member.1.toList + lacking member.2).sum := by
  rw [lacking, strings_object]
  induction members with
  | nil => rfl
  | cons member others ih =>
    rw [List.flatMap_cons, List.map_append, List.sum_append, ih, List.map_cons, List.map_cons,
      List.sum_cons, List.sum_cons]
    rfl

theorem lacking_array (elems : List (Json ν)) :
    lacking (.array elems) = (elems.map lacking).sum := by
  rw [lacking, strings_array]
  induction elems with
  | nil => rfl
  | cons elem others ih =>
    rw [List.flatMap_cons, List.map_append, List.sum_append, ih, List.map_cons, List.sum_cons]
    rfl

theorem weight_printed {print : Json ν → Text}
    (object : ∀ members, weight (print (.object members)) =
      (members.map fun member => weight member.1.toList + weight (print member.2)).sum)
    (array : ∀ elems, weight (print (.array elems)) =
      (elems.map fun elem => weight (print elem)).sum)
    (string : ∀ content, weight (print (.string content)) = weight content.toList)
    (boolean : ∀ value, weight (print (.boolean value)) = if value then 1 else 0)
    (null : weight (print .null) = 1)
    (light : ∀ value ∈ json.numbers, weight (print (.number value)) = 0) :
    weight (print json) + lacking json = json.cost := by
  induction json with
  | object members ih =>
    rw [numbers_object, List.forall_mem_flatMap] at light
    rw [object, lacking_object, cost_object]
    refine sum_map_add fun member listed => ?_
    have value := ih member listed (light member listed)
    have bound := weight_le_contentCost member.1.toList
    omega
  | array elems ih =>
    rw [numbers_array, List.forall_mem_flatMap] at light
    rw [array, lacking_array, cost_array]
    exact sum_map_add fun elem listed => ih elem listed (light elem listed)
  | string content =>
    have bound := weight_le_contentCost content.toList
    have lacks : lacking (.string content : Json ν) =
        contentCost content.toList - weight content.toList := Nat.add_zero _
    have needs : (.string content : Json ν).cost = contentCost content.toList := rfl
    rw [string, lacks, needs]
    omega
  | number value => exact light value (List.mem_singleton.mpr rfl)
  | boolean value => exact boolean value
  | null => exact null

end TypeDBDriver.Library.Json
