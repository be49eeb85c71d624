import Mathlib.Algebra.Order.BigOperators.Group.List
import TypeDBDriver.Cpp.Json

/-! Which JSON values of the C++ driver are read back from their text. -/

namespace TypeDBDriver.Cpp

open Library
open Proto (F64)
open Json (Spread cost_map fold_array fold_object weight weight_append weight_cons)

def Ordered {ν : Type} : Json ν → Prop :=
  Json.fold {
    object := fun members =>
      members.Pairwise (fun first second => first.1 < second.1) ∧ ∀ member ∈ members, member.2
    array := fun elems => ∀ elem ∈ elems, elem
    string := fun _ => True
    number := fun _ => True
    boolean := fun _ => True
    null := True
  }

section Maps

variable {α ν ξ : Type}

theorem insertKey_last {key : String} (value : α) {map : List (String × α)}
    (below : ∀ member ∈ map, member.1 < key) : insertKey key value map = map ++ [(key, value)] := by
  induction map with
  | nil => rfl
  | cons member map ih =>
    obtain ⟨other, held⟩ := member
    have less : other < key := below (other, held) List.mem_cons_self
    rw [insertKey, if_neg (lt_asymm less), if_neg (ne_of_gt less),
      ih fun member listed => below member (List.mem_cons_of_mem _ listed)]
    rfl

theorem mapOf_ordered {members : List (String × α)}
    (ordered : members.Pairwise fun first second => first.1 < second.1) :
    mapOf members = members := by
  have folded : ∀ map : List (String × α),
      (map ++ members).Pairwise (fun first second => first.1 < second.1) →
        members.foldl (fun map member => insertKey member.1 member.2 map) map = map ++ members := by
    clear ordered
    induction members with
    | nil => exact fun map _ => (List.append_nil map).symm
    | cons member members ih =>
      intro map ordered
      have below : ∀ held ∈ map, held.1 < member.1 := fun held listed =>
        (List.pairwise_append.mp ordered).2.2 held listed member List.mem_cons_self
      rw [List.foldl_cons, insertKey_last member.2 below, ih]
      · exact List.append_assoc map [member] members
      · rwa [List.append_assoc]
  exact folded [] ordered

theorem ordered_object {members : List (String × Json ν)} (ordered : Ordered (.object members)) :
    members.Pairwise (fun first second => first.1 < second.1) ∧
      ∀ member ∈ members, Ordered member.2 := by
  simp only [Ordered, fold_object, List.pairwise_map, List.forall_mem_map] at ordered
  exact ordered

theorem ordered_array {elems : List (Json ν)} (ordered : Ordered (.array elems)) :
    ∀ elem ∈ elems, Ordered elem := by
  simp only [Ordered, fold_array, List.forall_mem_map] at ordered
  exact ordered

theorem withMaps_map {convert : ν → ξ} {json : Json ν} (ordered : Ordered json) :
    withMaps (json.map convert) = json.map convert := by
  induction json with
  | object members ih =>
    obtain ⟨sorted, each⟩ := ordered_object ordered
    have same : members.map (fun member => (member.1, withMaps (member.2.map convert))) =
        members.map fun member => (member.1, member.2.map convert) :=
      List.map_congr_left fun member listed =>
        Prod.ext rfl (ih member listed (each member listed))
    rw [Json.map_object, withMaps, fold_object, List.map_map]
    refine congrArg Json.object ((congrArg mapOf same).trans (mapOf_ordered ?_))
    exact List.pairwise_map.mpr sorted
  | array elems ih =>
    have each := ordered_array ordered
    rw [Json.map_array, withMaps, fold_array, List.map_map]
    exact congrArg Json.array (List.map_congr_left fun elem listed =>
      ih elem listed (each elem listed))
  | string content => rfl
  | number value => rfl
  | boolean value => rfl
  | null => rfl

theorem sum_insertKey_le (price : String × α → Nat) (key : String) (value : α)
    (map : List (String × α)) :
    ((insertKey key value map).map price).sum ≤ (map.map price).sum + price (key, value) := by
  induction map with
  | nil => simp [insertKey]
  | cons member map ih =>
    obtain ⟨other, held⟩ := member
    unfold insertKey
    split
    · simp only [List.map_cons, List.sum_cons]
      omega
    · split
      · simp only [List.map_cons, List.sum_cons]
        omega
      · simp only [List.map_cons, List.sum_cons]
        omega

theorem sum_mapOf_le (price : String × α → Nat) (members : List (String × α)) :
    ((mapOf members).map price).sum ≤ (members.map price).sum := by
  have folded : ∀ map : List (String × α),
      ((members.foldl (fun map member => insertKey member.1 member.2 map) map).map price).sum ≤
        (map.map price).sum + (members.map price).sum := by
    induction members with
    | nil => exact fun map => Nat.le_refl _
    | cons member members ih =>
      intro map
      obtain ⟨key, value⟩ := member
      have inserted := sum_insertKey_le price key value map
      have rest := ih (insertKey key value map)
      simp only [List.foldl_cons, List.map_cons, List.sum_cons]
      omega
  exact (folded []).trans (Nat.zero_add _).le

theorem cost_withMaps_le (json : Json ν) : (withMaps json).cost ≤ json.cost := by
  induction json with
  | object members ih =>
    rw [withMaps, fold_object, Json.cost_object, Json.cost_object]
    refine (sum_mapOf_le _ _).trans ?_
    rw [List.map_map]
    refine List.sum_le_sum fun member listed => ?_
    exact Nat.add_le_add_left (ih member listed) _
  | array elems ih =>
    rw [withMaps, fold_array, Json.cost_array, Json.cost_array, List.map_map]
    exact List.sum_le_sum fun elem listed => ih elem listed
  | string content => exact Nat.le_refl _
  | number value => exact Nat.le_refl _
  | boolean value => exact Nat.le_refl _
  | null => exact Nat.le_refl _

end Maps

section Layout

variable {doubleText : F64 → Text}

theorem appendToString_object (members : List (String × JSON)) :
    appendToString doubleText (.object members) = '{' :: commaText (members.map fun member =>
      memberText (member.1, appendToString doubleText member.2)) ++ ['}'] := by
  simp only [appendToString, fold_object, List.map_map]
  rfl

theorem appendToString_array (elems : List JSON) :
    appendToString doubleText (.array elems) =
      '[' :: commaText (elems.map (appendToString doubleText)) ++ [']'] := by
  simp only [appendToString, fold_array]

theorem blank_space : Json.Blank [' '] := by
  intro char listed
  rw [List.mem_singleton.mp listed]
  rfl

theorem spread_appendToString (json : Json Number) :
    Spread (Json.tokens (numberText doubleText) json) (appendToString doubleText json) := by
  induction json with
  | object members ih =>
    have each : List.Forall₂ Spread
        (members.map fun member =>
          Json.memberTokens (member.1, Json.tokens (numberText doubleText) member.2))
        (members.map fun member =>
          memberText (member.1, appendToString doubleText member.2)) := by
      rw [List.forall₂_map_left_iff, List.forall₂_map_right_iff, List.forall₂_same]
      intro member listed
      have key := Json.Spread.one (Json.stringToken member.1)
      have spaced := (ih member listed).blanks_append blank_space
      have value := (key.append (Json.Spread.one [':'])).append spaced
      simpa [Json.stringToken, Json.memberTokens, memberText] using value
    have inner := Json.Spread.intercalate blank_space each
    have whole := ((Json.Spread.one ['{']).append inner).append (Json.Spread.one ['}'])
    rw [Json.tokens_object, appendToString_object]
    simpa [commaText] using whole
  | array elems ih =>
    have each : List.Forall₂ Spread (elems.map (Json.tokens (numberText doubleText)))
        (elems.map (appendToString doubleText)) := by
      rw [List.forall₂_map_left_iff, List.forall₂_map_right_iff, List.forall₂_same]
      exact ih
    have inner := Json.Spread.intercalate blank_space each
    have whole := ((Json.Spread.one ['[']).append inner).append (Json.Spread.one [']'])
    rw [Json.tokens_array, appendToString_array]
    simpa [commaText] using whole
  | string content => exact Json.Spread.one _
  | number value => exact Json.Spread.one _
  | boolean value => exact Json.Spread.one _
  | null => exact Json.Spread.one _

theorem weight_memberText (member : String × Text) :
    weight (memberText member) = weight member.1.toList + weight member.2 := by
  have parts : memberText member =
      ['"'] ++ (member.1.toList ++ (['"', ':', ' '] ++ member.2)) := by simp [memberText]
  have marks : weight ['"'] = 0 ∧ weight ['"', ':', ' '] = 0 := ⟨rfl, rfl⟩
  rw [parts, weight_append, weight_append, weight_append, marks.1, marks.2,
    Nat.zero_add, Nat.zero_add]

theorem weight_appendToString {json : Json Number}
    (light : ∀ value ∈ json.numbers, weight (numberText doubleText value) = 0) :
    weight (appendToString doubleText json) + json.lacking = json.cost := by
  have separator : weight [',', ' '] = 0 := rfl
  refine Json.weight_printed ?_ ?_ ?_ ?_ rfl light
  · intro members
    rw [appendToString_object, List.cons_append, weight_cons, weight_append, commaText,
      Json.weight_intercalate separator, List.map_map]
    have last : weight ['}'] = 0 := rfl
    rw [last, Nat.add_zero]
    refine (Nat.zero_add _).trans (congrArg List.sum (List.map_congr_left fun member _ => ?_))
    exact weight_memberText _
  · intro elems
    rw [appendToString_array, List.cons_append, weight_cons, weight_append, commaText,
      Json.weight_intercalate separator, List.map_map]
    have last : weight [']'] = 0 := rfl
    rw [last, Nat.add_zero]
    exact Nat.zero_add _
  · intro content
    have text : appendToString doubleText (.string content) =
        '"' :: (content.toList ++ ['"']) := rfl
    have mark : weight ['"'] = 0 := rfl
    rw [text, weight_cons, weight_append, mark, Nat.add_zero]
    exact Nat.zero_add _
  · intro value
    cases value <;> rfl

end Layout

def integerLiteral : Number → Literal
  | .long value => ⟨⟨decide (value.toInt < 0), value.toInt.natAbs, 0⟩, true⟩
  | .double _ => ⟨⟨false, 0, 0⟩, true⟩

theorem literal_leaves : Json.Leaves literal := by
  intro text read rest found
  obtain ⟨⟨numeral, after⟩, parsed, same⟩ := Option.bind_eq_some_iff.mp found
  cases same
  exact Json.numeral_leaves parsed

theorem endsInteger_integerText {integer : Int} {char : Char}
    (listed : char ∈ integerText integer) : endsInteger char = false := by
  rcases List.mem_append.mp listed with sign | digit
  · split at sign
    · rw [List.mem_singleton.mp sign]
      rfl
    · cases sign
  · have numeric := Nat.isDigit_of_mem_toDigits (by decide) (by decide) digit
    rw [Bool.eq_false_iff]
    intro ends
    have listed := List.contains_iff_mem.mp ends
    simp only [List.mem_cons, List.not_mem_nil, or_false] at listed
    rcases listed with rfl | rfl | rfl <;> exact absurd numeric (by decide)

theorem numberToken_long (value : Int64) :
    Json.NumberToken literal (integerText value.toInt) (integerLiteral (.long value)) where
  begins := (Json.numberToken_integerText value.toInt).begins
  reads := by
    intro rest ends
    have read := (Json.numberToken_integerText value.toInt).reads rest ends
    have none : (integerText value.toInt).any endsInteger = false := by
      rw [List.any_eq_false]
      intro char listed
      rw [endsInteger_integerText listed]
      exact Bool.false_ne_true
    simp [literal, read, integerLiteral, none]

def Number.Small (number : Number) : Prop :=
  ∃ value, number = .long value ∧ -2 ^ 31 ≤ value.toInt ∧ value.toInt < 2 ^ 31

theorem classify_integerLiteral (nlohmann : Nlohmann) {number : Number} (small : number.Small) :
    (nlohmann.classify (integerLiteral number)).isFinite = true ∧
      buildNumber (nlohmann.classify (integerLiteral number)) = number := by
  obtain ⟨value, rfl, least, greatest⟩ := small
  have written : (integerLiteral (.long value)).integer? = some value.toInt := by
    simp only [integerLiteral, Literal.integer?, if_true, Option.some.injEq, decide_eq_true_eq]
    split <;> omega
  have kept := (@Literal.asLong_iff nlohmann _ _ written).mpr ⟨least, by omega⟩
  have finite : (nlohmann.classify (integerLiteral (.long value))).isFinite = true := by
    cases classified : nlohmann.classify (integerLiteral (.long value)) with
    | integer _ => rfl
    | unsigned _ => rfl
    | float double =>
      rw [classified] at kept
      cases kept
  refine ⟨finite, ?_⟩
  cases built : buildNumber (nlohmann.classify (integerLiteral (.long value))) with
  | long result =>
    rw [built] at kept
    exact congrArg Number.long (Int64.toInt_inj.mp (Option.some_inj.mp kept))
  | double result =>
    rw [built] at kept
    cases kept

/-- A tree without doubles and with integers of 31 bits is read back from its text exactly if every
string and every key of it is plain: strings are printed without escapes. -/
theorem JSON.parse_toString_same_iff (nlohmann : Nlohmann) (doubleText : F64 → Text) (json : JSON)
    (ordered : Ordered json) (small : ∀ number ∈ json.numbers, number.Small) :
    JSON.parse nlohmann (json.toString doubleText) = some json ↔
      ∀ content ∈ json.strings, ∀ char ∈ content.toList,
        char ≠ '"' ∧ char ≠ '\\' ∧ 0x20 ≤ char.toNat := by
  rw [parse_eq_some_iff]
  constructor
  · rintro ⟨literals, read, -, same⟩
    have light : ∀ value ∈ json.numbers, weight (numberText doubleText value) = 0 := by
      intro value listed
      obtain ⟨long, rfl, -⟩ := small value listed
      exact Json.weight_integerText long.toInt
    have held := Json.cost_le_weight literal_leaves read
    have balance := weight_appendToString light
    have kept : json.cost ≤ literals.cost := by
      rw [same, build, cost_map, cost_map]
      exact cost_withMaps_le literals
    refine Json.lacking_eq_zero_iff.mp ?_
    rw [JSON.toString] at held
    omega
  · intro plain
    have tokens : ∀ value ∈ json.numbers,
        Json.NumberToken literal (numberText doubleText value) (integerLiteral value) := by
      intro value listed
      obtain ⟨long, rfl, -⟩ := small value listed
      exact numberToken_long long
    have read := Json.parse_of_spread plain tokens (spread_appendToString json)
    refine ⟨_, read, ?_, ?_⟩
    · rw [Json.numbers_map, List.forall_mem_map]
      exact fun value listed => (classify_integerLiteral nlohmann (small value listed)).1
    · rw [withMaps_map ordered, build, Json.map_map]
      have back : ∀ value ∈ json.numbers,
          buildNumber (nlohmann.classify (integerLiteral value)) = value :=
        fun value listed => (classify_integerLiteral nlohmann (small value listed)).2
      exact (@Json.map_map_eq_self _ _ _ (fun read => buildNumber (nlohmann.classify read)) _
        back).symm

theorem JSON.parse_toString_same_plain :
    JSON.parse .rounding (JSON.toString (fun _ => [])
        (.object [("a", .array [.number (.long 5), .string "b"])])) =
      some (.object [("a", .array [.number (.long 5), .string "b"])]) := by
  refine (JSON.parse_toString_same_iff .rounding (fun _ => []) _ ?_ ?_).mpr ?_
  · refine ⟨List.pairwise_singleton _ _, fun member listed => ?_⟩
    rw [List.mem_singleton.mp listed]
    change ∀ elem ∈ [True, True], elem
    simp
  · intro number listed
    rw [List.mem_singleton.mp listed]
    exact ⟨5, rfl, by decide, by decide⟩
  · change ∀ content ∈ ["a", "b"], _
    simp

/-- A backslash and a letter are read as one character, and after a quote the text is not JSON. -/
theorem JSON.parse_toString_unescaped :
    JSON.parse .rounding (JSON.toString (fun _ => []) (.string "\\n")) = some (.string "\n") ∧
      JSON.parse .rounding (JSON.toString (fun _ => []) (.string "\"")) = none := by
  rw [JSON.parse, JSON.parse, Nlohmann.rounding.parse_eq, Nlohmann.rounding.parse_eq]
  exact ⟨rfl, rfl⟩

end TypeDBDriver.Cpp
