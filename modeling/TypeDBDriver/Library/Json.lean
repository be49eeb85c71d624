import Mathlib.Data.List.Perm.Basic

/-! JSON values as trees, functions by recursion on them, and the equality of trees that
does not see the order of an object's members. -/

namespace TypeDBDriver.Library

/-- The members of an object are kept in the order in which they are written. -/
inductive Json (ν : Type) where
  | object (members : List (String × Json ν))
  | array (elems : List (Json ν))
  | string (content : String)
  | number (value : ν)
  | boolean (value : Bool)
  | null

namespace Json

variable {ν ξ α : Type}

@[elab_as_elim, induction_eliminator]
theorem induct {motive : Json ν → Prop}
    (object : ∀ members, (∀ member ∈ members, motive member.2) → motive (.object members))
    (array : ∀ elems, (∀ elem ∈ elems, motive elem) → motive (.array elems))
    (string : ∀ content, motive (.string content)) (number : ∀ value, motive (.number value))
    (boolean : ∀ value, motive (.boolean value)) (null : motive .null) (json : Json ν) :
    motive json :=
  @Json.rec ν motive (fun members => ∀ member ∈ members, motive member.2)
    (fun elems => ∀ elem ∈ elems, motive elem) (fun member => motive member.2)
    object array string number boolean null
    (List.forall_mem_nil _) (fun _ _ head tail => List.forall_mem_cons.mpr ⟨head, tail⟩)
    (List.forall_mem_nil _) (fun _ _ head tail => List.forall_mem_cons.mpr ⟨head, tail⟩)
    (fun _ _ value => value) json

structure Algebra (ν α : Type) where
  object : List (String × α) → α
  array : List α → α
  string : String → α
  number : ν → α
  boolean : Bool → α
  null : α

mutual

def fold (algebra : Algebra ν α) : Json ν → α
  | .object members => algebra.object (foldMembers algebra members)
  | .array elems => algebra.array (foldElements algebra elems)
  | .string content => algebra.string content
  | .number value => algebra.number value
  | .boolean value => algebra.boolean value
  | .null => algebra.null

def foldMembers (algebra : Algebra ν α) : List (String × Json ν) → List (String × α)
  | [] => []
  | (key, value) :: rest => (key, fold algebra value) :: foldMembers algebra rest

def foldElements (algebra : Algebra ν α) : List (Json ν) → List α
  | [] => []
  | value :: rest => fold algebra value :: foldElements algebra rest

end

section Fold

variable (algebra : Algebra ν α)

private theorem foldMembers_eq (members : List (String × Json ν)) :
    foldMembers algebra members = members.map fun member => (member.1, member.2.fold algebra) := by
  induction members with
  | nil => rfl
  | cons member rest ih => exact congrArg _ ih

private theorem foldElements_eq (elems : List (Json ν)) :
    foldElements algebra elems = elems.map (fold algebra) := by
  induction elems with
  | nil => rfl
  | cons elem rest ih => exact congrArg _ ih

@[simp] theorem fold_object (members : List (String × Json ν)) :
    fold algebra (.object members) =
      algebra.object (members.map fun member => (member.1, member.2.fold algebra)) :=
  congrArg algebra.object (foldMembers_eq algebra members)

@[simp] theorem fold_array (elems : List (Json ν)) :
    fold algebra (.array elems) = algebra.array (elems.map (fold algebra)) :=
  congrArg algebra.array (foldElements_eq algebra elems)

end Fold

def map (convert : ν → ξ) : Json ν → Json ξ :=
  fold {
    object := .object
    array := .array
    string := .string
    number := fun value => .number (convert value)
    boolean := .boolean
    null := .null
  }

def keys : Json ν → List String :=
  fold {
    object := fun members => members.flatMap fun member => member.1 :: member.2
    array := List.flatten
    string := fun _ => []
    number := fun _ => []
    boolean := fun _ => []
    null := []
  }

def numbers : Json ν → List ν :=
  fold {
    object := fun members => members.flatMap fun member => member.2
    array := List.flatten
    string := fun _ => []
    number := fun value => [value]
    boolean := fun _ => []
    null := []
  }

section Maps

variable (convert : ν → ξ)

@[simp] theorem map_object (members : List (String × Json ν)) :
    map convert (.object members) =
      .object (members.map fun member => (member.1, member.2.map convert)) := by
  simp only [map, fold_object]

@[simp] theorem map_array (elems : List (Json ν)) :
    map convert (.array elems) = .array (elems.map (map convert)) := by
  simp only [map, fold_array]

theorem map_map {ζ : Type} (next : ξ → ζ) (json : Json ν) :
    (json.map convert).map next = json.map fun number => next (convert number) := by
  induction json with
  | object members ih =>
    simp only [map_object, List.map_map]
    congr 1
    exact List.map_congr_left fun member listed => Prod.ext rfl (ih member listed)
  | array elems ih =>
    simp only [map_array, List.map_map]
    congr 1
    exact List.map_congr_left fun elem listed => ih elem listed
  | string content => rfl
  | number value => rfl
  | boolean value => rfl
  | null => rfl

end Maps

theorem keys_object (members : List (String × Json ν)) :
    (object members).keys = members.flatMap fun member => member.1 :: member.2.keys := by
  simp only [keys, fold_object, List.flatMap_map]

theorem keys_array (elems : List (Json ν)) : (array elems).keys = elems.flatMap keys := by
  simp only [keys, fold_array, List.flatten_eq_flatMap, List.flatMap_map, id]

theorem numbers_object (members : List (String × Json ν)) :
    (object members).numbers = members.flatMap fun member => member.2.numbers := by
  simp only [numbers, fold_object, List.flatMap_map]

theorem numbers_array (elems : List (Json ν)) : (array elems).numbers = elems.flatMap numbers := by
  simp only [numbers, fold_array, List.flatten_eq_flatMap, List.flatMap_map, id]

theorem numbers_map (convert : ν → ξ) (json : Json ν) :
    (json.map convert).numbers = json.numbers.map convert := by
  induction json with
  | object members ih =>
    rw [map_object, numbers_object, numbers_object, List.flatMap_map, List.map_flatMap]
    exact List.flatMap_congr fun member listed => ih member listed
  | array elems ih =>
    rw [map_array, numbers_array, numbers_array, List.flatMap_map, List.map_flatMap]
    exact List.flatMap_congr fun elem listed => ih elem listed
  | string content => rfl
  | number value => rfl
  | boolean value => rfl
  | null => rfl

theorem map_map_eq_self {convert : ν → ξ} {back : ξ → ν} {json : Json ν}
    (inverse : ∀ number ∈ json.numbers, back (convert number) = number) :
    (json.map convert).map back = json := by
  induction json with
  | object members ih =>
    rw [numbers_object, List.forall_mem_flatMap] at inverse
    have unchanged : members.map (fun member => (member.1, (member.2.map convert).map back)) =
        members.map id := by
      apply List.map_congr_left
      intro member listed
      exact Prod.ext rfl (ih member listed (inverse member listed))
    simp only [map_object, List.map_map]
    exact congrArg object (unchanged.trans (List.map_id members))
  | array elems ih =>
    rw [numbers_array, List.forall_mem_flatMap] at inverse
    have unchanged : elems.map (fun elem => (elem.map convert).map back) =
        elems.map id := by
      apply List.map_congr_left
      intro elem listed
      exact ih elem listed (inverse elem listed)
    simp only [map_array, List.map_map]
    exact congrArg array (unchanged.trans (List.map_id elems))
  | string content => rfl
  | number value => exact congrArg number (inverse value (List.mem_singleton.mpr rfl))
  | boolean value => rfl
  | null => rfl

/-- Equal up to the order of the members, in every object of the tree. -/
inductive Same : Json ν → Json ν → Prop where
  | refl (json : Json ν) : Same json json
  | permute {first second : List (String × Json ν)} (reordered : first.Perm second) :
      Same (.object first) (.object second)
  | member (before after : List (String × Json ν)) (key : String) {first second : Json ν}
      (value : Same first second) :
      Same (.object (before ++ (key, first) :: after)) (.object (before ++ (key, second) :: after))
  | elem (before after : List (Json ν)) {first second : Json ν} (value : Same first second) :
      Same (.array (before ++ first :: after)) (.array (before ++ second :: after))
  | trans {first second third : Json ν} (left : Same first second) (right : Same second third) :
      Same first third

theorem Same.fold_eq {algebra : Algebra ν α}
    (unordered : ∀ {first second : List (String × α)}, first.Perm second →
      algebra.object first = algebra.object second)
    {first second : Json ν} (same : Same first second) :
    first.fold algebra = second.fold algebra := by
  induction same with
  | refl json => rfl
  | permute reordered =>
    simp only [fold_object]
    exact unordered (reordered.map _)
  | member before after key value ih => simp only [fold_object, List.map_append, List.map_cons, ih]
  | elem before after value ih => simp only [fold_array, List.map_append, List.map_cons, ih]
  | trans left right ihLeft ihRight => exact ihLeft.trans ihRight

inductive Context (ν : Type) where
  | hole
  | member (before : List (String × Json ν)) (key : String) (inner : Context ν)
      (after : List (String × Json ν))
  | elem (before : List (Json ν)) (inner : Context ν) (after : List (Json ν))

def Context.plug : Context ν → Json ν → Json ν
  | .hole, json => json
  | .member before key inner after, json =>
    .object (before ++ (key, inner.plug json) :: after)
  | .elem before inner after, json => .array (before ++ inner.plug json :: after)

end Json

end TypeDBDriver.Library
