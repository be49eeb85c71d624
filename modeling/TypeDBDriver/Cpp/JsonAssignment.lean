import TypeDBDriver.Cpp.Json

/-! Assignment of JSON values in the C++ driver. A value is a tagged union; a string, an array or a
map in it is an object of its own, which has to be destroyed once. -/

namespace TypeDBDriver.Cpp

open Library
open Proto (F64)
open Function (update_of_ne update_self)

/-- What a `JSONString`, a `JSONArray` or a `JSONMap` holds. -/
inductive Container where
  | string (content : String)
  | array (elems : List JSON)
  | map (members : List (String × JSON))

namespace Container

def empty : Container → Container
  | .string _ => .string ""
  | .array _ => .array []
  | .map _ => .map []

def tree : Container → JSON
  | .string content => .string content
  | .array elems => .array elems
  | .map members => .object members

end Container

/-- The tag of a value with the member of the union that goes with it. A container goes by its
number. -/
inductive Tagged where
  | invalid
  | container (number : Nat)
  | boolean (value : Bool)
  | long (value : Int64)
  | double (value : F64)
  | nullValue

/-- The values of a program, and the containers it has constructed. -/
structure Memory where
  values : Nat → Tagged
  contents : Nat → Container
  constructed : Nat
  /-- How often the destructor of a container was called. -/
  destroyed : Nat → Nat
  live : ∀ value number, values value = .container number → number < constructed

namespace Memory

def set (memory : Memory) (value : Nat) (tagged : Tagged)
    (live : ∀ number, tagged = .container number → number < memory.constructed) : Memory where
  values := Function.update memory.values value tagged
  contents := memory.contents
  constructed := memory.constructed
  destroyed := memory.destroyed
  live other number held := by
    by_cases same : other = value
    · subst same
      rw [update_self] at held
      exact live number held
    · rw [update_of_ne same] at held
      exact memory.live other number held

def placeNew (memory : Memory) (value : Nat) (content : Container) : Memory where
  values := Function.update memory.values value (.container memory.constructed)
  contents := Function.update memory.contents memory.constructed content
  constructed := memory.constructed + 1
  destroyed := memory.destroyed
  live other number held := by
    by_cases same : other = value
    · subst same
      rw [update_self] at held
      cases held
      exact Nat.lt_succ_self _
    · rw [update_of_ne same] at held
      exact Nat.lt_succ_of_lt (memory.live other number held)

def setContent (memory : Memory) (number : Nat) (content : Container) : Memory :=
  { memory with contents := Function.update memory.contents number content }

/-- The container of `from`, once the new one is there: it is the new one if both values are one. -/
def sourceOf (memory : Memory) (self «from» number : Nat) : Nat :=
  if self = «from» then memory.constructed else number

def assign (memory : Memory) (self «from» : Nat) : Memory :=
  match memory.values «from» with
  | .container number =>
    let placed := memory.placeNew self (memory.contents number).empty
    placed.setContent memory.constructed (placed.contents (memory.sourceOf self «from» number))
  | .invalid | .boolean _ | .long _ | .double _ | .nullValue =>
    memory.set self (memory.values «from») (memory.live «from»)

/-- `JSON::operator=(JSON&&)`. A container that was moved from is left empty. -/
def moveAssign (memory : Memory) (self «from» : Nat) : Memory :=
  match memory.values «from» with
  | .container number =>
    let placed := memory.placeNew self (memory.contents number).empty
    let source := memory.sourceOf self «from» number
    let moved := (placed.setContent source (memory.contents number).empty).setContent
      memory.constructed (placed.contents source)
    moved.set «from» .invalid fun _ held => by cases held
  | .invalid | .boolean _ | .long _ | .double _ | .nullValue =>
    (memory.set self (memory.values «from») (memory.live «from»)).set «from» .invalid
      fun _ held => by cases held

def tree (memory : Memory) (value : Nat) : Option JSON :=
  match memory.values value with
  | .invalid => none
  | .container number => some (memory.contents number).tree
  | .boolean truth => some (.boolean truth)
  | .long long => some (.number (.long long))
  | .double double => some (.number (.double double))
  | .nullValue => some .null

def HoldsContainer (memory : Memory) (value : Nat) : Prop :=
  ∃ number, memory.values value = .container number

/-- The container that a value held is still its own, or has been destroyed once. -/
def Released (before after : Memory) (value : Nat) : Prop :=
  ∀ number, before.values value = .container number →
    after.values value = .container number ∨
      after.destroyed number = before.destroyed number + 1

/-- What `target = from` is to do. -/
structure Assigned (target «from» : Nat) (before after : Memory) : Prop where
  value : after.tree target = before.tree «from»
  unchanged : after.tree «from» = before.tree «from»
  released : Released before after target

/-- What `target = std::move(from)` is to do. -/
structure Moved (target «from» : Nat) (before after : Memory) : Prop where
  value : after.tree target = before.tree «from»
  released : Released before after target

section Operators

variable {target «from» : Nat} {memory after : Memory}

/-- The value gets another container, or none, and nothing is destroyed. -/
structure Replaces (target : Nat) (before after : Memory) : Prop where
  destroyed : after.destroyed = before.destroyed
  values : ∀ number, before.values target = .container number →
    after.values target ≠ .container number

theorem Replaces.released_iff_free (replaces : Replaces target memory after) :
    Released memory after target ↔ ¬ memory.HoldsContainer target := by
  constructor
  · rintro released ⟨number, held⟩
    rcases released number held with kept | destroyed
    · exact replaces.values number held kept
    · rw [replaces.destroyed] at destroyed
      omega
  · intro free number held
    exact absurd ⟨number, held⟩ free

theorem replaces_of_constructed (destroyed : after.destroyed = memory.destroyed)
    (values : after.values target = .container memory.constructed) :
    Replaces target memory after := by
  refine ⟨destroyed, fun number held kept => ?_⟩
  have below := memory.live target number held
  rw [values] at kept
  cases kept
  exact Nat.lt_irrefl _ below

theorem replaces_of_plain (destroyed : after.destroyed = memory.destroyed)
    (plain : ∀ number, after.values target ≠ .container number) : Replaces target memory after :=
  ⟨destroyed, fun number _ => plain number⟩

theorem tree_congr {other : Memory} {value result : Nat}
    (same : after.values result = other.values value)
    (contents : ∀ number, other.values value = .container number →
      after.contents number = other.contents number) : after.tree result = other.tree value := by
  unfold tree
  rw [same]
  cases tagged : other.values value with
  | container number => exact congrArg (fun content => some content.tree) (contents number tagged)
  | _ => rfl

theorem tree_container {value number : Nat} (held : memory.values value = .container number) :
    memory.tree value = some (memory.contents number).tree := by
  rw [tree, held]

theorem assign_plain (plain : ¬ memory.HoldsContainer «from») :
    memory.assign target «from» =
      memory.set target (memory.values «from») (memory.live «from») := by
  unfold assign
  split
  · next number held => exact absurd ⟨number, held⟩ plain
  all_goals rfl

theorem moveAssign_plain (plain : ¬ memory.HoldsContainer «from») :
    memory.moveAssign target «from» =
      (memory.set target (memory.values «from») (memory.live «from»)).set «from» .invalid
        fun _ held => by cases held := by
  unfold moveAssign
  split
  · next number held => exact absurd ⟨number, held⟩ plain
  all_goals rfl

theorem assign_container {number : Nat} (held : memory.values «from» = .container number) :
    (memory.assign target «from»).values =
        Function.update memory.values target (.container memory.constructed) ∧
      (memory.assign target «from»).destroyed = memory.destroyed ∧
      (target ≠ «from» → (memory.assign target «from»).contents =
        Function.update memory.contents memory.constructed (memory.contents number)) := by
  have below := memory.live «from» number held
  unfold assign
  split
  · next other same =>
      cases held.symm.trans same
      refine ⟨rfl, rfl, fun apart => ?_⟩
      simp only [setContent, placeNew, sourceOf, if_neg apart, Function.update_idem,
        update_of_ne (Nat.ne_of_lt below)]
  all_goals
    next same => cases held.symm.trans same

theorem moveAssign_container {number : Nat} (held : memory.values «from» = .container number)
    (apart : target ≠ «from») :
    (memory.moveAssign target «from»).values target = .container memory.constructed ∧
      (memory.moveAssign target «from»).destroyed = memory.destroyed ∧
      (memory.moveAssign target «from»).contents memory.constructed = memory.contents number := by
  have below := memory.live «from» number held
  unfold moveAssign
  split
  · next other same =>
      cases held.symm.trans same
      refine ⟨?_, rfl, ?_⟩
      · simp only [set, setContent, placeNew, update_of_ne apart, update_self]
      · simp only [set, setContent, placeNew, sourceOf, if_neg apart, update_self,
          update_of_ne (Nat.ne_of_lt below)]
  all_goals
    next same => cases held.symm.trans same

theorem moveAssign_invalid (memory : Memory) (target «from» : Nat) :
    (memory.moveAssign target «from»).values «from» = .invalid := by
  unfold moveAssign
  split <;> exact update_self _ _ _

theorem moveAssign_destroyed (memory : Memory) (target «from» : Nat) :
    (memory.moveAssign target «from»).destroyed = memory.destroyed := by
  unfold moveAssign
  split <;> rfl

theorem assign_replaces (memory : Memory) (target «from» : Nat) :
    Replaces target memory (memory.assign target «from») := by
  by_cases plain : memory.HoldsContainer «from»
  · obtain ⟨number, held⟩ := plain
    obtain ⟨values, destroyed, -⟩ := @assign_container target «from» memory number held
    refine replaces_of_constructed destroyed ?_
    rw [values, update_self]
  · rw [assign_plain plain]
    refine replaces_of_plain rfl fun number held => plain ⟨number, ?_⟩
    exact (update_self target _ memory.values).symm.trans held

theorem assign_of_free (free : ¬ memory.HoldsContainer target) :
    (memory.assign target «from»).tree target = memory.tree «from» ∧
      (memory.assign target «from»).tree «from» = memory.tree «from» := by
  by_cases plain : memory.HoldsContainer «from»
  · obtain ⟨number, held⟩ := plain
    have apart : target ≠ «from» := by
      rintro rfl
      exact free ⟨number, held⟩
    have below := memory.live «from» number held
    obtain ⟨values, -, contents⟩ := @assign_container target «from» memory number held
    constructor
    · have copied :
          (memory.assign target «from»).values target = .container memory.constructed := by
        rw [values, update_self]
      rw [tree_container copied, tree_container held, contents apart, update_self]
    · refine tree_congr (by rw [values, update_of_ne apart.symm]) fun other same => ?_
      cases held.symm.trans same
      rw [contents apart, update_of_ne (Nat.ne_of_lt below)]
  · rw [assign_plain plain]
    refine ⟨tree_congr (update_self _ _ _) fun _ _ => rfl, tree_congr ?_ fun _ _ => rfl⟩
    by_cases same : «from» = target
    · subst same
      exact update_self _ _ _
    · exact update_of_ne same _ _

theorem moveAssign_of_apart (memory : Memory) (apart : target ≠ «from») :
    Replaces target memory (memory.moveAssign target «from») ∧
      (memory.moveAssign target «from»).tree target = memory.tree «from» := by
  by_cases plain : memory.HoldsContainer «from»
  · obtain ⟨number, held⟩ := plain
    obtain ⟨values, destroyed, contents⟩ := moveAssign_container held apart
    refine ⟨replaces_of_constructed destroyed values, ?_⟩
    rw [tree_container values, tree_container held, contents]
  · have values : (memory.moveAssign target «from»).values target = memory.values «from» := by
      rw [moveAssign_plain plain]
      exact (update_of_ne apart _ _).trans (update_self _ _ _)
    constructor
    · refine replaces_of_plain (moveAssign_destroyed memory target «from») fun number held => ?_
      exact plain ⟨number, values.symm.trans held⟩
    · refine tree_congr values fun number held => absurd ⟨number, held⟩ plain

end Operators

theorem tree_eq_none_iff (memory : Memory) (value : Nat) :
    memory.tree value = none ↔ memory.values value = .invalid := by
  unfold tree
  cases memory.values value <;> simp

/-- A copy does what it is to do exactly if its target holds no container, and a move exactly if
its target holds none, and is not the value itself unless this is invalid. -/
theorem assignments_lawful_iff (memory : Memory) (target «from» : Nat) :
    (Assigned target «from» memory (memory.assign target «from») ↔
        ¬ memory.HoldsContainer target) ∧
      (Moved target «from» memory (memory.moveAssign target «from») ↔
        if target = «from» then memory.values target = .invalid
        else ¬ memory.HoldsContainer target) := by
  constructor
  · have released := (assign_replaces memory target «from»).released_iff_free
    constructor
    · intro assigned
      exact released.mp assigned.released
    · intro free
      obtain ⟨value, unchanged⟩ := @assign_of_free target «from» memory free
      exact ⟨value, unchanged, released.mpr free⟩
  · split
    · next same =>
        subst same
        have lost := (tree_eq_none_iff _ target).mpr (moveAssign_invalid memory target target)
        constructor
        · intro moved
          exact (tree_eq_none_iff memory target).mp (moved.value.symm.trans lost)
        · intro invalid
          refine ⟨lost.trans ((tree_eq_none_iff memory target).mpr invalid).symm, ?_⟩
          intro number held
          cases invalid.symm.trans held
    · next apart =>
        obtain ⟨replaces, value⟩ := moveAssign_of_apart memory apart
        constructor
        · intro moved
          exact replaces.released_iff_free.mp moved.released
        · intro free
          exact ⟨value, replaces.released_iff_free.mpr free⟩

def ofString (content : String) : Memory where
  values := fun value => if value = 0 then .container 0 else .invalid
  contents := fun _ => .string content
  constructed := 1
  destroyed := fun _ => 0
  live value number held := by
    split at held
    · cases held
      exact Nat.zero_lt_one
    · cases held

/-- Assigned to itself, a string is lost, and its container is not destroyed. -/
theorem self_assignment_loses :
    ((ofString "a").assign 0 0).tree 0 = some (.string "") ∧
      ((ofString "a").assign 0 0).destroyed 0 = 0 ∧
      ((ofString "a").moveAssign 0 0).tree 0 = none := by
  refine ⟨rfl, rfl, rfl⟩

end Memory

end TypeDBDriver.Cpp
