import TypeDBDriver.Library.HashMap

/-! Reference-counted cells, as `std::sync::Arc` manages them. A cell is never removed:
a count of zero says that it is freed, and the heap remembers whether any operation
reached a freed cell. The owners of a heap are listed outside it, once for each strong
reference; `Balanced` says that the counts agree with that list. -/

namespace TypeDBDriver.Library

abbrev Arc := Nat

structure ArcCell (α : Type) where
  value : α
  strong : Nat

structure ArcHeap (α : Type) where
  cells : List (ArcCell α) := []
  /-- Some operation reached a cell whose count was zero. -/
  faulted : Bool := false

namespace ArcHeap

variable {α : Type}

def strong (heap : ArcHeap α) (arc : Arc) : Nat := (heap.cells[arc]?).elim 0 ArcCell.strong

def value? (heap : ArcHeap α) (arc : Arc) : Option α := (heap.cells[arc]?).map ArcCell.value

def new (heap : ArcHeap α) (value : α) : Arc × ArcHeap α :=
  (heap.cells.length, { heap with cells := heap.cells ++ [⟨value, 1⟩] })

def update (heap : ArcHeap α) (arc : Arc) (change : ArcCell α → ArcCell α) : ArcHeap α :=
  if 0 < heap.strong arc then { heap with cells := heap.cells.modify arc change }
  else { heap with faulted := true }

def clone (heap : ArcHeap α) (arc : Arc) : ArcHeap α :=
  heap.update arc fun cell => { cell with strong := cell.strong + 1 }

def drop (heap : ArcHeap α) (arc : Arc) : ArcHeap α :=
  heap.update arc fun cell => { cell with strong := cell.strong - 1 }

def set (heap : ArcHeap α) (arc : Arc) (value : α) : ArcHeap α :=
  heap.update arc fun cell => { cell with value }

def borrow (heap : ArcHeap α) (arc : Arc) : Option α × ArcHeap α :=
  if 0 < heap.strong arc then (heap.value? arc, heap) else (none, { heap with faulted := true })

def dropAll (heap : ArcHeap α) (arcs : List Arc) : ArcHeap α := arcs.foldl drop heap

/-! What each operation does to the counts and the values. -/

theorem strong_new (heap : ArcHeap α) (value : α) (arc : Arc) :
    (heap.new value).2.strong arc =
      heap.strong arc + if arc = (heap.new value).1 then 1 else 0 := by
  simp only [new, strong, List.getElem?_append]
  split
  next inside => simp [Nat.ne_of_lt inside]
  next outside =>
    have beyond : heap.cells.length ≤ arc := Nat.le_of_not_lt outside
    rw [List.getElem?_eq_none beyond, List.getElem?_singleton]
    by_cases same : arc = heap.cells.length
    · simp [same]
    · have pos : arc - heap.cells.length ≠ 0 :=
        Nat.sub_ne_zero_of_lt (Nat.lt_of_le_of_ne beyond (Ne.symm same))
      simp [same, pos]

theorem value?_new (heap : ArcHeap α) (value : α) :
    (heap.new value).2.value? (heap.new value).1 = some value := by
  simp [value?, new]

variable {heap : ArcHeap α} {value : α} {arc : Arc}

theorem value?_new_of_some {other : α} (known : heap.value? arc = some other) :
    (heap.new value).2.value? arc = some other := by
  obtain ⟨cell, listed, rfl⟩ := Option.map_eq_some_iff.mp known
  have inside := (List.getElem?_eq_some_iff.mp listed).1
  simp [value?, new, List.getElem?_append_left inside, listed]

theorem strong_update (live : 0 < heap.strong arc) (change : ArcCell α → ArcCell α) (other : Arc) :
    (heap.update arc change).strong other =
      if arc = other then ((heap.cells[other]?).map change).elim 0 ArcCell.strong
      else heap.strong other := by
  rw [update, if_pos live]
  simp only [strong, List.getElem?_modify]
  by_cases same : arc = other <;> cases heap.cells[other]? <;> simp [same]

theorem value?_update (heap : ArcHeap α) (arc other : Arc) (change : ArcCell α → ArcCell α)
    (keeps : ∀ cell, (change cell).value = cell.value) :
    (heap.update arc change).value? other = heap.value? other := by
  unfold update
  split
  next =>
    simp only [value?, List.getElem?_modify]
    by_cases same : arc = other <;> cases heap.cells[other]? <;> simp [same, keeps]
  next => rfl

@[simp] theorem value?_clone (heap : ArcHeap α) (arc other : Arc) :
    (heap.clone arc).value? other = heap.value? other :=
  value?_update heap arc other _ fun _ => rfl

@[simp] theorem value?_drop (heap : ArcHeap α) (arc other : Arc) :
    (heap.drop arc).value? other = heap.value? other :=
  value?_update heap arc other _ fun _ => rfl

@[simp] theorem value?_dropAll (heap : ArcHeap α) (arcs : List Arc) (other : Arc) :
    (heap.dropAll arcs).value? other = heap.value? other := by
  induction arcs generalizing heap with
  | nil => rfl
  | cons arc rest ih => exact (ih (heap.drop arc)).trans (value?_drop heap arc other)

theorem value?_set_of_ne {other : Arc} (differ : arc ≠ other) :
    (heap.set arc value).value? other = heap.value? other := by
  unfold set update
  split <;> simp [value?, differ]

theorem value?_set (live : 0 < heap.strong arc) : (heap.set arc value).value? arc = some value := by
  have listed : ∃ cell, heap.cells[arc]? = some cell := by
    unfold strong at live
    cases known : heap.cells[arc]? with
    | none => simp [known] at live
    | some cell => exact ⟨cell, rfl⟩
  obtain ⟨cell, listed⟩ := listed
  simp [set, update, live, value?, listed]

@[simp] theorem value?_borrow (heap : ArcHeap α) (arc other : Arc) :
    (heap.borrow arc).2.value? other = heap.value? other := by
  unfold borrow
  split <;> rfl

def Stores (property : α → Prop) (heap : ArcHeap α) : Prop :=
  ∀ (arc : Arc) (value : α), heap.value? arc = some value → property value

namespace Stores

variable {property : α → Prop} {heap after : ArcHeap α}

theorem empty : Stores property ({} : ArcHeap α) := by
  intro _ _ phase
  cases phase

theorem congr (stores : Stores property heap)
    (same : ∀ arc, after.value? arc = heap.value? arc) : Stores property after :=
  fun arc value stored => stores arc value ((same arc).symm.trans stored)

theorem new (stores : Stores property heap) {value : α} (holds : property value) :
    Stores property (heap.new value).2 := by
  intro arc found stored
  simp only [ArcHeap.new, value?, List.getElem?_append] at stored
  split at stored
  · exact stores arc found stored
  · rw [List.getElem?_singleton] at stored
    split at stored
    · cases stored
      exact holds
    · cases stored

theorem set (stores : Stores property heap) {arc : Arc} {value : α} (holds : property value) :
    Stores property (heap.set arc value) := by
  intro other found stored
  by_cases same : arc = other
  · subst same
    by_cases live : 0 < heap.strong arc
    · rw [value?_set live] at stored
      cases stored
      exact holds
    · simp only [ArcHeap.set, update, live, if_false] at stored
      exact stores arc found stored
  · rw [value?_set_of_ne same] at stored
    exact stores other found stored

end Stores

end ArcHeap

open ArcHeap

/-- No freed cell was reached, and each count is the number of listed owners. -/
structure Balanced {α : Type} (heap : ArcHeap α) (owners : List Arc) : Prop where
  sound : heap.faulted = false
  counted : ∀ arc, heap.strong arc = owners.count arc

namespace Balanced

variable {α : Type} {heap : ArcHeap α} {owners rest : List Arc} {arc : Arc}

theorem empty : Balanced ({} : ArcHeap α) [] := ⟨rfl, fun _ => rfl⟩

section

variable (balanced : Balanced heap owners)

include balanced

theorem perm (same : owners.Perm rest) : Balanced heap rest :=
  ⟨balanced.sound, fun arc => (balanced.counted arc).trans (same.count_eq arc)⟩

theorem live (owned : arc ∈ owners) : 0 < heap.strong arc := by
  rw [balanced.counted]
  exact List.count_pos_iff.mpr owned

theorem value (owned : arc ∈ owners) : ∃ value, heap.value? arc = some value := by
  have live := balanced.live owned
  unfold ArcHeap.value?
  cases listed : heap.cells[arc]? with
  | none => simp [ArcHeap.strong, listed] at live
  | some cell => exact ⟨cell.value, rfl⟩

theorem new (value : α) : Balanced (heap.new value).2 ((heap.new value).1 :: owners) := by
  refine ⟨balanced.sound, fun arc => ?_⟩
  rw [strong_new, balanced.counted, List.count_cons]
  by_cases same : arc = (heap.new value).1
  · simp [same]
  · simp [same, Ne.symm same]

private theorem updated (owned : arc ∈ owners) {change : ArcCell α → ArcCell α}
    (counts : ∀ cell, heap.cells[arc]? = some cell → (change cell).strong = rest.count arc)
    (others : ∀ other, arc ≠ other → rest.count other = owners.count other) :
    Balanced (heap.update arc change) rest := by
  have live := balanced.live owned
  refine ⟨?_, fun other => ?_⟩
  · simp [ArcHeap.update, live, balanced.sound]
  · rw [strong_update live]
    by_cases same : arc = other
    · subst same
      cases listed : heap.cells[arc]? with
      | none => simp [ArcHeap.strong, listed] at live
      | some cell => simp [counts cell listed]
    · rw [if_neg same, others other same, balanced.counted]

private theorem strong_eq {cell : ArcCell α} (listed : heap.cells[arc]? = some cell) :
    cell.strong = owners.count arc := by
  rw [← balanced.counted]
  simp [ArcHeap.strong, listed]

theorem clone (owned : arc ∈ owners) : Balanced (heap.clone arc) (arc :: owners) := by
  refine balanced.updated owned (fun cell listed => ?_) fun other differ => ?_
  · simp [balanced.strong_eq listed]
  · exact List.count_cons_of_ne differ

end

theorem drop (balanced : Balanced heap (arc :: rest)) : Balanced (heap.drop arc) rest := by
  refine balanced.updated (List.mem_cons_self) (fun cell listed => ?_) fun other differ => ?_
  · simp [balanced.strong_eq listed]
  · exact (List.count_cons_of_ne differ).symm

theorem dropAll {arcs : List Arc} (balanced : Balanced heap (arcs ++ rest)) :
    Balanced (heap.dropAll arcs) rest := by
  induction arcs generalizing heap with
  | nil => exact balanced
  | cons arc arcs ih => exact ih balanced.drop

theorem set (balanced : Balanced heap owners) (owned : arc ∈ owners) (value : α) :
    Balanced (heap.set arc value) owners :=
  balanced.updated owned (fun cell listed => (balanced.strong_eq listed : cell.strong = _))
    fun _ _ => rfl

theorem borrow (balanced : Balanced heap owners) (owned : arc ∈ owners) :
    heap.borrow arc = (heap.value? arc, heap) := by
  simp [ArcHeap.borrow, balanced.live owned]

end Balanced

namespace ArcHeap

variable {α κ : Type} [DecidableEq κ]

def insertArc (heap : ArcHeap α) (map : HashMap κ Arc) (key : κ) (arc : Arc) :
    ArcHeap α × HashMap κ Arc :=
  (match map.lookup key with
    | some previous => heap.drop previous
    | none => heap,
   map.insert key arc)

def removeArc (heap : ArcHeap α) (map : HashMap κ Arc) (key : κ) : ArcHeap α × HashMap κ Arc :=
  (match map.lookup key with
    | some previous => heap.drop previous
    | none => heap,
   map.erase key)

@[simp] theorem value?_insertArc (heap : ArcHeap α) (map : HashMap κ Arc) (key : κ)
    (arc other : Arc) : (heap.insertArc map key arc).1.value? other = heap.value? other := by
  unfold insertArc
  cases map.lookup key <;> simp

@[simp] theorem value?_removeArc (heap : ArcHeap α) (map : HashMap κ Arc) (key : κ) (other : Arc) :
    (heap.removeArc map key).1.value? other = heap.value? other := by
  unfold removeArc
  cases map.lookup key <;> simp

end ArcHeap

namespace Balanced

variable {α κ : Type} [DecidableEq κ] {heap : ArcHeap α} {map : HashMap κ Arc}
  {rest : List Arc}

theorem removeArc (balanced : Balanced heap (HashMap.values map ++ rest)) (key : κ) :
    Balanced (heap.removeArc map key).1 (HashMap.values (map.erase key) ++ rest) := by
  unfold ArcHeap.removeArc
  cases found : map.lookup key with
  | some previous =>
    have split := (HashMap.values_perm found).append_right rest
    exact (balanced.perm split).drop
  | none =>
    rw [HashMap.values_erase_of_lookup_eq_none found]
    exact balanced

theorem insertArc {arc : Arc} (balanced : Balanced heap (arc :: HashMap.values map ++ rest))
    (key : κ) :
    Balanced (heap.insertArc map key arc).1 (HashMap.values (map.insert key arc) ++ rest) := by
  have moved : Balanced heap (HashMap.values map ++ arc :: rest) :=
    balanced.perm List.perm_middle.symm
  have removed := moved.removeArc key
  rw [HashMap.values_insert]
  exact removed.perm List.perm_middle

end Balanced

end TypeDBDriver.Library
