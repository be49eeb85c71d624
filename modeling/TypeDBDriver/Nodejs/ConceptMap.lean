import Mathlib.Data.List.AList

/-! Decoding of concept maps and their explainables in the Node.js driver. -/

namespace TypeDBDriver.Nodejs

/-- A `Map` with strings as its keys, which `forEach` visits in the order of the entries. -/
abbrev StringMap (α : Type) := AList fun _ : String => α

def StringMap.copyTo {α β : Type} (convert : α → β) (map : StringMap α) (target : StringMap β) :
    StringMap β :=
  map.entries.foldl (fun target entry => target.insert entry.1 (convert entry.2)) target

theorem StringMap.lookup_copyTo {α β : Type} (convert : α → β) (map : StringMap α)
    (target : StringMap β) (key : String) :
    (map.copyTo convert target).lookup key =
      ((map.lookup key).map convert).or (target.lookup key) := by
  obtain ⟨entries, distinct⟩ := map
  change (entries.foldl _ target).lookup key = ((entries.dlookup key).map convert).or _
  induction entries generalizing target with
  | nil => simp
  | cons entry entries ih =>
    obtain ⟨first, value⟩ := entry
    obtain ⟨fresh, distinctRest⟩ := List.nodupKeys_cons.mp distinct
    rw [List.foldl_cons, ih _ distinctRest]
    by_cases same : key = first
    · subst same
      rw [List.dlookup_eq_none.mpr fresh, List.dlookup_cons_eq, AList.lookup_insert]
      rfl
    · rw [List.dlookup_cons_ne _ _ same, AList.lookup_insert_ne same]

namespace Answer

structure ExplainableProto where
  id : Int
  conjunction : String
  deriving DecidableEq, Repr

structure ExplainablesProto where
  relations : StringMap ExplainableProto := ∅
  attributes : StringMap ExplainableProto := ∅
  /-- The inner message `ExplainablesOwned` has the one field `owned`. -/
  ownerships : StringMap (StringMap ExplainableProto) := ∅

structure ConceptMapProto (ConceptProto : Type) where
  map : StringMap ConceptProto := ∅
  explainables : Option ExplainablesProto := none

structure ExplainableImpl where
  conjunction : String
  id : Int
  deriving DecidableEq, Repr

/-- The key of an ownership is a new array, so that `set` adds an entry for each one. -/
structure ExplainablesImpl where
  relations : StringMap ExplainableImpl := ∅
  attributes : StringMap ExplainableImpl := ∅
  ownerships : List ((String × String) × ExplainableImpl) := []

structure ConceptMapImpl (Concept : Type) where
  concepts : StringMap Concept
  explainables : ExplainablesImpl

inductive QueryError where
  | nonexistentExplainableConcept (var : String)
  | nonexistentExplainableOwnership (owner «attribute» : String)
  deriving DecidableEq, Repr

def ofExplainable (proto : ExplainableProto) : ExplainableImpl := ⟨proto.conjunction, proto.id⟩

def ownershipsOf (owner : String) (owned : StringMap ExplainableProto) :
    List ((String × String) × ExplainableImpl) :=
  owned.entries.map fun entry => ((owner, entry.1), ofExplainable entry.2)

/-- Both loops over variables write to the map of the relations. -/
def ofExplainables (proto : ExplainablesProto) : ExplainablesImpl where
  relations := proto.attributes.copyTo ofExplainable (proto.relations.copyTo ofExplainable ∅)
  attributes := ∅
  ownerships := proto.ownerships.entries.flatMap fun entry => ownershipsOf entry.1 entry.2

def emptyExplainables : ExplainablesImpl := {}

namespace ConceptMapImpl

variable {ConceptProto Concept : Type}

def «of» (concept : ConceptProto → Concept) (proto : ConceptMapProto ConceptProto) :
    ConceptMapImpl Concept where
  concepts := proto.map.copyTo concept ∅
  explainables := match proto.explainables with
    | some explainables => ofExplainables explainables
    | none => emptyExplainables

end ConceptMapImpl

namespace ExplainablesImpl

def relation (explainables : ExplainablesImpl) (var : String) :
    Except QueryError ExplainableImpl :=
  match explainables.relations.lookup var with
  | some explainable => .ok explainable
  | none => .error (.nonexistentExplainableConcept var)

def «attribute» (explainables : ExplainablesImpl) (var : String) :
    Except QueryError ExplainableImpl :=
  match explainables.attributes.lookup var with
  | some explainable => .ok explainable
  | none => .error (.nonexistentExplainableConcept var)

def ownership (explainables : ExplainablesImpl) (owner «attribute» : String) :
    Except QueryError ExplainableImpl :=
  match explainables.ownerships.find? fun entry =>
      entry.1.1 == owner && entry.1.2 == «attribute» with
  | some entry => .ok entry.2
  | none => .error (.nonexistentExplainableOwnership owner «attribute»)

end ExplainablesImpl

/-- An accessor returns the explainable of an entry of the message, and throws where there is no
entry. -/
def Returns (entry : Option ExplainableProto) (result : Except QueryError ExplainableImpl) : Prop :=
  match entry with
  | some proto => result = .ok ⟨proto.conjunction, proto.id⟩
  | none => ∃ error, result = .error error

structure Faithful (proto : ExplainablesProto) (explainables : ExplainablesImpl) : Prop where
  relation : ∀ var, Returns (proto.relations.lookup var) (explainables.relation var)
  «attribute» : ∀ var,
    Returns (proto.attributes.lookup var) (explainables.attribute var)
  ownership : ∀ owner «attribute», Returns
    ((proto.ownerships.lookup owner).bind (·.lookup «attribute»))
    (explainables.ownership owner «attribute»)

theorem find?_ownershipsOf (owner other «attribute» : String) (owned : StringMap ExplainableProto) :
    (ownershipsOf other owned).find? (fun entry => entry.1.1 == owner && entry.1.2 == «attribute») =
      if other = owner then
        (owned.lookup «attribute»).map fun proto => ((owner, «attribute»), ofExplainable proto)
      else none := by
  obtain ⟨entries, distinct⟩ := owned
  change (entries.map _).find? _ = if _ then (entries.dlookup «attribute»).map _ else none
  clear distinct
  induction entries with
  | nil => simp
  | cons entry entries ih =>
    obtain ⟨first, value⟩ := entry
    rw [List.map_cons, List.find?_cons]
    by_cases sameOwner : other = owner
    · by_cases same : first = «attribute»
      · subst sameOwner same
        simp
      · have skips : (other == owner && first == «attribute») = false := by simp [same]
        rw [skips, ih, List.dlookup_cons_ne _ _ (Ne.symm same)]
    · have skips : (other == owner && first == «attribute») = false := by simp [sameOwner]
      rw [skips, ih, if_neg sameOwner, if_neg sameOwner]

theorem ownership_ofExplainables (proto : ExplainablesProto) (owner «attribute» : String) :
    Returns ((proto.ownerships.lookup owner).bind (·.lookup «attribute»))
      ((ofExplainables proto).ownership owner «attribute») := by
  have found : (ofExplainables proto).ownerships.find?
      (fun entry => entry.1.1 == owner && entry.1.2 == «attribute») =
        ((proto.ownerships.lookup owner).bind (·.lookup «attribute»)).map
          fun proto => ((owner, «attribute»), ofExplainable proto) := by
    obtain ⟨relations, attributes, ⟨entries, distinct⟩⟩ := proto
    change (entries.flatMap _).find? _ = ((entries.dlookup owner).bind _).map _
    clear relations attributes
    induction entries with
    | nil => rfl
    | cons entry entries ih =>
      obtain ⟨first, owned⟩ := entry
      obtain ⟨fresh, distinctRest⟩ := List.nodupKeys_cons.mp distinct
      rw [List.flatMap_cons, List.find?_append, ih distinctRest, find?_ownershipsOf]
      by_cases same : first = owner
      · subst same
        rw [List.dlookup_eq_none.mpr fresh, List.dlookup_cons_eq]
        simp
      · rw [List.dlookup_cons_ne _ _ (Ne.symm same)]
        simp [same]
  rw [ExplainablesImpl.ownership, found]
  cases (proto.ownerships.lookup owner).bind (·.lookup «attribute») with
  | none => exact ⟨_, rfl⟩
  | some entry => rfl

theorem lookup_relations (proto : ExplainablesProto) (var : String) :
    (ofExplainables proto).relations.lookup var =
      ((proto.attributes.lookup var).or (proto.relations.lookup var)).map
        ofExplainable := by
  rw [ofExplainables, StringMap.lookup_copyTo, StringMap.lookup_copyTo, AList.lookup_empty,
    Option.or_none, Option.map_or]

theorem faithful_ofExplainables_iff (proto : ExplainablesProto) :
    Faithful proto (ofExplainables proto) ↔ ∀ var, proto.attributes.lookup var = none := by
  constructor
  · intro faithful var
    have returned := faithful.attribute var
    cases found : proto.attributes.lookup var with
    | none => rfl
    | some entry =>
      rw [found] at returned
      cases returned
  · intro absent
    refine ⟨fun var => ?_, fun var => ?_, ownership_ofExplainables proto⟩
    · rw [ExplainablesImpl.relation, lookup_relations, absent var, Option.none_or]
      cases proto.relations.lookup var with
      | none => exact ⟨_, rfl⟩
      | some entry => rfl
    · rw [absent var]
      exact ⟨_, rfl⟩

theorem faithful_empty : Faithful {} emptyExplainables where
  relation _ := ⟨_, rfl⟩
  «attribute» _ := ⟨_, rfl⟩
  ownership _ _ := ⟨_, rfl⟩

/-- A decoded concept map explains what its message explains exactly if the message explains no
attribute. -/
theorem ConceptMapImpl.explainables_faithful_iff {ConceptProto Concept : Type}
    (concept : ConceptProto → Concept) (proto : ConceptMapProto ConceptProto) :
    Faithful (proto.explainables.getD {}) (ConceptMapImpl.of concept proto).explainables ↔
      ∀ var, (proto.explainables.getD {}).attributes.lookup var = none := by
  cases present : proto.explainables with
  | none =>
    simp only [ConceptMapImpl.of, present, Option.getD_none]
    exact iff_of_true faithful_empty fun _ => rfl
  | some explainables =>
    simp only [ConceptMapImpl.of, present, Option.getD_some]
    exact faithful_ofExplainables_iff explainables

/-- The attribute `x` is explained as a relation. -/
theorem ConceptMapImpl.attribute_explained_as_relation : let proto : ConceptMapProto Unit :=
      { explainables := some { attributes := AList.insert "x" ⟨7, "conjunction"⟩ ∅ } }
    (ConceptMapImpl.of id proto).explainables.attribute "x" =
        .error (.nonexistentExplainableConcept "x") ∧
      (ConceptMapImpl.of id proto).explainables.relation "x" = .ok ⟨"conjunction", 7⟩ := by
  constructor
  · rfl
  · rfl

end Answer

end TypeDBDriver.Nodejs
