import Mathlib.Logic.Function.Basic

/-! Equality and hash codes of concept maps and their explainables in the C# driver. Equality is
decided natively, a hash code is that of a collection built for it. -/

namespace TypeDBDriver.Csharp

open Function (update_of_ne update_self)

/-- The identity of a managed object. -/
abbrev Reference := Nat

/-- What the runtime leaves open: the hash code of an object by its identity, and that of a tuple
by those of its members. -/
structure Runtime where
  referenceHash : Reference → Int32
  tupleHash : Int32 → Int32 → Int32 → Int32

inductive Exception where
  | missingVariable
  | variableDoesNotExist (name : String)
  | nonexistentExplainableConcept (name : String)
  | nonexistentExplainableOwnership (owner «attribute» : String)
  | duplicateKey (name : String)
  deriving DecidableEq, Repr

/-- The argument of `Equals`: null, an object of the same class or one of another. -/
inductive Argument (Object : Type) where
  | null
  | same (that : Object)
  | other

section Calls

variable {Object Native κ α : Type}

/-- `Equals`, by the native function that compares the two contents. -/
def equalsBy [DecidableEq Object] (nativeEquals : Native → Native → Bool)
    (nativeObject : Object → Native) (this : Object) : Argument Object → Bool
  | .null => false
  | .other => false
  | .same that => this = that || nativeEquals (nativeObject this) (nativeObject that)

/-- A native lookup by names that must not be empty, and what is thrown if it finds nothing. -/
def lookup (names : List String) (found : Option α) (missing : Exception) : Except Exception α :=
  if names.any String.isEmpty then .error .missingVariable
  else match found with
    | some value => .ok value
    | none => .error missing

/-- `ToDictionary`, where `entries` are there already. -/
def toDictionary (elem : String → Except Exception α) :
    List String → List (String × α) → Except Exception (List (String × α))
  | [], entries => .ok entries
  | key :: keys, entries => do
      let value ← elem key
      if key ∈ entries.map Prod.fst then .error (.duplicateKey key)
      else toDictionary elem keys (entries ++ [(key, value)])

/-- `Select`, with the keys, and `ToList`. -/
def toList (elem : κ → Except Exception α) : List κ → Except Exception (List (κ × α))
  | [] => .ok []
  | key :: keys => do
      let value ← elem key
      let others ← toList elem keys
      .ok ((key, value) :: others)

theorem bind_eq_ok_iff {β : Type} {called : Except Exception α} {next : α → Except Exception β}
    {result : β} :
    (called >>= next) = .ok result ↔ ∃ value, called = .ok value ∧ next value = .ok result := by
  cases called <;> simp [bind, Except.bind]

end Calls

section Codes

variable {Object : Type} {code : Reference → Int32} {fresh : Reference}
  {source : Object → Option Reference} {hash : Object → Int32}

/-- A hash code that an object keeps is the code of its own collection, named by `source`. -/
structure Coherent (code : Reference → Int32) (fresh : Reference)
    (source : Object → Option Reference) (hash : Object → Int32) : Prop where
  allocated : ∀ {object reference}, source object = some reference → reference < fresh
  distinct : ∀ {first second reference}, source first = some reference →
    source second = some reference → first = second
  kept : ∀ {object}, hash object ≠ 0 →
    ∃ reference, source object = some reference ∧ hash object = code reference

theorem coherent_initial : Coherent code fresh (fun _ : Object => none) (fun _ => 0) where
  allocated found := absurd found.symm (Option.some_ne_none _)
  distinct found := absurd found.symm (Option.some_ne_none _)
  kept nonzero := absurd rfl nonzero

theorem Coherent.later (coherent : Coherent code fresh source hash) {next : Reference}
    (later : fresh ≤ next) : Coherent code next source hash :=
  { coherent with allocated := fun found => Nat.lt_of_lt_of_le (coherent.allocated found) later }

variable [DecidableEq Object] {this : Object}

theorem Coherent.renew (coherent : Coherent code fresh source hash) (unhashed : hash this = 0)
    {next : Reference} (later : fresh < next) :
    Coherent code next (Function.update source this (some fresh)) hash where
  allocated := by
    intro object reference found
    by_cases isThis : object = this
    · subst isThis
      rw [update_self, Option.some.injEq] at found
      exact found ▸ later
    · rw [update_of_ne isThis] at found
      exact Nat.lt_trans (coherent.allocated found) later
  distinct := by
    intro first second reference foundFirst foundSecond
    by_cases isFirst : first = this <;> by_cases isSecond : second = this
    · rw [isFirst, isSecond]
    · rw [isFirst, update_self, Option.some.injEq] at foundFirst
      rw [update_of_ne isSecond] at foundSecond
      exact absurd foundFirst.symm (Nat.ne_of_lt (coherent.allocated foundSecond))
    · rw [isSecond, update_self, Option.some.injEq] at foundSecond
      rw [update_of_ne isFirst] at foundFirst
      exact absurd foundSecond.symm (Nat.ne_of_lt (coherent.allocated foundFirst))
    · rw [update_of_ne isFirst] at foundFirst
      rw [update_of_ne isSecond] at foundSecond
      exact coherent.distinct foundFirst foundSecond
  kept := by
    intro object nonzero
    have notThis : object ≠ this := fun isThis => nonzero (isThis ▸ unhashed)
    rw [update_of_ne notThis]
    exact coherent.kept nonzero

theorem Coherent.record (coherent : Coherent code fresh source hash) {reference : Reference}
    (found : source this = some reference) :
    Coherent code fresh source (Function.update hash this (code reference)) where
  allocated := coherent.allocated
  distinct := coherent.distinct
  kept := by
    intro object nonzero
    by_cases isThis : object = this
    · subst isThis
      exact ⟨reference, found, update_self _ _ _⟩
    · rw [update_of_ne isThis] at nonzero ⊢
      exact coherent.kept nonzero

end Codes

namespace ConceptMap

/-- The native functions that concept maps call. -/
structure Pinvoke (Native Concept : Type) where
  getVariables : Native → List String
  get : Native → String → Option Concept
  equals : Native → Native → Bool

structure Dictionary (Concept : Type) where
  reference : Reference
  entries : List (String × Concept)

/-- The next object to be allocated and the fields of all concept maps. -/
structure State (Object Concept : Type) where
  fresh : Reference
  cachedMap : Object → Option (Dictionary Concept) := fun _ => none
  hash : Object → Int32 := fun _ => 0

variable {Object Native Concept : Type} [DecidableEq Object] (runtime : Runtime)
  (pinvoke : Pinvoke Native Concept) (nativeObject : Object → Native)

def get (this : Object) (name : String) : Except Exception Concept :=
  lookup [name] (pinvoke.get (nativeObject this) name) (.variableDoesNotExist name)

def getMap (this : Object) (state : State Object Concept) :
    Except Exception (Dictionary Concept × State Object Concept) :=
  match state.cachedMap this with
  | some map => .ok (map, state)
  | none => do
      let entries ← toDictionary (get pinvoke nativeObject this)
        (pinvoke.getVariables (nativeObject this)) []
      let map := ⟨state.fresh, entries⟩
      .ok (map, { state with
        fresh := state.fresh + 1
        cachedMap := Function.update state.cachedMap this (some map) })

def equals (this : Object) (obj : Argument Object) : Bool :=
  equalsBy pinvoke.equals nativeObject this obj

def computeHash (this : Object) (state : State Object Concept) :
    Except Exception (Int32 × State Object Concept) := do
  let (map, state) ← getMap pinvoke nativeObject this state
  .ok (runtime.referenceHash map.reference, state)

def getHashCode (this : Object) (state : State Object Concept) :
    Except Exception (Int32 × State Object Concept) :=
  if state.hash this = 0 then do
    let (hash, state) ← computeHash runtime pinvoke nativeObject this state
    .ok (hash, { state with hash := Function.update state.hash this hash })
  else .ok (state.hash this, state)

/-- The states in which calls of any objects leave the concept maps. -/
inductive Reachable : State Object Concept → Prop where
  | initial (fresh : Reference) : Reachable { fresh }
  | allocate {state : State Object Concept} (reached : Reachable state) {fresh : Reference}
      (later : state.fresh ≤ fresh) : Reachable { state with fresh }
  | getMap {state next : State Object Concept} (reached : Reachable state) {this : Object}
      {map : Dictionary Concept}
      (called : getMap pinvoke nativeObject this state = .ok (map, next)) : Reachable next
  | getHashCode {state next : State Object Concept} (reached : Reachable state) {this : Object}
      {hash : Int32}
      (called : getHashCode runtime pinvoke nativeObject this state = .ok (hash, next)) :
      Reachable next

variable {runtime pinvoke nativeObject} {this : Object} {state next : State Object Concept}

abbrev State.Coherent (runtime : Runtime) (state : State Object Concept) : Prop :=
  Csharp.Coherent runtime.referenceHash state.fresh
    (Option.map Dictionary.reference ∘ state.cachedMap) state.hash

theorem getMap_step (coherent : state.Coherent runtime) {map : Dictionary Concept}
    (called : getMap pinvoke nativeObject this state = .ok (map, next)) :
    next.Coherent runtime ∧ next.cachedMap this = some map ∧
      ∀ {object kept}, state.cachedMap object = some kept → next.cachedMap object = some kept := by
  unfold getMap at called
  cases cached : state.cachedMap this with
  | some held =>
    simp only [cached, Except.ok.injEq, Prod.mk.injEq] at called
    obtain ⟨rfl, rfl⟩ := called
    exact ⟨coherent, cached, id⟩
  | none =>
    simp only [cached, bind_eq_ok_iff, Except.ok.injEq, Prod.mk.injEq] at called
    obtain ⟨entries, _, rfl, rfl⟩ := called
    -- an object without a dictionary has no hash code either
    have unhashed : state.hash this = 0 := by
      by_contra nonzero
      obtain ⟨reference, found, _⟩ := coherent.kept nonzero
      simp [cached] at found
    have renewed := coherent.renew unhashed (Nat.lt_succ_self state.fresh)
    refine ⟨?_, update_self _ _ _, ?_⟩
    · rw [State.Coherent, Function.comp_update]
      exact renewed
    · intro object kept found
      have notThis : object ≠ this := by
        rintro rfl
        simp [cached] at found
      exact (update_of_ne notThis _ _).trans found

theorem getHashCode_step (coherent : state.Coherent runtime) {hash : Int32}
    (called : getHashCode runtime pinvoke nativeObject this state = .ok (hash, next)) :
    next.Coherent runtime ∧
      (∃ map, next.cachedMap this = some map ∧ hash = runtime.referenceHash map.reference) ∧
      ∀ {object kept}, state.cachedMap object = some kept → next.cachedMap object = some kept := by
  unfold getHashCode at called
  split at called
  · simp only [computeHash, bind_eq_ok_iff, Except.ok.injEq, Prod.mk.injEq] at called
    obtain ⟨_, ⟨⟨map, middle⟩, read, rfl⟩, rfl, rfl⟩ := called
    obtain ⟨stillCoherent, cached, stays⟩ := getMap_step coherent read
    have found : (Option.map Dictionary.reference ∘ middle.cachedMap) this =
        some map.reference := congrArg (Option.map Dictionary.reference) cached
    exact ⟨stillCoherent.record found, ⟨map, cached, rfl⟩, stays⟩
  · next nonzero =>
    simp only [Except.ok.injEq, Prod.mk.injEq] at called
    obtain ⟨rfl, rfl⟩ := called
    obtain ⟨reference, found, isHash⟩ := coherent.kept nonzero
    obtain ⟨map, cached, rfl⟩ := Option.map_eq_some_iff.mp found
    exact ⟨coherent, ⟨map, cached, isHash⟩, id⟩

theorem Reachable.coherent (reached : Reachable runtime pinvoke nativeObject state) :
    state.Coherent runtime := by
  induction reached with
  | initial fresh => exact coherent_initial
  | allocate _ later ih => exact ih.later later
  | getMap _ called ih => exact (getMap_step ih called).1
  | getHashCode _ called ih => exact (getHashCode_step ih called).1

/-- The codes are those of the dictionaries of the two objects, whatever the contents. -/
theorem hashCodes_sources (coherent : state.Coherent runtime) {middle last : State Object Concept}
    {a b : Object} {first second : Int32}
    (called : getHashCode runtime pinvoke nativeObject a state = .ok (first, middle))
    (calledAgain : getHashCode runtime pinvoke nativeObject b middle = .ok (second, last)) :
    ∃ left right, last.cachedMap a = some left ∧ last.cachedMap b = some right ∧
      first = runtime.referenceHash left.reference ∧
      second = runtime.referenceHash right.reference ∧
      (left.reference = right.reference ↔ a = b) := by
  obtain ⟨stillCoherent, ⟨left, cachedLeft, isFirst⟩, _⟩ := getHashCode_step coherent called
  obtain ⟨lastCoherent, ⟨right, cachedRight, isSecond⟩, stays⟩ :=
    getHashCode_step stillCoherent calledAgain
  have cachedLeft := stays cachedLeft
  refine ⟨left, right, cachedLeft, cachedRight, isFirst, isSecond, ?_, ?_⟩
  · intro same
    exact lastCoherent.distinct (congrArg (Option.map Dictionary.reference) cachedLeft)
      ((congrArg (Option.map Dictionary.reference) cachedRight).trans (congrArg some same.symm))
  · rintro rfl
    rw [Option.some.inj (cachedLeft.symm.trans cachedRight)]

end ConceptMap

namespace Explainables

/-- The native functions that explainables call. -/
structure Pinvoke (Native Explainable : Type) where
  getRelationsKeys : Native → List String
  getRelation : Native → String → Option Explainable
  getAttributesKeys : Native → List String
  getAttribute : Native → String → Option Explainable
  getOwnershipsKeys : Native → List (String × String)
  getOwnership : Native → String → String → Option Explainable
  equals : Native → Native → Bool

/-- The next object to be allocated, the field of all explainables, and the first of the three
lists that the code of an object was computed from, which the program does not keep. -/
structure State (Object : Type) where
  fresh : Reference
  hash : Object → Int32 := fun _ => 0
  lists : Object → Option Reference := fun _ => none

variable {Object Native Explainable : Type} [DecidableEq Object] (runtime : Runtime)
  (pinvoke : Pinvoke Native Explainable) (nativeObject : Object → Native)

def relation (this : Object) (name : String) : Except Exception Explainable :=
  lookup [name] (pinvoke.getRelation (nativeObject this) name) (.nonexistentExplainableConcept name)

def «attribute» (this : Object) (name : String) : Except Exception Explainable :=
  lookup [name] (pinvoke.getAttribute (nativeObject this) name)
    (.nonexistentExplainableConcept name)

def ownership (this : Object) (names : String × String) : Except Exception Explainable :=
  lookup [names.1, names.2] (pinvoke.getOwnership (nativeObject this) names.1 names.2)
    (.nonexistentExplainableOwnership names.1 names.2)

def equals (this : Object) (obj : Argument Object) : Bool :=
  equalsBy pinvoke.equals nativeObject this obj

/-- The hash code of a tuple of three lists, of which this is the first. -/
def listsHash (runtime : Runtime) (first : Reference) : Int32 :=
  runtime.tupleHash (runtime.referenceHash first) (runtime.referenceHash (first + 1))
    (runtime.referenceHash (first + 2))

def computeHash (this : Object) (state : State Object) :
    Except Exception (Int32 × State Object) := do
  let _relations ← toList (relation pinvoke nativeObject this)
    (pinvoke.getRelationsKeys (nativeObject this))
  let _attributes ← toList («attribute» pinvoke nativeObject this)
    (pinvoke.getAttributesKeys (nativeObject this))
  let _ownerships ← toList (ownership pinvoke nativeObject this)
    (pinvoke.getOwnershipsKeys (nativeObject this))
  .ok (listsHash runtime state.fresh, { state with
    fresh := state.fresh + 3
    lists := Function.update state.lists this (some state.fresh) })

def getHashCode (this : Object) (state : State Object) : Except Exception (Int32 × State Object) :=
  if state.hash this = 0 then do
    let (hash, state) ← computeHash runtime pinvoke nativeObject this state
    .ok (hash, { state with hash := Function.update state.hash this hash })
  else .ok (state.hash this, state)

/-- The states in which calls of any objects leave the explainables. -/
inductive Reachable : State Object → Prop where
  | initial (fresh : Reference) : Reachable { fresh }
  | allocate {state : State Object} (reached : Reachable state) {fresh : Reference}
      (later : state.fresh ≤ fresh) : Reachable { state with fresh }
  | getHashCode {state next : State Object} (reached : Reachable state) {this : Object}
      {hash : Int32}
      (called : getHashCode runtime pinvoke nativeObject this state = .ok (hash, next)) :
      Reachable next

variable {runtime pinvoke nativeObject} {this : Object} {state next : State Object}

abbrev State.Coherent (runtime : Runtime) (state : State Object) : Prop :=
  Csharp.Coherent (listsHash runtime) state.fresh state.lists state.hash

/-- The code is kept, or it is that of three new lists. -/
theorem getHashCode_step {hash : Int32}
    (called : getHashCode runtime pinvoke nativeObject this state = .ok (hash, next)) :
    (state.hash this ≠ 0 ∧ hash = state.hash this ∧ next = state) ∨
      (state.hash this = 0 ∧ hash = listsHash runtime state.fresh ∧
        next = ⟨state.fresh + 3, Function.update state.hash this hash,
          Function.update state.lists this (some state.fresh)⟩) := by
  unfold getHashCode at called
  split at called
  · next isZero =>
    simp only [computeHash, bind_eq_ok_iff, Except.ok.injEq, Prod.mk.injEq] at called
    obtain ⟨_, ⟨_, _, _, _, _, _, rfl⟩, rfl, rfl⟩ := called
    exact .inr ⟨isZero, rfl, rfl⟩
  · next nonzero =>
    simp only [Except.ok.injEq, Prod.mk.injEq] at called
    exact .inl ⟨nonzero, called.1.symm, called.2.symm⟩

theorem getHashCode_coherent (coherent : state.Coherent runtime) {hash : Int32}
    (called : getHashCode runtime pinvoke nativeObject this state = .ok (hash, next)) :
    next.Coherent runtime ∧ next.hash this = hash ∧
      ∃ reference, next.lists this = some reference ∧ hash = listsHash runtime reference := by
  rcases getHashCode_step called with ⟨nonzero, rfl, rfl⟩ | ⟨isZero, rfl, rfl⟩
  · exact ⟨coherent, rfl, coherent.kept nonzero⟩
  · have later : state.fresh < state.fresh + 3 := Nat.lt_add_of_pos_right (by decide)
    have renewed := coherent.renew isZero later
    have held := update_self this (some state.fresh) state.lists
    exact ⟨renewed.record held, update_self _ _ _, state.fresh, held, rfl⟩

theorem Reachable.coherent (reached : Reachable runtime pinvoke nativeObject state) :
    state.Coherent runtime := by
  induction reached with
  | initial fresh => exact coherent_initial
  | allocate _ later ih => exact ih.later later
  | getHashCode _ called ih => exact (getHashCode_coherent ih called).1

/-- The codes are those of the lists of the two objects, whatever the contents. The lists of one
object are built twice if their code is zero. -/
theorem hashCodes_sources (coherent : state.Coherent runtime) {middle last : State Object}
    {a b : Object} {first second : Int32}
    (called : getHashCode runtime pinvoke nativeObject a state = .ok (first, middle))
    (calledAgain : getHashCode runtime pinvoke nativeObject b middle = .ok (second, last)) :
    ∃ left right, middle.lists a = some left ∧ last.lists b = some right ∧
      first = listsHash runtime left ∧ second = listsHash runtime right ∧
      (left = right ↔ a = b ∧ listsHash runtime left ≠ 0) := by
  obtain ⟨stillCoherent, kept, left, heldLeft, isFirst⟩ := getHashCode_coherent coherent called
  obtain ⟨_, _, right, heldRight, isSecond⟩ := getHashCode_coherent stillCoherent calledAgain
  refine ⟨left, right, heldLeft, heldRight, isFirst, isSecond, ?_⟩
  rcases getHashCode_step calledAgain with ⟨nonzero, rfl, rfl⟩ | ⟨isZero, rfl, rfl⟩
  · rw [isSecond] at nonzero
    constructor
    · rintro rfl
      exact ⟨stillCoherent.distinct heldLeft heldRight, nonzero⟩
    · rintro ⟨rfl, _⟩
      exact Option.some.inj (heldLeft.symm.trans heldRight)
  · have fresh : right = middle.fresh := by simpa using heldRight.symm
    constructor
    · intro same
      exact absurd (same.trans fresh) (Nat.ne_of_lt (stillCoherent.allocated heldLeft))
    · rintro ⟨rfl, nonzero⟩
      rw [← isFirst, ← kept] at nonzero
      exact absurd isZero nonzero

end Explainables

/-- Equal objects have the hash codes of their own collections, and these are different ones unless
the two objects are one, whose lists have a code other than zero. -/
theorem hashCodes_of_equals {Object Native Content : Type} [DecidableEq Object] (runtime : Runtime)
    (nativeObject : Object → Native) (a b : Object) (first second : Int32) :
    (∀ (pinvoke : ConceptMap.Pinvoke Native Content) (state middle last),
      ConceptMap.Reachable runtime pinvoke nativeObject state →
      ConceptMap.equals pinvoke nativeObject a (.same b) = true →
      ConceptMap.getHashCode runtime pinvoke nativeObject a state = .ok (first, middle) →
      ConceptMap.getHashCode runtime pinvoke nativeObject b middle = .ok (second, last) →
      ∃ left right, last.cachedMap a = some left ∧ last.cachedMap b = some right ∧
        first = runtime.referenceHash left.reference ∧
        second = runtime.referenceHash right.reference ∧
        (left.reference = right.reference ↔ a = b)) ∧
    ∀ (pinvoke : Explainables.Pinvoke Native Content) (state middle last),
      Explainables.Reachable runtime pinvoke nativeObject state →
      Explainables.equals pinvoke nativeObject a (.same b) = true →
      Explainables.getHashCode runtime pinvoke nativeObject a state = .ok (first, middle) →
      Explainables.getHashCode runtime pinvoke nativeObject b middle = .ok (second, last) →
      ∃ left right, middle.lists a = some left ∧ last.lists b = some right ∧
        first = Explainables.listsHash runtime left ∧
        second = Explainables.listsHash runtime right ∧
        (left = right ↔ a = b ∧ Explainables.listsHash runtime left ≠ 0) := by
  constructor
  · intro pinvoke state middle last reached _ called calledAgain
    exact ConceptMap.hashCodes_sources reached.coherent called calledAgain
  · intro pinvoke state middle last reached _ called calledAgain
    exact Explainables.hashCodes_sources reached.coherent called calledAgain

def counting : Runtime := ⟨fun reference => Int32.ofNat (reference + 1), fun first _ _ => first⟩

def oneVariable : ConceptMap.Pinvoke Unit String := ⟨fun _ => ["x"], fun _ => some, fun _ _ => true⟩

def noExplainables : Explainables.Pinvoke Unit String :=
  ⟨fun _ => [], fun _ _ => none, fun _ => [], fun _ _ => none, fun _ => [], fun _ _ _ => none,
    fun _ _ => true⟩

theorem hashCodes_of_equals_one_object :
    ∃ left right, left = right ∧ (1 : Int32) = Explainables.listsHash counting left ∧
      1 = Explainables.listsHash counting right := by
  obtain ⟨left, right, _, _, isFirst, isSecond, same⟩ :=
    (@hashCodes_of_equals Bool Unit String _ counting (fun _ => ()) false false 1 1).2
      noExplainables { fresh := 0 } _ _ (.initial 0) rfl rfl rfl
  exact ⟨left, right, same.mpr ⟨rfl, isFirst ▸ by decide⟩, isFirst, isSecond⟩

/-- Two objects for one answer are equal, and their hash codes are not. -/
theorem hashCodes_of_two_objects :
    ConceptMap.equals oneVariable (fun _ => ()) false (.same true) = true ∧
      (∃ middle last, ConceptMap.getHashCode counting oneVariable (fun _ => ()) false
          { fresh := 0 } = .ok (1, middle) ∧
        ConceptMap.getHashCode counting oneVariable (fun _ => ()) true middle = .ok (2, last)) ∧
      Explainables.equals noExplainables (fun _ => ()) false (.same true) = true ∧
      ∃ middle last, Explainables.getHashCode counting noExplainables (fun _ => ()) false
          { fresh := 0 } = .ok (1, middle) ∧
        Explainables.getHashCode counting noExplainables (fun _ => ()) true middle =
          .ok (4, last) :=
  ⟨rfl, ⟨_, _, rfl, rfl⟩, rfl, _, _, rfl, rfl⟩

end TypeDBDriver.Csharp
