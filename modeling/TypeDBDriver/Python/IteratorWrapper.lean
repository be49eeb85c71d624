import TypeDBDriver.Ffi.Strings

/-! The iterators of the Python driver: a native iterator, the function of the native module that
asks it for the next item, and the wrapper that Python iterates over. -/

namespace TypeDBDriver.Python

open Library

/-- What a function of the native module returns. A `str` is given by its bytes in UTF-8. -/
inductive Returned (Object : Type) where
  | none
  | str (bytes : List UInt8)
  | proxy (object : Object)
  deriving DecidableEq, Repr

namespace Returned

variable {Object : Type}

/-- Its value in a condition. A proxy has neither `__bool__` nor `__len__`. -/
def isTrue : Returned Object → Bool
  | .none => false
  | .str bytes => !bytes.isEmpty
  | .proxy _ => true

/-- How SWIG converts a `char *`. -/
def ofCharPointer : CharPointer → Returned Object
  | .null => .none
  | .to memory => .str (CString.read memory)

/-- How SWIG converts a pointer to an object. -/
def ofPointer : Option Object → Returned Object
  | Option.none => .none
  | some object => .proxy object

end Returned

section Native

variable (texts : ErrorText) {Item Object : Type}

/-- What is left of a native iterator goes through the calls. A call returns, or raises a
`TypeDBDriverExceptionNative` with a message. -/
abbrev SwigNext (Item Object : Type) :=
  List (Result Item) → Exported (Except (List UInt8) (Returned Object) × List (Result Item))

def checkError (lastError : Option Error) (returned : Returned Object) :
    Exported (Except (List UInt8) (Returned Object)) :=
  match lastError with
  | some error => do
      match ← Native.errorMessage texts error with
      | .to memory => return .error (CString.read memory)
      | .null => return .error []
  | none => return .ok returned

def stringIteratorNext : SwigNext String Object := fun items => do
  let (pointer, lastError, rest) ← Native.stringIteratorNext items
  let result ← checkError texts lastError (.ofCharPointer pointer)
  return (result, rest)

/-- The pointer, the error that is stored, and what the iterator still has. -/
def iteratorTryNext : List (Result Object) → Option Object × Option Error × List (Result Object)
  | [] => (none, none, [])
  | .ok object :: rest => (some object, none, rest)
  | .error err :: rest => (none, some err, rest)

/-- The functions that hand out objects, such as `concept_row_iterator_next`. -/
def objectIteratorNext : SwigNext Object Object := fun items => do
  let (pointer, lastError, rest) := iteratorTryNext items
  let result ← checkError texts lastError (.ofPointer pointer)
  return (result, rest)

end Native

inductive NextResult (Object : Type) where
  | item (returned : Returned Object)
  | stopIteration
  | typeDBDriverException (message : List UInt8)
  deriving DecidableEq, Repr

def IteratorWrapper.next {Item Object : Type} (nativeNext : SwigNext Item Object)
    (items : List (Result Item)) : Exported (NextResult Object × List (Result Item)) := do
  let (result, rest) ← nativeNext items
  match result with
  | .ok nextItem => return (if nextItem.isTrue then .item nextItem else .stopIteration, rest)
  | .error message => return (.typeDBDriverException message, rest)

inductive Ending where
  | stopped
  | raised (message : List UInt8)
  /-- A panic of the native code has ended the process. -/
  | aborted
  | unfinished
  deriving DecidableEq, Repr

structure Iteration (Object : Type) where
  yielded : List (Returned Object)
  ending : Ending
  deriving DecidableEq, Repr

def Iteration.cons {Object : Type} (item : Returned Object) (iteration : Iteration Object) :
    Iteration Object :=
  { iteration with yielded := item :: iteration.yielded }

def IteratorWrapper.iterate {Item Object : Type} (nativeNext : SwigNext Item Object) :
    Nat → List (Result Item) → Iteration Object
  | 0, _ => ⟨[], .unfinished⟩
  | limit + 1, items =>
    match next nativeNext items with
    | .ok (.item item, rest) => .cons item (iterate nativeNext limit rest)
    | .ok (.stopIteration, _) => ⟨[], .stopped⟩
    | .ok (.typeDBDriverException message, _) => ⟨[], .raised message⟩
    | .panicked => ⟨[], .aborted⟩

section Expected

variable (texts : ErrorText) {Item Object : Type}

/-- The items in order, up to the end or to the first error. -/
def expectedIteration (convert : Item → Returned Object) : List (Result Item) → Iteration Object
  | [] => ⟨[], .stopped⟩
  | .ok item :: rest => .cons (convert item) (expectedIteration convert rest)
  | .error error :: _ => ⟨[], .raised (utf8Bytes (error.message texts))⟩

/-- The items before the first error have the property, and the message of the error has no zero
character. -/
def Deliverable (holds : Item → Prop) : List (Result Item) → Prop
  | [] => True
  | .ok item :: rest => holds item ∧ Deliverable holds rest
  | .error error :: _ => nul ∉ (error.message texts).toList

end Expected

section Faithful

variable {texts : ErrorText} {Item Object : Type} {nativeNext : SwigNext Item Object}
  {convert : Item → Returned Object} {holds : Item → Prop}

namespace IteratorWrapper

variable {items rest : List (Result Item)} {returned : Returned Object}

theorem iterate_of_isTrue (called : nativeNext items = .ok (.ok returned, rest))
    (isTrue : returned.isTrue = true) (limit : Nat) :
    iterate nativeNext (limit + 1) items = .cons returned (iterate nativeNext limit rest) := by
  simp [iterate, next, called, isTrue]

theorem iterate_of_not_isTrue (called : nativeNext items = .ok (.ok returned, rest))
    (isFalse : returned.isTrue = false) (limit : Nat) :
    iterate nativeNext (limit + 1) items = ⟨[], .stopped⟩ := by
  simp [iterate, next, called, isFalse]

theorem iterate_of_error {message : List UInt8}
    (called : nativeNext items = .ok (.error message, rest)) (limit : Nat) :
    iterate nativeNext (limit + 1) items = ⟨[], .raised message⟩ := by
  simp [iterate, next, called]

theorem iterate_of_panicked (called : nativeNext items = .panicked) (limit : Nat) :
    iterate nativeNext (limit + 1) items = ⟨[], .aborted⟩ := by
  simp [iterate, next, called]

end IteratorWrapper

/-- What a function of the native module does with each kind of item. -/
structure Converts (texts : ErrorText) (nativeNext : SwigNext Item Object)
    (convert : Item → Returned Object) (holds : Item → Prop) : Prop where
  null : nativeNext [] = .ok (.ok .none, [])
  error : ∀ {error : Error} (rest), nul ∉ (error.message texts).toList →
    nativeNext (.error error :: rest) = .ok (.error (utf8Bytes (error.message texts)), rest)
  unprintable : ∀ {error : Error} (rest), nul ∈ (error.message texts).toList →
    nativeNext (.error error :: rest) = .panicked
  item : ∀ {item : Item} (rest), holds item →
    nativeNext (.ok item :: rest) = .ok (.ok (convert item), rest) ∧ (convert item).isTrue = true
  other : ∀ {item : Item} (rest), ¬ holds item → nativeNext (.ok item :: rest) = .panicked ∨
    ∃ returned, nativeNext (.ok item :: rest) = .ok (.ok returned, rest) ∧ returned.isTrue = false

theorem Iteration.cons_ne_nil (item : Returned Object) (iteration : Iteration Object)
    (ending : Ending) : ⟨[], ending⟩ ≠ Iteration.cons item iteration := by
  intro same
  cases congrArg Iteration.yielded same

theorem Iteration.cons_inj {item : Returned Object} {first second : Iteration Object} :
    Iteration.cons item first = Iteration.cons item second ↔ first = second := by
  obtain ⟨firstYielded, firstEnding⟩ := first
  obtain ⟨secondYielded, secondEnding⟩ := second
  simp [Iteration.cons]

/-- A loop over the wrapper sees what it should exactly up to the first item that has not the
property. -/
theorem Converts.iterate_eq_iff (converts : Converts texts nativeNext convert holds)
    (items : List (Result Item)) {limit : Nat} (enough : items.length < limit) :
    IteratorWrapper.iterate nativeNext limit items = expectedIteration texts convert items ↔
      Deliverable texts holds items := by
  induction items generalizing limit with
  | nil =>
    obtain ⟨limit, rfl⟩ := Nat.exists_eq_succ_of_ne_zero (Nat.ne_of_gt enough)
    exact iff_of_true (IteratorWrapper.iterate_of_not_isTrue converts.null rfl limit) trivial
  | cons head rest ih =>
    obtain ⟨limit, rfl⟩ := Nat.exists_eq_succ_of_ne_zero (Nat.ne_of_gt (Nat.zero_lt_of_lt enough))
    have left : rest.length < limit := Nat.lt_of_succ_lt_succ enough
    cases head with
    | error error =>
      by_cases zero : nul ∈ (error.message texts).toList
      · rw [IteratorWrapper.iterate_of_panicked (converts.unprintable rest zero)]
        refine iff_of_false (fun same => ?_) fun plain => plain zero
        cases congrArg Iteration.ending same
      · rw [IteratorWrapper.iterate_of_error (converts.error rest zero)]
        exact iff_of_true rfl zero
    | ok item =>
      by_cases kept : holds item
      · obtain ⟨called, isTrue⟩ := converts.item rest kept
        rw [IteratorWrapper.iterate_of_isTrue called isTrue]
        exact (Iteration.cons_inj.trans (ih left)).trans (and_iff_right kept).symm
      · refine iff_of_false ?_ fun deliverable => kept deliverable.1
        rcases converts.other rest kept with called | ⟨returned, called, isFalse⟩
        · rw [IteratorWrapper.iterate_of_panicked called]
          exact Iteration.cons_ne_nil _ _ _
        · rw [IteratorWrapper.iterate_of_not_isTrue called isFalse]
          exact Iteration.cons_ne_nil _ _ _

theorem checkError_some {error : Error} (plain : nul ∉ (error.message texts).toList)
    (returned : Returned Object) :
    checkError texts (some error) returned = .ok (.error (utf8Bytes (error.message texts))) := by
  obtain ⟨memory, released, read⟩ := StringCall.releaseString_of_not_mem plain
  simp [checkError, Native.errorMessage, released, read]

theorem checkError_panicked {error : Error} (zero : nul ∈ (error.message texts).toList)
    (returned : Returned Object) : checkError texts (some error) returned = .panicked := by
  simp [checkError, Native.errorMessage, StringCall.releaseString_of_mem zero]

theorem stringIteratorNext_converts (texts : ErrorText) (Object : Type) :
    Converts texts (stringIteratorNext texts : SwigNext String Object)
      (fun text => .str (utf8Bytes text)) (fun text => text ≠ "" ∧ nul ∉ text.toList) where
  null := rfl
  error := by
    intro error rest plain
    simp [stringIteratorNext, Native.stringIteratorNext, Native.tryReleaseString,
      checkError_some plain]
  unprintable := by
    intro error rest zero
    simp [stringIteratorNext, Native.stringIteratorNext, Native.tryReleaseString,
      checkError_panicked zero]
  item := by
    intro text rest fits
    obtain ⟨memory, released, read⟩ := StringCall.releaseString_of_not_mem fits.2
    refine ⟨?_, ?_⟩
    · simp [stringIteratorNext, Native.stringIteratorNext, Native.tryReleaseString, released,
        checkError, Returned.ofCharPointer, read]
    · simp [Returned.isTrue, utf8Bytes_eq_nil_iff, fits.1]
  other := by
    intro text rest unfit
    by_cases zero : nul ∈ text.toList
    · left
      simp [stringIteratorNext, Native.stringIteratorNext, Native.tryReleaseString,
        StringCall.releaseString_of_mem zero]
    · right
      obtain ⟨memory, released, read⟩ := StringCall.releaseString_of_not_mem zero
      have empty : text = "" := by
        by_contra some
        exact unfit ⟨some, zero⟩
      refine ⟨.str (utf8Bytes text), ?_, ?_⟩
      · simp [stringIteratorNext, Native.stringIteratorNext, Native.tryReleaseString, released,
          checkError, Returned.ofCharPointer, read]
      · simp [Returned.isTrue, utf8Bytes_eq_nil_iff, empty]

theorem objectIteratorNext_converts (texts : ErrorText) (Object : Type) :
    Converts texts (objectIteratorNext texts) (fun object : Object => .proxy object)
      (fun _ => True) where
  null := rfl
  error := by
    intro error rest plain
    simp [objectIteratorNext, iteratorTryNext, checkError_some plain]
  unprintable := by
    intro error rest zero
    simp [objectIteratorNext, iteratorTryNext, checkError_panicked zero]
  item := fun _ _ => ⟨rfl, rfl⟩
  other := fun _ unfit => absurd trivial unfit

/-- A loop over strings sees all of them, and an error as an exception at its place, exactly if no
string before the error is empty and no string and no message of an error has a zero character.
With objects only the message of the error matters. -/
theorem IteratorWrapper.iterate_faithful_iff (texts : ErrorText) (Object : Type) :
    (∀ (items : List (Result String)) (limit : Nat), items.length < limit →
      (iterate (stringIteratorNext texts : SwigNext String Object) limit items =
          expectedIteration texts (fun text => .str (utf8Bytes text)) items ↔
        Deliverable texts (fun text => text ≠ "" ∧ nul ∉ text.toList) items)) ∧
    (∀ (items : List (Result Object)) (limit : Nat), items.length < limit →
      (iterate (objectIteratorNext texts) limit items =
          expectedIteration texts (fun object => .proxy object) items ↔
        Deliverable texts (fun _ => True) items)) :=
  ⟨fun items _ enough => (stringIteratorNext_converts texts Object).iterate_eq_iff items enough,
    fun items _ enough => (objectIteratorNext_converts texts Object).iterate_eq_iff items enough⟩

/-- The loop ends at an empty string. -/
theorem IteratorWrapper.empty_string_stops :
    iterate (stringIteratorNext .empty : SwigNext String Empty) 4 [.ok "a", .ok "", .ok "b"] =
        ⟨[.str [97]], .stopped⟩ ∧
      expectedIteration .empty (fun text => (.str (utf8Bytes text) : Returned Empty))
          [.ok "a", .ok "", .ok "b"] =
        ⟨[.str [97], .str [], .str [98]], .stopped⟩ :=
  ⟨rfl, rfl⟩

end Faithful

end TypeDBDriver.Python
