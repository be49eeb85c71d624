import TypeDBDriver.Common.FloatEquality

/-! Values of the Node.js driver: how they are decoded, and how they are compared. -/

namespace TypeDBDriver.Nodejs

open Proto (F64)

/-- The field of a message `Value` that is set. Numbers are doubles. -/
inductive ValueProto where
  | boolean (boolean : Bool)
  | long (long : F64)
  | double (double : F64)
  | string (string : String)
  | dateTime (dateTime : F64)
  deriving DecidableEq

/-- A `Date`, with the number it was made from. Each one is an object of its own. -/
structure Date where
  object : Nat
  time : F64

inductive ValueType where
  | boolean
  | long
  | double
  | string
  | datetime
  deriving DecidableEq, Repr

inductive ValueImpl where
  | boolean (value : Bool)
  | long (value : F64)
  | double (value : F64)
  | string (value : String)
  | dateTime (value : Date)

/-- A concept that is not a value is told from a value by `isValue`. -/
inductive ConceptImpl (Thing : Type) where
  | value (value : ValueImpl)
  | thing (thing : Thing)

inductive ConceptError where
  | badValueType
  deriving DecidableEq, Repr

namespace ValueImpl

def valueType : ValueImpl → ValueType
  | .boolean _ => .boolean
  | .long _ => .long
  | .double _ => .double
  | .string _ => .string
  | .dateTime _ => .datetime

/-- `this.value == other.value`, where both have one type. Objects are equal if they are one. -/
def payloadEquals : ValueImpl → ValueImpl → Bool
  | .boolean first, .boolean second => first == second
  | .long first, .long second => first.eq second
  | .double first, .double second => first.eq second
  | .string first, .string second => first == second
  | .dateTime first, .dateTime second => first.object == second.object
  | _, _ => false

def equals {Thing : Type} (value : ValueImpl) : ConceptImpl Thing → Bool
  | .thing _ => false
  | .value other => value.valueType == other.valueType && value.payloadEquals other

/-- `allocated` counts the objects that were made before. -/
def ofField (field : ValueProto) (allocated : Nat) : ValueImpl × Nat :=
  match field with
  | .boolean value => (.boolean value, allocated)
  | .long value => (.long value, allocated)
  | .double value => (.double value, allocated)
  | .string value => (.string value, allocated)
  | .dateTime value => (.dateTime ⟨allocated, value⟩, allocated + 1)

/-- Of a message that may be missing, with a field that may be missing. -/
def ofValueProto (valueProto : Option (Option ValueProto)) (allocated : Nat) :
    Except ConceptError (Option ValueImpl × Nat) :=
  match valueProto with
  | none => .ok (none, allocated)
  | some none => .error .badValueType
  | some (some field) =>
    let (value, allocated) := ofField field allocated
    .ok (some value, allocated)

def isNaN : ValueImpl → Bool
  | .long value => value.isNaN
  | .double value => value.isNaN
  | _ => false

end ValueImpl

theorem eq_of_payloadEquals_type {first second : ValueImpl}
    (equal : first.payloadEquals second = true) : first.valueType = second.valueType := by
  cases first <;> cases second <;> first | rfl | cases equal

theorem ValueImpl.equals_eq {Thing : Type} (first second : ValueImpl) :
    first.equals (.value second : ConceptImpl Thing) = first.payloadEquals second := by
  change (first.valueType == second.valueType && first.payloadEquals second) = _
  cases equal : first.payloadEquals second with
  | false => exact Bool.and_false _
  | true =>
    rw [eq_of_payloadEquals_type equal]
    simp

theorem float_eq_iff {first second : F64} :
    first.eq second = true ↔ (first.isNaN = false ∧ second.isNaN = false) ∧
      (first = second ∨ first.ordinal = 0 ∧ second.ordinal = 0) := by
  obtain ⟨first⟩ := first
  obtain ⟨second⟩ := second
  simp [F64.eq]

theorem ValueImpl.payloadEquals_self {value : ValueImpl} (number : value.isNaN = false) :
    value.payloadEquals value = true := by
  cases value with
  | boolean value => exact beq_self_eq_true value
  | long value => exact F64.eq_self number
  | double value => exact F64.eq_self number
  | string value => exact beq_self_eq_true value
  | dateTime value => exact beq_self_eq_true value.object

theorem ValueImpl.payloadEquals_comm (first second : ValueImpl) :
    first.payloadEquals second = second.payloadEquals first := by
  cases first <;> cases second <;> first
    | rfl
    | exact F64.eq_comm _ _
    | exact Bool.beq_comm

theorem float_eq_trans {first second third : F64} (firstEqual : first.eq second = true)
    (secondEqual : second.eq third = true) : first.eq third = true := by
  rw [float_eq_iff] at firstEqual secondEqual ⊢
  obtain ⟨⟨number, -⟩, same⟩ := firstEqual
  obtain ⟨⟨-, lastNumber⟩, lastSame⟩ := secondEqual
  refine ⟨⟨number, lastNumber⟩, ?_⟩
  rcases same with rfl | ⟨zero, middle⟩
  · exact lastSame
  · rcases lastSame with rfl | ⟨-, last⟩
    · exact .inr ⟨zero, middle⟩
    · exact .inr ⟨zero, last⟩

theorem ValueImpl.payloadEquals_trans {first second third : ValueImpl}
    (firstEqual : first.payloadEquals second = true)
    (secondEqual : second.payloadEquals third = true) : first.payloadEquals third = true := by
  cases first <;> cases second <;> first
    | exact absurd firstEqual Bool.false_ne_true
    | cases third <;> first
        | exact absurd secondEqual Bool.false_ne_true
        | exact float_eq_trans firstEqual secondEqual
        | skip
  all_goals
    simp only [ValueImpl.payloadEquals, beq_iff_eq] at firstEqual secondEqual ⊢
    exact firstEqual.trans secondEqual

/-- The messages whose values `equals` compares as their payloads: it tells a NaN and a date from
itself, and does not tell the zeros apart. -/
def ValueProto.Comparable : ValueProto → ValueProto → Prop
  | .long first, .long second | .double first, .double second =>
    (first = second → first.isNaN = false) ∧
      (first ≠ second → ¬ (first.ordinal = 0 ∧ second.ordinal = 0))
  | .dateTime first, .dateTime second => first ≠ second
  | _, _ => True

theorem isNaN_of_ordinal_zero {number : F64} (zero : number.ordinal = 0) :
    number.isNaN = false := by
  rw [F64.isNaN, zero]
  rfl

theorem float_eq_exact_iff (first second : F64) :
    (first.eq second = true ↔ first = second) ↔
      (first = second → first.isNaN = false) ∧
        (first ≠ second → ¬ (first.ordinal = 0 ∧ second.ordinal = 0)) := by
  rw [float_eq_iff]
  by_cases same : first = second
  · subst same
    simp
  · constructor
    · intro exact_
      refine ⟨fun equal => absurd equal same, fun _ zeros => same (exact_.mp ?_)⟩
      exact ⟨⟨isNaN_of_ordinal_zero zeros.1, isNaN_of_ordinal_zero zeros.2⟩, .inr zeros⟩
    · rintro ⟨-, apart⟩
      refine ⟨?_, fun equal => absurd equal same⟩
      rintro ⟨-, equal | zeros⟩
      · exact equal
      · exact absurd zeros (apart same)

theorem payloadEquals_ofField_iff (first second : ValueProto) (allocated between : Nat) :
    ((ValueImpl.ofField first allocated).1.payloadEquals (ValueImpl.ofField second
        ((ValueImpl.ofField first allocated).2 + between)).1 = true ↔ first = second) ↔
      first.Comparable second := by
  cases first with
  | boolean first =>
    cases second <;> simp [ValueImpl.ofField, ValueImpl.payloadEquals, ValueProto.Comparable]
  | long first =>
    cases second with
    | long second =>
      rw [ValueProto.long.injEq]
      exact float_eq_exact_iff first second
    | _ => simp [ValueImpl.ofField, ValueImpl.payloadEquals, ValueProto.Comparable]
  | double first =>
    cases second with
    | double second =>
      rw [ValueProto.double.injEq]
      exact float_eq_exact_iff first second
    | _ => simp [ValueImpl.ofField, ValueImpl.payloadEquals, ValueProto.Comparable]
  | string first =>
    cases second <;> simp [ValueImpl.ofField, ValueImpl.payloadEquals, ValueProto.Comparable]
  | dateTime first =>
    cases second with
    | dateTime second =>
      have fresh : ¬ allocated = allocated + 1 + between := by omega
      simp [ValueImpl.ofField, ValueImpl.payloadEquals, ValueProto.Comparable, fresh]
    | _ => simp [ValueImpl.ofField, ValueImpl.payloadEquals, ValueProto.Comparable]

/-- `equals` is an equivalence on the values that are not NaN. Values that were decoded are equal
just when their messages are, except for dates, NaN and zeros of either sign. -/
theorem ValueImpl.equals_lawful_iff {Thing : Type} :
    Equivalence (fun first second : { value : ValueImpl // value.isNaN = false } =>
        first.1.equals (.value second.1 : ConceptImpl Thing) = true) ∧
      ∀ (first second : ValueProto) (allocated between : Nat), ∃ left next right last,
        ofValueProto (some (some first)) allocated = .ok (some left, next) ∧
          ofValueProto (some (some second)) (next + between) = .ok (some right, last) ∧
          ((left.equals (.value right : ConceptImpl Thing) = true ↔ first = second) ↔
            first.Comparable second) := by
  refine ⟨⟨?_, ?_, ?_⟩, ?_⟩
  · rintro ⟨value, number⟩
    rw [equals_eq]
    exact payloadEquals_self number
  · intro first second equal
    rw [equals_eq] at equal ⊢
    rwa [payloadEquals_comm]
  · intro first second third firstEqual secondEqual
    rw [equals_eq] at firstEqual secondEqual ⊢
    exact payloadEquals_trans firstEqual secondEqual
  · intro first second allocated between
    refine ⟨_, _, _, _, rfl, rfl, ?_⟩
    rw [equals_eq]
    exact payloadEquals_ofField_iff first second allocated between

/-- A date that is decoded twice. -/
theorem ValueImpl.equal_dates_differ :
    ∃ first second allocated,
      ofValueProto (some (some (.dateTime ⟨0⟩))) 0 = .ok (some first, allocated) ∧
        ofValueProto (some (some (.dateTime ⟨0⟩))) allocated = .ok (some second, allocated + 1) ∧
        first.equals (.value second : ConceptImpl Unit) = false :=
  ⟨.dateTime ⟨0, ⟨0⟩⟩, .dateTime ⟨1, ⟨0⟩⟩, 1, rfl, rfl, by decide⟩

end TypeDBDriver.Nodejs
