import TypeDBDriver.Concept.Getters
import TypeDBDriver.Ffi.DatabaseApi
import TypeDBDriver.Library.CString

/-! Strings on their way through the C API: the memory functions that hand them out and the
exported functions that use them. -/

namespace TypeDBDriver

open Library

/-- What an exported function returns, or a panic that unwinds into foreign code. -/
abbrev Exported (α : Type) := Outcome Empty α

inductive CharPointer where
  | null
  | to (memory : List UInt8)
  deriving DecidableEq, Repr

/-- The parts of the texts of errors that are not modelled: the codes and messages of the
errors that the driver itself raises. -/
structure ErrorText where
  connectionCode : ConnectionError → String
  connectionMessage : ConnectionError → String
  internalCode : InternalError → String
  internalMessage : InternalError → String

namespace ServerError

def formatCode (error : ServerError) : String := error.errorCode

def messageText (error : ServerError) : String :=
  if error.stackTrace.isEmpty then
    "[" ++ error.errorCode ++ "] " ++ error.errorDomain ++ ". " ++ error.message
  else
    "\n" ++ "\nCaused: ".intercalate error.stackTrace

end ServerError

namespace Error

def code (texts : ErrorText) : Error → String
  | .connection error => texts.connectionCode error
  | .internal error => texts.internalCode error
  | .server error => error.formatCode
  | .other _ => ""

def message (texts : ErrorText) : Error → String
  | .connection error => texts.connectionMessage error
  | .internal error => texts.internalMessage error
  | .server error => error.messageText
  | .other error => error

end Error

namespace Native

def releaseString (str : String) : Exported CharPointer := do
  let string ← Outcome.unwrap (CString.new (utf8Bytes str))
  return .to string.memory

def releaseOptionalString : Option String → Exported CharPointer
  | some str => releaseString str
  | none => .ok .null

def tryReleaseString : Result String → Exported (CharPointer × Option Error)
  | .ok str => do return (← releaseString str, none)
  | .error err => .ok (.null, some err)

def tryReleaseOptionalString : Option (Result String) → Exported (CharPointer × Option Error)
  | some result => tryReleaseString result
  | none => .ok (.null, none)

/-- `unreachable!` is what a concept that is no string meets. -/
def conceptGetString (concept : Concept) : Exported CharPointer :=
  match concept.tryGetString with
  | some value => releaseString value
  | none => .panicked

def conceptGetLabel (concept : Concept) : Exported CharPointer :=
  releaseString concept.getLabel

def conceptTryGetLabel (concept : Concept) : Exported CharPointer :=
  releaseOptionalString concept.tryGetLabel

def conceptToString (texts : DisplayText) (concept : Concept) : Exported CharPointer :=
  releaseString (concept.debug texts)

def errorCode (texts : ErrorText) (error : Error) : Exported CharPointer :=
  releaseString (error.code texts)

def errorMessage (texts : ErrorText) (error : Error) : Exported CharPointer :=
  releaseString (error.message texts)

def stringIteratorNext :
    List (Result String) → Exported (CharPointer × Option Error × List (Result String))
  | [] => .ok (.null, none, [])
  | item :: rest => do
      let (pointer, lastError) ← tryReleaseString item
      return (pointer, lastError, rest)

def stringPromiseResolve (result : Result (Option String)) :
    Exported (CharPointer × Option Error) :=
  tryReleaseOptionalString (match result with
    | .ok none => none
    | .ok (some str) => some (.ok str)
    | .error err => some (.error err))

end Native

inductive StringCall where
  | conceptGetString (concept : Concept)
  | conceptGetLabel (concept : Concept)
  | conceptTryGetLabel (concept : Concept)
  | conceptToString (concept : Concept)
  | errorCode (error : Error)
  | errorMessage (error : Error)
  | stringIteratorNext (items : List (Result String))
  | stringPromiseResolve (result : Result (Option String))

namespace StringCall

section Texts

variable (texts : DisplayText) (errors : ErrorText)

/-- The string that the call passes to `release_string`, if it gets as far. -/
def string : StringCall → Option String
  | .conceptGetString concept => concept.tryGetString
  | .conceptGetLabel concept => some concept.getLabel
  | .conceptTryGetLabel concept => concept.tryGetLabel
  | .conceptToString concept => some (concept.debug texts)
  | .errorCode error => some (error.code errors)
  | .errorMessage error => some (error.message errors)
  | .stringIteratorNext (.ok str :: _) => some str
  | .stringIteratorNext _ => none
  | .stringPromiseResolve (.ok str) => str
  | .stringPromiseResolve (.error _) => none

def pointer : StringCall → Exported CharPointer
  | .conceptGetString concept => Native.conceptGetString concept
  | .conceptGetLabel concept => Native.conceptGetLabel concept
  | .conceptTryGetLabel concept => Native.conceptTryGetLabel concept
  | .conceptToString concept => Native.conceptToString texts concept
  | .errorCode error => Native.errorCode errors error
  | .errorMessage error => Native.errorMessage errors error
  | .stringIteratorNext items => do return (← Native.stringIteratorNext items).1
  | .stringPromiseResolve result => do return (← Native.stringPromiseResolve result).1

end Texts

/-- The pointer leads to the bytes of the text as far as a C reader reads them. -/
def Crosses (text : String) (returned : Exported CharPointer) : Prop :=
  ∃ memory, returned = .ok (.to memory) ∧ CString.read memory = utf8Bytes text

theorem releaseString_of_mem {str : String} (zero : nul ∈ str.toList) :
    Native.releaseString str = .panicked := by
  have rejected := CString.new_eq_none_iff.mpr ((zero_mem_utf8Bytes_iff str).mpr zero)
  simp [Native.releaseString, rejected, Outcome.unwrap]

theorem releaseString_of_not_mem {str : String} (plain : nul ∉ str.toList) :
    Crosses str (Native.releaseString str) := by
  have noTerminator : 0 ∉ utf8Bytes str := mt (zero_mem_utf8Bytes_iff str).mp plain
  refine ⟨CString.memory ⟨utf8Bytes str, noTerminator⟩, ?_, CString.read_memory _⟩
  simp [Native.releaseString, CString.new_of_not_mem noTerminator, Outcome.unwrap]

theorem releaseString_crosses_iff (str : String) :
    Crosses str (Native.releaseString str) ↔ nul ∉ str.toList := by
  refine ⟨?_, releaseString_of_not_mem⟩
  intro crosses zero
  obtain ⟨memory, returned, -⟩ := crosses
  rw [releaseString_of_mem zero] at returned
  cases returned

theorem fst_tryReleaseString (str : String) :
    (do return (← Native.tryReleaseString (.ok str)).1 : Exported CharPointer) =
      Native.releaseString str := by
  cases released : Native.releaseString str with
  | ok pointer => simp [Native.tryReleaseString, released]
  | error cause => cases cause
  | panicked => simp [Native.tryReleaseString, released]

theorem pointer_eq_releaseString {texts : DisplayText} {errors : ErrorText} {call : StringCall}
    {str : String} (hands : call.string texts errors = some str) :
    call.pointer texts errors = Native.releaseString str := by
  cases call with
  | conceptGetString concept =>
    simp only [string] at hands
    simp only [pointer, Native.conceptGetString, hands]
  | conceptTryGetLabel concept =>
    simp only [string] at hands
    simp only [pointer, Native.conceptTryGetLabel, hands, Native.releaseOptionalString]
  | conceptGetLabel | conceptToString | errorCode | errorMessage =>
    cases hands
    rfl
  | stringIteratorNext items =>
    cases items with
    | nil => cases hands
    | cons item rest =>
      cases item with
      | error err => cases hands
      | ok text =>
        cases hands
        rw [← fst_tryReleaseString]
        cases released : Native.tryReleaseString (.ok str) with
        | ok answer => simp [pointer, Native.stringIteratorNext, released]
        | error cause => cases cause
        | panicked => simp [pointer, Native.stringIteratorNext, released]
  | stringPromiseResolve result =>
    cases result with
    | error err => cases hands
    | ok text =>
      cases hands
      exact fst_tryReleaseString str

/-- A string gets through a call that hands it out, without a panic and with all its bytes,
exactly if it holds no zero character. -/
theorem strings_cross_iff (texts : DisplayText) (errors : ErrorText) (call : StringCall)
    {str : String} (hands : call.string texts errors = some str) :
    Crosses str (call.pointer texts errors) ↔ nul ∉ str.toList := by
  rw [pointer_eq_releaseString hands]
  exact releaseString_crosses_iff str

end StringCall

namespace DisplayText

def empty : DisplayText where
  chrono := ⟨fun _ => [], fun _ => [], fun _ => [], fun _ => []⟩
  double _ := []
  struct _ := []

end DisplayText

def ErrorText.empty : ErrorText :=
  ⟨fun _ => "", fun _ => "", fun _ => "", fun _ => ""⟩

namespace StringCall

theorem strings_cross_iff_label :
    Crosses "person" (pointer .empty .empty (.conceptGetLabel (.entityType ⟨"person"⟩))) := by
  refine (strings_cross_iff .empty .empty (.conceptGetLabel (.entityType ⟨"person"⟩)) rfl).mpr ?_
  decide

theorem conceptGetString_panics :
    pointer .empty .empty (.conceptGetString (.value (.string "a\x00b"))) = .panicked := by
  exact releaseString_of_mem (by decide)

end StringCall

end TypeDBDriver
