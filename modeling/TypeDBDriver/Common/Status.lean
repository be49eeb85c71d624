import TypeDBDriver.Common.Error

/-! How a gRPC status becomes an error of the driver. Reading the details of a status is
left to `tonic_types`, as is the text of a bad request in the `Debug` format. -/

namespace TypeDBDriver

inductive Code where
  | ok
  | cancelled
  | unknown
  | invalidArgument
  | deadlineExceeded
  | notFound
  | alreadyExists
  | permissionDenied
  | resourceExhausted
  | failedPrecondition
  | aborted
  | outOfRange
  | unimplemented
  | internal
  | unavailable
  | dataLoss
  | unauthenticated
  deriving DecidableEq, Repr

/-- The parts of a `tonic::Status` that the conversion reads. -/
structure Status where
  code : Code
  message : String
  details : Bytes
  deriving DecidableEq, Repr

/-- A status that says a server could not be reached, and nothing more precise. -/
structure Status.SaysUnreachable (status : Status) : Prop where
  code : status.code = .unavailable
  details : status.details = []
  pipe : status.message ≠ "broken pipe"
  corrupt : containsText status.message "received corrupt message" = false
  issuer : containsText status.message "UnknownIssuer" = false

structure FieldViolation where
  field : String
  description : String
  deriving DecidableEq, Repr

structure BadRequest where
  fieldViolations : List FieldViolation
  deriving DecidableEq, Repr

structure ErrorInfo where
  reason : String
  domain : String
  deriving DecidableEq, Repr

structure DebugInfo where
  stackEntries : List String
  deriving DecidableEq, Repr

structure ErrorDetails where
  badRequest : Option BadRequest := none
  errorInfo : Option ErrorInfo := none
  debugInfo : Option DebugInfo := none
  deriving DecidableEq, Repr

structure DecodeError where
  description : String
  deriving DecidableEq, Repr

structure TonicTypes where
  checkErrorDetails : Status → Except DecodeError ErrorDetails
  debug : BadRequest → String

/-- A status without any bytes of details is read as one whose details are empty. -/
def TonicTypes.ReadsNoDetails (tonicTypes : TonicTypes) : Prop :=
  ∀ status : Status, status.details = [] → tonicTypes.checkErrorDetails status = .ok {}

def isAsciiWhitespace (char : Char) : Bool :=
  char == ' ' || char == '\t' || char == '\n' || char == '\x0c' || char == '\r'

def splitAsciiWhitespace (text : String) : List String :=
  ((text.toList.splitOnP isAsciiWhitespace).filter (!·.isEmpty)).map String.ofList

namespace Error

/-- What stands between the first two quotation marks. -/
def quotedName (message : String) : String :=
  match (message.toList.splitOn '\'')[1]? with
  | some name => String.ofList name
  | none => "{unknown}"

def fromMessage (message : String) : Error :=
  match (splitAsciiWhitespace message).head? with
  | some "[RPL01]" => .connection .cloudReplicaNotPrimary
  | some "[CLS08]" => .connection .cloudTokenCredentialInvalid
  | some "[ENT08]" => .connection .cloudTokenCredentialInvalid
  | some "[DBS06]" => .connection (.databaseNotFound (quotedName message))
  | _ => .other message

def parseUnavailable (statusMessage : String) : Error :=
  if statusMessage = "broken pipe" then .connection .brokenPipe
  else if containsText statusMessage "received corrupt message" then
    .connection .cloudEncryptionSettingsMismatch
  else if containsText statusMessage "UnknownIssuer" then
    .connection .cloudSSLCertificateNotValidated
  else if containsText statusMessage "Connection refused" then .connection .connectionFailed
  else .connection (.serverConnectionFailedStatusError statusMessage)

def isRstStream (status : Status) : Bool := containsText status.message "Received Rst Stream"

def fromStatus (tonicTypes : TonicTypes) (status : Status) : Error :=
  match tonicTypes.checkErrorDetails status with
  | .ok details =>
    match details.badRequest, details.errorInfo with
    | some badRequest, _ =>
      .connection (.serverConnectionFailedWithError (tonicTypes.debug badRequest))
    | none, some errorInfo =>
      let stackTrace :=
        match details.debugInfo with
        | some debugInfo => debugInfo.stackEntries
        | none => []
      .server ⟨errorInfo.reason, errorInfo.domain, status.message, stackTrace⟩
    | none, none => fromMessage status.message
  | .error _ =>
    if status.code = .unavailable then parseUnavailable status.message
    else if status.code = .unknown || isRstStream status || status.code = .invalidArgument ||
        status.code = .failedPrecondition || status.code = .alreadyExists then
      .connection (.serverConnectionFailedStatusError status.message)
    else if status.code = .unimplemented then
      .connection (.rpcMethodUnavailable status.message)
    else fromMessage status.message

def isUnreachable : Error → Bool
  | .connection (.serverConnectionFailedStatusError _) => true
  | .connection .connectionFailed => true
  | _ => false

theorem fromMessage_not_unreachable (message : String) :
    isUnreachable (fromMessage message) = false := by
  unfold fromMessage
  split <;> rfl

theorem fromStatus_of_no_details {tonicTypes : TonicTypes} {status : Status}
    (reads : tonicTypes.ReadsNoDetails) (details : status.details = []) :
    fromStatus tonicTypes status = fromMessage status.message := by
  unfold fromStatus
  rw [reads status details]

theorem fromMessage_databaseNotFound_iff (message : String) :
    (∃ name, fromMessage message = .connection (.databaseNotFound name)) ↔
      (splitAsciiWhitespace message).head? = some "[DBS06]" := by
  unfold fromMessage
  split <;> simp_all

end Error

end TypeDBDriver
