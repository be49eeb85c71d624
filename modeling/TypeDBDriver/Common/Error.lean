import TypeDBDriver.Library.Outcome

/-! Identifiers, addresses and errors shared by the whole driver. The errors keep
the fields of the source's variants; their message texts are not modelled. -/

namespace TypeDBDriver

open Library

abbrev Bytes := List UInt8

/-- The identifier type behind `IID` and `RequestID`. -/
structure ID where
  bytes : Bytes
  deriving DecidableEq, Repr

abbrev IID := ID
abbrev RequestID := ID

/-- The parts of an `http::Uri` that the driver reads. -/
structure Uri where
  authority : String
  port : Option UInt16
  deriving DecidableEq, Repr

structure Address where
  uri : Uri
  deriving DecidableEq, Repr

inductive ConnectionError where
  | rpcMethodUnavailable (message : String)
  | serverConnectionFailed (addresses : List Address)
  | serverConnectionFailedWithError (error : String)
  | serverConnectionFailedStatusError (error : String)
  | serverConnectionIsClosed
  | transactionIsClosed
  | transactionIsClosedWithErrors (errors : String)
  | databaseNotFound (name : String)
  | missingResponseField (field : String)
  | unknownRequestId (requestId : RequestID)
  | unexpectedResponse (response : String)
  | invalidResponseField (name : String)
  | queryStreamNoResponse
  | unexpectedQueryType (queryType : Int32)
  | userManagementCloudOnly
  | cloudReplicaNotPrimary
  | cloudAllNodesFailed (errors : String)
  | cloudTokenCredentialInvalid
  | cloudEncryptionSettingsMismatch
  | cloudSSLCertificateNotValidated
  | brokenPipe
  | connectionFailed
  | missingPort (address : String)
  | addressTranslationMismatch (unknown unmapped : List Address)
  | valueTimeZoneNameNotRecognised (timeZone : String)
  | valueTimeZoneOffsetNotRecognised (offset : Int32)
  | valueStructNotImplemented
  | listsNotImplemented
  | unexpectedKind (kind : Int32)
  | unexpectedConnectionClose
  deriving DecidableEq, Repr

inductive InternalError where
  | recvError
  | sendError
  | unexpectedRequestType (requestType : String)
  | unexpectedResponseType (responseType : String)
  | unknownServer (server : Address)
  | enumOutOfBounds (value : Int32) (enumName : String)
  deriving DecidableEq, Repr

structure ServerError where
  errorCode : String
  errorDomain : String
  message : String
  stackTrace : List String
  deriving DecidableEq, Repr

inductive Error where
  | connection (error : ConnectionError)
  | internal (error : InternalError)
  | server (error : ServerError)
  | other (message : String)
  deriving DecidableEq, Repr

abbrev Result (α : Type) := Except Error α

abbrev Decoded (α : Type) := Outcome Error α

/-- `http::Uri` parsing, which the driver takes from its dependency. The error is
the text that `InvalidUri` displays. -/
structure Http where
  parseUri : String → Except String Uri

def containsText (text pattern : String) : Bool :=
  text.toList.tails.any fun tail => pattern.toList.isPrefixOf tail

def Address.fromStr (http : Http) (address : String) : Decoded Address :=
  let text := if containsText address "://" then address else "http://" ++ address
  match http.parseUri text with
  | .error message => .error (.other message)
  | .ok uri =>
    if uri.port.isNone then .error (.connection (.missingPort address)) else .ok ⟨uri⟩

theorem Address.fromStr_ne_panicked (http : Http) (address : String) :
    Address.fromStr http address ≠ .panicked := by
  unfold Address.fromStr
  dsimp only
  split
  · simp
  · split <;> simp

structure ReplicaInfo where
  server : Address
  isPrimary : Bool
  isPreferred : Bool
  term : Int64
  deriving DecidableEq, Repr

structure DatabaseInfo where
  name : String
  replicas : List ReplicaInfo
  deriving DecidableEq, Repr

end TypeDBDriver
