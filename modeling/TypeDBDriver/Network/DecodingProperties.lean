import TypeDBDriver.Network.MessageDecoding

/-! When decoding panics. Each message type has a predicate `Hazardous` (decoding
reaches an unwrap, an assertion or a negation that fails) and a predicate `Rejected`
(decoding returns an error first). Both read only the message and the answers of the
calendar library, and both follow the order in which the decoder looks at the fields. -/

namespace TypeDBDriver

open Library Outcome
open TransactionResponse (tryFromProto tryFromProtoPart)

namespace Proto

def Datetime.OutOfRange (chrono : Chrono) (proto : Datetime) : Prop :=
  chrono.fromTimestamp proto.seconds proto.nanos = none

/-- The negation of this offset overflows. -/
def Timezone.Hazardous (proto : Timezone) : Prop := proto = .offset Int32.minValue

def Timezone.Rejected (chrono : Chrono) : Timezone → Prop
  | .named name => chrono.tzFromStr name = none
  | .offset seconds =>
    if 0 ≤ seconds then chrono.eastOpt seconds = none
    else seconds ≠ Int32.minValue ∧ chrono.westOpt (-seconds) = none

def Value.Hazardous (chrono : Chrono) (proto : Value) : Prop :=
  match proto.value with
  | some (.decimal inner) => Decimal.fractionalPartDenominator ≤ inner.fractional.toNat
  | some (.date inner) => chrono.fromNumDaysFromCeOpt inner.numDaysSinceCe = none
  | some (.datetime inner) => inner.OutOfRange chrono
  | some (.datetimeTz ⟨some datetime, timezone⟩) =>
    datetime.OutOfRange chrono ∨ ∃ zone, timezone = some zone ∧ zone.Hazardous
  | _ => False

def Value.Rejected (chrono : Chrono) (proto : Value) : Prop :=
  match proto.value with
  | some (.datetimeTz ⟨none, _⟩) => True
  | some (.datetimeTz ⟨some datetime, timezone⟩) =>
    ¬ datetime.OutOfRange chrono ∧ ∀ zone, timezone = some zone → zone.Rejected chrono
  | some .struct => True
  | none => True
  | _ => False

def AttributeType.Hazardous (proto : AttributeType) : Prop := proto.valueType = some ⟨none⟩

def Attribute.Hazardous (chrono : Chrono) (proto : Attribute) : Prop :=
  (∃ type, proto.attributeType = some type ∧ type.Hazardous) ∨
    ∃ value, proto.value = some value ∧ value.Hazardous chrono

def Attribute.Rejected (chrono : Chrono) (proto : Attribute) : Prop :=
  (∀ type, proto.attributeType = some type → ¬ type.Hazardous) ∧
    ∀ value, proto.value = some value → value.Rejected chrono

def Concept.Hazardous (chrono : Chrono) (proto : Concept) : Prop :=
  match proto.concept with
  | some (.attributeType inner) => inner.Hazardous
  | some (.attribute inner) => inner.Hazardous chrono
  | _ => False

def Concept.Rejected (chrono : Chrono) (proto : Concept) : Prop :=
  match proto.concept with
  | some (.attribute inner) => inner.Rejected chrono
  | none => True
  | _ => False

def RowEntry.Hazardous (chrono : Chrono) (proto : RowEntry) : Prop :=
  match proto.entry with
  | some (.concept inner) => inner.Hazardous chrono
  | some (.value inner) => inner.Hazardous chrono
  | _ => False

def RowEntry.Rejected (chrono : Chrono) (proto : RowEntry) : Prop :=
  match proto.entry with
  | none | some .conceptList | some .valueList => True
  | some .empty => False
  | some (.concept inner) => inner.Rejected chrono
  | some (.value inner) => inner.Rejected chrono

/-- A hazardous entry stands before every rejected one. -/
def ConceptRow.Hazardous (chrono : Chrono) (proto : ConceptRow) : Prop :=
  Reaches (RowEntry.Rejected chrono) (RowEntry.Hazardous chrono) proto.row

def ConceptRow.Rejected (chrono : Chrono) (proto : ConceptRow) : Prop :=
  Reaches (RowEntry.Hazardous chrono) (RowEntry.Rejected chrono) proto.row

def Leaf.Hazardous (chrono : Chrono) (proto : Leaf) : Prop :=
  match proto.leaf with
  | some (.attributeType inner) => inner.Hazardous
  | some (.attribute inner) => inner.Hazardous chrono
  | some (.value inner) => inner.Hazardous chrono
  | _ => False

def Leaf.Rejected (chrono : Chrono) (proto : Leaf) : Prop :=
  match proto.leaf with
  | some (.valueType inner) => inner.valueType = none
  | some (.attribute inner) => inner.Rejected chrono
  | some (.value inner) => inner.Rejected chrono
  | some (.kind kind) => kind ≠ 0 ∧ kind ≠ 1 ∧ kind ≠ 2 ∧ kind ≠ 3
  | _ => False

mutual

def Node.Hazardous (chrono : Chrono) : Node → Prop
  | .absent => False
  | .map entries => Node.HazardousMap chrono entries
  | .list nodes => Node.HazardousList chrono nodes
  | .leaf inner => inner.Hazardous chrono

def Node.Rejected (chrono : Chrono) : Node → Prop
  | .absent => True
  | .map entries => Node.RejectedMap chrono entries
  | .list nodes => Node.RejectedList chrono nodes
  | .leaf inner => inner.Rejected chrono

def Node.HazardousMap (chrono : Chrono) : List (String × Node) → Prop
  | [] => False
  | (_, node) :: rest =>
    node.Hazardous chrono ∨ (¬ node.Rejected chrono ∧ Node.HazardousMap chrono rest)

def Node.RejectedMap (chrono : Chrono) : List (String × Node) → Prop
  | [] => False
  | (_, node) :: rest =>
    node.Rejected chrono ∨ (¬ node.Hazardous chrono ∧ Node.RejectedMap chrono rest)

def Node.HazardousList (chrono : Chrono) : List Node → Prop
  | [] => False
  | node :: rest =>
    node.Hazardous chrono ∨ (¬ node.Rejected chrono ∧ Node.HazardousList chrono rest)

def Node.RejectedList (chrono : Chrono) : List Node → Prop
  | [] => False
  | node :: rest =>
    node.Rejected chrono ∨ (¬ node.Hazardous chrono ∧ Node.RejectedList chrono rest)

end

def ConceptDocument.Hazardous (chrono : Chrono) (proto : ConceptDocument) : Prop :=
  ∃ node, proto.root = some node ∧ node.Hazardous chrono

def ConceptDocument.Rejected (chrono : Chrono) (proto : ConceptDocument) : Prop :=
  ∃ node, proto.root = some node ∧ node.Rejected chrono

def Query.ResPart.Hazardous (chrono : Chrono) (proto : Query.ResPart) : Prop :=
  match proto.res with
  | some (.documentsRes documents) =>
    Reaches (ConceptDocument.Rejected chrono) (ConceptDocument.Hazardous chrono) documents
  | some (.rowsRes rows) =>
    Reaches (ConceptRow.Rejected chrono) (ConceptRow.Hazardous chrono) rows
  | none => False

def Query.ResPart.Rejected (chrono : Chrono) (proto : Query.ResPart) : Prop :=
  match proto.res with
  | some (.documentsRes documents) =>
    Reaches (ConceptDocument.Hazardous chrono) (ConceptDocument.Rejected chrono) documents
  | some (.rowsRes rows) =>
    Reaches (ConceptRow.Hazardous chrono) (ConceptRow.Rejected chrono) rows
  | none => True

def DatabaseReplicas.Rejected (http : Http) (proto : DatabaseReplicas) : Prop :=
  ∃ replica ∈ proto.replicas, IsError (Address.fromStr http replica.address)

/-- Both messages are present and the id is a UUID, or a bad address is met first. -/
def ConnectionOpenRes.Complete (http : Http) (proto : ConnectionOpenRes) : Prop :=
  ∃ databases, proto.databasesAll = some databases ∧
    ((∃ database ∈ databases, database.Rejected http) ∨
      ∃ id, proto.connectionId = some id ∧ id.length = 16)

end Proto

theorem TimeZone.tryFromProto_classified (chrono : Chrono) (proto : Proto.Timezone) :
    Classified (TimeZone.tryFromProto chrono proto) proto.Hazardous (proto.Rejected chrono) := by
  cases proto with
  | named name =>
    exact ((Classified.okOr _ (chrono.tzFromStr name)).andOk TimeZone.iana).congr
      (by simp [Proto.Timezone.Hazardous]) Iff.rfl
  | offset seconds =>
    unfold TimeZone.tryFromProto Proto.Timezone.Hazardous Proto.Timezone.Rejected
    by_cases pos : 0 ≤ seconds
    · have notMin : seconds ≠ Int32.minValue := by
        intro same
        subst same
        exact absurd pos (by decide)
      simpa [pos, notMin] using
        (Classified.okOr _ (chrono.eastOpt seconds)).andOk TimeZone.fixed
    · by_cases minimal : seconds = Int32.minValue
      · subst minimal
        simpa [pos, negateI32] using (Classified.panicked : Classified .panicked _ _)
      · simpa [pos, minimal, negateI32] using
          (Classified.okOr _ (chrono.westOpt (-seconds))).andOk TimeZone.fixed

theorem naiveDatetimeFromTimestamp_classified (chrono : Chrono) (proto : Proto.Datetime) :
    Classified (naiveDatetimeFromTimestamp chrono proto.seconds proto.nanos)
      (proto.OutOfRange chrono) False :=
  Classified.unwrap _

theorem Decimal.new_classified (integer : Int64) (fractional : UInt64) :
    Classified (Decimal.new integer fractional : Decoded Decimal)
      (Decimal.fractionalPartDenominator ≤ fractional.toNat) False := by
  unfold Decimal.new
  split
  next valid => exact (Classified.ok _).congr (by simpa using valid) Iff.rfl
  next invalid => exact Classified.panicked.congr (by simpa using invalid) Iff.rfl

theorem Value.tryFromProto_classified (chrono : Chrono) (proto : Proto.Value) :
    Classified (Value.tryFromProto chrono proto) (proto.Hazardous chrono)
      (proto.Rejected chrono) := by
  rcases proto with ⟨_ | inner⟩
  · exact Classified.error _
  cases inner with
  | boolean | integer | double | string | duration => exact Classified.ok _
  | struct => exact Classified.error _
  | decimal inner => exact (Decimal.new_classified _ _).andOk Value.decimal
  | date inner => exact (Classified.unwrap _).andOk Value.date
  | datetime inner =>
    exact (naiveDatetimeFromTimestamp_classified chrono inner).andOk Value.datetime
  | datetimeTz inner =>
    rcases inner with ⟨_ | datetime, timezone⟩
    · exact Classified.error _
    · have zoned : ∀ utc, Classified
          (okOr (missingResponseField "Value.datetime_tz.timezone") timezone >>=
            fun zone => TimeZone.tryFromProto chrono zone >>=
              fun timeZone => .ok (Value.datetimeTZ ⟨utc, timeZone⟩))
          (∃ zone, timezone = some zone ∧ zone.Hazardous)
          (∀ zone, timezone = some zone → zone.Rejected chrono) := by
        intro utc
        cases timezone with
        | none => simpa [okOr] using (Classified.error _ : Classified (.error _) _ _)
        | some zone =>
          simpa [okOr] using
            (TimeZone.tryFromProto_classified chrono zone).andOk
              (fun timeZone => Value.datetimeTZ ⟨utc, timeZone⟩)
      exact ((naiveDatetimeFromTimestamp_classified chrono datetime).andThen
        fun utc _ => zoned utc).congr (by simp [Proto.Value.Hazardous])
          (by simp [Proto.Value.Rejected])

theorem AttributeType.fromProto_classified (proto : Proto.AttributeType) :
    Classified (AttributeType.fromProto proto) proto.Hazardous False := by
  rcases proto with ⟨label, _ | valueType⟩
  · exact (Classified.ok _).congr (by simp [Proto.AttributeType.Hazardous]) Iff.rfl
  · rcases valueType with ⟨inner⟩
    exact ((Classified.unwrap inner).andOk _).congr (by simp [Proto.AttributeType.Hazardous])
      Iff.rfl

theorem Attribute.tryFromProto_classified (chrono : Chrono) (proto : Proto.Attribute) :
    Classified (Attribute.tryFromProto chrono proto) (proto.Hazardous chrono)
      (proto.Rejected chrono) := by
  rcases proto with ⟨iid, attributeType, value⟩
  have typed : Classified (AttributeType.fromOptionalProto attributeType)
      (∃ type, attributeType = some type ∧ type.Hazardous) False := by
    cases attributeType with
    | none => exact (Classified.ok _).congr (by simp) Iff.rfl
    | some type =>
      exact ((AttributeType.fromProto_classified type).andOk some).congr (by simp) Iff.rfl
  have valued : ∀ type, Classified
      (okOr (missingResponseField "value") value >>= fun valueProto =>
        Value.tryFromProto chrono valueProto >>= fun decoded =>
          .ok (⟨⟨iid⟩, type, decoded⟩ : Attribute))
      (∃ valueProto, value = some valueProto ∧ valueProto.Hazardous chrono)
      (∀ valueProto, value = some valueProto → valueProto.Rejected chrono) := by
    intro type
    cases value with
    | none => simpa [okOr] using (Classified.error _ : Classified (.error _) _ _)
    | some valueProto =>
      simpa [okOr] using (Value.tryFromProto_classified chrono valueProto).andOk
        (fun decoded => (⟨⟨iid⟩, type, decoded⟩ : Attribute))
  refine Classified.congr (typed.andThen fun type _ => valued type) ?_ ?_
  · simp [Proto.Attribute.Hazardous]
  · simp [Proto.Attribute.Rejected]

theorem Concept.tryFromProto_classified (chrono : Chrono) (proto : Proto.Concept) :
    Classified (Concept.tryFromProto chrono proto) (proto.Hazardous chrono)
      (proto.Rejected chrono) := by
  rcases proto with ⟨_ | inner⟩
  · exact Classified.error _
  cases inner with
  | entityType | relationType | roleType | entity | relation => exact Classified.ok _
  | attributeType inner =>
    exact (AttributeType.fromProto_classified inner).andOk Concept.attributeType
  | «attribute» inner =>
    exact (Attribute.tryFromProto_classified chrono inner).andOk Concept.attribute

theorem RowEntry.tryFromProto_classified (chrono : Chrono) (proto : Proto.RowEntry) :
    Classified (RowEntry.tryFromProto chrono proto) (proto.Hazardous chrono)
      (proto.Rejected chrono) := by
  rcases proto with ⟨_ | entry⟩
  · exact Classified.error _
  cases entry with
  | empty => exact Classified.ok _
  | conceptList | valueList => exact Classified.error _
  | concept inner => exact (Concept.tryFromProto_classified chrono inner).andOk some
  | value inner =>
    exact (Value.tryFromProto_classified chrono inner).andOk
      (fun value => some (Concept.value value))

theorem ConceptRow.tryFromProto_classified (chrono : Chrono) (proto : Proto.ConceptRow) :
    Classified (ConceptRow.tryFromProto chrono proto) (proto.Hazardous chrono)
      (proto.Rejected chrono) :=
  Classified.traverse (RowEntry.tryFromProto_classified chrono) proto.row

theorem Kind.tryFromProto_classified (kind : Int32) :
    Classified (Kind.tryFromProto kind) False
      (kind ≠ 0 ∧ kind ≠ 1 ∧ kind ≠ 2 ∧ kind ≠ 3) := by
  unfold Kind.tryFromProto
  split_ifs with isEntity isRelation isAttribute isRole
  · exact (Classified.ok _).congr Iff.rfl (by simp [isEntity])
  · exact (Classified.ok _).congr Iff.rfl (by simp [isRelation])
  · exact (Classified.ok _).congr Iff.rfl (by simp [isAttribute])
  · exact (Classified.ok _).congr Iff.rfl (by simp [isRole])
  · exact (Classified.error _).congr Iff.rfl (by simp [isEntity, isRelation, isAttribute, isRole])

theorem Leaf.tryFromProto_classified (chrono : Chrono) (proto : Proto.Leaf) :
    Classified (Leaf.tryFromProto chrono proto) (proto.Hazardous chrono)
      (proto.Rejected chrono) := by
  rcases proto with ⟨_ | inner⟩
  · exact Classified.ok _
  cases inner with
  | empty | entityType | relationType | roleType => exact Classified.ok _
  | attributeType inner => exact (AttributeType.fromProto_classified inner).andOk _
  | valueType inner => exact ((Classified.okOr _ inner.valueType).andOk ValueType.fromProto).andOk _
  | «attribute» inner => exact (Attribute.tryFromProto_classified chrono inner).andOk _
  | value inner => exact (Value.tryFromProto_classified chrono inner).andOk _
  | kind inner => exact (Kind.tryFromProto_classified inner).andOk _

mutual

/-- By structural recursion over the document, with one statement for each of the
three shapes the decoder recurses on. -/
theorem Node.tryFromProto_classified (chrono : Chrono) (node : Proto.Node) :
    Classified (Node.tryFromProto chrono node) (node.Hazardous chrono) (node.Rejected chrono) := by
  cases node with
  | absent =>
    simp only [Node.tryFromProto, Proto.Node.Hazardous, Proto.Node.Rejected]
    exact Classified.error _
  | map entries =>
    simp only [Node.tryFromProto, Proto.Node.Hazardous, Proto.Node.Rejected]
    exact (Node.tryFromProtoMap_classified chrono entries).andOk Node.map
  | list nodes =>
    simp only [Node.tryFromProto, Proto.Node.Hazardous, Proto.Node.Rejected]
    exact (Node.tryFromProtoList_classified chrono nodes).andOk Node.list
  | leaf inner =>
    simp only [Node.tryFromProto, Proto.Node.Hazardous, Proto.Node.Rejected]
    exact (Leaf.tryFromProto_classified chrono inner).andOk Node.leaf

theorem Node.tryFromProtoMap_classified (chrono : Chrono) (entries : List (String × Proto.Node)) :
    Classified (Node.tryFromProtoMap chrono entries) (Proto.Node.HazardousMap chrono entries)
      (Proto.Node.RejectedMap chrono entries) := by
  cases entries with
  | nil =>
    simp only [Node.tryFromProtoMap, Proto.Node.HazardousMap, Proto.Node.RejectedMap]
    exact Classified.ok _
  | cons entry rest =>
    rcases entry with ⟨var, node⟩
    simp only [Node.tryFromProtoMap, Proto.Node.HazardousMap, Proto.Node.RejectedMap]
    exact (Node.tryFromProto_classified chrono node).andThen fun decoded _ =>
      (Node.tryFromProtoMap_classified chrono rest).andOk ((var, decoded) :: ·)

theorem Node.tryFromProtoList_classified (chrono : Chrono) (nodes : List Proto.Node) :
    Classified (Node.tryFromProtoList chrono nodes) (Proto.Node.HazardousList chrono nodes)
      (Proto.Node.RejectedList chrono nodes) := by
  cases nodes with
  | nil =>
    simp only [Node.tryFromProtoList, Proto.Node.HazardousList, Proto.Node.RejectedList]
    exact Classified.ok _
  | cons node rest =>
    simp only [Node.tryFromProtoList, Proto.Node.HazardousList, Proto.Node.RejectedList]
    exact (Node.tryFromProto_classified chrono node).andThen fun decoded _ =>
      (Node.tryFromProtoList_classified chrono rest).andOk (decoded :: ·)

end

theorem ConceptDocument.tryFromProto_classified (chrono : Chrono) (proto : Proto.ConceptDocument) :
    Classified (ConceptDocument.tryFromProto chrono proto) (proto.Hazardous chrono)
      (proto.Rejected chrono) := by
  rcases proto with ⟨_ | node⟩
  · exact (Classified.ok _).congr (by simp [Proto.ConceptDocument.Hazardous])
      (by simp [Proto.ConceptDocument.Rejected])
  · exact ((Node.tryFromProto_classified chrono node).andOk some).congr
      (by simp [Proto.ConceptDocument.Hazardous]) (by simp [Proto.ConceptDocument.Rejected])

theorem TransactionResponse.tryFromProtoPart_classified (chrono : Chrono)
    (proto : Proto.Query.ResPart) :
    Classified (tryFromProtoPart chrono proto) (proto.Hazardous chrono)
      (proto.Rejected chrono) := by
  rcases proto with ⟨_ | res⟩
  · exact Classified.error _
  cases res with
  | documentsRes documents =>
    exact ((Classified.traverse (ConceptDocument.tryFromProto_classified chrono) documents).andOk
      QueryResponse.streamConceptDocuments).andOk TransactionResponse.query
  | rowsRes rows =>
    exact ((Classified.traverse (ConceptRow.tryFromProto_classified chrono) rows).andOk
      QueryResponse.streamConceptRows).andOk TransactionResponse.query

theorem QueryType.tryFromProto_ne_panicked (queryType : Int32) :
    QueryType.tryFromProto queryType ≠ .panicked := by
  unfold QueryType.tryFromProto
  split_ifs <;> simp

theorem QueryResponse.tryFromProtoOk_ne_panicked (proto : Proto.Query.OkInner) :
    QueryResponse.tryFromProtoOk proto ≠ .panicked := by
  rcases proto with queryType | queryType | ⟨columnNames, queryType⟩
  all_goals
    have total := QueryType.tryFromProto_ne_panicked queryType
    unfold QueryResponse.tryFromProtoOk
    cases decoded : QueryType.tryFromProto queryType with
    | ok value => simp [decoded]
    | error cause => simp [decoded]
    | panicked => exact absurd decoded total

theorem TransactionResponse.tryFromProto_ne_panicked (proto : Proto.Transaction.Res) :
    tryFromProto proto ≠ .panicked := by
  rcases proto with ⟨reqId, _ | res⟩
  · simp [tryFromProto]
  cases res with
  | openRes | commitRes | rollbackRes => simp [tryFromProto]
  | queryInitialRes initialRes =>
    rcases initialRes with ⟨_ | (error | (_ | header))⟩
    · simp [tryFromProto]
    · simp [tryFromProto]
    · simp [tryFromProto]
    · have total := QueryResponse.tryFromProtoOk_ne_panicked header
      cases decoded : QueryResponse.tryFromProtoOk header with
      | ok value => simp [tryFromProto, decoded]
      | error cause => simp [tryFromProto, decoded]
      | panicked => exact absurd decoded total

theorem ReplicaInfo.tryFromProto_classified (http : Http) (proto : Proto.Replica) :
    Classified (ReplicaInfo.tryFromProto http proto) False
      (IsError (Address.fromStr http proto.address)) := by
  have address : Classified (Address.fromStr http proto.address) False
      (IsError (Address.fromStr http proto.address)) :=
    ⟨by simpa using Address.fromStr_ne_panicked http proto.address, Iff.rfl⟩
  exact address.andOk _

theorem DatabaseInfo.tryFromProto_classified (http : Http) (proto : Proto.DatabaseReplicas) :
    Classified (DatabaseInfo.tryFromProto http proto) False (proto.Rejected http) :=
  ((Classified.traverse (ReplicaInfo.tryFromProto_classified http) proto.replicas).andOk _).congr
    (by simpa using not_reaches_of_never) reaches_false_iff

theorem Uuid.fromSlice_eq_none_iff {bytes : Bytes} :
    Uuid.fromSlice bytes = none ↔ bytes.length ≠ 16 := by
  unfold Uuid.fromSlice
  split <;> simp_all

theorem ConnectionOpen.tryFromProto_ne_panicked_iff (http : Http)
    (proto : Proto.ConnectionOpenRes) :
    ConnectionOpen.tryFromProto http proto ≠ .panicked ↔ proto.Complete http := by
  rcases proto with ⟨_ | databases, connectionId, millis⟩
  · simp [ConnectionOpen.tryFromProto, Proto.ConnectionOpenRes.Complete, unwrap]
  have converted : Classified (Outcome.traverse (DatabaseInfo.tryFromProto http) databases) False
      (∃ database ∈ databases, database.Rejected http) :=
    (Classified.traverse (DatabaseInfo.tryFromProto_classified http) databases).congr
      (by simpa using not_reaches_of_never) reaches_false_iff
  have identified : ∀ infos, Classified
      (unwrap connectionId >>= fun id =>
        unwrap (Uuid.fromSlice id) >>= fun uuid =>
          .ok (⟨uuid, millis, infos⟩ : ConnectionOpen) : Decoded ConnectionOpen)
      (¬ ∃ id, connectionId = some id ∧ id.length = 16) False := by
    intro infos
    cases connectionId with
    | none => exact Classified.panicked.congr (by simp) Iff.rfl
    | some id =>
      exact ((Classified.unwrap (Uuid.fromSlice id)).andOk _).congr
        (by simp [Uuid.fromSlice_eq_none_iff]) Iff.rfl
  have whole := (converted.andThen fun infos _ => identified infos).panics
  have unfolded : ConnectionOpen.tryFromProto http ⟨some databases, connectionId, millis⟩ =
      (Outcome.traverse (DatabaseInfo.tryFromProto http) databases >>= fun infos =>
        unwrap connectionId >>= fun id =>
          unwrap (Uuid.fromSlice id) >>= fun uuid => .ok ⟨uuid, millis, infos⟩) := rfl
  rw [unfolded, ne_eq, whole]
  simp only [Proto.ConnectionOpenRes.Complete, Option.some.injEq, exists_eq_left', false_or,
    not_and, not_not]
  exact (or_iff_not_imp_left).symm

/-- Decoding never panics exactly on the messages that reach no hazardous field before a
rejected one. Initial responses are safe whatever they hold; the answer of an opened
connection has to carry its list of databases and a 16-byte id. -/
theorem decoding_ne_panicked_iff (chrono : Chrono) (http : Http) :
    (∀ row : Proto.ConceptRow,
      ConceptRow.tryFromProto chrono row ≠ .panicked ↔ ¬ row.Hazardous chrono) ∧
    (∀ document : Proto.ConceptDocument,
      ConceptDocument.tryFromProto chrono document ≠ .panicked ↔ ¬ document.Hazardous chrono) ∧
    (∀ part : Proto.Query.ResPart,
      tryFromProtoPart chrono part ≠ .panicked ↔ ¬ part.Hazardous chrono) ∧
    (∀ res : Proto.Transaction.Res, tryFromProto res ≠ .panicked) ∧
    (∀ res : Proto.ConnectionOpenRes,
      ConnectionOpen.tryFromProto http res ≠ .panicked ↔ res.Complete http) :=
  ⟨fun row => not_congr (ConceptRow.tryFromProto_classified chrono row).panics,
    fun document => not_congr (ConceptDocument.tryFromProto_classified chrono document).panics,
    fun part => not_congr (TransactionResponse.tryFromProtoPart_classified chrono part).panics,
    TransactionResponse.tryFromProto_ne_panicked, ConnectionOpen.tryFromProto_ne_panicked_iff http⟩

/-- The calendar library on its documented ranges: years -262143 to 262142, offsets of
less than a day, at most one leap second in the last second of a minute. Of the zone
names it knows only UTC. -/
def Chrono.documented : Chrono where
  fromNumDaysFromCeOpt days :=
    if -95746129 ≤ days.toInt ∧ days.toInt ≤ 95745399 then some ⟨days.toInt⟩ else none
  fromTimestamp seconds nanos :=
    if -8334601228800 ≤ seconds.toInt ∧ seconds.toInt ≤ 8210266876799 ∧
        (nanos.toNat < 1000000000 ∨ (nanos.toNat < 2000000000 ∧ seconds.toInt % 60 = 59)) then
      some ⟨seconds.toInt, nanos.toNat⟩
    else none
  eastOpt seconds :=
    if -86400 < seconds.toInt ∧ seconds.toInt < 86400 then some ⟨seconds.toInt⟩ else none
  westOpt seconds :=
    if -86400 < seconds.toInt ∧ seconds.toInt < 86400 then some ⟨-seconds.toInt⟩ else none
  tzFromStr name := if name = "UTC" then some ⟨name⟩ else none

/-- One decimal value with a fractional part of exactly one makes a row panic. -/
theorem decoding_panics_on_decimal :
    ¬ ∀ row : Proto.ConceptRow, ConceptRow.tryFromProto Chrono.documented row ≠ .panicked := by
  intro total
  refine total ⟨[⟨some (.value ⟨some (.decimal ⟨0, 10000000000000000000⟩)⟩)⟩]⟩ ?_
  rfl

end TypeDBDriver
