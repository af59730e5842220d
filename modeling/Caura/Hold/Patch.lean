import Caura.Contradiction.Undo

/-!
# The generic patch of a memory

`memory_update` writes any updatable column of a live memory of the tenant, merges
metadata keys, and carries a change to the rows derived from it.  It is one
transaction: a refused patch leaves the table as it was.  The patch names the
`status` and `deleted_at` columns like any other, and no condition of its
statements reads the status of the row.

Rows carry no entities and no whole metadata document, so whether an entity is of
the tenant and whether the merged metadata stays within its bound are parameters.
-/

namespace Caura.Hold

open Caura.Value Caura.Memory Caura.Contradiction

/-! ## Patches -/

/-- The metadata keys that rows carry. -/
structure Metadata where
  sourceTrust : Option Int := none
  sessionId : Option String := none
  parentMemoryId : Option String := none
  batonId : Option String := none
  deriving DecidableEq, Repr

/-- The keys of a `metadata_patch`; a key given without a value is set to null. -/
structure MetadataPatch where
  sourceTrust : Option (Option Int) := none
  sessionId : Option (Option String) := none
  parentMemoryId : Option (Option String) := none
  batonId : Option (Option String) := none
  deriving DecidableEq, Repr

/-- The `derived` key of a patch, its mirrored expiry aside. -/
structure DerivedChange where
  softDeleteChildren : Bool := false
  visibility : Option Visibility := none
  wider : List Visibility := []
  deriving DecidableEq, Repr

/-- The columns of a patch that rows carry, each as given or not.  A nullable
column may be given as null. -/
structure Patch where
  agentId : Option String := none
  memoryType : Option String := none
  content : Option String := none
  status : Option Status := none
  visibility : Option Visibility := none
  createdAt : Option (Option Timestamp) := none
  deletedAt : Option (Option Timestamp) := none
  subjectEntityId : Option (Option Uuid) := none
  predicate : Option (Option String) := none
  objectValue : Option (Option String) := none
  supersedesId : Option (Option Uuid) := none
  tsValidStart : Option (Option Timestamp) := none
  verification : Option Verification := none
  verifiedBy : Option (Option String) := none
  verifiedAt : Option (Option Timestamp) := none
  /-- `source_uri` or `tool_call_id` is given, and whether the row then has
  evidence. -/
  evidence : Option Bool := none
  isInferred : Option Bool := none
  /-- `embedding` is given, and whether it is a vector. -/
  embedding : Option Bool := none
  metadata : Option Metadata := none
  metadataPatch : Option MetadataPatch := none
  derived : Option DerivedChange := none
  deriving DecidableEq, Repr

/-- `_verification_writes`: the verification state and verifier that a patch
leaves, as the row and the other columns of the patch imply them. -/
def verificationWrites (patch : Patch) (row : Row) : Verification × Option String :=
  let verifier := patch.verifiedBy.getD row.verifiedBy
  match patch.verification with
  | some verification => (verification, verifier)
  | none =>
    if patch.verifiedBy = some none then
      (if row.verification = .disputed then .disputed
        else row.automaticVerification, none)
    else if patch.verifiedBy.isSome || patch.verifiedAt.isSome then
      (row.verification, verifier)
    else if patch.content.isNone && patch.evidence.isNone then
      ((patch.status.map fun status =>
        verificationOnStatusChange status row).getD row.verification, verifier)
    else
      let automatic := if patch.evidence.getD row.hasEvidence then
        Verification.toolObserved else .unverified
      let undisputed := if patch.content.isNone && row.verifiedBy.isSome then
        .humanVerified else automatic
      (match patch.status with
        | some .conflicted => .disputed
        | some .active | some .pending | some .confirmed => undisputed
        | _ =>
          if row.verification = .disputed then .disputed else undisputed,
        if patch.content.isSome then none else verifier)

namespace Patch

/-- The columns that the first statement sets. -/
def setColumns (patch : Patch) (row : Row) : Row :=
  let metadata := patch.metadata.getD
    { sourceTrust := row.sourceTrust, sessionId := row.sessionId,
      parentMemoryId := row.parentMemoryId, batonId := row.batonId }
  { row with
    agentId := patch.agentId.getD row.agentId
    memoryType := patch.memoryType.getD row.memoryType
    content := patch.content.getD row.content
    status := patch.status.getD row.status
    visibility := patch.visibility.getD row.visibility
    createdAt := patch.createdAt.getD row.createdAt
    deletedAt := patch.deletedAt.getD row.deletedAt
    subjectEntityId := patch.subjectEntityId.getD row.subjectEntityId
    predicate := patch.predicate.getD row.predicate
    objectValue := patch.objectValue.getD row.objectValue
    supersedesId := patch.supersedesId.getD row.supersedesId
    tsValidStart := patch.tsValidStart.getD row.tsValidStart
    verification := (verificationWrites patch row).1
    verifiedBy := (verificationWrites patch row).2
    hasEvidence := patch.evidence.getD row.hasEvidence
    isInferred := patch.isInferred.getD row.isInferred
    embedded := patch.embedding.getD row.embedded
    sourceTrust := metadata.sourceTrust
    sessionId := metadata.sessionId
    parentMemoryId := metadata.parentMemoryId
    batonId := metadata.batonId }

theorem setColumns_id (patch : Patch) (row : Row) : (patch.setColumns row).id = row.id :=
  rfl

end Patch

/-- The metadata keys that the second statement merges. -/
def MetadataPatch.merge (patch : MetadataPatch) (row : Row) : Row :=
  { row with
    sourceTrust := patch.sourceTrust.getD row.sourceTrust
    sessionId := patch.sessionId.getD row.sessionId
    parentMemoryId := patch.parentMemoryId.getD row.parentMemoryId
    batonId := patch.batonId.getD row.batonId }

theorem MetadataPatch.merge_id (patch : MetadataPatch) (row : Row) :
    (patch.merge row).id = row.id :=
  rfl

/-- The row with another visibility. -/
def narrowTo (visibility : Visibility) (row : Row) : Row :=
  { row with visibility := visibility }

theorem narrowTo_id (visibility : Visibility) (row : Row) : (narrowTo visibility row).id = row.id :=
  rfl

/-- `_change_derived_rows`, the mirrored expiry aside. -/
def changeDerivedRows (now : Timestamp) (memories : Memories) (tenantId : String)
    (parentId : Uuid) (derived : DerivedChange) : Memories :=
  let kept := if derived.softDeleteChildren then
    softDeleteChildren now memories tenantId parentId else memories
  match derived.visibility with
  | some visibility =>
    if derived.wider.isEmpty then
      kept
    else
      kept.modify
        (fun row => derivedRowsWhere tenantId [parentId] row &&
          derived.wider.contains row.visibility)
        (narrowTo visibility) (narrowTo_id visibility)
  | none => kept

/-! ## The patch as a transaction -/

/-- `MAX_JSON_FIELD_BYTES`. -/
def maxJsonFieldBytes : Nat :=
  65536

/-- Why a patch is refused. -/
inductive PatchError where
  | contentChanged (memoryId : Uuid)
  | pointerNotInTenant (field : String)
  | fieldTooLarge
  deriving DecidableEq, Repr

/-- The text a refusal carries. -/
def PatchError.message : PatchError → String
  | .contentChanged memoryId =>
    "memory " ++ memoryId.str ++ " no longer holds the text this patch was computed from"
  | .pointerNotInTenant field => field ++ " does not name a row in this tenant"
  | .fieldTooLarge => "JSON field must be <= " ++ toString maxJsonFieldBytes ++ " UTF-8 bytes"

/-- What the patch reads besides the memories. -/
structure Surroundings where
  /-- The entity is a row of the tenant. -/
  entityInTenant : String → Uuid → Bool
  /-- The row's metadata with the patch merged stays within its bound. -/
  metadataFits : Row → Patch → Bool

/-- A call of `memory_update`. -/
structure UpdateCall where
  now : Timestamp
  memoryId : Uuid
  tenantId : String
  patch : Patch
  expectedContent : Option String := none

namespace UpdateCall

variable (surroundings : Surroundings)

/-- The live row a patch will change, `none` for a 404, or why it is refused. -/
def target (call : UpdateCall) (memories : Memories) : Except PatchError (Option Row) :=
  match (memories.lookup call.memoryId).filter
      (fun row => row.tenantId == call.tenantId) with
  | none => .ok none
  | some row =>
    if row.deletedAt.isSome then
      .ok none
    else if !call.expectedContent.all fun content => row.content == content then
      .error (.contentChanged call.memoryId)
    else if !call.patch.subjectEntityId.join.all
        (surroundings.entityInTenant call.tenantId) then
      .error (.pointerNotInTenant "subject_entity_id")
    else if !pointersInTenant memories call.tenantId
        call.patch.supersedesId.join.toList then
      .error (.pointerNotInTenant "supersedes_id")
    else if call.patch.metadataPatch.isSome &&
        !surroundings.metadataFits row call.patch then
      .error .fieldTooLarge
    else
      .ok (some row)

/-- The row condition of the two statements on the memory itself. -/
def selects (call : UpdateCall) (row : Row) : Bool :=
  row.id == call.memoryId && row.tenantId == call.tenantId && row.deletedAt.isNone

/-- The derived rows after the call. -/
def derivedWrites (call : UpdateCall) (memories : Memories) : Memories :=
  match call.patch.derived with
  | some derived => changeDerivedRows call.now memories call.tenantId call.memoryId derived
  | none => memories

/-- The statements of a patch that is not refused. -/
def writes (call : UpdateCall) (memories : Memories) : Memories :=
  let written := (call.derivedWrites memories).modify call.selects
    call.patch.setColumns call.patch.setColumns_id
  match call.patch.metadataPatch with
  | some metadataPatch => written.modify call.selects metadataPatch.merge metadataPatch.merge_id
  | none => written

end UpdateCall

/-- `memory_update`: the table it leaves, and whether the row was found. -/
def memoryUpdate (surroundings : Surroundings) (memories : Memories)
    (call : UpdateCall) : Memories × Except PatchError Bool :=
  match call.target surroundings memories with
  | .error refusal => (memories, .error refusal)
  | .ok none => (memories, .ok false)
  | .ok (some _) => (call.writes memories, .ok true)

end Caura.Hold
