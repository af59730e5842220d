import Caura.Relation.Table
import Caura.Value.Uuid
import Caura.Memory.Predicate

/-!
# Memories and conflict records

The rows of the `memories` and `memory_conflicts` tables, with the columns that
contradiction detection, its undo paths, the session rollback and the successor
lookup read or write.  Metadata keys they read are columns of their own.
-/

namespace Caura.Memory

open Caura.Relation Caura.Value

/-- Microseconds since the epoch, in UTC. -/
abbrev Timestamp := Int

/-! ## Vocabularies -/

/-- The `status` column. -/
inductive Status where
  | active
  | pending
  | confirmed
  | cancelled
  | outdated
  | conflicted
  | archived
  | deleted
  | quarantined
  deriving DecidableEq, Repr

namespace Status

/-- `LIVE_MEMORY_STATUSES`. -/
def live : List Status :=
  [active, confirmed, pending]

/-- `CONTRADICTED_STATUSES`: what detection writes on a losing row. -/
def contradicted : List Status :=
  [outdated, conflicted]

/-- `QUARANTINE_EXITS`: what a held memory may become. -/
def quarantineExits : List Status :=
  [active, cancelled]

end Status

/-- The `visibility` column, which has no constraint on its text. -/
inductive Visibility where
  | scopeAgent
  | scopeTeam
  | scopeOrg
  | other (text : String)
  deriving DecidableEq, Repr

/-- The `verification_status` column. -/
inductive Verification where
  | unverified
  | toolObserved
  | corroborated
  | humanVerified
  | disputed
  deriving DecidableEq, Repr

/-- The `review_status` column of a conflict record. -/
inductive ReviewStatus where
  | pending
  | resolved
  | dismissed
  deriving DecidableEq, Repr

/-! ## Rows -/

/-- A row of `memories`. -/
structure Row where
  id : Uuid
  tenantId : String
  fleetId : Option String := none
  agentId : String
  memoryType : String := "fact"
  content : String := ""
  status : Status := .active
  visibility : Visibility := .scopeTeam
  createdAt : Option Timestamp
  deletedAt : Option Timestamp := none
  subjectEntityId : Option Uuid := none
  predicate : Option String := none
  objectValue : Option String := none
  supersedesId : Option Uuid := none
  tsValidStart : Option Timestamp := none
  verification : Verification := .unverified
  verifiedBy : Option String := none
  /-- The row's `tool_call_id` or `source_uri` counts as evidence. -/
  hasEvidence : Bool := false
  isInferred : Bool := false
  /-- `metadata._system.source_trust`, when it is an integer. -/
  sourceTrust : Option Int := none
  /-- `metadata.session_id`. -/
  sessionId : Option String := none
  /-- `metadata.parent_memory_id`, as text. -/
  parentMemoryId : Option String := none
  /-- `metadata.baton_id`. -/
  batonId : Option String := none
  /-- The `embedding` column is not null. -/
  embedded : Bool := true
  deriving DecidableEq, Repr

namespace Row

/-- The row is not soft-deleted and waits for no reviewer, so that it can be
read by id. -/
def readable (row : Row) : Bool :=
  row.deletedAt.isNone && row.status != .quarantined

/-- The row is not soft-deleted and has a live status. -/
def live (row : Row) : Bool :=
  row.deletedAt.isNone && Status.live.contains row.status

/-- The row carries a status detection wrote on it. -/
def contradicted (row : Row) : Bool :=
  Status.contradicted.contains row.status

/-- `automatic_verification_sql`: what the row's own evidence says. -/
def automaticVerification (row : Row) : Verification :=
  if row.hasEvidence then .toolObserved else .unverified

/-- `_undisputed_verification_sql`: a person's verification, else the
evidence's. -/
def undisputedVerification (row : Row) : Verification :=
  if row.verifiedBy.isSome then .humanVerified else row.automaticVerification

/-- `ORDER BY created_at DESC`, where a missing time comes first. -/
def newestFirst (first second : Row) (ofTie : Bool) : Bool :=
  match first.createdAt, second.createdAt with
  | none, some _ => true
  | some _, none => false
  | none, none => ofTie
  | some firstAt, some secondAt => secondAt < firstAt || (secondAt == firstAt && ofTie)

end Row

/-- A row of `memory_conflicts`. -/
structure Conflict where
  id : Uuid
  tenantId : String
  newMemoryId : Uuid
  oldMemoryId : Uuid
  reviewStatus : ReviewStatus := .pending
  /-- `metadata.effect_applied`, absent in records written before it existed. -/
  effectApplied : Option Bool := none
  createdAt : Timestamp
  deriving DecidableEq, Repr

namespace Conflict

/-- Whether detection applied the verdict the record names. -/
def verdictApplied (record : Conflict) : Bool :=
  record.effectApplied != some false

/-- The record is not dismissed. -/
def standing (record : Conflict) : Bool :=
  record.reviewStatus != .dismissed

/-- The record names the memory on either side. -/
def names (record : Conflict) (memoryId : Uuid) : Bool :=
  record.newMemoryId == memoryId || record.oldMemoryId == memoryId

/-- The memory on the other side of the record from `memoryId`. -/
def otherSide (record : Conflict) (memoryId : Uuid) : Uuid :=
  if record.newMemoryId = memoryId then record.oldMemoryId
  else record.newMemoryId

end Conflict

/-- The `memories` table. -/
abbrev Memories := Table Row Row.id

/-- The `memory_conflicts` table. -/
abbrev Conflicts := Table Conflict Conflict.id

end Caura.Memory
