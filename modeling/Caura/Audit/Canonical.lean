import Caura.Audit.Pii
import Caura.Chain.Intact
import Caura.Value.DateTime
import Caura.Value.Sha256
import Caura.Value.Uuid

/-!
# Canonical audit events

The bytes that are hashed for an audit event, from the values the writer holds
and from the columns of a stored row.  The two agree: the bytes depend on the
value of the detail and not on how its numbers are typed or its keys ordered, on
the UUID of the resource and not on how it was written, and on the instant.

`Platform` collects what the code takes from the language and the database.
-/

namespace Caura.Audit

open Caura.Value Caura.Chain

/-- What the code rests on: the character classes of patterns, `float.__repr__`,
`uuid.UUID` of a text, and what the column of a detail reads back, which is the
written value up to the types of numbers and the order of keys. -/
structure Platform where
  classes : CharClasses
  floatText : Rat → List Char
  parseUuid : String → Option Uuid
  parseUuid_empty : parseUuid "" = none
  detailColumn : Json → Json
  detailColumn_value : ∀ detail, (detailColumn detail).value = detail.value

/-- A resource id as an event carries it. -/
inductive ResourceId where
  | text (id : String)
  | uuid (id : Uuid)
  deriving DecidableEq

/-- `AuditLog`: the columns of a stored event.  A missing detail is JSON `null`. -/
structure AuditRow where
  id : Uuid
  tenantId : String
  agentId : Option String
  action : String
  resourceType : String
  resourceId : Option Uuid
  detail : Json
  createdAt : Option Instant
  seq : Option Int
  prevHash : Option Bytes
  eventHash : Option Bytes
  clientEventId : Option String

/-! ## Serialisation -/

/-- `GENESIS_PREV_HASH`. -/
def genesisPrevHash : Bytes :=
  List.replicate 32 0

/-- `canonical_created_at`. -/
def canonicalCreatedAt (createdAt : Instant) : String :=
  String.ofList (createdAt.utc.text ++ ['Z'])

theorem canonicalCreatedAt_injective : Function.Injective canonicalCreatedAt := by
  intro first second textEq
  have charsEq := String.ofList_injective textEq
  exact Instant.text_injective (List.append_inj_left' charsEq rfl)

/-- `_canonical_resource_id`. -/
def canonicalResourceId (platform : Platform) : Option ResourceId → Option String
  | none => none
  | some (.text id) =>
    if id = "" then none
    else
      match platform.parseUuid id with
      | some uuid => some uuid.str
      | none => some id
  | some (.uuid id) => some id.str

/-- The arguments of `canonical_event`. -/
structure EventFields where
  tenantId : String
  seq : Option Int
  agentId : Option String
  action : String
  resourceType : String
  resourceId : Option ResourceId
  detail : Json
  createdAtIso : String

/-- A value or `null`. -/
def optional (make : α → Json) (value : Option α) : Json :=
  value.elim .null make

/-- The dictionary that is serialised, with the detail as it is given. -/
def eventObject (platform : Platform) (fields : EventFields) (detail : Json) : Json :=
  .obj [("tenant_id", .str fields.tenantId), ("seq", optional .int fields.seq),
    ("agent_id", optional .str fields.agentId), ("action", .str fields.action),
    ("resource_type", .str fields.resourceType),
    ("resource_id", optional .str (canonicalResourceId platform fields.resourceId)),
    ("detail", detail), ("created_at", .str fields.createdAtIso)]

/-- The bytes of a text in UTF-8. -/
def encodeUtf8 (text : List Char) : Bytes :=
  (String.ofList text).toUTF8.data.toList

theorem encodeUtf8_injective : Function.Injective encodeUtf8 := by
  intro first second bytesEq
  have dataEq := Array.toList_inj.mp bytesEq
  have utf8Eq : (String.ofList first).toUTF8 = (String.ofList second).toUTF8 :=
    ByteArray.ext dataEq
  exact String.ofList_injective (String.toByteArray_inj.mp utf8Eq)

/-- `canonical_event`. -/
def canonicalEvent (platform : Platform) (fields : EventFields) : Bytes :=
  encodeUtf8 ((eventObject platform fields
    fields.detail.normaliseNumbers).dumps platform.floatText)

/-- `compute_event_hash`. -/
def computeEventHash (canonical prevHash : Bytes) : Bytes :=
  sha256 (canonical ++ prevHash)

/-! ## Values -/

/-- The value of the dictionary that is serialised. -/
def EventFields.value (platform : Platform) (fields : EventFields) : JsonValue :=
  (eventObject platform fields fields.detail).value

theorem normaliseNumbers_optional (make : α → Json)
    (kept : ∀ value, (make value).normaliseNumbers = make value) (value : Option α) :
    (optional make value).normaliseNumbers = optional make value := by
  cases value with
  | none => rfl
  | some value => exact kept value

/-- Only the detail has numbers to normalise. -/
theorem normaliseNumbers_eventObject (platform : Platform) (fields : EventFields) (detail : Json) :
    (eventObject platform fields detail).normaliseNumbers =
      eventObject platform fields detail.normaliseNumbers := by
  simp [eventObject, Json.normaliseNumbers, Json.normaliseEntries,
    normaliseNumbers_optional Json.int fun _ => rfl, normaliseNumbers_optional .str fun _ => rfl]

/-- The canonical bytes depend on the value of the event alone. -/
theorem canonicalEvent_eq (platform : Platform) (fields : EventFields) :
    canonicalEvent platform fields =
      encodeUtf8 ((fields.value platform).print platform.floatText) := by
  rw [canonicalEvent, ← normaliseNumbers_eventObject, Json.dumps_normaliseNumbers,
    EventFields.value]

theorem optional_value_injective {first second : Option String}
    (valueEq : (optional .str first).value = (optional .str second).value) :
    first = second := by
  cases first <;> cases second <;> simp_all [optional, Json.value]

/-- The value of the event with its keys in order. -/
theorem EventFields.value_eq (platform : Platform) (fields : EventFields) :
    fields.value platform = .obj [("action", .str fields.action),
        ("agent_id", (optional .str fields.agentId).value),
        ("created_at", .str fields.createdAtIso), ("detail", fields.detail.value),
        ("resource_id", (optional .str (canonicalResourceId platform fields.resourceId)).value),
        ("resource_type", .str fields.resourceType),
        ("seq", (optional .int fields.seq).value),
        ("tenant_id", .str fields.tenantId)] := by
  simp [EventFields.value, eventObject, Json.value, Json.valueEntries, sortKeys]

/-! ## Stored rows -/

/-- What the verifier serialises for a row created at `createdAt`. -/
def AuditRow.fields (row : AuditRow) (createdAt : Instant) : EventFields where
  tenantId := row.tenantId
  seq := row.seq
  agentId := row.agentId
  action := row.action
  resourceType := row.resourceType
  resourceId := row.resourceId.map .uuid
  detail := row.detail
  createdAtIso := canonicalCreatedAt createdAt

/-- The hash of a row computed again from its columns.  A row without a creation
time has none: the code raises. -/
def AuditRow.recompute (platform : Platform) (row : AuditRow) (prevHash : Bytes) : Option Bytes :=
  row.createdAt.map fun createdAt =>
    computeEventHash (canonicalEvent platform (row.fields createdAt)) prevHash

/-- The chain that the rows of a tenant form. -/
def chainScheme (platform : Platform) : Scheme AuditRow Bytes where
  number := AuditRow.seq
  previous := AuditRow.prevHash
  digest := AuditRow.eventHash
  compute := AuditRow.recompute platform

/-- A chain of the tenant's rows from the genesis hash on. -/
abbrev ChainIntact (platform : Platform) (rows : List AuditRow) (last : Bytes) : Prop :=
  Intact (chainScheme platform) 1 genesisPrevHash rows last

end Caura.Audit
