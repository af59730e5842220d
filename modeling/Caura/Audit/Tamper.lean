import Caura.Audit.Agreement

/-!
# Tampering is evident

The head of a tenant commits to its whole chain.  Whoever writes the rows, a list
that verifies against the head of a chain has its length and its events, row by
row, as long as the hash and the serialisation tell the events at hand apart.

The argument runs from the back: the hash in the head determines the last event
and the hash before it.  Hashes have 32 bytes, so the bytes that are hashed
determine the event and the hash behind it.
-/

namespace Caura.Audit

open Caura.Value Caura.Chain Option

/-! ## Events -/

/-- Two rows hold the same event: they agree on all columns that are hashed, on
details as values. -/
structure SameEvent (row other : AuditRow) : Prop where
  tenantId : row.tenantId = other.tenantId
  agentId : row.agentId = other.agentId
  action : row.action = other.action
  resourceType : row.resourceType = other.resourceType
  createdAt : row.createdAt = other.createdAt
  resourceId : row.resourceId = other.resourceId
  detail : row.detail.value = other.detail.value

/-- The values that are serialised for rows. -/
def serialised (platform : Platform) (rows : List AuditRow) : Set JsonValue :=
  {value | ∃ row ∈ rows, ∃ createdAt, row.createdAt = some createdAt ∧
    value = (row.fields createdAt).value platform}

/-- The byte strings that are hashed for rows. -/
def hashed (platform : Platform) (rows : List AuditRow) : Set Bytes :=
  {bytes | ∃ row ∈ rows, ∃ createdAt prevHash, row.createdAt = some createdAt ∧
    row.prevHash = some prevHash ∧
    bytes = canonicalEvent platform (row.fields createdAt) ++ prevHash}

variable {platform : Platform}

theorem canonicalResourceId_uuid (resourceId : Option Uuid) :
    canonicalResourceId platform (resourceId.map .uuid) = resourceId.map Uuid.str := by
  cases resourceId <;> rfl

theorem str_map_injective {first second : Option Uuid}
    (textEq : first.map Uuid.str = second.map Uuid.str) : first = second :=
  map_injective (fun _ _ => Uuid.str_inj.mp) textEq

variable {row other : AuditRow} {createdAt otherCreatedAt : Instant}

/-- The serialised value determines the event. -/
theorem sameEvent_of_value_eq (created : row.createdAt = some createdAt)
    (otherCreated : other.createdAt = some otherCreatedAt)
    (valueEq : (row.fields createdAt).value platform =
      (other.fields otherCreatedAt).value platform) : SameEvent row other := by
  rw [EventFields.value_eq, EventFields.value_eq] at valueEq
  simp only [AuditRow.fields, canonicalResourceId_uuid, JsonValue.obj.injEq,
    List.cons.injEq, Prod.mk.injEq, JsonValue.str.injEq, true_and, and_true] at valueEq
  obtain ⟨action, agentId, createdIso, detail, resourceId, resourceType, _, tenantId⟩ := valueEq
  exact
    { tenantId := tenantId
      agentId := optional_value_injective agentId
      action := action
      resourceType := resourceType
      createdAt := by
        rw [created, otherCreated, canonicalCreatedAt_injective createdIso]
      resourceId := str_map_injective (optional_value_injective resourceId)
      detail := detail }

variable {prevHash otherPrevHash hash last bytes : Bytes} {rows others : List AuditRow}

/-- Rows with one hash, each computed from a hash of 32 bytes, hold the same event
and follow the same hash. -/
theorem sameEvent_of_recompute_eq (serialisation : Set.InjOn (JsonValue.print platform.floatText)
      (serialised platform (rows ++ others)))
    (hashing : Set.InjOn sha256 (hashed platform (rows ++ others))) (rowMem : row ∈ rows)
    (otherMem : other ∈ others) (linked : row.prevHash = some prevHash)
    (otherLinked : other.prevHash = some otherPrevHash)
    (sameLength : prevHash.length = otherPrevHash.length)
    (computed : row.recompute platform prevHash = some hash)
    (otherComputed : other.recompute platform otherPrevHash = some hash) :
    SameEvent row other ∧ prevHash = otherPrevHash := by
  obtain ⟨createdAt, created, hashEq⟩ := map_eq_some_iff.mp computed
  rcases map_eq_some_iff.mp otherComputed with
    ⟨otherCreatedAt, otherCreated, otherHashEq⟩
  have rowMem := List.mem_append_left others rowMem
  have otherMem := List.mem_append_right rows otherMem
  have bytesEq := hashing ⟨row, rowMem, createdAt, prevHash, created, linked, rfl⟩
    ⟨other, otherMem, otherCreatedAt, otherPrevHash, otherCreated, otherLinked, rfl⟩
    (hashEq.trans otherHashEq.symm)
  obtain ⟨canonicalEq, prevHashEq⟩ := List.append_inj' bytesEq sameLength
  rw [canonicalEvent_eq, canonicalEvent_eq] at canonicalEq
  have valueEq := serialisation ⟨row, rowMem, createdAt, created, rfl⟩
    ⟨other, otherMem, otherCreatedAt, otherCreated, rfl⟩
    (encodeUtf8_injective canonicalEq)
  exact ⟨sameEvent_of_value_eq created otherCreated valueEq, prevHashEq⟩

/-! ## Chains -/

theorem length_of_recompute (computed : row.recompute platform prevHash = some hash) :
    hash.length = 32 := by
  obtain ⟨createdAt, _, rfl⟩ := map_eq_some_iff.mp computed
  exact length_sha256 _

/-- The rows of a chain store hashes of 32 bytes before them. -/
theorem length_prevHash (linked : ChainIntact platform rows last) (rowMem : row ∈ rows)
    (rowLinked : row.prevHash = some prevHash) : prevHash.length = 32 :=
  Intact.previous_property (fun hash => hash.length = 32) linked rfl
    (fun _ _ _ computed => length_of_recompute computed) rowMem rowLinked

/-- The head commits to its chain: rows of any origin that verify against the head
of a chain that verifies are as many and hold the same events. -/
theorem tampering_is_evident (platform : Platform) (tenantId : String)
    (head : Option ChainHead) (rows others : List AuditRow) (limit otherLimit : Nat)
    (serialisation : Set.InjOn (JsonValue.print platform.floatText)
      (serialised platform (rows ++ others)))
    (hashing : Set.InjOn sha256 (hashed platform (rows ++ others)))
    (hasRoom : rows.length < limit) (otherHasRoom : others.length < otherLimit)
    (valid : (verifyAuditChainRows platform tenantId rows head limit 1
      (some genesisPrevHash)).any ChainReport.isValid)
    (otherValid : (verifyAuditChainRows platform tenantId others head otherLimit 1
      (some genesisPrevHash)).any ChainReport.isValid) :
    others.length = rows.length ∧ List.Forall₂ SameEvent rows others := by
  rcases (verifyAuditChainRows_valid_iff (Int.le_refl 1) fun _ => rfl).mp valid with
    ⟨last, linked, atHead⟩
  rcases (verifyAuditChainRows_valid_iff (Int.le_refl 1) fun _ => rfl).mp otherValid with
    ⟨otherLast, otherLinked, otherAtHead⟩
  have headEq := (atHead hasRoom).symm.trans (otherAtHead otherHasRoom)
  rw [ChainHead.mk.injEq] at headEq
  rcases headEq with ⟨countEq, rfl⟩
  have sameLength : rows.length = others.length := by omega
  refine ⟨sameLength.symm, ?_⟩
  refine Intact.forall₂_of_last_eq ?_ linked otherLinked sameLength
  intro row rowMem other otherMem prevHash otherPrevHash hash _ rowLinked otherRowLinked
    computed otherComputed
  have prevLength := (length_prevHash linked rowMem rowLinked).trans
    (length_prevHash otherLinked otherMem otherRowLinked).symm
  exact sameEvent_of_recompute_eq serialisation hashing rowMem otherMem rowLinked
    otherRowLinked prevLength computed otherComputed

/-! ## A float rewritten as an integer -/

/-- A row of a chain, with its hash and the hash before it. -/
def countRow (seq : Int) (prevHash eventHash : Bytes) (detail : Json) : AuditRow where
  id := Uuid.ofNat 1
  tenantId := "acme"
  agentId := none
  action := "memory.create"
  resourceType := "memory"
  resourceId := some (Uuid.ofNat 2)
  detail := detail
  createdAt := some Instant.epoch
  seq := some seq
  prevHash := some prevHash
  eventHash := some eventHash
  clientEventId := none

/-- A detail with a float. -/
def floatDetail : Json :=
  .obj [("count", .float 1)]

/-- The same detail with an integer. -/
def intDetail : Json :=
  .obj [("count", .int 1)]

/-- What is serialised for a row that was written. -/
def countFields (seq : Int) : EventFields :=
  (countRow seq [] [] floatDetail).fields Instant.epoch

/-- The hash of the first row that was written. -/
def firstHash : Bytes :=
  computeEventHash (canonicalEvent asciiPlatform (countFields 1)) genesisPrevHash

/-- The hash of the second. -/
def secondHash : Bytes :=
  computeEventHash (canonicalEvent asciiPlatform (countFields 2)) firstHash

/-- Two rows, with the detail of the first. -/
def countRows (detail : Json) : List AuditRow :=
  [countRow 1 genesisPrevHash firstHash detail, countRow 2 firstHash secondHash floatDetail]

theorem countRows_valid (detail : Json)
    (sameBytes : canonicalEvent asciiPlatform
      ((countRow 1 genesisPrevHash firstHash detail).fields Instant.epoch) =
        canonicalEvent asciiPlatform (countFields 1)) :
    (verifyAuditChainRows asciiPlatform "acme" (countRows detail) (some ⟨2, secondHash⟩) 3 1
      (some genesisPrevHash)).any ChainReport.isValid := by
  refine (verifyAuditChainRows_valid_iff (Int.le_refl 1) fun _ => rfl).mpr ⟨secondHash,
    ⟨rfl, rfl, firstHash, rfl, ?_, rfl, rfl, secondHash, rfl, rfl, rfl⟩, fun _ => rfl⟩
  exact congrArg (fun bytes => some (computeEventHash bytes genesisPrevHash)) sameBytes

theorem mem_countRows (rowMem : row ∈ countRows floatDetail ++ countRows intDetail)
    (created : row.createdAt = some createdAt) :
    (row.fields createdAt).value asciiPlatform = (countFields 1).value asciiPlatform ∧
        row.prevHash = some genesisPrevHash ∨
      (row.fields createdAt).value asciiPlatform = (countFields 2).value asciiPlatform ∧
        row.prevHash = some firstHash := by
  simp only [countRows, List.cons_append, List.nil_append, List.mem_cons, List.not_mem_nil,
    or_false] at rowMem
  rcases rowMem with rfl | rfl | rfl | rfl <;> cases created
  · exact .inl ⟨rfl, rfl⟩
  · exact .inr ⟨rfl, rfl⟩
  · exact .inl ⟨rfl, rfl⟩
  · exact .inr ⟨rfl, rfl⟩

theorem serialised_countRows :
    serialised asciiPlatform (countRows floatDetail ++ countRows intDetail) ⊆
      {(countFields 1).value asciiPlatform, (countFields 2).value asciiPlatform} := by
  rintro value ⟨row, rowMem, createdAt, created, isValue⟩
  rw [Set.mem_insert_iff, Set.mem_singleton_iff, isValue]
  exact (mem_countRows rowMem created).imp And.left And.left

-- The equations are kept as hypotheses: substituting the hashes would have Lean compute them.
theorem hashed_countRows : hashed asciiPlatform (countRows floatDetail ++ countRows intDetail) ⊆
    {canonicalEvent asciiPlatform (countFields 1) ++ genesisPrevHash,
      canonicalEvent asciiPlatform (countFields 2) ++ firstHash} := by
  rintro bytes ⟨row, rowMem, createdAt, prevHash, created, linked, isBytes⟩
  rw [Set.mem_insert_iff, Set.mem_singleton_iff, isBytes]
  rcases mem_countRows rowMem created with ⟨valueEq, isLinked⟩ | ⟨valueEq, isLinked⟩
  · left
    have isPrev : prevHash = genesisPrevHash := Option.some.inj (linked.symm.trans isLinked)
    rw [isPrev, canonicalEvent_eq, valueEq, ← canonicalEvent_eq]
  · right
    have isPrev : prevHash = firstHash := Option.some.inj (linked.symm.trans isLinked)
    rw [isPrev, canonicalEvent_eq, valueEq, ← canonicalEvent_eq]

theorem countRows_hashed_apart :
    sha256 (canonicalEvent asciiPlatform (countFields 1) ++ genesisPrevHash) ≠
      sha256 (canonicalEvent asciiPlatform (countFields 2) ++ firstHash) := by
  decide +kernel

theorem countRows_serialised_apart :
    ((countFields 1).value asciiPlatform).print asciiPlatform.floatText ≠
      ((countFields 2).value asciiPlatform).print asciiPlatform.floatText := by
  decide +kernel

/-- Rewriting a float as an integer passes, and is no change of the events. -/
theorem tampering_is_evident_rewritten :
    List.Forall₂ SameEvent (countRows floatDetail) (countRows intDetail) :=
  (tampering_is_evident asciiPlatform "acme" (some ⟨2, secondHash⟩) _ _ 3 3
    (Set.InjOn.mono serialised_countRows
      (Set.injOn_pair.mpr fun same => absurd same countRows_serialised_apart))
    (Set.InjOn.mono hashed_countRows
      (Set.injOn_pair.mpr fun same => absurd same countRows_hashed_apart))
    (by decide) (by decide) (countRows_valid floatDetail rfl) (countRows_valid intDetail rfl)).2

end Caura.Audit
