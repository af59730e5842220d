import Caura.Transition.Threads
import Caura.Value.Jsonb

/-!
# Metadata keys that the caller owns

A caller may supply the `summary` and `tags` of a memory, which enrichment also produces.  A
patch of the caller records in `_system.caller_owned` which of the two the caller has supplied,
and storage keeps a patch of the platform from writing a key that is recorded there.

The list is built from an earlier read of the row, and the merge of `_system` replaces it.  Two
patches that were built from the same read therefore keep each only its own claim.
-/

namespace Caura.Metadata

open Caura.Value Caura.Transition

/-! ## Platform and caller keys -/

/-- `CALLER_OWNABLE_KEYS`, sorted. -/
def callerOwnableKeys : List String :=
  ["summary", "tags"]

/-- `PLATFORM_ONLY_KEYS`. -/
def platformOnlyKeys : List String :=
  ["llm_ms", "write_latency_ms", "semantic_dedup_ms", "near_dup_check_ms", "dedup_judge_ms",
    "triple_emission_ms", "business_relevance", "contains_pii", "pii_types", "pii_flagged_by",
    "governance_llm_uncertain", "nonbusiness_kept_private", "dedup_skipped_reason",
    "dedup_candidate_similarity", "dedup_judge_confidence", "dedup_subject_preflight",
    "near_dup_skipped_reason", "near_duplicate_of", "near_duplicate_similarity",
    "near_duplicate_merge_pending", "near_duplicate_merged", "near_dup_merge_skipped",
    "write_mode", "enrichment_pending", "embedding_pending", "memory_type_agent_set",
    "weight_source", "parent_memory_id", "auto_chunked", "child_count", "source_trust",
    "retrieval_hint", "atomic_facts", "rules_receipt", "write_gate"]

/-- `sanitize_caller_metadata`. -/
def sanitizeCallerMetadata (metadata : Dict Json) : Dict Json :=
  metadata.without ("_system" :: platformOnlyKeys)

/-- The texts in the value of `caller_owned`. -/
def ownedTexts : Option Json → List String
  | some (.arr owned) =>
    owned.filterMap fun
      | .str key => some key
      | _ => none
  | _ => []

/-- The entries of `_system`, if it is an object. -/
def systemOf (metadata : Dict Json) : Dict Json :=
  match metadata.get "_system" with
  | some (.obj system) => system
  | _ => []

/-- `caller_owned_keys` on a dictionary. -/
def callerOwnedKeys (metadata : Dict Json) : List String :=
  callerOwnableKeys.filter fun key =>
    key ∈ ownedTexts (Dict.get (systemOf metadata) "caller_owned")

/-- A stored document as a dictionary.  What is not one fails, unless Python counts it as
false. -/
def asDict : Option Json → Option (Dict Json)
  | none => some []
  | some (.obj entries) => some entries
  | some value =>
    if value.falsy then some [] else none

/-- `metadata.setdefault("_system", {})[key] = value`. -/
def setSystem (metadata : Dict Json) (key : String) (value : Json) : Dict Json :=
  metadata.set "_system" (.obj (Dict.set (systemOf metadata) key value))

/-- `set_system_value` for a key that the caller does not own. -/
def setSystemValue (metadata : Dict Json) (key : String) (value : Json) : Dict Json :=
  (setSystem metadata key value).set key value

/-- `mark_caller_owned`. -/
def markCallerOwned (metadata : Dict Json) (callerKeys existing : List String) : Dict Json :=
  match callerOwnableKeys.filter fun key => key ∈ callerKeys ∨ key ∈ existing with
  | [] => metadata
  | owned => setSystem metadata "caller_owned" (.arr (owned.map Json.str))

/-! ## Patches of the caller -/

/-- What a change of the text adds to a patch: whether the new text was embedded, whether it is
enriched again, and the kinds of personal data that were found in it. -/
structure Edit where
  embedded : Bool
  reenrich : Bool
  piiTypes : Option (List String) := none

/-- `_TEXT_VERDICT_KEYS`. -/
def textVerdictKeys : List String :=
  ["contains_pii", "pii_types", "pii_flagged_by", "business_relevance",
    "governance_llm_uncertain"]

/-- The platform values that a change of the text sets. -/
def Edit.values (edit : Edit) : Dict Json :=
  textVerdictKeys.map (fun key => (key, Json.null)) ++
    ("embedding_pending", .bool !edit.embedded) ::
      ((if edit.reenrich then [("enrichment_pending", Json.bool true)] else []) ++
        match edit.piiTypes with
        | none => []
        | some types =>
          [("contains_pii", .bool true), ("pii_types", .arr (types.map Json.str)),
            ("pii_flagged_by", .str "governance.deterministic")])

/-- The patch with the platform values of a change of the text. -/
def Edit.apply (edit : Edit) (patch : Dict Json) : Dict Json :=
  edit.values.foldl (fun patch entry => setSystemValue patch entry.1 entry.2)
    (patch.set "atomic_facts" .null)

/-- A `PATCH` in merge mode: its metadata, which may be null, and a change of the text. -/
structure CallerPatch where
  metadata : Option (Option (Dict Json)) := none
  edit : Option Edit := none

/-- The keys and values that the caller supplies. -/
def CallerPatch.supplied (request : CallerPatch) : Dict Json :=
  sanitizeCallerMetadata (request.metadata.join.getD [])

/-- The caller's metadata with the marker, which is built from the keys that the row that was read
has as owned by the caller. -/
def CallerPatch.ownPatch (request : CallerPatch) (priorOwned : List String) : Dict Json :=
  if request.supplied.isEmpty then []
  else markCallerOwned request.supplied (request.supplied.map Prod.fst) priorOwned

/-- The `metadata_patch` of the request. -/
def CallerPatch.metadataPatch (request : CallerPatch) (priorOwned : List String) : Dict Json :=
  match request.edit with
  | none => request.ownPatch priorOwned
  | some edit => edit.apply (request.ownPatch priorOwned)

/-! ## Storage -/

/-- The patch carries the marker of the caller. -/
def marked (patch : Dict Json) : Bool :=
  (systemOf patch).has "caller_owned"

/-- `_withhold_caller_owned_keys` on a stored dictionary. -/
def withholdCallerOwnedKeys (patch stored : Dict Json) : Dict Json :=
  if marked patch then
    patch
  else
    patch.without (callerOwnableKeys.filter fun key =>
      patch.has key ∧ key ∈ ownedTexts (Dict.get (systemOf stored) "caller_owned"))

/-- The statement that merges a patch into the column.  A patch with `_system` also sets that key,
which fails when the merged document is not an object. -/
def mergeMetadata (stored : Option Json) (patch : Dict Json) : Option Json :=
  let merged := Jsonb.concat (stored.getD (.obj [])) (.obj patch)
  if patch.has "_system" then
    Jsonb.set merged "_system" (Jsonb.concat
      ((stored.bind fun document => Jsonb.arrow document "_system").getD (.obj []))
      ((Jsonb.arrow (.obj patch) "_system").getD (.obj [])))
  else
    some merged

/-- The metadata after `memory_update`, if that does not fail. -/
def memoryUpdate (patch : Dict Json) (stored : Option Json) : Option (Option Json) :=
  if patch.isEmpty then
    some stored
  else
    (asDict stored).bind fun entries =>
      let patch := withholdCallerOwnedKeys patch entries
      if patch.isEmpty then some stored else (mergeMetadata stored patch).map some

/-! ## Threads -/

/-- The metadata of a memory, with what the patches of the caller that were applied have
supplied, the last first. -/
structure Row where
  metadata : Option Json := none
  applied : List (Dict Json) := []

/-- A patch of the platform carries no marker. -/
structure PlatformPatch where
  entries : Dict Json
  unmarked : marked entries = false

/-- Where a patch is: a caller's reads the row first. -/
inductive Phase
  | reading (request : CallerPatch)
  | applying (request : CallerPatch) (priorOwned : List String)
  | enriching (patch : PlatformPatch)
  | finished

/-- A patch of a caller or of enrichment. -/
inductive Request
  | patch (request : CallerPatch)
  | enrich (patch : PlatformPatch)

/-- Where it starts. -/
def Request.phase : Request → Phase
  | .patch request => .reading request
  | .enrich platform => .enriching platform

/-- What a step is told: storage may refuse a patch for the rest of the row (it is gone, it has
another text, the document gets too large). -/
structure Answer where
  refused : Bool := false

/-- The read of a patch of the caller.  Metadata of null is refused. -/
def CallerPatch.read (request : CallerPatch) (row : Row) : Phase :=
  match request.metadata with
  | none => .applying request []
  | some none => .finished
  | some (some _) =>
    match asDict row.metadata with
    | none => .finished
    | some entries => .applying request (callerOwnedKeys entries)

/-- The row after a patch, with what the caller supplies by it. -/
def Row.patched (row : Row) (answer : Answer) (patch : Dict Json) (supplied : List (Dict Json)) :
    Row :=
  if answer.refused then
    row
  else
    match memoryUpdate patch row.metadata with
    | none => row
    | some metadata =>
      { metadata := metadata, applied := supplied ++ row.applied }

/-- One step. -/
def Phase.act (row : Row) (answer : Answer) : Phase → Option (Row × Phase)
  | .reading request => some (row, request.read row)
  | .applying request priorOwned =>
    some (row.patched answer (request.metadataPatch priorOwned) [request.supplied], .finished)
  | .enriching patch => some (row.patched answer patch.entries [], .finished)
  | .finished => none

/-- The patches of one memory. -/
def patchSystem : ThreadSystem Row Phase Request Answer where
  init := Request.phase
  act row phase answer := phase.act row answer

/-! ## What the caller supplied -/

/-- The value that the caller has supplied last. -/
def latest (applied : List (Dict Json)) (key : String) : Option Json :=
  applied.findSome? fun supplied => supplied.get key

/-- The row has the summary and tags that the caller has supplied last. -/
def KeepsSupplied (row : Row) : Prop :=
  ∀ key ∈ callerOwnableKeys, ∀ value, latest row.applied key = some value →
    row.metadata.bind (fun document => Jsonb.arrow document key) = some value

/-- The `_system` of a document is an object, if there is one. -/
def SystemIsObject (entries : Dict Json) : Prop :=
  ∀ system, entries.get "_system" = some system → ∃ nested, system = .obj nested

/-- The caller owns no key of the row beyond those that the patch has read or supplies; or the
patch writes no list, as it supplies none of the two keys and has read none or has no metadata. -/
def CallerPatch.Current (request : CallerPatch) (priorOwned : List String) (entries : Dict Json) :
    Prop :=
  (∀ key ∈ callerOwnedKeys entries, key ∈ priorOwned ∨ request.supplied.has key) ∨
    (∀ key ∈ callerOwnableKeys, request.supplied.get key = none) ∧
      (priorOwned = [] ∨ request.supplied = [])

/-- A patch of the caller is applied while the claims that it has read are current.  The `_system`
of a row that the caller patches, and of a patch of the platform, is an object. -/
def Phase.Current (row : Row) : Phase → Prop
  | .applying request priorOwned =>
    match row.metadata with
    | some (.obj entries) => SystemIsObject entries ∧ request.Current priorOwned entries
    | _ => True
  | .enriching patch => SystemIsObject patch.entries
  | .reading _ | .finished => True

/-- Every step of a patch is taken while its claims are current. -/
def ClaimsCurrent (pool : Pool Row Phase) : ThreadEvent Request Answer → Prop
  | .start _ _ => True
  | .advance pid _ => ∀ phase ∈ pool.threads pid, phase.Current pool.store

instance (entries : Dict Json) : Decidable (SystemIsObject entries) :=
  match found : entries.get "_system" with
  | none => isTrue fun _ isSystem => nomatch found.symm.trans isSystem
  | some (.obj nested) =>
    isTrue fun _ isSystem => ⟨nested, Option.some.inj (isSystem.symm.trans found)⟩
  | some .null | some (.bool _) | some (.int _) | some (.float _) | some (.str _)
  | some (.arr _) => isFalse fun isObject => nomatch isObject _ found

instance (request : CallerPatch) (priorOwned : List String) (entries : Dict Json) :
    Decidable (request.Current priorOwned entries) := by
  unfold CallerPatch.Current
  infer_instance

instance (row : Row) (phase : Phase) : Decidable (phase.Current row) := by
  cases phase <;> dsimp only [Phase.Current]
  case applying => split <;> infer_instance
  all_goals infer_instance

instance : DecidableRel ClaimsCurrent := fun pool event => by
  cases event <;> dsimp only [ClaimsCurrent] <;> infer_instance

end Caura.Metadata
