import Caura.Metadata.Ownership

/-!
# What a patch says about the caller's keys

A patch of the caller has the caller's `summary` and `tags` at the top, and a marker with the
keys that it supplies and those that it has read; a change of the text adds platform values
beside them.  Nothing is withheld from such a patch.  A merge into a dictionary takes the keys of
the patch first, at the top and in `_system`.
-/

namespace Caura.Metadata

open Caura.Value List Dict

/-! ## The two namespaces of a document -/

section Documents

variable {metadata patch entries : Dict Json} {key : String} {value : Json}

theorem ne_system_of_mem (isOwnable : key ∈ callerOwnableKeys) : key ≠ "_system" := by
  rintro rfl
  exact absurd isOwnable (by decide)

theorem SystemIsObject.get_eq (isObject : SystemIsObject metadata) :
    metadata.get "_system" = none ∧ systemOf metadata = [] ∨
      metadata.get "_system" = some (.obj (systemOf metadata)) := by
  cases found : metadata.get "_system" with
  | none => exact .inl ⟨rfl, by rw [systemOf, found]⟩
  | some system =>
    obtain ⟨nested, rfl⟩ := isObject system found
    exact .inr (by rw [systemOf, found])

theorem get_setSystem (different : key ≠ "_system") (other : String) :
    (setSystem metadata other value).get key = metadata.get key := by
  rw [setSystem, get_set, if_neg different]

theorem systemOf_setSystem (metadata : Dict Json) (key : String) (value : Json) :
    systemOf (setSystem metadata key value) = Dict.set (systemOf metadata) key value := by
  rw [setSystem, systemOf, get_set, if_pos rfl]

theorem isObject_setSystem : SystemIsObject (setSystem metadata key value) := by
  intro system found
  rw [setSystem, get_set] at found
  exact ⟨_, (Option.some.inj found).symm⟩

/-- Two documents with the same keys of the caller and the same marker. -/
structure SameClaims (before after : Dict Json) : Prop where
  top : ∀ key ∈ callerOwnableKeys, after.get key = before.get key
  marker : Dict.get (systemOf after) "caller_owned" = Dict.get (systemOf before) "caller_owned"
  isObject : SystemIsObject before → SystemIsObject after

theorem SameClaims.trans {first second third : Dict Json} (same : SameClaims first second)
    (later : SameClaims second third) : SameClaims first third where
  top key isOwnable := (later.top key isOwnable).trans (same.top key isOwnable)
  marker := later.marker.trans same.marker
  isObject isObject := later.isObject (same.isObject isObject)

section

variable (isPlatform : key ∈ platformOnlyKeys)

include isPlatform

/-- The key of a platform value is none of the caller's, and no part of the marker. -/
theorem ne_of_mem_platformOnlyKeys :
    key ≠ "_system" ∧ key ≠ "caller_owned" ∧ key ∉ callerOwnableKeys := by
  have allKeys : ∀ key ∈ platformOnlyKeys,
      key ≠ "_system" ∧ key ≠ "caller_owned" ∧ key ∉ callerOwnableKeys := by
    decide
  exact allKeys key isPlatform

theorem sameClaims_set (metadata : Dict Json) (value : Json) :
    SameClaims metadata (metadata.set key value) := by
  obtain ⟨notSystem, _, notOwnable⟩ := ne_of_mem_platformOnlyKeys isPlatform
  have sameSystem : (metadata.set key value).get "_system" = metadata.get "_system" := by
    rw [get_set, if_neg (Ne.symm notSystem)]
  refine ⟨fun other isOwnable => ?_, ?_, fun isObject system found => ?_⟩
  · rw [get_set, if_neg]
    rintro rfl
    exact notOwnable isOwnable
  · rw [systemOf, sameSystem, systemOf]
  · exact isObject system (sameSystem ▸ found)

theorem sameClaims_setSystem (metadata : Dict Json) (value : Json) :
    SameClaims metadata (setSystem metadata key value) := by
  obtain ⟨_, notMarker, _⟩ := ne_of_mem_platformOnlyKeys isPlatform
  refine ⟨fun other isOwnable => get_setSystem (ne_system_of_mem isOwnable) key, ?_,
    fun _ => isObject_setSystem⟩
  rw [systemOf_setSystem, get_set, if_neg (Ne.symm notMarker)]

theorem sameClaims_setSystemValue (metadata : Dict Json) (value : Json) :
    SameClaims metadata (setSystemValue metadata key value) :=
  (sameClaims_setSystem isPlatform metadata value).trans (sameClaims_set isPlatform _ value)

end

theorem Edit.mem_platformOnlyKeys (edit : Edit) :
    ∀ entry ∈ edit.values, entry.1 ∈ platformOnlyKeys := by
  obtain ⟨embedded, reenrich, piiTypes⟩ := edit
  cases reenrich <;> cases piiTypes <;>
    simp [Edit.values, textVerdictKeys, platformOnlyKeys]

theorem Edit.sameClaims (edit : Edit) (patch : Dict Json) :
    SameClaims patch (edit.apply patch) := by
  have start : SameClaims patch (patch.set "atomic_facts" .null) :=
    sameClaims_set (by decide) patch .null
  suffices ∀ (values : Dict Json) (before : Dict Json),
      (∀ entry ∈ values, entry.1 ∈ platformOnlyKeys) → SameClaims patch before → SameClaims patch
          (values.foldl (fun patch entry => setSystemValue patch entry.1 entry.2) before) from
    this edit.values _ edit.mem_platformOnlyKeys start
  intro values
  induction values with
  | nil => exact fun _ _ same => same
  | cons entry values ih =>
    intro before isPlatform same
    rw [forall_mem_cons] at isPlatform
    exact ih _ isPlatform.2 (same.trans (sameClaims_setSystemValue isPlatform.1 before entry.2))

end Documents

/-! ## Patches -/

section Patches

variable {request : CallerPatch} {priorOwned : List String} {key : String}

theorem get_supplied_system (request : CallerPatch) : request.supplied.get "_system" = none := by
  rw [CallerPatch.supplied, sanitizeCallerMetadata, get_without, if_pos (.head _)]

theorem isObject_supplied (request : CallerPatch) : SystemIsObject request.supplied := by
  intro system found
  rw [get_supplied_system] at found
  cases found

theorem systemOf_supplied (request : CallerPatch) : systemOf request.supplied = [] := by
  rw [systemOf, get_supplied_system]

/-- The keys that a patch of the caller writes into the marker. -/
def CallerPatch.marker (request : CallerPatch) (priorOwned : List String) : List String :=
  callerOwnableKeys.filter fun key => key ∈ request.supplied.map Prod.fst ∨ key ∈ priorOwned

theorem sameClaims_metadataPatch (request : CallerPatch) (priorOwned : List String) :
    SameClaims (request.ownPatch priorOwned) (request.metadataPatch priorOwned) := by
  unfold CallerPatch.metadataPatch
  cases request.edit with
  | none => exact ⟨fun _ _ => rfl, rfl, id⟩
  | some edit => exact edit.sameClaims _

/-- What a patch of the caller says about the keys that a caller may own. -/
structure Claims (request : CallerPatch) (priorOwned : List String) (patch : Dict Json) :
    Prop where
  top : ∀ key ∈ callerOwnableKeys, patch.get key = request.supplied.get key
  isObject : SystemIsObject patch
  marker : Dict.get (systemOf patch) "caller_owned" =
      some (.arr ((request.marker priorOwned).map Json.str)) ∧ request.supplied ≠ [] ∧
        request.marker priorOwned ≠ [] ∨
    Dict.get (systemOf patch) "caller_owned" = none ∧
      (request.supplied = [] ∨ request.marker priorOwned = [])

theorem claims_markCallerOwned (notEmpty : request.supplied ≠ []) : Claims request priorOwned
      (markCallerOwned request.supplied (request.supplied.map Prod.fst) priorOwned) := by
  unfold markCallerOwned
  split
  next isNil =>
    refine ⟨fun _ _ => rfl, isObject_supplied request, .inr ⟨?_, .inr isNil⟩⟩
    rw [systemOf_supplied]
    rfl
  next notNil =>
    refine ⟨fun key isOwnable => get_setSystem (ne_system_of_mem isOwnable) _,
      isObject_setSystem, .inl ⟨?_, notEmpty, notNil⟩⟩
    rw [systemOf_setSystem, get_set]
    rfl

theorem claims_metadataPatch (request : CallerPatch) (priorOwned : List String) :
    Claims request priorOwned (request.metadataPatch priorOwned) := by
  have same := sameClaims_metadataPatch request priorOwned
  have own : Claims request priorOwned (request.ownPatch priorOwned) := by
    unfold CallerPatch.ownPatch
    by_cases isEmpty : request.supplied = []
    · rw [if_pos (by rw [isEmpty]; rfl)]
      exact ⟨fun key _ => by rw [isEmpty], nofun, .inr ⟨rfl, .inl isEmpty⟩⟩
    · rw [if_neg (by simpa using isEmpty)]
      exact claims_markCallerOwned isEmpty
  refine ⟨fun key isOwnable => (same.top key isOwnable).trans (own.top key isOwnable),
    same.isObject own.isObject, ?_⟩
  rw [same.marker]
  exact own.marker

theorem mem_ownedTexts_iff {keys : List String} :
    key ∈ ownedTexts (some (.arr (keys.map Json.str))) ↔ key ∈ keys := by
  simp [ownedTexts]

theorem mem_map_fst_of_get {dict : Dict Json} {value : Json} (found : dict.get key = some value) :
    key ∈ dict.map Prod.fst := by
  by_contra absent
  cases found.symm.trans (get_eq_none_of_notMem absent)

/-- Nothing is withheld from a patch of the caller. -/
theorem Claims.withhold_eq {patch : Dict Json} (claims : Claims request priorOwned patch)
    (stored : Dict Json) : withholdCallerOwnedKeys patch stored = patch := by
  unfold withholdCallerOwnedKeys
  rcases claims.marker with ⟨isMarker, _⟩ | ⟨noMarker, isNone⟩
  · rw [if_pos (by rw [marked, Dict.has, isMarker]; rfl)]
  · rw [if_neg (by rw [marked, Dict.has, noMarker]; decide)]
    have supplies : ∀ key ∈ callerOwnableKeys, request.supplied.get key = none := by
      intro key isOwnable
      rcases isNone with isEmpty | isEmpty
      · rw [isEmpty]
        rfl
      · cases found : request.supplied.get key with
        | none => rfl
        | some value =>
          have isMem : key ∈ request.marker priorOwned :=
            mem_filter.mpr ⟨isOwnable, by simp [mem_map_fst_of_get found]⟩
          rw [isEmpty] at isMem
          cases isMem
    have noneWithheld : (callerOwnableKeys.filter fun key => decide (patch.has key = true ∧
        key ∈ ownedTexts (Dict.get (systemOf stored) "caller_owned"))) = [] := by
      refine filter_eq_nil_iff.mpr fun key isOwnable => ?_
      simp [Dict.has, claims.top key isOwnable, supplies key isOwnable]
    rw [noneWithheld]
    rfl

end Patches

/-! ## Merges -/

/-- A stored document that a patch is merged into as a dictionary. -/
def IsBase (stored : Option Json) (entries : Dict Json) : Prop :=
  stored.getD (.obj []) = .obj entries

/-- What a merge makes of a dictionary. -/
structure Merged (entries patch merged : Dict Json) : Prop where
  top : ∀ key, key ≠ "_system" → merged.get key = (patch.get key).or (entries.get key)
  system : ∀ key, Dict.get (systemOf merged) key =
    (Dict.get (systemOf patch) key).or (Dict.get (systemOf entries) key)

section Merges

variable {stored after : Option Json} {entries patch : Dict Json}

section

variable (isBase : IsBase stored entries)

include isBase

theorem IsBase.cases : stored = none ∧ entries = [] ∨ stored = some (.obj entries) := by
  cases stored with
  | none => exact .inl ⟨rfl, (Json.obj.inj isBase).symm⟩
  | some document => exact .inr (congrArg some isBase)

theorem IsBase.asDict_eq : asDict stored = some entries := by
  rcases isBase.cases with ⟨rfl, rfl⟩ | rfl
  · rfl
  · rfl

theorem IsBase.arrow_eq (key : String) :
    stored.bind (fun document => Jsonb.arrow document key) = entries.get key := by
  rcases isBase.cases with ⟨rfl, rfl⟩ | rfl
  · rfl
  · rfl

end

theorem SystemIsObject.getD_eq (isObject : SystemIsObject entries) :
    (entries.get "_system").getD (.obj []) = .obj (systemOf entries) := by
  rcases isObject.get_eq with ⟨isNone, isEmpty⟩ | found
  · rw [isNone, isEmpty]
    rfl
  · rw [found]
    rfl

theorem merged_of_mergeMetadata {document : Json} (isBase : IsBase stored entries)
    (isObject : SystemIsObject entries) (patchObject : SystemIsObject patch)
    (mergeEq : mergeMetadata stored patch = some document) :
    ∃ merged, document = .obj merged ∧ Merged entries patch merged := by
  unfold mergeMetadata at mergeEq
  rw [show stored.getD (.obj []) = .obj entries from isBase, isBase.arrow_eq,
    isObject.getD_eq] at mergeEq
  dsimp only [Jsonb.arrow] at mergeEq
  rw [patchObject.getD_eq] at mergeEq
  split at mergeEq
  · refine ⟨_, (Option.some.inj mergeEq).symm, fun key different => ?_, fun key => ?_⟩
    · rw [get_set, if_neg different, get_union]
    · rw [systemOf, get_set]
      exact get_union _ _ _
  next noSystem =>
    have isNone : patch.get "_system" = none := by
      simpa [Dict.has] using noSystem
    have isEmpty : systemOf patch = [] := by
      rw [systemOf, isNone]
    refine ⟨_, (Option.some.inj mergeEq).symm, fun key _ => get_union _ _ _, fun key => ?_⟩
    rw [systemOf, get_union, isNone, isEmpty]
    rfl

/-- An update changes nothing, or merges what is not withheld. -/
theorem memoryUpdate_eq_some (updated : memoryUpdate patch stored = some after) :
    patch = [] ∧ after = stored ∨ ∃ entries, asDict stored = some entries ∧
      (withholdCallerOwnedKeys patch entries = [] ∧ after = stored ∨
        ∃ document, mergeMetadata stored (withholdCallerOwnedKeys patch entries) = some document ∧
          after = some document) := by
  unfold memoryUpdate at updated
  split at updated
  next isEmpty => exact .inl ⟨isEmpty_iff.mp isEmpty, (Option.some.inj updated).symm⟩
  · obtain ⟨entries, isDict, updated⟩ := Option.bind_eq_some_iff.mp updated
    refine .inr ⟨entries, isDict, ?_⟩
    dsimp only at updated
    split at updated
    next isEmpty => exact .inl ⟨isEmpty_iff.mp isEmpty, (Option.some.inj updated).symm⟩
    · obtain ⟨document, mergeEq, rfl⟩ := Option.map_eq_some_iff.mp updated
      exact .inr ⟨document, mergeEq, rfl⟩

theorem get_withhold_system {stored : Dict Json} :
    (withholdCallerOwnedKeys patch stored).get "_system" = patch.get "_system" := by
  unfold withholdCallerOwnedKeys
  split
  · rfl
  · rw [get_without, if_neg]
    intro isMem
    exact absurd (mem_of_mem_filter isMem) (by decide)

theorem merged_nil : Merged entries [] entries :=
  ⟨fun _ _ => rfl, fun _ => rfl⟩

/-- An update of a dictionary merges what is not withheld. -/
theorem merged_of_memoryUpdate (isBase : IsBase stored entries)
    (isObject : SystemIsObject entries) (patchObject : SystemIsObject patch)
    (updated : memoryUpdate patch stored = some after) :
    ∃ merged, IsBase after merged ∧
      Merged entries (withholdCallerOwnedKeys patch entries) merged := by
  rcases memoryUpdate_eq_some updated with ⟨rfl, rfl⟩ | ⟨found, isDict, merges⟩
  · exact ⟨entries, isBase, merged_nil⟩
  · obtain rfl : entries = found := Option.some.inj (isBase.asDict_eq.symm.trans isDict)
    rcases merges with ⟨isEmpty, rfl⟩ | ⟨document, mergeEq, rfl⟩
    · rw [isEmpty]
      exact ⟨entries, isBase, merged_nil⟩
    · have restObject : SystemIsObject (withholdCallerOwnedKeys patch entries) := by
        intro system isSystem
        exact patchObject system (get_withhold_system ▸ isSystem)
      obtain ⟨merged, rfl, isMerged⟩ := merged_of_mergeMetadata isBase isObject restObject mergeEq
      exact ⟨merged, rfl, isMerged⟩

/-- A patch with `_system` is merged into a dictionary, or fails. -/
theorem exists_isBase_of_memoryUpdate (hasSystem : patch.has "_system" = true)
    (updated : memoryUpdate patch stored = some after) : ∃ entries, IsBase stored entries := by
  have kept (found : Dict Json) : (withholdCallerOwnedKeys patch found).has "_system" = true := by
    rwa [Dict.has, get_withhold_system]
  rcases memoryUpdate_eq_some updated with ⟨rfl, _⟩ | ⟨found, _, ⟨isEmpty, _⟩ | ⟨_, mergeEq, _⟩⟩
  · cases hasSystem
  · have isSystem := kept found
    rw [isEmpty] at isSystem
    cases isSystem
  · unfold mergeMetadata at mergeEq
    rw [if_pos (kept found)] at mergeEq
    cases isMerged : Jsonb.concat (stored.getD (.obj []))
        (.obj (withholdCallerOwnedKeys patch found)) with
    | obj entries =>
      obtain ⟨left, _, isLeft, _⟩ := Jsonb.isObj_of_concat isMerged
      exact ⟨left, isLeft⟩
    | null | bool _ | int _ | float _ | str _ | arr _ =>
      rw [isMerged] at mergeEq
      cases mergeEq

end Merges

end Caura.Metadata
