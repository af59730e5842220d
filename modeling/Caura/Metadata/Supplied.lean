import Caura.Metadata.Claims

/-!
# The caller keeps what it supplied

While every patch of the caller is applied on the claims that it has read, the marker of the row
holds each key that the caller has supplied, so no patch of the platform changes one.  Patches
that were read before another claim and applied after it take that claim away.
-/

namespace Caura.Metadata

open Caura.Value Caura.Transition Option

/-! ## Ownership along a run -/

/-- The caller owns a key with a value. -/
def OwnedAs (metadata : Option Json) (key : String) (value : Json) : Prop :=
  ∃ entries, IsBase metadata entries ∧ entries.get key = some value ∧
    key ∈ ownedTexts (Dict.get (systemOf entries) "caller_owned")

/-- The caller owns the keys that it has supplied, with the values that it has supplied last. -/
def Owned (row : Row) : Prop :=
  ∀ key ∈ callerOwnableKeys, ∀ value, latest row.applied key = some value →
    OwnedAs row.metadata key value

section Steps

variable {row : Row} {key : String}

theorem isObject_of_mem_ownedTexts {entries : Dict Json}
    (isOwned : key ∈ ownedTexts (Dict.get (systemOf entries) "caller_owned")) :
    SystemIsObject entries := by
  intro system found
  cases system with
  | obj nested => exact ⟨nested, rfl⟩
  | null | bool _ | int _ | float _ | str _ | arr _ =>
    rw [systemOf, found] at isOwned
    cases isOwned

theorem Owned.keepsSupplied (owned : Owned row) : KeepsSupplied row := by
  intro key isOwnable value isLatest
  obtain ⟨entries, isBase, isValue, _⟩ := owned key isOwnable value isLatest
  exact (isBase.arrow_eq key).trans isValue

/-- A patch of the platform leaves the keys of the caller alone. -/
theorem Owned.enrich {patch : PlatformPatch} {after : Option Json} (owned : Owned row)
    (patchObject : SystemIsObject patch.entries)
    (updated : memoryUpdate patch.entries row.metadata = some after) :
    Owned { row with metadata := after } := by
  intro key isOwnable value isLatest
  obtain ⟨entries, isBase, isValue, isOwned⟩ := owned key isOwnable value isLatest
  obtain ⟨merged, isMergedBase, merges⟩ := merged_of_memoryUpdate isBase
    (isObject_of_mem_ownedTexts isOwned) patchObject updated
  have withheld : (withholdCallerOwnedKeys patch.entries entries).get key = none := by
    rw [withholdCallerOwnedKeys, if_neg (by rw [patch.unmarked]; decide), Dict.get_without]
    split
    · rfl
    next notWithheld =>
      cases found : patch.entries.get key with
      | none => rfl
      | some other =>
        refine absurd (List.mem_filter.mpr ⟨isOwnable, ?_⟩) notWithheld
        simp [Dict.has, found, isOwned]
  have unmarked : Dict.get (systemOf (withholdCallerOwnedKeys patch.entries entries))
      "caller_owned" = none := by
    rw [systemOf, get_withhold_system]
    exact isNone_iff_eq_none.mp (isSome_eq_false_iff.mp patch.unmarked)
  refine ⟨merged, isMergedBase, ?_, ?_⟩
  · rw [merges.top key (ne_system_of_mem isOwnable), withheld]
    exact isValue
  · rw [merges.system, unmarked]
    exact isOwned

theorem latest_cons (supplied : Dict Json) (applied : List (Dict Json)) (key : String) :
    latest (supplied :: applied) key = (supplied.get key).or (latest applied key) := by
  rw [latest, List.findSome?_cons]
  cases supplied.get key <;> rfl

theorem has_system_of_marked {patch : Dict Json} (isMarked : marked patch = true) :
    patch.has "_system" = true := by
  cases found : patch.get "_system" with
  | none =>
    rw [marked, systemOf, found] at isMarked
    cases isMarked
  | some system => rw [Dict.has, found, isSome_some]

variable {request : CallerPatch}

theorem mem_marker_of_get {value : Json} (priorOwned : List String)
    (isOwnable : key ∈ callerOwnableKeys) (supplies : request.supplied.get key = some value) :
    key ∈ request.marker priorOwned :=
  List.mem_filter.mpr ⟨isOwnable, by simp [mem_map_fst_of_get supplies]⟩

/-- A patch of the caller that supplies none of the two keys and has read none writes no list. -/
theorem marker_eq_nil (noneSupplied : ∀ key ∈ callerOwnableKeys, request.supplied.get key = none) :
    request.marker [] = [] := by
  refine List.filter_eq_nil_iff.mpr fun key isOwnable => ?_
  simpa using Dict.notMem_of_get_eq_none (noneSupplied key isOwnable)

section Patch

variable {request : CallerPatch} {priorOwned : List String} {after : Option Json} {value : Json}
  (current : ∀ entries, row.metadata = some (.obj entries) →
    SystemIsObject entries ∧ request.Current priorOwned entries)
  (updated : memoryUpdate (request.metadataPatch priorOwned) row.metadata = some after)

include current updated

/-- A key that a patch of the caller supplies is then the caller's. -/
theorem owned_of_supplied (isOwnable : key ∈ callerOwnableKeys)
    (supplies : request.supplied.get key = some value) : OwnedAs after key value := by
  have claims := claims_metadataPatch request priorOwned
  have isMem := mem_marker_of_get priorOwned isOwnable supplies
  have isMarker : Dict.get (systemOf (request.metadataPatch priorOwned)) "caller_owned" =
      some (.arr ((request.marker priorOwned).map Json.str)) := by
    rcases claims.marker with ⟨isMarker, _⟩ | ⟨_, isEmpty | isEmpty⟩
    · exact isMarker
    · rw [isEmpty] at supplies
      cases supplies
    · rw [isEmpty] at isMem
      cases isMem
  have hasSystem : (request.metadataPatch priorOwned).has "_system" = true :=
    has_system_of_marked (by rw [marked, Dict.has, isMarker]; rfl)
  obtain ⟨entries, isBase⟩ := exists_isBase_of_memoryUpdate hasSystem updated
  have isObject : SystemIsObject entries := by
    rcases isBase.cases with ⟨_, rfl⟩ | isStored
    · intro system isSystem
      cases isSystem
    · exact (current entries isStored).1
  obtain ⟨merged, isMergedBase, merges⟩ :=
    merged_of_memoryUpdate isBase isObject claims.isObject updated
  rw [claims.withhold_eq] at merges
  refine ⟨merged, isMergedBase, ?_, ?_⟩
  · rw [merges.top key (ne_system_of_mem isOwnable), claims.top key isOwnable, supplies]
    rfl
  · rw [merges.system, isMarker]
    exact mem_ownedTexts_iff.mpr isMem

/-- A key that is the caller's stays so after a patch of the caller that does not supply it. -/
theorem owned_of_not_supplied (isOwnable : key ∈ callerOwnableKeys)
    (notSupplied : request.supplied.get key = none) (owned : OwnedAs row.metadata key value) :
    OwnedAs after key value := by
  obtain ⟨entries, isBase, isValue, isOwned⟩ := owned
  have claims := claims_metadataPatch request priorOwned
  obtain ⟨merged, isMergedBase, merges⟩ :=
    merged_of_memoryUpdate isBase (isObject_of_mem_ownedTexts isOwned) claims.isObject updated
  rw [claims.withhold_eq] at merges
  refine ⟨merged, isMergedBase, ?_, ?_⟩
  · rwa [merges.top key (ne_system_of_mem isOwnable), claims.top key isOwnable, notSupplied]
  rw [merges.system]
  rcases claims.marker with ⟨isMarker, notEmpty, notNil⟩ | ⟨noMarker, _⟩
  · have isStored : row.metadata = some (.obj entries) := by
      rcases isBase.cases with ⟨_, rfl⟩ | isStored
      · cases isValue
      · exact isStored
    rw [isMarker]
    refine mem_ownedTexts_iff.mpr ?_
    rcases (current entries isStored).2 with covers | ⟨noneSupplied, alone⟩
    · have isCovered := covers key (List.mem_filter.mpr ⟨isOwnable, by simpa using isOwned⟩)
      rw [Dict.has, notSupplied] at isCovered
      refine List.mem_filter.mpr ⟨isOwnable, ?_⟩
      simp [isCovered.resolve_right Bool.false_ne_true]
    · rcases alone with rfl | isEmpty
      · exact absurd (marker_eq_nil noneSupplied) notNil
      · exact absurd isEmpty notEmpty
  · rwa [noMarker]

/-- A patch of the caller claims the keys that it supplies, and the marker keeps the others. -/
theorem Owned.patch (owned : Owned row) :
    Owned { metadata := after, applied := request.supplied :: row.applied } := by
  intro key isOwnable value isLatest
  rw [latest_cons] at isLatest
  cases supplies : request.supplied.get key with
  | some own =>
    rw [supplies] at isLatest
    obtain rfl : own = value := Option.some.inj isLatest
    exact owned_of_supplied current updated isOwnable supplies
  | none =>
    rw [supplies] at isLatest
    exact owned_of_not_supplied current updated isOwnable supplies
      (owned key isOwnable value isLatest)

end Patch

/-- A row that is not patched is as it was. -/
theorem Owned.patched {answer : Answer} {patch : Dict Json} {supplied : List (Dict Json)}
    (owned : Owned row)
    (ofUpdate : ∀ after, memoryUpdate patch row.metadata = some after →
      Owned { metadata := after, applied := supplied ++ row.applied }) :
    Owned (row.patched answer patch supplied) := by
  unfold Row.patched
  split
  · exact owned
  · split
    · exact owned
    next after updated => exact ofUpdate after updated

end Steps

/-- The patches that meet the condition do not disturb what the caller owns. -/
theorem patchesFree : patchSystem.InterferenceFree ClaimsCurrent Owned fun _ _ => True where
  start _ _ _ := trivial
  own pool pid answer phase row next sound current isThread acted := by
    refine ⟨?_, trivial⟩
    have isCurrent := current phase isThread
    cases phase with
    | reading request =>
      cases acted
      exact sound.store
    | applying request priorOwned =>
      cases acted
      refine sound.store.patched fun after updated => Owned.patch ?_ updated sound.store
      intro entries isStored
      rwa [Phase.Current, isStored] at isCurrent
    | enriching patch =>
      cases acted
      exact sound.store.patched fun after updated => sound.store.enrich isCurrent updated
    | finished => cases acted
  others _ _ _ _ _ _ _ _ _ _ _ _ _ _ := trivial

/-- In a run whose patches meet the condition, the row has the summary and tags that the caller
has supplied last. -/
theorem supplied_keys_kept (metadata : Option Json) (events : List (ThreadEvent Request Answer))
    (target : Pool Row Phase)
    (current : GuardedRun patchSystem.step ClaimsCurrent
      ⟨{ metadata := metadata }, fun _ => none⟩ events)
    (runEq : run patchSystem.step ⟨{ metadata := metadata }, fun _ => none⟩ events = some target) :
    KeepsSupplied target.store :=
  have start : Owned { metadata := metadata } := nofun
  (invariant_of_guardedRun patchesFree.preserved (.idle start) current runEq).store.keepsSupplied

/-- A caller supplies a summary and tags one after the other, before the platform's arrive. -/
def oneByOne : List (ThreadEvent Request Answer) :=
  [.start 0 (.patch { metadata := some (some [("summary", .str "mine")]) }), .advance 0 {},
    .advance 0 {}, .start 1 (.patch { metadata := some (some [("tags", .str "todo")]) }),
    .advance 1 {}, .advance 1 {},
    .start 2 (.enrich ⟨[("summary", .str "theirs"), ("tags", .str "other")], rfl⟩), .advance 2 {}]

theorem supplied_keys_kept_oneByOne :
    ∃ target, run patchSystem.step ⟨{}, fun _ => none⟩ oneByOne = some target ∧
      latest target.store.applied "summary" = some (.str "mine") ∧
      KeepsSupplied target.store := by
  have current : GuardedRun patchSystem.step ClaimsCurrent ⟨{}, fun _ => none⟩ oneByOne := by
    decide +kernel
  exact ⟨_, rfl, rfl, supplied_keys_kept none oneByOne _ current rfl⟩

/-- The summary that the caller has supplied last and the one that the row has. -/
def summaries (row : Row) : Option Json × Option Json :=
  (latest row.applied "summary", row.metadata.bind fun document => Jsonb.arrow document "summary")

/-- After a run, the row has a summary other than the caller's. -/
def LosesSummary (metadata : Option Json) (events : List (ThreadEvent Request Answer)) : Prop :=
  ∃ target, run patchSystem.step ⟨{ metadata := metadata }, fun _ => none⟩ events = some target ∧
    summaries target.store = (some (.str "mine"), some (.str "theirs")) ∧
    ¬KeepsSupplied target.store

/-- The summary of the caller, then that of the platform with what it writes in between. -/
def supplyThenEnrich (between : List (ThreadEvent Request Answer)) :
    List (ThreadEvent Request Answer) :=
  [.start 0 (.patch { metadata := some (some [("summary", .str "mine")]) }), .advance 0 {},
    .advance 0 {}] ++ between ++
      [.start 2 (.enrich ⟨[("summary", .str "theirs")], rfl⟩), .advance 2 {}]

/-- The platform's summary replaces the caller's after two patches of the caller that have read
the row before either was applied, on a row whose `_system` is no object, and after a patch of the
platform whose `_system` is none. -/
theorem summary_lost : LosesSummary none
        [.start 0 (.patch { metadata := some (some [("summary", .str "mine")]) }),
          .start 1 (.patch { metadata := some (some [("tags", .str "todo")]) }), .advance 0 {},
          .advance 1 {}, .advance 0 {}, .advance 1 {},
          .start 2 (.enrich ⟨[("summary", .str "theirs")], rfl⟩), .advance 2 {}] ∧
      LosesSummary (some (.obj [("_system", .str "legacy")])) (supplyThenEnrich []) ∧
      LosesSummary none
        (supplyThenEnrich [.start 1 (.enrich ⟨[("_system", .null)], rfl⟩), .advance 1 {}]) := by
  have differs : "theirs" ≠ "mine" := by decide
  refine ⟨⟨_, rfl, rfl, ?_⟩, ⟨_, rfl, rfl, ?_⟩, ⟨_, rfl, rfl, ?_⟩⟩ <;>
  · intro keeps
    exact differs (Json.str.inj (Option.some.inj (keeps "summary" (by decide) _ rfl)))

end Caura.Metadata
