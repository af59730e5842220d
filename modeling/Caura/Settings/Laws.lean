import Caura.Settings.Order
import Caura.Settings.Profile

/-!
# Settings by path

A payload says at each path that something is to be removed, or which value is to be there, or
nothing.  A merge makes the overrides look as the payload says and leaves the rest, and the
laws of merging follow path by path.

An update is skipped if its diff is empty.  This is right unless a null of the payload meets a
stored null, or an object of the payload meets no object: the merge would remove the one and
set the other, and the diff shows neither.
-/

namespace Caura.Settings

open Caura.Value Option

/-! ## Paths -/

/-- The value at a path. -/
def valueAt (document : Option Json) (path : List String) : Option Json :=
  path.foldl (fun found key => (overridesOf found).get key) document

/-- A value without what is below it. -/
def shown : Json → Json
  | .obj _ => .obj []
  | value => value

/-- What is seen of a document at a path. -/
def seenAt (document : Option Json) (path : List String) : Option Json :=
  (valueAt document path).map shown

/-- What is to be seen where a payload has the value; a null removes what is there. -/
def placed : Json → Option Json
  | .null => none
  | value => some (shown value)

/-- What a payload says is to be seen at a path, if it says something. -/
def saysAt : Option Json → List String → Option (Option Json)
  | none, _ => none
  | some value, [] => some (placed value)
  | some (.obj entries), key :: path => saysAt (Dict.get entries key) path
  | some _, _ :: _ => some none

/-- The documents are the same up to the order of keys. -/
def Same (first second : Json) : Prop :=
  ∀ path, seenAt (some first) path = seenAt (some second) path

variable {path : List String} {value : Json}

theorem valueAt_none : valueAt none path = none := by
  induction path with
  | nil => rfl
  | cons key path ih => exact ih

theorem seenAt_none (path : List String) : seenAt none path = none :=
  congrArg (Option.map shown) valueAt_none

theorem saysAt_none : saysAt none path = none := by
  cases path <;> rfl

/-- A merge makes the overrides look as the payload says. -/
theorem seenAt_mergeEntries {new : Dict Json} (distinct : distinctKeys (.obj new) = true)
    (old : Dict Json) : seenAt (some (.obj (mergeEntries old new))) path =
      (saysAt (some (.obj new)) path).getD (seenAt (some (.obj old)) path) := by
  induction path generalizing old new with
  | nil => rfl
  | cons key path ih =>
    obtain ⟨nodup, below⟩ := distinct_obj.mp distinct
    change seenAt ((mergeEntries old new).get key) path =
      (saysAt (new.get key) path).getD (seenAt (old.get key) path)
    rw [get_mergeEntries nodup]
    cases given : new.get key with
    | none => rw [saysAt_none, getD_none]
    | some value =>
      cases value with
      | obj entries =>
        dsimp only [mergedValue]
        rw [ih (distinct_of_get below given)]
        cases path <;> rfl
      | _ =>
        cases path with
        | nil => rfl
        | cons key path => exact seenAt_none path

/-- Below a value of the payload, it says what that value says. -/
theorem saysAt_append {payload : Option Json} (found : valueAt payload path = some value)
    (below : List String) : saysAt payload (path ++ below) = saysAt (some value) below := by
  induction path generalizing payload with
  | nil =>
    cases found
    rfl
  | cons key path ih =>
    match payload with
    | some (.obj entries) => exact ih found
    | none | some .null | some (.bool _) | some (.int _) | some (.float _) | some (.str _)
    | some (.arr _) => cases valueAt_none.symm.trans found

/-- A payload never says that a null is to be seen. -/
theorem saysAt_ne_null (payload : Option Json) (path : List String) :
    saysAt payload path ≠ some (some .null) := by
  fun_induction saysAt payload path with
  | case1 | case4 => simp
  | case2 value => cases value <;> simp [placed, shown]
  | case3 entries key path ih => exact ih

/-! ## Payloads apart from each other -/

/-- The document has a value at the path that is no object, or an empty one. -/
def IsLeaf (document : Option Json) (path : List String) : Prop :=
  ∃ value, valueAt document path = some value ∧ ∀ entry entries, value ≠ .obj (entry :: entries)

/-- No path to a leaf of one document goes through a leaf of the other.  Payloads are apart if their
values are at each key that both have. -/
def Apart (first second : Option Json) : Prop :=
  ∀ path other, IsLeaf first path → IsLeaf second other → ¬ path <+: other ∧ ¬ other <+: path

theorem exists_leaf : ∀ value : Json, ∃ path, IsLeaf (some value) path
  | .obj ((key, value) :: entries) => by
    obtain ⟨path, leaf, found, isLeaf⟩ := exists_leaf value
    refine ⟨key :: path, leaf, ?_, isLeaf⟩
    change valueAt (Dict.get ((key, value) :: entries) key) path = some leaf
    rwa [Dict.get_cons, if_pos rfl]
  | .obj [] | .null | .bool _ | .int _ | .float _ | .str _ | .arr _ => ⟨[], _, rfl, by simp⟩

section Apart

variable {first second : Option Json} {seen other : Option Json}

theorem Apart.symm (apart : Apart first second) : Apart second first :=
  fun path other isLeaf otherLeaf => (apart other path otherLeaf isLeaf).symm

/-- What says something apart from another that does is an object. -/
theorem Apart.exists_obj (apart : Apart first second) (stated : saysAt first path = some seen)
    (otherStated : saysAt second path = some other) : ∃ entries, first = some (.obj entries) := by
  cases second with
  | none => cases saysAt_none.symm.trans otherStated
  | some value =>
    obtain ⟨leaf, isLeaf⟩ := exists_leaf value
    match first with
    | some (.obj entries) => exact ⟨entries, rfl⟩
    | none => cases saysAt_none.symm.trans stated
    | some .null | some (.bool _) | some (.int _) | some (.float _) | some (.str _)
    | some (.arr _) => exact absurd List.nil_prefix (apart [] leaf ⟨_, rfl, by simp⟩ isLeaf).1

/-- Documents that are apart say the same wherever both say something. -/
theorem Apart.saysAt_eq (apart : Apart first second) (stated : saysAt first path = some seen)
    (otherStated : saysAt second path = some other) : seen = other := by
  induction path generalizing first second with
  | nil =>
    obtain ⟨_, rfl⟩ := apart.exists_obj stated otherStated
    obtain ⟨_, rfl⟩ := apart.symm.exists_obj otherStated stated
    cases stated
    cases otherStated
    rfl
  | cons key path ih =>
    obtain ⟨_, rfl⟩ := apart.exists_obj stated otherStated
    obtain ⟨_, rfl⟩ := apart.symm.exists_obj otherStated stated
    refine ih (fun before after isLeaf otherLeaf => ?_) stated otherStated
    simpa using apart (key :: before) (key :: after) isLeaf otherLeaf

end Apart

/-! ## The laws -/

theorem seenAt_merge (old : Dict Json) (payload : Payload) (path : List String) :
    seenAt (some (mergeSettingsUpdate (.obj old) (.obj payload.entries))) path =
      (saysAt (some (.obj payload.entries)) path).getD (seenAt (some (.obj old)) path) := by
  exact seenAt_mergeEntries payload.distinct old

theorem seenAt_merge_given (old : Dict Json) {payload : Payload}
    (found : valueAt (some (.obj payload.entries)) path = some value) :
    seenAt (some (mergeSettingsUpdate (.obj old) (.obj payload.entries))) path = placed value := by
  have stated := saysAt_append found []
  rw [List.append_nil] at stated
  rw [seenAt_merge, stated]
  rfl

/-- The laws of merging. -/
theorem merge_laws (stored : Dict Json) (first second : Payload) :
    let merge (old : Json) (payload : Payload) := mergeSettingsUpdate old (.obj payload.entries)
    let merged := merge (.obj stored) first
    ((∀ path, seenAt (some (.obj stored)) path ≠ some .null) →
      ∀ path, seenAt (some merged) path ≠ some .null) ∧
    Same (merge merged first) merged ∧
    (∀ path entries key, valueAt (some (.obj first.entries)) path = some (.obj entries) →
      Dict.get entries key = none → ∀ below, seenAt (some merged) (path ++ key :: below) =
        seenAt (some (.obj stored)) (path ++ key :: below)) ∧
    (∀ path value, valueAt (some (.obj first.entries)) path = some value →
      seenAt (some merged) path = placed value) ∧
    ((∀ key, Apart (first.entries.get key) (second.entries.get key)) →
      Same (merge merged second) (merge (merge (.obj stored) second) first)) := by
  intro merge merged
  have seen : ∀ payload path, seenAt (some (merge (.obj stored) payload)) path = _ :=
    seenAt_merge stored
  have seenTwice : ∀ payload next path,
      seenAt (some (merge (merge (.obj stored) payload) next)) path =
        (saysAt (some (.obj next.entries)) path).getD
          (seenAt (some (merge (.obj stored) payload)) path) := by
    intro payload next path
    dsimp only [merge]
    exact seenAt_merge _ next path
  refine ⟨?_, ?_, ?_, ?_, ?_⟩
  · intro noNull path
    rw [seen]
    cases stated : saysAt (some (.obj first.entries)) path with
    | none => exact noNull path
    | some value => exact fun isNull => saysAt_ne_null _ path (stated.trans (congrArg some isNull))
  · intro path
    rw [seenTwice, seen]
    cases saysAt (some (.obj first.entries)) path <;> rfl
  · intro path entries key found absent below
    rw [seen, saysAt_append found, saysAt, absent, saysAt_none]
    rfl
  · exact fun path value => seenAt_merge_given stored
  · intro apart path
    rw [seenTwice, seenTwice, seen, seen]
    cases path with
    | nil => rfl
    | cons key path =>
      change ((saysAt (second.entries.get key) path).getD
        ((saysAt (first.entries.get key) path).getD _)) = (saysAt (first.entries.get key) path).getD
            ((saysAt (second.entries.get key) path).getD _)
      cases stated : saysAt (first.entries.get key) path with
      | none => rfl
      | some value =>
        cases otherStated : saysAt (second.entries.get key) path with
        | none => rfl
        | some other => exact ((apart key).saysAt_eq stated otherStated).symm

/-! ## Skipped updates -/

/-- Every value of the payload is the one that is stored, where a missing one is null. -/
def Agrees (old new : Option Json) : Prop :=
  ∀ path value, valueAt new path = some value → (∀ entries, value ≠ .obj entries) →
    value.equals ((valueAt old path).getD .null) = true

/-- No null of the payload meets a stored value, and each object meets an object. -/
def Meets (old new : Option Json) : Prop :=
  ∀ path, (valueAt new path = some .null → valueAt old path = none) ∧
    ∀ entries, valueAt new path = some (.obj entries) →
      ∃ stored, valueAt old path = some (.obj stored)

/-- What is seen is identical, or both are equal values. -/
def Matches (seen other : Option Json) : Prop :=
  seen = other ∨
    ∃ value stored, seen = some value ∧ other = some stored ∧ value.equals stored = true

/-- Python's equality of documents. -/
def Alike (first second : Json) : Prop :=
  ∀ path, Matches (seenAt (some first) path) (seenAt (some second) path)

section Skip

variable (lower : String → String)

variable {old : Option Json}

theorem agrees_none : Agrees old none :=
  fun _ _ found => nomatch valueAt_none.symm.trans found

/-- The values below an object. -/
theorem agrees_obj {new : Dict Json} :
    Agrees old (some (.obj new)) ↔ ∀ key, Agrees ((overridesOf old).get key) (new.get key) := by
  constructor
  · exact fun agrees key path => agrees (key :: path)
  · intro agrees path value found notObject
    cases path with
    | nil =>
      cases found
      exact absurd rfl (notObject new)
    | cons key path => exact agrees key path value found notObject

theorem agrees_leaf (notObject : ∀ entries, value ≠ .obj entries) :
    Agrees old (some value) ↔ value.equals (old.getD .null) = true := by
  constructor
  · exact fun agrees => agrees [] value rfl notObject
  · intro equal path leaf found _
    cases path with
    | nil =>
      cases found
      exact equal
    | cons key path =>
      cases value with
      | obj entries => exact absurd rfl (notObject entries)
      | _ => cases valueAt_none.symm.trans found

theorem diffValue_obj (path : String) (old : Json) (new : Dict Json) :
    diffValue lower path old (.obj new) =
      diffEntries lower (path ++ ".") (overridesOf (some old)) [] new := by
  cases old <;> rfl

mutual

theorem diffValue_eq_nil_iff : ∀ new, distinctKeys new = true → ∀ path (old : Option Json),
    diffValue lower path (old.getD .null) new = [] ↔ Agrees old (some new)
  | .obj new => by
    intro distinct path old
    obtain ⟨nodup, below⟩ := distinct_obj.mp distinct
    have sameEntries : overridesOf (some (old.getD .null)) = overridesOf old := by
      cases old <;> rfl
    rw [diffValue_obj, sameEntries, agrees_obj, diffEntries_eq_nil_iff new nodup below]
    exact and_iff_right rfl
  | .null | .bool _ | .int _ | .float _ | .str _ | .arr _ => by
    intro _ path old
    rw [agrees_leaf (by simp)]
    unfold diffValue
    split_ifs with equal <;> simp [equal]

theorem diffEntries_eq_nil_iff : ∀ new : Dict Json, (new.map Prod.fst).Nodup →
    distinctEntries new = true → ∀ under old out, diffEntries lower under old out new = [] ↔
      out = [] ∧ ∀ key, Agrees (old.get key) (new.get key)
  | [] => by
    intro _ _ under old out
    exact (and_iff_left fun _ => agrees_none).symm
  | (name, value) :: new => by
    intro nodup distinct under old out
    rw [List.map_cons, List.nodup_cons] at nodup
    rw [distinctEntries, Bool.and_eq_true] at distinct
    rw [diffEntries, diffEntries_eq_nil_iff new nodup.2 distinct.2, Dict.update_eq_nil_iff,
      diffValue_eq_nil_iff value distinct.1, and_assoc]
    simp only [Dict.get_cons]
    refine and_congr_right fun _ => ⟨?_, fun agrees => ⟨?_, fun key => ?_⟩⟩
    · rintro ⟨first, rest⟩ key
      split
      next isName => rwa [isName]
      · exact rest key
    · simpa using agrees name
    · have agree := agrees key
      split at agree
      next isName =>
        rw [isName, Dict.get_eq_none_of_notMem nodup.1]
        exact agrees_none
      · exact agree

end

/-- The diff is empty exactly when every value of the payload is stored. -/
theorem diffSettings_eq_nil_iff (old : Dict Json) (payload : Payload) :
    diffSettings lower old payload.entries = [] ↔
      Agrees (some (.obj old)) (some (.obj payload.entries)) := by
  obtain ⟨nodup, below⟩ := distinct_obj.mp payload.distinct
  rw [diffSettings, diffEntries_eq_nil_iff lower _ nodup below, agrees_obj]
  exact and_iff_right rfl

/-- What a value says that is no object and is stored already is what is seen. -/
theorem matches_leaf {seen : Option Json} (notObject : ∀ entries, value ≠ .obj entries)
    (meets : Meets old (some value)) (agrees : Agrees old (some value))
    (stated : saysAt (some value) path = some seen) : Matches seen (seenAt old path) := by
  have equal := agrees [] value rfl notObject
  cases old with
  | none =>
    left
    rw [seenAt_none]
    cases value <;> simp [valueAt, Json.equals, Json.number] at equal
    cases path <;> exact (Option.some.inj stated).symm
  | some stored =>
    have notNull : value ≠ .null := by
      rintro rfl
      cases (meets []).1 rfl
    have isLeaf : overridesOf (some stored) = [] ∧ shown stored = stored := by
      cases stored with
      | obj => cases value <;> simp [valueAt, Json.equals, Json.number] at equal notObject
      | _ => exact ⟨rfl, rfl⟩
    cases path with
    | nil =>
      cases stated
      refine .inr ⟨value, stored, ?_, congrArg some isLeaf.2, equal⟩
      cases value <;> simp [placed, shown] at notObject notNull ⊢
    | cons key path =>
      left
      change seen = seenAt ((overridesOf (some stored)).get key) path
      rw [isLeaf.1]
      cases value <;> simp [saysAt] at stated notObject <;> exact stated ▸ (seenAt_none path).symm

theorem Meets.below {new : Dict Json} (meets : Meets old (some (.obj new))) (key : String) :
    Meets ((overridesOf old).get key) (new.get key) :=
  fun path => meets (key :: path)

/-- What a payload says that is stored already is what is seen. -/
theorem Meets.matches : ∀ {path : List String} {old new seen : Option Json}, Meets old new →
    Agrees old new → saysAt new path = some seen → Matches seen (seenAt old path)
  | path, _, none, _, _, _, stated => nomatch saysAt_none.symm.trans stated
  | [], old, some (.obj entries), _, meets, _, stated => by
    obtain ⟨stored, isStored⟩ : ∃ stored, old = some (.obj stored) := (meets []).2 entries rfl
    cases isStored
    cases stated
    exact .inl rfl
  | key :: _, _, some (.obj _), _, meets, agrees, stated =>
    (meets.below key).matches (agrees_obj.mp agrees key) stated
  | _, _, some .null, _, meets, agrees, stated | _, _, some (.bool _), _, meets, agrees, stated
  | _, _, some (.int _), _, meets, agrees, stated | _, _, some (.float _), _, meets, agrees, stated
  | _, _, some (.str _), _, meets, agrees, stated | _, _, some (.arr _), _, meets, agrees, stated =>
    matches_leaf (by simp) meets agrees stated

/-- Skipping an update whose diff is empty is sound, and resets hold, exactly if no null of a
payload that is stored already meets a stored value and each of its objects meets an object. -/
theorem skip_sound_iff (old : Dict Json) (payload : Payload) (actor : Actor) :
    ((diffSettings lower old payload.entries = [] →
        Alike (mergeSettingsUpdate (.obj old) (.obj payload.entries)) (.obj old)) ∧
      ∀ path, valueAt (some (.obj payload.entries)) path = some .null →
        valueAt (some (.obj ((Call.update payload.entries actor).effect lower old).overrides))
          path = none) ↔
      (Agrees (some (.obj old)) (some (.obj payload.entries)) →
        Meets (some (.obj old)) (some (.obj payload.entries))) := by
  rw [diffSettings_eq_nil_iff]
  constructor
  · rintro ⟨sound, _⟩ agrees path
    refine ⟨fun found => ?_, fun entries found => ?_⟩ <;>
      have alike := seenAt_merge_given old found ▸ sound agrees path
    · rcases alike with none | ⟨_, _, isSome, _⟩
      · exact map_eq_none_iff.mp none.symm
      · cases isSome
    · obtain ⟨stored, isStored, isObject⟩ : ∃ stored, valueAt (some (.obj old)) path = some stored ∧
          (Json.obj []).equals (shown stored) = true := by
        rcases alike with same | ⟨_, _, isSome, isSeen, equal⟩
        · obtain ⟨stored, isStored, isShown⟩ := map_eq_some_iff.mp same.symm
          exact ⟨stored, isStored, isShown ▸ rfl⟩
        · cases isSome
          obtain ⟨stored, isStored, rfl⟩ := map_eq_some_iff.mp isSeen
          exact ⟨stored, isStored, equal⟩
      cases stored <;> simp [shown, Json.equals, Json.number] at isObject
      exact ⟨_, isStored⟩
  · intro meets
    refine ⟨fun agrees path => ?_, fun path found => ?_⟩
    · rw [seenAt_merge]
      cases stated : saysAt (some (.obj payload.entries)) path with
      | none => exact .inl rfl
      | some seen => exact (meets agrees).matches agrees stated
    · unfold Call.effect
      dsimp only
      split
      next noDiff =>
        have agrees := (diffSettings_eq_nil_iff lower old payload).mp (List.isEmpty_iff.mp noDiff)
        exact ((meets agrees) path).1 found
      · have absent := seenAt_merge_given old found
        exact map_eq_none_iff.mp absent

end Skip

/-- A profile that was reset when resets were stored as nulls. -/
def resetProfile : Dict Json :=
  [("search", .obj [("default_profile", .null)])]

/-- Resetting the profile again is skipped, and the null stays. -/
theorem stored_null_outlives_reset : diffSettings id resetProfile resetProfile = [] ∧
      ¬ Alike (mergeSettingsUpdate (.obj resetProfile) (.obj resetProfile)) (.obj resetProfile) ∧
      valueAt (some (.obj ((Call.update resetProfile {}).effect id resetProfile).overrides))
        ["search", "default_profile"] = some .null := by
  refine ⟨by decide +kernel, fun alike => ?_, rfl⟩
  rcases alike ["search", "default_profile"] with isNull | ⟨_, _, isSome, _⟩
  · cases isNull
  · cases isSome

end Caura.Settings
