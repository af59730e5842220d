import Caura.Value.Dict
import Caura.Value.Json

/-!
# Settings updates

An organization stores the settings that it overrides as an object.  The payload of an update
is merged into it, with a null that removes its key, and the change is recorded as a flat
dictionary from the paths of the values to what they were and are.

The two do not always agree on what changes: an empty object in the payload adds a key, and a
null removes a stored null, but neither is recorded.
-/

namespace Caura.Settings

open Caura.Value Dict

mutual

/-- `merge_settings_update`. -/
def mergeSettingsUpdate (old : Json) : Json → Json
  | .obj new =>
    match old with
    | .obj stored => .obj (mergeEntries stored new)
    | _ => .obj new
  | new => new

/-- The entries of a payload, merged one by one. -/
def mergeEntries (out : Dict Json) : Dict Json → Dict Json
  | [] => out
  | (key, value) :: entries =>
    mergeEntries (match value with
      | .null => out.pop key
      | .obj _ =>
        match out.get key with
        | some (.obj stored) => out.set key (mergeSettingsUpdate (.obj stored) value)
        | _ => out.set key (mergeSettingsUpdate (.obj []) value)
      | _ => out.set key value)
      entries

end

/-- The overrides of a row; a missing row has none, nor has one that is not an object. -/
def overridesOf : Option Json → Dict Json
  | some (.obj stored) => stored
  | _ => []

/-- What a merge leaves at a key of the payload. -/
def mergedValue (old : Option Json) : Json → Option Json
  | .null => none
  | .obj new => some (.obj (mergeEntries (overridesOf old) new))
  | value => some value

theorem get_mergeEntries_singleton (out : Dict Json) (key : String) (value : Json)
    (other : String) :
    (mergeEntries out [(key, value)]).get other =
      if other = key then mergedValue (out.get key) value else out.get other := by
  unfold mergeEntries
  cases value with
  | null => exact get_pop
  | obj new =>
    dsimp only
    split
    next stored isStored =>
      rw [mergeEntries, get_set, isStored]
      rfl
    next notObject =>
      have isEmpty : overridesOf (out.get key) = [] := by
        unfold overridesOf
        split
        next stored isStored => exact absurd isStored (notObject stored)
        · rfl
      rw [mergeEntries, get_set, mergedValue, isEmpty]
      rfl
  | bool | int | float | str | arr => exact get_set

/-- What a merge leaves at a key, for a payload with distinct keys. -/
theorem get_mergeEntries {entries : Dict Json} (distinct : (entries.map Prod.fst).Nodup)
    (out : Dict Json) (key : String) :
    (mergeEntries out entries).get key =
      match entries.get key with
      | none => out.get key
      | some value => mergedValue (out.get key) value := by
  induction entries generalizing out with
  | nil => rfl
  | cons entry entries ih =>
    obtain ⟨name, value⟩ := entry
    rw [List.map_cons, List.nodup_cons] at distinct
    change (mergeEntries (mergeEntries out [(name, value)]) entries).get key = _
    rw [ih distinct.2, get_mergeEntries_singleton, get_cons]
    by_cases isName : key = name
    · rw [if_pos isName, if_pos isName, isName, get_eq_none_of_notMem distinct.1]
    · rw [if_neg isName, if_neg isName]

section Diff

variable (lower : String → String)

/-- `_SECRET_LEAF_SUFFIXES`. -/
def secretLeafSuffixes : List String :=
  ["_token", "_secret", "_api_key", "_password"]

/-- What follows the last dot of a path. -/
def leafOf (path : String) : String :=
  String.ofList (path.toList.reverse.takeWhile (· != '.')).reverse

/-- `_is_secret_path`.  `lower` is `str.lower`. -/
def isSecretPath (path : String) : Bool :=
  "api_keys.".toList.isPrefixOf path.toList ||
    secretLeafSuffixes.any fun ending => ending.toList.isSuffixOf (lower (leafOf path)).toList

/-- `_mask`. -/
def mask : Json → Json
  | .null => .null
  | .str "" => .str ""
  | _ => .str "****"

mutual

/-- What a payload changes at a path. -/
def diffValue (path : String) (old : Json) : Json → Dict Json
  | .obj new =>
    match old with
    | .obj stored => diffEntries (path ++ ".") stored [] new
    | _ => diffEntries (path ++ ".") [] [] new
  | new =>
    if new.equals old then []
    else if isSecretPath lower path then [(path, .arr [mask old, mask new])]
    else [(path, .arr [old, new])]

/-- The entries of a payload, compared one by one. -/
def diffEntries (under : String) (old out : Dict Json) : Dict Json → Dict Json
  | [] => out
  | (key, value) :: entries =>
    diffEntries under old
      (out.update (diffValue (under ++ key) ((old.get key).getD .null) value)) entries

end

/-- `diff_settings`. -/
def diffSettings (old new : Dict Json) : Dict Json :=
  diffEntries lower "" old [] new

end Diff

/-! ## Provider keys -/

/-- `ENCRYPTED_SETTING_PREFIXES`. -/
def encryptedSettingStarts : List String :=
  ["enc:v1:", "enc:v2:"]

/-- The keys that still have the value that was encrypted, with what they are swapped for. -/
def swapOf (current : Dict Json) (expected encrypted : Dict String) : Dict Json :=
  match current.get "api_keys" with
  | some (.obj stored) =>
    expected.filterMap fun entry =>
      (encrypted.get entry.1).bind fun text =>
        if (encryptedSettingStarts.any fun start => start.toList.isPrefixOf text.toList) &&
            (Dict.get stored entry.1).any fun value => value.equals (.str entry.2) then
          some (entry.1, .str text)
        else
          none
  | _ => []

end Caura.Settings
