import Caura.Settings.Merge
import Caura.Transition.Core
import Caura.Transition.Fallible

/-!
# The search profile of an organization

An update is validated as a payload and then merged into the stored overrides.  Its search
profile may set at most one of the two pool selectors.  The rule is checked on the payload
alone, so two updates that each set one selector leave both set; the stored profile keeps the
rule along the updates that, where they set one selector, also give the other if it is stored.
-/

namespace Caura.Settings

open Caura.Value Caura.Transition List Dict

/-! ## Payloads -/

mutual

/-- No object in the document has a key twice. -/
def distinctKeys : Json → Bool
  | .arr items => distinctItems items
  | .obj entries => (entries.map Prod.fst).Nodup && distinctEntries entries
  | _ => true

/-- The same of items. -/
def distinctItems : List Json → Bool
  | [] => true
  | item :: items => distinctKeys item && distinctItems items

/-- The same of values. -/
def distinctEntries : Dict Json → Bool
  | [] => true
  | (_, value) :: entries => distinctKeys value && distinctEntries entries

end

/-- The body of an update, a dictionary of dictionaries. -/
structure Payload where
  entries : Dict Json
  distinct : distinctKeys (.obj entries) = true

/-! ## Knobs -/

/-- The type of a knob. -/
inductive KnobType
  | int
  | float
  deriving DecidableEq, Repr

/-- Its name. -/
def KnobType.text : KnobType → String
  | .int => "int"
  | .float => "float"

/-- `SearchKnob`. -/
structure SearchKnob where
  valueType : KnobType
  lo : Rat
  hi : Rat

/-- `SEARCH_KNOBS`. -/
def searchKnobs : Dict SearchKnob :=
  [("top_k", ⟨.int, 1, 200⟩), ("min_similarity", ⟨.float, 1 / 10, 9 / 10⟩),
    ("graph_max_hops", ⟨.int, 0, 3⟩),
    ("fts_weight", ⟨.float, 0, 1⟩),
    ("freshness_floor", ⟨.float, 0, 1⟩),
    ("freshness_decay_days", ⟨.int, 7, 730⟩),
    ("recall_boost_cap", ⟨.float, 1, 3⟩),
    ("recall_decay_window_days", ⟨.int, 7, 365⟩),
    ("similarity_blend", ⟨.float, 0, 1⟩),
    ("fts_rank_scale", ⟨.float, 1, 20⟩),
    ("candidate_pool_size", ⟨.int, 0, 200⟩),
    ("score_formula", ⟨.int, 0, 1⟩),
    ("ann_pool_size", ⟨.int, 0, 1000⟩),
    ("ann_pool_shadow", ⟨.int, 0, 1⟩),
    ("recall_boost_source", ⟨.int, 0, 1⟩),
    ("freshness_reference", ⟨.int, 0, 1⟩),
    ("verified_boost", ⟨.int, 0, 1⟩),
    ("verified_boost_human", ⟨.float, 1, 3 / 2⟩),
    ("verified_boost_tool", ⟨.float, 1, 3 / 2⟩),
    ("verified_boost_corroborated", ⟨.float, 1, 3 / 2⟩),
    ("verified_boost_disputed", ⟨.float, 1 / 2, 1⟩)]

/-! ## Refusals -/

/-- `type(value).__name__`. -/
def typeName : Json → String
  | .null => "NoneType"
  | .bool _ => "bool"
  | .int _ => "int"
  | .float _ => "float"
  | .str _ => "str"
  | .arr _ => "list"
  | .obj _ => "dict"

/-- Why an update is refused. -/
inductive Refusal
  | unknownKeys (paths : List String)
  | notObject (path : String) (value : Json)
  | leafType (path : String) (expected : List String) (value : Json)
  | leafRange (path : String) (lo hi : Int) (value : Json)
  | noSearchObject (value : Json)
  | profileNotObject
  | unknownKnob (key : String)
  | knobType (key : String) (knob : SearchKnob) (value : Json)
  | knobRange (key : String) (knob : SearchKnob) (value : Json)
  | bothPools
  | other

section Message

/-- `repr` of a text, of texts and of a value, and `str` of a bound of a knob and of its value. -/
structure Repr where
  text : String → String
  texts : List String → String
  value : Json → String
  number : KnobType → Rat → String
  shown : KnobType → Json → String

variable (repr : Repr)

/-- The text of the `ValueError`.  A search section that is no object is refused by
`_check_keys` first, or else raises an `AttributeError`. -/
def Refusal.message : Refusal → String
  | .unknownKeys paths => "Unknown settings key(s): " ++ repr.texts paths
  | .notObject path value =>
    "Settings key " ++ repr.text path ++ " must be an object, got " ++ typeName value
  | .leafType path expected value =>
    "Settings key " ++ repr.text path ++ " must be " ++ " or ".intercalate expected ++ ", got " ++
      typeName value
  | .leafRange path lo hi value =>
    "Settings key " ++ repr.text path ++ " must be in [" ++ toString lo ++ ", " ++ toString hi ++
      "], got " ++ repr.value value
  | .noSearchObject value => "'" ++ typeName value ++ "' object has no attribute 'get'"
  | .profileNotObject => "search.default_profile must be an object"
  | .unknownKnob key =>
    "search.default_profile: unknown key " ++ repr.text key ++ " (allowed: " ++
      repr.texts ((sortKeys searchKnobs).map Prod.fst) ++ ")"
  | .knobType key knob value =>
    "search.default_profile." ++ key ++ " must be " ++ knob.valueType.text ++ ", got " ++
      typeName value
  | .knobRange key knob value =>
    "search.default_profile." ++ key ++ " must be in [" ++ repr.number knob.valueType knob.lo ++
      ", " ++ repr.number knob.valueType knob.hi ++ "], got " ++ repr.shown knob.valueType value
  | .bothPools =>
    "search.default_profile: ann_pool_size and candidate_pool_size are " ++
      "mutually exclusive pool selectors — set at most one of them > 0"
  | .other => ""

end Message

/-! ## Checks -/

/-- The rules that do not concern the search profile alone: `DEFAULT_SETTINGS`, the expected
types and ranges of leaves, and the checks of other sections on the stored overrides and the
payload. -/
structure Rules where
  defaultSettings : Dict Json
  leafTypes : Dict (List String)
  leafRanges : Dict (Int × Int)
  otherChecks : Dict Json → Dict Json → Bool

/-- `_NULLABLE_OBJECT_KEYS`. -/
def nullableObjectKeys : List String :=
  ["search.default_profile"]

/-- A path with a key after it. -/
def joinPath (path key : String) : String :=
  if path = "" then key else path ++ "." ++ key

mutual

/-- `_check_keys` on a value that has to be an object. -/
def checkKeys (schema : Dict Json) (path : String) : Json → Except Refusal Unit
  | .obj payload =>
    let unknown := (payload.map Prod.fst).filter fun key => !schema.has key
    if unknown.isEmpty then
      checkEntries schema path payload
    else
      .error (.unknownKeys ((unknown.map (joinPath path)).insertionSort (· ≤ ·)))
  | value => .error (.notObject path value)

/-- The loop of `_check_keys`. -/
def checkEntries (schema : Dict Json) (path : String) : Dict Json → Except Refusal Unit
  | [] => .ok ()
  | (key, value) :: payload =>
    match schema.get key with
    | some (.obj section_) =>
      match value with
      | .obj entries =>
        if section_.isEmpty then
          checkEntries schema path payload
        else
          match checkKeys section_ (joinPath path key) (.obj entries) with
          | .error refusal => .error refusal
          | .ok _ => checkEntries schema path payload
      | .null =>
        if joinPath path key ∈ nullableObjectKeys then checkEntries schema path payload
        else .error (.notObject (joinPath path key) .null)
      | value => .error (.notObject (joinPath path key) value)
    | _ => checkEntries schema path payload

end

/-- `isinstance` of a leaf value; a truth value is no number here. -/
def hasType (expected : List String) (value : Json) : Bool :=
  expected.contains (typeName value)

mutual

/-- `_validate_leaf_types` on a value. -/
def checkLeaf (rules : Rules) (path : String) : Json → Except Refusal Unit
  | .obj entries => checkLeaves rules (path ++ ".") entries
  | .null => .ok ()
  | value =>
    match rules.leafTypes.get path with
    | none => .ok ()
    | some expected =>
      if !hasType expected value then .error (.leafType path expected value)
      else
        match rules.leafRanges.get path with
        | none => .ok ()
        | some (lo, hi) =>
          if value.number.any fun number => (lo : Rat) ≤ number && number ≤ (hi : Rat) then .ok ()
          else .error (.leafRange path lo hi value)

/-- The loop of `_validate_leaf_types`. -/
def checkLeaves (rules : Rules) (under : String) : Dict Json → Except Refusal Unit
  | [] => .ok ()
  | (key, value) :: payload =>
    match checkLeaf rules (under ++ key) value with
    | .error refusal => .error refusal
    | .ok _ => checkLeaves rules under payload

end

/-- The value of a knob.  An integer is taken where a float is expected. -/
def checkKnob (key : String) (value : Json) : Except Refusal Unit :=
  match searchKnobs.get key with
  | none => .error (.unknownKnob key)
  | some knob =>
    let inBounds (number : Rat) : Except Refusal Unit :=
      if number < knob.lo ∨ number > knob.hi then .error (.knobRange key knob value) else .ok ()
    match value, knob.valueType with
    | .null, _ => .ok ()
    | .int number, _ => inBounds number
    | .float number, .float => inBounds number
    | _, _ => .error (.knobType key knob value)

/-- The loop of `_validate_default_search_profile`. -/
def checkKnobs : Dict Json → Except Refusal Unit
  | [] => .ok ()
  | (key, value) :: profile =>
    match checkKnob key value with
    | .error refusal => .error refusal
    | .ok _ => checkKnobs profile

/-- `int(dp.get(key) or 0)`, once the knobs are checked. -/
def selectorOf (profile : Dict Json) (key : String) : Int :=
  match profile.get key with
  | some (.int number) => number
  | _ => 0

/-- The first pool selector. -/
def annPoolSize : String :=
  "ann_pool_size"

/-- The second one. -/
def candidatePoolSize : String :=
  "candidate_pool_size"

/-- `_validate_default_search_profile`. -/
def validateDefaultSearchProfile (payload : Dict Json) : Except Refusal Unit :=
  match payload.get "search" with
  | none => .ok ()
  | some (.obj search) =>
    match Dict.get search "default_profile" with
    | none | some .null => .ok ()
    | some (.obj profile) =>
      match checkKnobs profile with
      | .error refusal => .error refusal
      | .ok _ =>
        if 0 < selectorOf profile annPoolSize ∧ 0 < selectorOf profile candidatePoolSize then
          .error .bothPools
        else
          .ok ()
    | some _ => .error .profileNotObject
  | some value => .error (.noSearchObject value)

/-! ## Updates -/

/-- `_is_display_mask`. -/
def isDisplayMask : Json → Bool
  | .str text => "****".toList.isPrefixOf text.toList
  | _ => false

/-- A section of a payload without what is only displayed. -/
def filteredEntry (entry : String × Json) : Option (String × Json) :=
  match entry with
  | ("provider_credentials", _) => none
  | ("api_keys", .obj keys) =>
    let kept := keys.filter fun key => !isDisplayMask key.2
    if kept.isEmpty then none else some ("api_keys", .obj kept)
  | entry => some entry

/-- The payload with its provider keys encrypted, if it has some. -/
def withEncryptedKeys (encrypt : Dict Json → Dict Json) (payload : Dict Json) : Dict Json :=
  match payload.get "api_keys" with
  | some (.obj keys) => payload.set "api_keys" (.obj (encrypt keys))
  | _ => payload

section Update

variable (rules : Rules) (lower : String → String) (encrypt : Dict Json → Dict Json)

/-- The checks of `update_settings` on the filtered payload. -/
def validateUpdate (overrides newSettings : Dict Json) : Except Refusal Unit := do
  (if rules.otherChecks overrides newSettings then .ok () else .error .other)
  checkKeys rules.defaultSettings "" (.obj newSettings)
  checkLeaves rules "" newSettings
  validateDefaultSearchProfile newSettings

/-- `update_settings`: the overrides that storage has after it. -/
def updateSettings (overrides : Dict Json) (payload : Payload) : Except Refusal (Dict Json) :=
  let newSettings := payload.entries.filterMap filteredEntry
  match validateUpdate rules overrides newSettings with
  | .error refusal => .error refusal
  | .ok _ =>
    let sent := withEncryptedKeys encrypt newSettings
    if (diffSettings lower overrides sent).isEmpty then .ok overrides
    else .ok (mergeEntries overrides sent)

/-- A call that is refused changes nothing. -/
def updateStep : Step (Dict Json) Payload
  | overrides, payload =>
    match updateSettings rules lower encrypt overrides payload with
    | .error _ => some overrides
    | .ok stored => some stored

end Update

/-! ## Pool selectors -/

/-- The search profile of some overrides. -/
def profileOf (overrides : Dict Json) : Dict Json :=
  overridesOf ((overridesOf (overrides.get "search")).get "default_profile")

/-- A value above zero. -/
def isPositive (value : Option Json) : Bool :=
  value.any fun value => value.number.any fun number => 0 < number

/-- At most one pool selector is above zero. -/
def Exclusive (overrides : Dict Json) : Prop :=
  ¬ (isPositive ((profileOf overrides).get annPoolSize) = true ∧
    isPositive ((profileOf overrides).get candidatePoolSize) = true)

instance (overrides : Dict Json) : Decidable (Exclusive overrides) :=
  inferInstanceAs (Decidable (¬ (_ ∧ _)))

/-- A payload that sets one selector above zero also gives the other if it is stored above
zero. -/
def GivesOther (overrides : Dict Json) (payload : Payload) : Prop :=
  ∀ selector ∈ [(annPoolSize, candidatePoolSize), (candidatePoolSize, annPoolSize)],
    isPositive ((profileOf payload.entries).get selector.1) = true →
      isPositive ((profileOf overrides).get selector.2) = true →
        (profileOf payload.entries).has selector.2 = true

instance (overrides : Dict Json) (payload : Payload) : Decidable (GivesOther overrides payload) :=
  inferInstanceAs (Decidable (∀ selector ∈ _, _))

/-! ### Lookups in a payload -/

variable {entries payload profile stored overrides : Dict Json} {key : String} {value : Json}

theorem distinct_of_get (distinct : distinctEntries entries = true)
    (isValue : entries.get key = some value) : distinctKeys value = true := by
  induction entries with
  | nil => cases isValue
  | cons entry entries ih =>
    rw [distinctEntries, Bool.and_eq_true] at distinct
    rw [get_cons] at isValue
    split at isValue
    · cases isValue
      exact distinct.1
    · exact ih distinct.2 isValue

theorem distinct_obj : distinctKeys (.obj entries) = true ↔
      (entries.map Prod.fst).Nodup ∧ distinctEntries entries = true := by
  rw [distinctKeys, Bool.and_eq_true, decide_eq_true_eq]

theorem fst_of_filteredEntry {entry kept : String × Json}
    (isKept : filteredEntry entry = some kept) :
    kept.1 = entry.1 := by
  revert isKept
  fun_cases filteredEntry entry <;> intro isKept <;> cases isKept <;> rfl

theorem filteredEntry_search (value : Json) :
    filteredEntry ("search", value) = some ("search", value) := by
  simp [filteredEntry]

/-- The filter leaves the search section alone. -/
theorem get_filterMap_search :
    Dict.get (entries.filterMap filteredEntry) "search" = entries.get "search" := by
  induction entries with
  | nil => rfl
  | cons entry entries ih =>
    obtain ⟨name, value⟩ := entry
    by_cases isSearch : name = "search"
    · subst isSearch
      rw [filterMap_cons_some (filteredEntry_search value), get_cons, get_cons,
        if_pos rfl, if_pos rfl]
    · rw [get_cons, if_neg (Ne.symm isSearch)]
      cases isKept : filteredEntry (name, value) with
      | none => rw [filterMap_cons_none isKept, ih]
      | some kept =>
        have sameName : kept.1 = name := fst_of_filteredEntry isKept
        rw [filterMap_cons_some isKept, get_cons, sameName, if_neg (Ne.symm isSearch), ih]

theorem sublist_filterMap :
    List.Sublist ((entries.filterMap filteredEntry).map Prod.fst) (entries.map Prod.fst) := by
  induction entries with
  | nil => exact .slnil
  | cons entry entries ih =>
    cases isKept : filteredEntry entry with
    | none =>
      rw [filterMap_cons_none isKept]
      exact ih.cons _
    | some kept =>
      rw [filterMap_cons_some isKept, map_cons, fst_of_filteredEntry isKept]
      exact ih.cons_cons _

/-- The payload that is sent to storage. -/
def Payload.sent (encrypt : Dict Json → Dict Json) (payload : Payload) : Dict Json :=
  withEncryptedKeys encrypt (payload.entries.filterMap filteredEntry)

theorem Payload.get_sent_search (encrypt : Dict Json → Dict Json) (payload : Payload) :
    (payload.sent encrypt).get "search" = payload.entries.get "search" := by
  rw [Payload.sent, withEncryptedKeys]
  split
  · rw [get_set, if_neg (by decide), get_filterMap_search]
  · exact get_filterMap_search

theorem Payload.nodup_sent (encrypt : Dict Json → Dict Json) (payload : Payload) :
    ((payload.sent encrypt).map Prod.fst).Nodup := by
  have filtered : ((payload.entries.filterMap filteredEntry).map Prod.fst).Nodup :=
    (distinct_obj.mp payload.distinct).1.sublist sublist_filterMap
  rw [Payload.sent, withEncryptedKeys]
  split
  next keys isKeys => rwa [map_fst_set isKeys]
  · exact filtered

/-! ### The profile after a merge -/

/-- What validation leaves of a profile: none, a reset, or knobs that are checked and do not
set both selectors. -/
theorem profile_cases (valid : validateDefaultSearchProfile payload = .ok ()) :
    payload.get "search" = none ∨ ∃ search, payload.get "search" = some (.obj search) ∧
      (Dict.get search "default_profile" = none ∨ Dict.get search "default_profile" = some .null ∨
        ∃ profile, Dict.get search "default_profile" = some (.obj profile) ∧
          checkKnobs profile = .ok () ∧
          ¬ (0 < selectorOf profile annPoolSize ∧ 0 < selectorOf profile candidatePoolSize)) := by
  revert valid
  fun_cases validateDefaultSearchProfile payload <;> intro valid <;> try cases valid
  next noSearch => exact .inl noSearch
  next search isSearch noProfile => exact .inr ⟨search, isSearch, .inl noProfile⟩
  next search isSearch isReset => exact .inr ⟨search, isSearch, .inr (.inl isReset)⟩
  next search isSearch profile isProfile _ isChecked notBoth =>
    exact .inr ⟨search, isSearch, .inr (.inr ⟨profile, isProfile, isChecked, notBoth⟩)⟩

variable {knob : SearchKnob}

/-- The value of an integer knob that is checked. -/
theorem int_of_checkKnobs (isChecked : checkKnobs profile = .ok ())
    (isValue : profile.get key = some value) (isKnob : searchKnobs.get key = some knob)
    (isInt : knob.valueType = .int) : value = .null ∨ ∃ number, value = .int number := by
  induction profile with
  | nil => cases isValue
  | cons entry profile ih =>
    obtain ⟨name, first⟩ := entry
    unfold checkKnobs at isChecked
    split at isChecked
    · cases isChecked
    next isFirst =>
      rw [get_cons] at isValue
      split at isValue
      next isName =>
        obtain rfl : first = value := Option.some.inj isValue
        subst isName
        unfold checkKnob at isFirst
        rw [isKnob] at isFirst
        dsimp only at isFirst
        rw [isInt] at isFirst
        cases first with
        | null => exact .inl rfl
        | int number => exact .inr ⟨number, rfl⟩
        | bool | float | str | arr | obj => cases isFirst
      · exact ih isChecked isValue

section Merge

variable {stored sent : Dict Json} (distinct : (sent.map Prod.fst).Nodup)

include distinct

theorem profileOf_merge_none (noSearch : sent.get "search" = none) :
    profileOf (mergeEntries stored sent) = profileOf stored := by
  rw [profileOf, get_mergeEntries distinct, noSearch]
  rfl

/-- What a merge makes of the profile, given the search section of the payload. -/
theorem profileOf_merge {search : Dict Json} (isSearch : sent.get "search" = some (.obj search))
    (distinctSearch : (search.map Prod.fst).Nodup) :
    profileOf (mergeEntries stored sent) =
      match search.get "default_profile" with
      | none => profileOf stored
      | some value => overridesOf
          (mergedValue ((overridesOf (stored.get "search")).get "default_profile") value) := by
  rw [profileOf, get_mergeEntries distinct, isSearch]
  change overridesOf ((mergeEntries (overridesOf (stored.get "search")) search).get _) = _
  rw [get_mergeEntries distinctSearch]
  cases search.get "default_profile" with
  | none | some value => rfl

end Merge

section

variable (distinct : (profile.map Prod.fst).Nodup) (isChecked : checkKnobs profile = .ok ())

include distinct isChecked

/-- The value of a selector after a profile is merged: the one given, or else the stored one. -/
theorem isPositive_merge (isKnob : searchKnobs.get key = some knob) (isInt : knob.valueType = .int)
    (positive : isPositive ((mergeEntries stored profile).get key) = true) :
    (profile.has key = false ∧ isPositive (stored.get key) = true) ∨
      (isPositive (profile.get key) = true ∧ 0 < selectorOf profile key) := by
  rw [get_mergeEntries distinct] at positive
  cases given : profile.get key with
  | none =>
    rw [given] at positive
    exact .inl ⟨by rw [Dict.has, given]; rfl, positive⟩
  | some value =>
    rw [given] at positive
    rcases int_of_checkKnobs isChecked given isKnob isInt with rfl | ⟨number, rfl⟩
    · cases positive
    · refine .inr ⟨positive, ?_⟩
      rw [selectorOf, given]
      exact Rat.intCast_pos.mp (of_decide_eq_true positive)

/-- The profile of a payload that passes validation is merged with the stored one. -/
theorem exclusive_of_profile
    (notBoth : ¬ (0 < selectorOf profile annPoolSize ∧ 0 < selectorOf profile candidatePoolSize))
    (exclusive : ¬ (isPositive (stored.get annPoolSize) = true ∧
      isPositive (stored.get candidatePoolSize) = true))
    (givesOther : ∀ selector ∈ [(annPoolSize, candidatePoolSize), (candidatePoolSize, annPoolSize)],
      isPositive (profile.get selector.1) = true → isPositive (stored.get selector.2) = true →
        profile.has selector.2 = true) :
    ¬ (isPositive ((mergeEntries stored profile).get annPoolSize) = true ∧
      isPositive ((mergeEntries stored profile).get candidatePoolSize) = true) := by
  rintro ⟨ann, candidate⟩
  rcases isPositive_merge distinct isChecked rfl rfl ann with
    ⟨annLeft, annStored⟩ | ⟨annGiven, annSet⟩
  · rcases isPositive_merge distinct isChecked rfl rfl candidate with
      ⟨_, candidateStored⟩ | ⟨candidateGiven, _⟩
    · exact exclusive ⟨annStored, candidateStored⟩
    · have given := givesOther (candidatePoolSize, annPoolSize) (by simp) candidateGiven annStored
      cases annLeft.symm.trans given
  · rcases isPositive_merge distinct isChecked rfl rfl candidate with
      ⟨candidateLeft, candidateStored⟩ | ⟨_, candidateSet⟩
    · have given := givesOther (annPoolSize, candidatePoolSize) (by simp) annGiven candidateStored
      cases candidateLeft.symm.trans given
    · exact notBoth ⟨annSet, candidateSet⟩

end

variable {lower : String → String} {encrypt : Dict Json → Dict Json}

/-- An update stores the overrides as they were, or merged with a payload whose profile is
valid. -/
theorem merged_of_update {rules : Rules} {payload : Payload}
    (updated : updateSettings rules lower encrypt overrides payload = .ok stored) :
    stored = overrides ∨ (stored = mergeEntries overrides (payload.sent encrypt) ∧
      validateDefaultSearchProfile (payload.entries.filterMap filteredEntry) = .ok ()) := by
  unfold updateSettings at updated
  dsimp only at updated
  split at updated
  · cases updated
  next isValid =>
    split at updated
    · exact .inl (Except.ok.inj updated).symm
    · obtain ⟨_, _, isValid⟩ := bind_eq_ok_iff.mp isValid
      obtain ⟨_, _, isValid⟩ := bind_eq_ok_iff.mp isValid
      obtain ⟨_, _, isValid⟩ := bind_eq_ok_iff.mp isValid
      exact .inr ⟨(Except.ok.inj updated).symm, isValid⟩

/-- An update that gives the other selector keeps the rule. -/
theorem exclusive_of_update {rules : Rules} {payload : Payload} (exclusive : Exclusive overrides)
    (givesOther : GivesOther overrides payload)
    (updated : updateSettings rules lower encrypt overrides payload = .ok stored) :
    Exclusive stored := by
  rcases merged_of_update updated with rfl | ⟨rfl, isValid⟩
  · exact exclusive
  have distinctSent := payload.nodup_sent encrypt
  have sameSearch := payload.get_sent_search encrypt
  rcases profile_cases isValid with noSearch | ⟨search, isSearch, profileCases⟩
  · rw [get_filterMap_search] at noSearch
    rwa [Exclusive, profileOf_merge_none distinctSent (sameSearch.trans noSearch)]
  rw [get_filterMap_search] at isSearch
  have distinctSearch := distinct_obj.mp
    (distinct_of_get (distinct_obj.mp payload.distinct).2 isSearch)
  rw [Exclusive, profileOf_merge distinctSent (sameSearch.trans isSearch) distinctSearch.1]
  rcases profileCases with noProfile | isReset | ⟨profile, isProfile, isChecked, notBoth⟩
  · rwa [noProfile]
  · rw [isReset]
    rintro ⟨ann, _⟩
    cases ann
  · have isGiven : profileOf payload.entries = profile := by
      rw [profileOf, isSearch, overridesOf, isProfile, overridesOf]
    have distinctProfile := distinct_obj.mp (distinct_of_get distinctSearch.2 isProfile)
    rw [GivesOther, isGiven] at givesOther
    rw [isProfile]
    exact exclusive_of_profile distinctProfile.1 isChecked notBoth exclusive givesOther

/-- Along updates that give the other selector where they set one, the stored profile has at
most one selector above zero. -/
theorem pool_selectors_exclusive (rules : Rules) (lower : String → String)
    (encrypt : Dict Json → Dict Json) (payloads : List Payload) (stored : Dict Json)
    (givesOther : GuardedRun (updateStep rules lower encrypt) GivesOther [] payloads)
    (ran : run (updateStep rules lower encrypt) [] payloads = some stored) : Exclusive stored := by
  have start : Exclusive [] := by decide
  refine invariant_of_guardedRun ?_ start givesOther ran
  intro overrides payload after exclusive givesOther stepEq
  unfold updateStep at stepEq
  dsimp only at stepEq
  split at stepEq <;> cases stepEq
  · exact exclusive
  next updated =>
    exact exclusive_of_update exclusive givesOther updated

/-! ## Two updates -/

/-- The rules of the search section. -/
def searchRules : Rules where
  defaultSettings :=
    [("search", .obj [("strict_fleet_scoping", .null), ("recall_boost", .null),
      ("recall_for_asserted_identity", .null), ("graph_retrieval", .null),
      ("entity_retrieval", .null), ("include_derived", .null), ("default_profile", .obj [])])]
  leafTypes :=
    [("search.strict_fleet_scoping", ["bool"]), ("search.recall_boost", ["bool"]),
      ("search.recall_for_asserted_identity", ["bool"]), ("search.graph_retrieval", ["bool"]),
      ("search.entity_retrieval", ["bool"]), ("search.include_derived", ["bool"])]
  leafRanges := []
  otherChecks _ _ := true

/-- A payload with a search profile. -/
def profilePayload (profile : Dict Json)
    (distinct : distinctKeys (.obj [("search", .obj [("default_profile", .obj profile)])]) = true) :
    Payload :=
  ⟨[("search", .obj [("default_profile", .obj profile)])], distinct⟩

/-- Set the first selector. -/
def setAnn : Payload :=
  profilePayload [("ann_pool_size", .int 50)] rfl

/-- Set the second one. -/
def setCandidate : Payload :=
  profilePayload [("candidate_pool_size", .int 20)] rfl

/-- Set the second one and reset the first. -/
def switchToCandidate : Payload :=
  profilePayload [("ann_pool_size", .null), ("candidate_pool_size", .int 20)] rfl

/-- The selector is set. -/
def storesPool (key : String) (stored : Dict Json) : Bool :=
  isPositive ((profileOf stored).get key)

/-- A switch from one selector to the other that resets the first. -/
theorem pool_selectors_exclusive_switch :
    (run (updateStep searchRules id id) [] [setAnn, switchToCandidate]).any
      (storesPool "candidate_pool_size") = true ∧
    ∀ stored, run (updateStep searchRules id id) [] [setAnn, switchToCandidate] = some stored →
      Exclusive stored :=
  ⟨by decide +kernel, fun stored =>
    pool_selectors_exclusive searchRules id id _ stored (by decide +kernel)⟩

/-- The update passes the checks. -/
def accepts (overrides : Dict Json) (payload : Payload) : Bool :=
  match validateUpdate searchRules overrides (payload.entries.filterMap filteredEntry) with
  | .error _ => false
  | .ok _ => true

/-- Two updates that each set one selector both pass, and leave both set. -/
theorem both_pool_selectors_stored :
    ∃ first stored, run (updateStep searchRules id id) [] [setAnn] = some first ∧
      run (updateStep searchRules id id) [] [setAnn, setCandidate] = some stored ∧
      accepts [] setAnn = true ∧ accepts first setCandidate = true ∧ ¬ Exclusive stored := by
  simp only [exists_and_left]
  decide +kernel

end Caura.Settings
