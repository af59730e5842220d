import Mathlib.Data.List.Basic

/-!
# Dictionaries

A dictionary with text keys as the list of its entries, in the order in which the keys
were first set.  Setting a key that is present changes its entry in place.
-/

namespace Caura.Value

open List

universe u

/-- A dictionary. -/
abbrev Dict (β : Type u) := List (String × β)

namespace Dict

variable {β : Type u}

/-- The value at a key. -/
def get (dict : Dict β) (key : String) : Option β :=
  dict.lookup key

/-- `key in dict`. -/
def has (dict : Dict β) (key : String) : Bool :=
  (dict.get key).isSome

/-- `dict[key] = value`. -/
def set : Dict β → String → β → Dict β
  | [], key, value => [(key, value)]
  | entry :: dict, key, value =>
    if entry.1 = key then (key, value) :: dict else entry :: set dict key value

/-- `dict.pop(key, None)`. -/
def pop (dict : Dict β) (key : String) : Dict β :=
  dict.filter fun entry => entry.1 != key

/-- `dict.update`. -/
def update (dict changes : Dict β) : Dict β :=
  changes.foldl (fun dict change => dict.set change.1 change.2) dict

/-- The dictionary without some keys. -/
def without (dict : Dict β) (keys : List String) : Dict β :=
  keys.foldl pop dict

/-- The union of two dictionaries, where the changes decide about their keys. -/
def union (dict changes : Dict β) : Dict β :=
  changes ++ dict.without (changes.map Prod.fst)

theorem get_cons (entry : String × β) (dict : Dict β) (key : String) :
    get (entry :: dict) key = if key = entry.1 then some entry.2 else get dict key := by
  obtain ⟨name, value⟩ := entry
  by_cases same : key = name
  · simp [get, same]
  · rw [get, lookup_cons, beq_false_of_ne same, if_neg same]
    rfl

@[simp]
theorem get_set {dict : Dict β} {key : String} {value : β} {other : String} :
    (dict.set key value).get other = if other = key then some value else dict.get other := by
  induction dict with
  | nil => exact get_cons _ _ _
  | cons entry dict ih =>
    unfold set
    by_cases same : entry.1 = key
    · rw [if_pos same, get_cons, get_cons, same]
      split <;> rfl
    · rw [if_neg same, get_cons, get_cons, ih]
      by_cases isEntry : other = entry.1
      · rw [if_pos isEntry, if_pos isEntry, if_neg (isEntry ▸ same)]
      · rw [if_neg isEntry, if_neg isEntry]

@[simp]
theorem get_pop {dict : Dict β} {key other : String} :
    (dict.pop key).get other = if other = key then none else dict.get other := by
  induction dict with
  | nil => simp [pop, get]
  | cons entry dict ih =>
    by_cases same : entry.1 = key
    · have dropped : pop (entry :: dict) key = pop dict key := by simp [pop, same]
      rw [dropped, ih, get_cons, same]
      split <;> rfl
    · have kept : pop (entry :: dict) key = entry :: pop dict key := by simp [pop, same]
      rw [kept, get_cons, get_cons, ih]
      by_cases isEntry : other = entry.1
      · rw [if_pos isEntry, if_pos isEntry, if_neg (isEntry ▸ same)]
      · rw [if_neg isEntry, if_neg isEntry]

@[simp]
theorem get_without (dict : Dict β) (keys : List String) (other : String) :
    (dict.without keys).get other = if other ∈ keys then none else dict.get other := by
  induction keys generalizing dict with
  | nil => rfl
  | cons key keys ih =>
    change ((dict.pop key).without keys).get other = _
    rw [ih]
    by_cases isKey : other = key
    · simp [isKey]
    · simp [isKey]

variable {dict : Dict β} {key : String}

theorem get_eq_none_of_notMem (absent : key ∉ dict.map Prod.fst) : dict.get key = none := by
  induction dict with
  | nil => rfl
  | cons entry dict ih =>
    rw [map_cons, mem_cons, not_or] at absent
    rw [get_cons, if_neg absent.1, ih absent.2]

theorem notMem_of_get_eq_none (absent : dict.get key = none) : key ∉ dict.map Prod.fst := by
  induction dict with
  | nil => exact not_mem_nil
  | cons entry dict ih =>
    rw [get_cons] at absent
    split at absent
    · cases absent
    next isOther => exact not_mem_cons_of_ne_of_not_mem isOther (ih absent)

@[simp]
theorem get_union (dict changes : Dict β) (key : String) :
    (dict.union changes).get key = (changes.get key).or (dict.get key) := by
  rw [union, get, lookup_append]
  change (changes.get key).or ((dict.without (changes.map Prod.fst)).get key) = _
  rw [get_without]
  by_cases isChange : key ∈ changes.map Prod.fst
  · cases found : changes.get key with
    | none => exact absurd isChange (notMem_of_get_eq_none found)
    | some value => rfl
  · rw [if_neg isChange]

/-- An entry of a dictionary with distinct keys is what is found at its key. -/
theorem get_eq_some_of_mem (distinct : (dict.map Prod.fst).Nodup) {entry : String × β}
    (isEntry : entry ∈ dict) : dict.get entry.1 = some entry.2 := by
  induction dict with
  | nil => cases isEntry
  | cons first dict ih =>
    rw [map_cons, nodup_cons] at distinct
    rw [get_cons]
    rcases mem_cons.mp isEntry with rfl | isLater
    · rw [if_pos rfl]
    · rw [if_neg, ih distinct.2 isLater]
      intro isFirst
      exact distinct.1 (isFirst ▸ mem_map_of_mem isLater)

/-- What an update leaves at a key that it does not change. -/
theorem get_update_of_notMem (dict changes : Dict β) (unchanged : key ∉ changes.map Prod.fst) :
    (dict.update changes).get key = dict.get key := by
  induction changes generalizing dict with
  | nil => rfl
  | cons change changes ih =>
    rw [map_cons, mem_cons, not_or] at unchanged
    change ((dict.set change.1 change.2).update changes).get key = _
    rw [ih _ unchanged.2, get_set, if_neg unchanged.1]

/-- What an update leaves at a key is its own value there, or else the one before. -/
theorem get_update_of_nodup (dict : Dict β) {changes : Dict β}
    (distinct : (changes.map Prod.fst).Nodup) (key : String) :
    (dict.update changes).get key = (changes.get key).or (dict.get key) := by
  induction changes generalizing dict with
  | nil => rfl
  | cons change changes ih =>
    rw [map_cons, nodup_cons] at distinct
    change ((dict.set change.1 change.2).update changes).get key = _
    rw [ih _ distinct.2, get_set, get_cons]
    by_cases isKey : key = change.1
    · rw [if_pos isKey, if_pos isKey, get_eq_none_of_notMem (isKey ▸ distinct.1)]
      rfl
    · rw [if_neg isKey, if_neg isKey]

/-- Setting a key that is present leaves the keys as they are. -/
theorem update_eq_nil_iff (dict changes : Dict β) :
    dict.update changes = [] ↔ dict = [] ∧ changes = [] := by
  induction changes generalizing dict with
  | nil => simp [update]
  | cons change changes ih =>
    have notEmpty : dict.set change.1 change.2 ≠ [] := by
      cases dict with
      | nil => simp [set]
      | cons entry dict =>
        unfold set
        split <;> simp
    change (dict.set change.1 change.2).update changes = [] ↔ _
    simp [ih, notEmpty]

theorem map_fst_set {found : β} (isFound : dict.get key = some found) (value : β) :
    (dict.set key value).map Prod.fst = dict.map Prod.fst := by
  induction dict with
  | nil => cases isFound
  | cons entry dict ih =>
    rw [get_cons] at isFound
    unfold set
    by_cases same : entry.1 = key
    · rw [if_pos same, map_cons, map_cons, same]
    · rw [if_neg (Ne.symm same)] at isFound
      rw [if_neg same, map_cons, map_cons, ih isFound]

end Dict

end Caura.Value
