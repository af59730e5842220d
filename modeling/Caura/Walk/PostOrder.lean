import Mathlib.Data.Finset.Card

/-!
# Walks that place an item after the items it leads to

`place` walks from an item: it marks the item, places everything the item leads to, and
appends the item.  A marked item is not walked from again, so the walk ends even where
the items lead in a circle.  `Walks` is the same walk as a relation on the items that are
still to be placed, and all facts about walks are inductions over it.

Whatever the relation between the items is, a walk places each item it reaches once.
Without circles, an item is placed after all items it leads to.  Items that no item leads
to keep their order.  And an item that leads to one item only, to which no other item
leads, is placed right after it.
-/

namespace Caura.Walk

open List

universe u v

variable {α : Type u} {κ : Type v}

/-- The marks and the items that were placed. -/
structure State (α : Type u) (κ : Type v) where
  placed : Finset κ
  reordered : List α

namespace State

/-- Nothing is marked. -/
def start : State α κ where
  placed := ∅
  reordered := []

variable [DecidableEq κ]

/-- Note a key as placed. -/
def mark (state : State α κ) (key : κ) : State α κ :=
  { state with placed := insert key state.placed }

/-- Append an item. -/
def append (state : State α κ) (item : α) : State α κ :=
  { state with reordered := state.reordered ++ [item] }

end State

variable [DecidableEq κ] (key : α → κ) (next : κ → List α)

/-- Place an item, with fuel for the depth of the walk. -/
def place : Nat → State α κ → α → Option (State α κ)
  | 0, _, _ => none
  | fuel + 1, state, item =>
    if key item ∈ state.placed then
      some state
    else ((next (key item)).foldlM (place fuel) (state.mark (key item))).map fun inner =>
        inner.append item

/-- Place a list of items. -/
def placeAll (items : List α) : Option (List α) :=
  (items.foldlM (place key next (items.length + 1)) State.start).map State.reordered

/-- A walk through the items that are still to be placed. -/
inductive Walks : State α κ → List α → State α κ → Prop
  | done (state : State α κ) : Walks state [] state
  | skip {state after : State α κ} {item : α} {items : List α} :
      key item ∈ state.placed → Walks state items after → Walks state (item :: items) after
  | visit {state inner after : State α κ} {item : α} {items : List α} :
      key item ∉ state.placed → Walks (state.mark (key item)) (next (key item)) inner →
        Walks (inner.append item) items after → Walks state (item :: items) after

variable {key next} {state after : State α κ} {items : List α}

/-! ## What a walk places -/

/-- The items that a walk has placed, each with a new mark. -/
structure Places (key : α → κ) (state after : State α κ) (new : List α) : Prop where
  reordered : after.reordered = state.reordered ++ new
  placed : after.placed = state.placed ∪ (new.map key).toFinset
  nodup : (new.map key).Nodup
  fresh : ∀ item ∈ new, key item ∉ state.placed

variable {item : α} {innerNew restNew rest list new : List α} {inner middle : State α κ}

/-- The items of a visit: those placed on the way, the item itself, and those after it. -/
theorem Places.visit (unmarked : key item ∉ state.placed)
    (innerPlaces : Places key (state.mark (key item)) inner innerNew)
    (restPlaces : Places key (inner.append item) after restNew) :
    Places key state after (innerNew ++ item :: restNew) where
  reordered := by
    rw [restPlaces.reordered, State.append, innerPlaces.reordered]
    simp [State.mark]
  placed := by
    rw [restPlaces.placed, State.append, innerPlaces.placed]
    ext other
    simp only [State.mark, Finset.mem_union, Finset.mem_insert, mem_toFinset, map_append,
      map_cons, mem_append, mem_cons]
    tauto
  nodup := by
    have notInner : key item ∉ innerNew.map key := by
      intro isInner
      obtain ⟨other, otherMem, same⟩ := mem_map.mp isInner
      exact innerPlaces.fresh other otherMem (same ▸ Finset.mem_insert_self _ _)
    have restFresh : ∀ other ∈ restNew, key other ∉ inner.placed := restPlaces.fresh
    rw [innerPlaces.placed] at restFresh
    rw [map_append]
    refine nodup_append'.mpr ⟨innerPlaces.nodup, nodup_cons.mpr ⟨?_, restPlaces.nodup⟩, ?_⟩
    · intro isRest
      obtain ⟨other, otherMem, same⟩ := mem_map.mp isRest
      apply restFresh other otherMem
      exact Finset.mem_union_left _ (same ▸ Finset.mem_insert_self _ _)
    · intro id isInner isRest
      rcases mem_cons.mp isRest with rfl | isRest
      · exact notInner isInner
      · obtain ⟨other, otherMem, rfl⟩ := mem_map.mp isRest
        exact restFresh other otherMem (Finset.mem_union_right _ (mem_toFinset.mpr isInner))
  fresh := by
    intro other otherMem marked
    have inMark : key other ∈ (state.mark (key item)).placed := Finset.mem_insert_of_mem marked
    rcases mem_append.mp otherMem with isInner | isRest
    · exact innerPlaces.fresh other isInner inMark
    · rcases mem_cons.mp isRest with rfl | isRest
      · exact unmarked marked
      · apply restPlaces.fresh other isRest
        exact innerPlaces.placed ▸ Finset.mem_union_left _ inMark

section

variable (walks : Walks key next state items after)

include walks

theorem Walks.exists_places : ∃ new, Places key state after new := by
  induction walks with
  | done state => exact ⟨[], by simp, by simp, by simp, by simp⟩
  | skip _ _ ih => exact ih
  | visit unmarked _ _ innerIh restIh =>
    obtain ⟨innerNew, innerPlaces⟩ := innerIh
    obtain ⟨restNew, restPlaces⟩ := restIh
    exact ⟨_, innerPlaces.visit unmarked restPlaces⟩

/-- Marks stay. -/
theorem Walks.placed_subset : state.placed ⊆ after.placed := by
  obtain ⟨new, places⟩ := walks.exists_places
  exact places.placed ▸ Finset.subset_union_left

/-- A walk marks its items. -/
theorem Walks.mem_placed (itemMem : item ∈ items) : key item ∈ after.placed := by
  induction walks with
  | done => cases itemMem
  | skip marked rest ih =>
    rcases mem_cons.mp itemMem with rfl | later
    · exact rest.placed_subset marked
    · exact ih later
  | visit _ inner rest _ ih =>
    rcases mem_cons.mp itemMem with rfl | later
    · exact rest.placed_subset (inner.placed_subset (Finset.mem_insert_self _ _))
    · exact ih later

/-- What a walk places is one of its items or what some item leads to. -/
theorem Walks.mem_reordered (itemMem : item ∈ after.reordered) :
    item ∈ state.reordered ∨ item ∈ items ∨ ∃ id, item ∈ next id := by
  induction walks with
  | done => exact .inl itemMem
  | skip _ _ ih =>
    rcases ih itemMem with old | isItem | led
    · exact .inl old
    · exact .inr (.inl (.tail _ isItem))
    · exact .inr (.inr led)
  | visit _ _ _ innerIh ih =>
    rcases ih itemMem with old | isItem | led
    · rcases mem_append.mp old with inner | isLast
      · rcases innerIh inner with old | led | led
        · exact .inl old
        · exact .inr (.inr ⟨_, led⟩)
        · exact .inr (.inr led)
      · rw [mem_singleton] at isLast
        exact .inr (.inl (isLast ▸ (.head _)))
    · exact .inr (.inl (.tail _ isItem))
    · exact .inr (.inr led)

theorem Walks.eq_of_marked (marked : ∀ item ∈ items, key item ∈ state.placed) : after = state := by
  induction walks with
  | done => rfl
  | skip _ _ ih => exact ih fun item itemMem => marked item (.tail _ itemMem)
  | visit unmarked => exact absurd (marked _ (.head _)) unmarked

/-- The walk through items of one key places one of them last. -/
theorem Walks.exists_concat {upper : κ} (nonempty : items ≠ [])
    (same : ∀ item ∈ items, key item = upper) (unmarked : upper ∉ state.placed) :
    ∃ before item, after.reordered = before ++ [item] ∧ key item = upper := by
  cases walks with
  | done => exact absurd rfl nonempty
  | skip marked => exact absurd (same _ (.head _) ▸ marked) unmarked
  | @visit _ inner _ item items _ inWalk rest =>
    have isUpper := same item (.head _)
    have marked : upper ∈ inner.placed :=
      inWalk.placed_subset (isUpper ▸ Finset.mem_insert_self _ _)
    have unchanged := rest.eq_of_marked fun other otherMem => by
      rwa [same other (.tail item otherMem)]
    exact ⟨inner.reordered, item, congrArg State.reordered unchanged, isUpper⟩

end

/-! ## The walk of the function -/

theorem Walks.append (first : Walks key next state items middle)
    (second : Walks key next middle rest after) : Walks key next state (items ++ rest) after := by
  induction first with
  | done => exact second
  | skip marked _ ih => exact .skip marked (ih second)
  | visit unmarked inner _ _ ih => exact .visit unmarked inner (ih second)

/-- A walk depends only on where the items that it can reach lead to. -/
theorem Walks.congr {other : κ → List α} {Known : κ → Prop}
    (same : ∀ id, Known id → next id = other id)
    (closed : ∀ id, Known id → ∀ item ∈ next id, Known (key item))
    (walks : Walks key next state items after) (known : ∀ item ∈ items, Known (key item)) :
    Walks key other state items after := by
  induction walks with
  | done => exact .done _
  | skip marked _ ih =>
    exact .skip marked (ih fun item itemMem => known item (.tail _ itemMem))
  | visit unmarked _ _ innerIh ih =>
    have itemKnown := known _ (.head _)
    refine .visit unmarked (same _ itemKnown ▸ innerIh (closed _ itemKnown)) (ih ?_)
    exact fun item itemMem => known item (.tail _ itemMem)

theorem walks_of_foldlM {step : State α κ → α → Option (State α κ)}
    (sound : ∀ {state item after}, step state item = some after → Walks key next state [item] after)
    (ran : items.foldlM step state = some after) : Walks key next state items after := by
  induction items generalizing state with
  | nil =>
    cases ran
    exact .done _
  | cons item items ih =>
    obtain ⟨middle, first, rest⟩ := Option.bind_eq_some_iff.mp ran
    exact (sound first).append (ih rest)

/-- The function walks. -/
theorem walks_of_place {fuel : Nat} (placed : place key next fuel state item = some after) :
    Walks key next state [item] after := by
  induction fuel generalizing state item after with
  | zero => cases placed
  | succ fuel ih =>
    unfold place at placed
    split at placed
    next marked =>
      cases placed
      exact .skip marked (.done _)
    next unmarked =>
      obtain ⟨inner, ran, rfl⟩ := Option.map_eq_some_iff.mp placed
      exact .visit unmarked (walks_of_foldlM ih ran) (.done _)

section Fuel

variable {keys : Finset κ}

theorem card_sdiff_le_of_subset {first second : Finset κ} (subset : first ⊆ second) :
    (keys \ second).card ≤ (keys \ first).card :=
  Finset.card_le_card (Finset.sdiff_subset_sdiff (Finset.Subset.refl keys) subset)

/-- If each item can be placed as long as few keys are unmarked, then a list can. -/
theorem exists_foldlM {fuel bound : Nat}
    (places : ∀ {state : State α κ} {item : α}, key item ∈ keys →
      (keys \ state.placed).card < bound → ∃ after, place key next fuel state item = some after)
    (itemsMem : ∀ item ∈ items, key item ∈ keys) (enough : (keys \ state.placed).card < bound) :
    ∃ after, items.foldlM (place key next fuel) state = some after := by
  induction items generalizing state with
  | nil => exact ⟨state, rfl⟩
  | cons item items ih =>
    obtain ⟨middle, first⟩ := places (itemsMem item (.head _)) enough
    have grows := (walks_of_place first).placed_subset
    obtain ⟨after, rest⟩ := ih (fun other otherMem =>
      itemsMem other (.tail item otherMem))
      (Nat.lt_of_le_of_lt (card_sdiff_le_of_subset grows) enough)
    refine ⟨after, ?_⟩
    rwa [foldlM_cons, first]

/-- Fuel for the keys that are not yet marked is enough. -/
theorem exists_place (closed : ∀ id, ∀ item ∈ next id, key item ∈ keys) {fuel : Nat}
    (itemMem : key item ∈ keys) (enough : (keys \ state.placed).card < fuel) :
    ∃ after, place key next fuel state item = some after := by
  induction fuel generalizing state item with
  | zero => exact absurd enough (Nat.not_lt_zero _)
  | succ fuel ih =>
    unfold place
    split
    · exact ⟨state, rfl⟩
    next unmarked =>
      have fewer : (keys \ (state.mark (key item)).placed).card < fuel := by
        have strictly : keys \ (state.mark (key item)).placed ⊂ keys \ state.placed := by
          refine (Finset.ssubset_iff_of_subset (Finset.sdiff_subset_sdiff
            (Finset.Subset.refl keys) (Finset.subset_insert _ _))).mpr ⟨key item, ?_, ?_⟩
          · exact Finset.mem_sdiff.mpr ⟨itemMem, unmarked⟩
          · exact fun remains => (Finset.mem_sdiff.mp remains).2 (Finset.mem_insert_self _ _)
        exact Nat.lt_of_lt_of_le (Finset.card_lt_card strictly) (Nat.le_of_lt_succ enough)
      obtain ⟨inner, ran⟩ := exists_foldlM ih (closed (key item)) fewer
      exact ⟨inner.append item, by rw [ran]; rfl⟩

/-- The walk through a list of items that lead to each other ends. -/
theorem exists_placeAll (closed : ∀ id, ∀ item ∈ next id, item ∈ items) :
    ∃ after, placeAll key next items = some after.reordered ∧
      Walks key next State.start items after := by
  have closedKeys : ∀ id, ∀ item ∈ next id, key item ∈ (items.map key).toFinset := by
    intro id item led
    exact mem_toFinset.mpr (mem_map_of_mem (closed id item led))
  have enough : ((items.map key).toFinset \ (State.start : State α κ).placed).card <
      items.length + 1 := by
    have few := toFinset_card_le (items.map key)
    rw [length_map] at few
    exact Nat.lt_succ_of_le ((Finset.card_le_card Finset.sdiff_subset).trans few)
  obtain ⟨after, ran⟩ := exists_foldlM (exists_place closedKeys)
    (fun item itemMem => mem_toFinset.mpr (mem_map_of_mem itemMem)) enough
  exact ⟨after, by rw [placeAll, ran]; rfl, walks_of_foldlM walks_of_place ran⟩

end Fuel

/-! ## Each item once -/

/-- A walk through items with distinct keys that lead to each other permutes them. -/
theorem Walks.perm (walks : Walks key next State.start items after)
    (nodup : (items.map key).Nodup) (closed : ∀ id, ∀ item ∈ next id, item ∈ items) :
    after.reordered.Perm items := by
  obtain ⟨new, places⟩ := walks.exists_places
  have isNew : after.reordered = new := places.reordered
  have keysNodup : (after.reordered.map key).Nodup := isNew ▸ places.nodup
  refine (perm_ext_iff_of_nodup (keysNodup.of_map _) (nodup.of_map _)).mpr fun item => ?_
  have inItems : ∀ other ∈ after.reordered, other ∈ items := by
    intro other otherMem
    rcases walks.mem_reordered otherMem with none | isItem | ⟨id, led⟩
    · cases none
    · exact isItem
    · exact closed id other led
  constructor
  · exact inItems item
  · intro itemMem
    have marked := walks.mem_placed itemMem
    rw [places.placed, ← isNew] at marked
    have isKey : key item ∈ after.reordered.map key := by simpa [State.start] using marked
    obtain ⟨other, otherMem, same⟩ := mem_map.mp isKey
    exact inj_on_of_nodup_map nodup (inItems other otherMem) itemMem same ▸ otherMem

/-! ## Items after those they lead to -/

/-- What an item leads to stands before it. -/
def Ordered (key : α → κ) (next : κ → List α) (list : List α) : Prop :=
  ∀ before item rest, list = before ++ item :: rest →
    ∀ led ∈ next (key item), key led ∈ before.map key

/-- The key of an item, and one that the item leads to. -/
def LeadsTo (key : α → κ) (next : κ → List α) (id other : κ) : Prop :=
  ∃ item ∈ next id, key item = other

omit [DecidableEq κ] in
theorem Ordered.append (ordered : Ordered key next list)
    (led : ∀ other ∈ next (key item), key other ∈ list.map key) :
    Ordered key next (list ++ [item]) := by
  intro before last rest split other otherMem
  rcases eq_nil_or_concat rest with rfl | ⟨rest, final, rfl⟩
  · obtain ⟨rfl, same⟩ := append_inj' split rfl
    cases same
    exact led other otherMem
  · have shorter : list = before ++ last :: rest := by
      have split' : list ++ [item] = (before ++ last :: rest) ++ [final] := by
        simpa using split
      exact (append_inj' split' rfl).1
    exact ordered before last rest shorter other otherMem

/-- The items that a walk has entered: those on the way to the items to be placed. -/
structure Entered (key : α → κ) (next : κ → List α) (state : State α κ) (items : List α) :
    Prop where
  marked : ∀ item ∈ state.reordered, key item ∈ state.placed
  leads : ∀ id ∈ state.placed, id ∉ state.reordered.map key → ∀ item ∈ items,
    Relation.ReflTransGen (LeadsTo key next) id (key item)

omit [DecidableEq κ] in
theorem entered_start : Entered key next State.start items where
  marked := nofun
  leads := nofun

theorem Entered.mark (entered : Entered key next state (item :: items)) :
    Entered key next (state.mark (key item)) (next (key item)) where
  marked := fun other placed => Finset.mem_insert_of_mem (entered.marked other placed)
  leads := by
    intro id marked unplaced other otherMem
    have step : LeadsTo key next (key item) (key other) := ⟨other, otherMem, rfl⟩
    rcases Finset.mem_insert.mp marked with rfl | earlier
    · exact .single step
    · exact (entered.leads id earlier unplaced item (.head _)).tail step

theorem Entered.append (entered : Entered key next state (item :: items))
    (places : Places key (state.mark (key item)) inner new) :
    Entered key next (inner.append item) items where
  marked := by
    intro other placed
    have inMark : ∀ id ∈ (state.mark (key item)).placed, id ∈ inner.placed :=
      fun id marked => places.placed ▸ Finset.mem_union_left _ marked
    rw [State.append, places.reordered] at placed
    rcases mem_append.mp placed with earlier | isLast
    · rcases mem_append.mp earlier with old | isNew
      · exact inMark _ (Finset.mem_insert_of_mem (entered.marked other old))
      · have isKey : key other ∈ (new.map key).toFinset :=
          mem_toFinset.mpr (mem_map_of_mem isNew)
        exact places.placed ▸ Finset.mem_union_right _ isKey
    · rw [mem_singleton] at isLast
      subst isLast
      exact inMark _ (Finset.mem_insert_self _ _)
  leads := by
    intro id marked unplaced other otherMem
    rw [State.append, places.reordered, map_append, map_append, mem_append,
      mem_append, not_or, not_or] at unplaced
    obtain ⟨⟨notOld, notNew⟩, notLast⟩ := unplaced
    have inMark : id ∈ (state.mark (key item)).placed := by
      rcases Finset.mem_union.mp (places.placed ▸ marked) with inMark | isNew
      · exact inMark
      · exact absurd (mem_toFinset.mp isNew) notNew
    rcases Finset.mem_insert.mp inMark with rfl | earlier
    · exact absurd (mem_singleton_self _) notLast
    · exact entered.leads id earlier notOld other (.tail item otherMem)

section

variable (acyclic : ∀ id, ¬ Relation.TransGen (LeadsTo key next) id id)

include acyclic

/-- Without circles, what an item leads to is placed before the item is. -/
theorem Entered.led_placed (entered : Entered key next state (item :: items))
    (walks : Walks key next (state.mark (key item)) (next (key item)) inner) {led : α}
    (ledMem : led ∈ next (key item)) : key led ∈ inner.reordered.map key := by
  obtain ⟨new, places⟩ := walks.exists_places
  have step : LeadsTo key next (key item) (key led) := ⟨led, ledMem, rfl⟩
  have marked := walks.mem_placed ledMem
  rw [places.reordered, map_append, mem_append]
  rw [places.placed] at marked
  rcases Finset.mem_union.mp marked with inMark | isNew
  · rcases Finset.mem_insert.mp inMark with isItem | earlier
    · exact absurd (.single (isItem ▸ step)) (acyclic (key item))
    · by_contra unplaced
      have back := entered.leads (key led) earlier (not_or.mp unplaced).1 item (.head _)
      exact acyclic (key led) (Relation.TransGen.tail' back step)
  · exact .inr (mem_toFinset.mp isNew)

/-- Without circles a walk places items after those they lead to. -/
theorem Walks.ordered (walks : Walks key next state items after)
    (entered : Entered key next state items) (ordered : Ordered key next state.reordered) :
    Ordered key next after.reordered := by
  induction walks with
  | done => exact ordered
  | skip _ _ ih =>
    refine ih ⟨entered.marked, fun id marked unplaced item itemMem => ?_⟩ ordered
    exact entered.leads id marked unplaced item (.tail _ itemMem)
  | visit _ inner _ innerIh restIh =>
    have orderedInner := innerIh entered.mark ordered
    obtain ⟨new, places⟩ := inner.exists_places
    refine restIh (entered.append places) (orderedInner.append fun led ledMem => ?_)
    exact entered.led_placed acyclic inner ledMem

end

/-! ## Items that nothing leads to -/

section First

variable {isFirst : κ → Bool} (led : ∀ id, ∀ item ∈ next id, isFirst (key item) = false)
  (walks : Walks key next state items after)

include led walks

theorem Walks.filter_reordered_of_led (itemsLed : ∀ item ∈ items, isFirst (key item) = false) :
    after.reordered.filter (fun item => isFirst (key item)) =
      state.reordered.filter fun item => isFirst (key item) := by
  induction walks with
  | done => rfl
  | skip _ _ ih => exact ih fun item itemMem => itemsLed item (.tail _ itemMem)
  | @visit state inner after item items _ _ _ innerIh ih =>
    rw [ih fun other otherMem => itemsLed other (.tail _ otherMem)]
    have notFirst := itemsLed item (.head _)
    simp [State.append, notFirst, innerIh (led (key item)), State.mark]

/-- What nothing leads to is marked only as an item of the walk. -/
theorem Walks.mem_placed_of_isFirst {id : κ} (first : isFirst id = true)
    (marked : id ∈ after.placed) :
    id ∈ state.placed ∨ id ∈ items.map key := by
  induction walks with
  | done => exact .inl marked
  | skip _ _ ih => exact (ih marked).imp_right (.tail _)
  | @visit state inner after item items _ _ _ innerIh ih =>
    rcases ih marked with inInner | later
    · rcases innerIh inInner with inMark | isLed
      · rcases Finset.mem_insert.mp inMark with rfl | earlier
        · exact .inr (.head _)
        · exact .inl earlier
      · obtain ⟨other, otherMem, rfl⟩ := mem_map.mp isLed
        rw [led _ other otherMem] at first
        cases first
    · exact .inr (.tail _ later)

omit led in
/-- The items that nothing leads to keep their order. -/
theorem Walks.filter_reordered (isFirst : κ → Bool)
    (led : ∀ id, ∀ item ∈ next id, isFirst (key item) = false)
    (nodup : (items.map key).Nodup) :
    after.reordered.filter (fun item => isFirst (key item)) =
      state.reordered.filter (fun item => isFirst (key item)) ++
        items.filter fun item => isFirst (key item) && decide (key item ∉ state.placed) := by
  induction walks with
  | done => simp
  | skip marked _ ih =>
    rw [map_cons, nodup_cons] at nodup
    rw [ih nodup.2, filter_cons_of_neg (by simp [marked])]
  | @visit state inner after item items unmarked inWalk _ _ ih =>
    rw [map_cons, nodup_cons] at nodup
    have innerFilter := inWalk.filter_reordered_of_led led (led (key item))
    have sameRest : items.filter (fun other =>
        isFirst (key other) && decide (key other ∉ (inner.append item).placed)) =
          items.filter fun other =>
            isFirst (key other) && decide (key other ∉ state.placed) := by
      apply filter_congr
      intro other otherMem
      by_cases first : isFirst (key other) = true
      · have sameMark : key other ∈ inner.placed ↔ key other ∈ state.placed := by
          constructor
          · intro marked
            rcases inWalk.mem_placed_of_isFirst led first marked with inMark | isLed
            · refine (Finset.mem_insert.mp inMark).resolve_left fun same => ?_
              exact nodup.1 (same ▸ mem_map_of_mem otherMem)
            · obtain ⟨another, anotherMem, same⟩ := mem_map.mp isLed
              rw [← same, led _ another anotherMem] at first
              cases first
          · exact fun marked => inWalk.placed_subset (Finset.mem_insert_of_mem marked)
        simp [State.append, sameMark]
      · simp [Bool.eq_false_iff.mpr first]
    rw [ih nodup.2, sameRest, State.append, filter_append, append_assoc]
    congr 1
    by_cases first : isFirst (key item) = true
    · simp [first, unmarked]
    · simp [Bool.eq_false_iff.mpr first]

end First

/-! ## An item and the one it leads to -/

section Sole

variable {lower upper : κ}

variable (key next lower upper)

/-- The item `lower` leads to `upper` only, and nothing else leads there. -/
structure Sole : Prop where
  leads : next lower ≠ []
  only : ∀ item ∈ next lower, key item = upper
  alone : ∀ id, ∀ item ∈ next id, key item = upper → id = lower
  apart : upper ≠ lower

/-- The item `lower` stands right behind `upper`. -/
def Adjacent (list : List α) : Prop :=
  ∃ before first second rest, list = before ++ first :: second :: rest ∧
    key first = upper ∧ key second = lower

/-- The item `upper` is not placed before `lower` is entered, and the two are adjacent. -/
structure Guarded (state : State α κ) (items : List α) : Prop where
  placed : ∀ item ∈ state.reordered, key item ∈ state.placed
  marked : upper ∈ state.placed → lower ∈ state.placed
  later : ∀ before item rest, items = before ++ item :: rest → key item = upper →
    lower ∈ state.placed ∨ lower ∈ before.map key
  adjacent : lower ∈ state.reordered.map key → Adjacent key lower upper state.reordered

variable {key next lower upper}

omit [DecidableEq κ] in
theorem Adjacent.append (adjacent : Adjacent key lower upper list) (item : α) :
    Adjacent key lower upper (list ++ [item]) := by
  obtain ⟨before, first, second, rest, rfl, isUpper, isLower⟩ := adjacent
  exact ⟨before, first, second, rest ++ [item], by simp, isUpper, isLower⟩

section

variable (sole : Sole key next lower upper)

include sole

theorem Guarded.mark (guarded : Guarded key lower upper state (item :: items)) :
    Guarded key lower upper (state.mark (key item)) (next (key item)) where
  placed := fun other otherMem => Finset.mem_insert_of_mem (guarded.placed other otherMem)
  marked := by
    intro marked
    rcases Finset.mem_insert.mp marked with isItem | earlier
    · rcases guarded.later [] item items rfl isItem.symm with marked | none
      · exact Finset.mem_insert_of_mem marked
      · cases none
    · exact Finset.mem_insert_of_mem (guarded.marked earlier)
  later := by
    intro before other rest split isUpper
    have led : other ∈ next (key item) := split ▸ mem_append_right _ (.head _)
    rw [sole.alone _ other led isUpper]
    exact .inl (Finset.mem_insert_self _ _)
  adjacent := guarded.adjacent

theorem Guarded.append (unmarked : key item ∉ state.placed)
    (guarded : Guarded key lower upper state (item :: items))
    (walks : Walks key next (state.mark (key item)) (next (key item)) inner)
    (innerGuarded : Guarded key lower upper inner []) :
    Guarded key lower upper (inner.append item) items where
  placed := by
    intro other otherMem
    rcases mem_append.mp otherMem with earlier | isLast
    · exact innerGuarded.placed other earlier
    · rw [mem_singleton] at isLast
      subst isLast
      exact walks.placed_subset (Finset.mem_insert_self _ _)
  marked := innerGuarded.marked
  later := by
    intro before other rest split isUpper
    have grows : state.placed ⊆ inner.placed :=
      fun id marked => walks.placed_subset (Finset.mem_insert_of_mem marked)
    rcases guarded.later (item :: before) other rest (by rw [split]; rfl) isUpper with
      marked | before
    · exact .inl (grows marked)
    · rcases mem_cons.mp before with rfl | before
      · exact .inl (walks.placed_subset (Finset.mem_insert_self _ _))
      · exact .inr before
  adjacent := by
    intro placed
    by_cases isLower : key item = lower
    · -- The walk from `lower` places `upper`, and `lower` right behind it.
      have upperUnmarked : upper ∉ (state.mark (key item)).placed := by
        intro marked
        rcases Finset.mem_insert.mp marked with isItem | earlier
        · exact sole.apart (isItem.trans isLower)
        · exact unmarked (isLower ▸ guarded.marked earlier)
      obtain ⟨before, first, reordered, isUpper⟩ := walks.exists_concat
        (by rw [isLower]; exact sole.leads) (by rw [isLower]; exact sole.only) upperUnmarked
      refine ⟨before, first, item, [], ?_, isUpper, isLower⟩
      rw [State.append, reordered, append_assoc]
      rfl
    · rw [State.append, map_append, mem_append] at placed
      refine (innerGuarded.adjacent (placed.resolve_right fun isLast => ?_)).append item
      exact isLower (mem_singleton.mp isLast).symm

theorem Walks.guarded (walks : Walks key next state items after)
    (guarded : Guarded key lower upper state items) :
    Guarded key lower upper after [] := by
  induction walks with
  | done => exact guarded
  | @skip state after item items marked _ ih =>
    refine ih ⟨guarded.placed, guarded.marked, ?_, guarded.adjacent⟩
    intro before other rest split isUpper
    rcases guarded.later (item :: before) other rest (by rw [split]; rfl) isUpper with
      earlier | before
    · exact .inl earlier
    · rcases mem_cons.mp before with rfl | before
      · exact .inl marked
      · exact .inr before
  | visit unmarked inWalk _ innerIh ih =>
    exact ih (guarded.append sole unmarked inWalk (innerIh (guarded.mark sole)))

/-- An item that leads to one item only, to which nothing else leads and which comes later
in the list, is placed right behind it. -/
theorem Walks.adjacent (walks : Walks key next State.start items after)
    (later : ∀ before item rest, items = before ++ item :: rest → key item = upper →
      lower ∈ before.map key) (lowerMem : lower ∈ items.map key) :
    Adjacent key lower upper after.reordered := by
  have guarded : Guarded key lower upper State.start items := by
    refine ⟨nofun, nofun, ?_,
      nofun⟩
    exact fun before item rest split isUpper => .inr (later before item rest split isUpper)
  apply (walks.guarded sole guarded).adjacent
  obtain ⟨item, itemMem, isLower⟩ := mem_map.mp lowerMem
  obtain ⟨new, places⟩ := walks.exists_places
  have marked := walks.mem_placed itemMem
  rw [places.placed, isLower] at marked
  rw [places.reordered]
  simpa [State.start] using marked

end

end Sole

end Caura.Walk
