import Mathlib.Order.Lattice.Nat

/-!
# Spans of a text

A span is a half-open interval of positions.  `selectFrom` passes over items in the
order given and keeps each that starts after the last kept one ends: what it keeps is
ordered and disjoint, and which positions it covers is read off the items.  `splice` replaces
the spans of ordered items by tokens, so its result depends on the text outside the
spans only.
-/

namespace Caura.Interval

open List

universe u v w

/-- The positions from `start` up to but not including `stop`. -/
structure Span where
  start : Nat
  stop : Nat
  deriving DecidableEq, Repr

namespace Span

/-- The position is in the span. -/
def Contains (span : Span) (position : Nat) : Prop :=
  span.start ≤ position ∧ position < span.stop

/-- The spans have a position in common, if neither is empty. -/
def Overlaps (first second : Span) : Prop :=
  first.start < second.stop ∧ second.start < first.stop

/-- The first span ends before the second begins. -/
def Precedes (first second : Span) : Prop :=
  first.stop ≤ second.start

instance (span : Span) (position : Nat) : Decidable (span.Contains position) :=
  inferInstanceAs (Decidable (_ ∧ _))

end Span

variable {α : Type u} {β : Type v} (span : α → Span)

/-! ## Greedy selection -/

/-- Keep each item that starts no earlier than the last kept one ended. -/
def selectFrom : Nat → List α → List α
  | _, [] => []
  | lastEnd, item :: items =>
    if lastEnd ≤ (span item).start then
      item :: selectFrom (span item).stop items
    else selectFrom lastEnd items

section Select

variable {span}

theorem selectFrom_sublist (lastEnd : Nat) (items : List α) :
    (selectFrom span lastEnd items).Sublist items := by
  induction items generalizing lastEnd with
  | nil => exact List.Sublist.slnil
  | cons item items ih =>
    unfold selectFrom
    split
    · exact (ih _).cons_cons item
    · exact (ih _).cons item

variable {items : List α} (nonempty : ∀ item ∈ items, (span item).start < (span item).stop)

include nonempty

/-- What is kept starts after the last end. -/
theorem le_start_of_mem_selectFrom {lastEnd : Nat} {item : α}
    (kept : item ∈ selectFrom span lastEnd items) : lastEnd ≤ (span item).start := by
  induction items generalizing lastEnd with
  | nil => cases kept
  | cons first items ih =>
    have firstNonempty := nonempty first (.head _)
    have restNonempty := fun other otherMem =>
      nonempty other (.tail first otherMem)
    unfold selectFrom at kept
    split at kept
    next starts =>
      rcases mem_cons.mp kept with rfl | later
      · exact starts
      · have := ih restNonempty later
        omega
    · exact ih restNonempty kept

/-- What is kept is ordered and disjoint. -/
theorem pairwise_selectFrom (lastEnd : Nat) :
    (selectFrom span lastEnd items).Pairwise fun first second =>
      (span first).Precedes (span second) := by
  induction items generalizing lastEnd with
  | nil => exact List.Pairwise.nil
  | cons item items ih =>
    have restNonempty := fun other otherMem =>
      nonempty other (.tail item otherMem)
    unfold selectFrom
    split
    · refine List.Pairwise.cons (fun other kept => ?_) (ih restNonempty _)
      exact le_start_of_mem_selectFrom restNonempty kept
    · exact ih restNonempty _

end Select

/-! ## What a selection covers -/

section Walk

variable {κ : Type w} (key : α → κ)

/-- The points that a walk over the items comes to: from a point it goes to the end of the
least item that starts there or later. -/
inductive Reached [LE κ] (among : α → Prop) (base : Nat) : Nat → Prop
  | base : Reached among base base
  | next {point : Nat} {item : α} (reached : Reached among base point) (isAmong : among item)
      (later : point ≤ (span item).start)
      (least : ∀ other, among other → point ≤ (span other).start → key item ≤ key other) :
      Reached among base (span item).stop

variable [PartialOrder κ] {span key} {items : List α} {item : α} {base point position : Nat}

/-- An item that starts before a point is not among those that start there or later. -/
theorem mem_of_start_lt (passed : (span item).start < point) {other : α}
    (otherMem : other ∈ item :: items) (later : point ≤ (span other).start) : other ∈ items := by
  refine (mem_cons.mp otherMem).resolve_left ?_
  rintro rfl
  exact absurd passed (Nat.not_lt.mpr later)

theorem exists_start_cons_iff (passed : (span item).start < point) :
    (∃ other ∈ item :: items, point ≤ (span other).start ∧ (span other).start ≤ position) ↔
      ∃ other ∈ items, point ≤ (span other).start ∧ (span other).start ≤ position := by
  constructor
  · rintro ⟨other, otherMem, bounds⟩
    exact ⟨other, mem_of_start_lt passed otherMem bounds.1, bounds⟩
  · rintro ⟨other, otherMem, bounds⟩
    exact ⟨other, .tail _ otherMem, bounds⟩

variable (nonempty : ∀ item ∈ items, (span item).start < (span item).stop)

include nonempty

theorem Reached.base_le (reached : Reached span key (· ∈ items) base point) : base ≤ point := by
  induction reached with
  | base => exact Nat.le_refl _
  | next _ itemMem later _ ih => exact (ih.trans later).trans (nonempty _ itemMem).le

/-- An item that starts before the walk does not matter to it. -/
theorem reached_cons_iff_of_lt (skipped : (span item).start < base) :
    Reached span key (· ∈ item :: items) base point ↔ Reached span key (· ∈ items) base point := by
  constructor
  · intro reached
    induction reached with
    | base => exact .base
    | next _ itemMem later least ih =>
      exact ih.next (mem_of_start_lt (skipped.trans_le (ih.base_le nonempty)) itemMem later) later
        fun other otherMem => least other (.tail _ otherMem)
  · intro reached
    induction reached with
    | base => exact .base
    | next reached itemMem later least ih =>
      refine ih.next (.tail _ itemMem) later fun other otherMem starts => ?_
      exact least other
        (mem_of_start_lt (skipped.trans_le (reached.base_le nonempty)) otherMem starts) starts

/-- From its first item on, the walk goes on from the end of that item. -/
theorem reached_cons_iff_of_le (itemNonempty : (span item).start < (span item).stop)
    (sorted : ∀ other ∈ items, key item ≤ key other)
    (ties : ∀ other ∈ items, key other = key item → (span other).stop = (span item).stop)
    (starts : base ≤ (span item).start) :
    Reached span key (· ∈ item :: items) base point ↔
      point = base ∨ Reached span key (· ∈ items) (span item).stop point := by
  have least : ∀ other ∈ item :: items, key item ≤ key other :=
    forall_mem_cons.mpr ⟨le_rfl, sorted⟩
  rw [← reached_cons_iff_of_lt nonempty itemNonempty]
  constructor
  · intro reached
    induction reached with
    | base => exact .inl rfl
    | @next point other _ otherMem later isLeast ih =>
      right
      rcases ih with rfl | reached
      · have same := le_antisymm (isLeast item (.head _) starts) (least other otherMem)
        rcases mem_cons.mp otherMem with rfl | otherMem
        · exact .base
        · rw [ties other otherMem same]
          exact .base
      · exact reached.next otherMem later isLeast
  · rintro (rfl | reached)
    · exact .base
    · induction reached with
      | base => exact Reached.base.next (.head _) starts fun other mem _ => least other mem
      | next _ otherMem later isLeast ih => exact ih.next otherMem later isLeast

/-- A position is covered by what is kept exactly when from every point before it that the
walk comes to some item starts by then. -/
theorem exists_kept_contains_iff
    (ordered : items.Pairwise fun first second =>
      key first ≤ key second ∧ (span first).start ≤ (span second).start)
    (ties : ∀ first ∈ items, ∀ second ∈ items, key second = key first →
      (span second).stop = (span first).stop) (later : base ≤ position) :
    (∃ kept ∈ selectFrom span base items, (span kept).Contains position) ↔
      ∀ point, Reached span key (· ∈ items) base point → point ≤ position →
        ∃ item ∈ items, point ≤ (span item).start ∧ (span item).start ≤ position := by
  induction items generalizing base with
  | nil =>
    refine iff_of_false (by simp [selectFrom]) fun all => ?_
    obtain ⟨_, itemMem, _⟩ := all base .base later
    cases itemMem
  | cons item items ih =>
    obtain ⟨itemNonempty, nonempty⟩ := forall_mem_cons.mp nonempty
    obtain ⟨first, ordered⟩ := pairwise_cons.mp ordered
    have ih {base : Nat} (later : base ≤ position) := ih nonempty ordered
      (fun other otherMem next mem => ties other (.tail _ otherMem) next (.tail _ mem)) later
    by_cases starts : base ≤ (span item).start
    · simp only [selectFrom, if_pos starts, reached_cons_iff_of_le nonempty itemNonempty
        (fun other otherMem => (first other otherMem).1)
        (fun other otherMem => ties item (.head _) other (.tail _ otherMem)) starts]
      rcases Nat.lt_or_ge position (span item).stop with before | after
      · -- Only the first item can cover the position.
        constructor
        · rintro ⟨kept, keptMem, contains⟩ point (rfl | reached) atMost
          · rcases mem_cons.mp keptMem with rfl | keptMem
            · exact ⟨kept, .head _, starts, contains.1⟩
            · have := le_start_of_mem_selectFrom nonempty keptMem
              exact absurd contains.1 (by omega)
          · have := reached.base_le nonempty
            omega
        · intro all
          obtain ⟨other, otherMem, _, atMost⟩ := all base (.inl rfl) later
          refine ⟨item, .head _, ?_, before⟩
          rcases mem_cons.mp otherMem with rfl | otherMem
          · exact atMost
          · exact (first other otherMem).2.trans atMost
      · -- The first item does not, and the walk from its base starts with it.
        have notItem : ¬ (span item).Contains position := fun contains =>
          Nat.not_lt.mpr after contains.2
        have passed {point : Nat} (reached : Reached span key (· ∈ items) (span item).stop point) :
            (span item).start < point :=
          itemNonempty.trans_le (reached.base_le nonempty)
        rw [exists_mem_cons_iff, or_iff_right notItem, ih after]
        constructor
        · rintro all point (rfl | reached) atMost
          · exact ⟨item, .head _, starts, itemNonempty.le.trans after⟩
          · exact (exists_start_cons_iff (passed reached)).mpr (all point reached atMost)
        · intro all point reached atMost
          exact (exists_start_cons_iff (passed reached)).mp (all point (.inr reached) atMost)
    · rw [selectFrom, if_neg starts, ih later]
      refine forall_congr' fun point => ?_
      rw [reached_cons_iff_of_lt nonempty (Nat.lt_of_not_le starts)]
      refine forall_congr' fun reached => forall_congr' fun _ => ?_
      have passed := (Nat.lt_of_not_le starts).trans_le (reached.base_le nonempty)
      exact (exists_start_cons_iff passed).symm

end Walk

/-! ## Splicing -/

variable (token : α → List β)

/-- The text from a position on, with the spans of the items replaced. -/
def splice (text : List β) : Nat → List α → List β
  | position, [] => text.drop position
  | position, item :: items =>
    (text.drop position).take ((span item).start - position) ++ token item ++
      splice text (span item).stop items

section Splice

variable {span} {token} {first second : List β} {position stop : Nat}

theorem drop_eq_drop_of_agree (agree : ∀ index, position ≤ index → first[index]? = second[index]?) :
    first.drop position = second.drop position := by
  apply ext_getElem?
  intro offset
  rw [List.getElem?_drop, List.getElem?_drop]
  exact agree _ (Nat.le_add_right _ _)

theorem take_drop_eq_of_agree
    (agree : ∀ index, position ≤ index → index < stop → first[index]? = second[index]?) :
    (first.drop position).take (stop - position) =
      (second.drop position).take (stop - position) := by
  apply ext_getElem?
  intro offset
  rw [List.getElem?_take, List.getElem?_take]
  split
  · rw [List.getElem?_drop, List.getElem?_drop]
    exact agree _ (Nat.le_add_right _ _) (by omega)
  · rfl

/-- Texts that agree outside the spans are spliced alike. -/
theorem splice_congr {items : List α}
    (ordered : items.Pairwise fun first second => (span first).Precedes (span second))
    (nonempty : ∀ item ∈ items, (span item).start < (span item).stop)
    (later : ∀ item ∈ items, position ≤ (span item).start)
    (agree : ∀ index, position ≤ index → (∀ item ∈ items, ¬ (span item).Contains index) →
      first[index]? = second[index]?) :
    splice span token first position items = splice span token second position items := by
  induction items generalizing position with
  | nil => exact drop_eq_drop_of_agree fun index after => agree index after (by simp)
  | cons item items ih =>
    obtain ⟨itemFirst, restOrdered⟩ := pairwise_cons.mp ordered
    have itemLater := later item (.head _)
    have itemNonempty := nonempty item (.head _)
    have precedes : ∀ other ∈ items, (span item).stop ≤ (span other).start := itemFirst
    have before : (first.drop position).take ((span item).start - position) =
        (second.drop position).take ((span item).start - position) := by
      apply take_drop_eq_of_agree
      intro index after inFront
      refine agree index after fun other otherMem contains => ?_
      rcases mem_cons.mp otherMem with rfl | otherMem
      · exact absurd contains.1 (by omega)
      · have := precedes other otherMem
        exact absurd contains.1 (by omega)
    have rest : splice span token first (span item).stop items =
        splice span token second (span item).stop items := by
      apply ih restOrdered (fun other otherMem =>
        nonempty other (.tail item otherMem)) precedes
      intro index after outside
      refine agree index (by omega) fun other otherMem contains => ?_
      rcases mem_cons.mp otherMem with rfl | otherMem
      · exact absurd contains.2 (by omega)
      · exact outside other otherMem contains
    unfold splice
    rw [before, rest]

/-- The part of a text in a span. -/
def Span.slice (span : Span) (text : List β) : List β :=
  (text.drop span.start).take (span.stop - span.start)

/-- The stretches between the spans stay, and each span is replaced. -/
theorem splice_eq (text : List β) (position : Nat) (items : List α) :
    splice span token text position items =
      (zipWith (fun stop item => (Span.mk stop (span item).start).slice text ++ token item)
        (position :: items.map fun item => (span item).stop) items).flatten ++
      text.drop ((items.map fun item => (span item).stop).getLastD position) := by
  induction items generalizing position with
  | nil => rfl
  | cons item items ih =>
    rw [splice, ih, map_cons, zipWith_cons_cons, flatten_cons, getLastD_cons,
      append_assoc _ _ (drop ..)]
    rfl

end Splice

end Caura.Interval
