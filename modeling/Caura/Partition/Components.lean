import Caura.Partition.Forest
import Caura.Partition.Groups
import Mathlib.Data.List.Induction
import Mathlib.Logic.Function.Iterate

/-!
# Roots and components

Every element of a forest has one root above it, and a walk finds that root and changes no
other element's.  A union joins the elements of two roots under one of them, so after the
unions of a list of pairs two elements have one root exactly when the pairs connect them.
Items collected under their roots are then the components, each once.
-/

namespace Caura.Partition

open List Function

universe u v w

variable {κ : Type u}

namespace Forest

/-- The root above an element. -/
def root (forest : Forest κ) (id : κ) : κ :=
  forest.parent^[forest.unions] id

theorem root_singletons (id : κ) : (singletons : Forest κ).root id = id :=
  rfl

variable {forest walked : Forest κ}

/-- A label that the parents respect is that of the root. -/
theorem Respects.root {β : Type v} {label : κ → β} (respects : forest.Respects label) (id : κ) :
    label (forest.root id) = label id := by
  unfold Forest.root
  generalize forest.unions = steps
  induction steps generalizing id with
  | zero => rfl
  | succ steps ih => exact (ih _).trans (respects id)

variable {id first second child target : κ}

theorem root_of_isRoot (isRoot : forest.parent id = id) : forest.root id = id :=
  iterate_fixed isRoot _

/-- The roots of two elements are joined, and no others. -/
def Unites (before : Forest κ) (first second : κ) (after : Forest κ) : Prop :=
  ∀ id other, after.root id = after.root other ↔
    before.root id = before.root other ∨
      before.root id = before.root first ∧ before.root second = before.root other ∨
      before.root id = before.root second ∧ before.root first = before.root other

variable {before after : Forest κ}

theorem Unites.symm (unites : Unites before first second after) :
    Unites before second first after := by
  intro id other
  rw [unites id other, or_comm (a := _ ∧ before.root second = _)]

theorem unites_of_root_eq (kept : after.root = before.root)
    (same : before.root first = before.root second) : Unites before first second after := by
  intro id other
  rw [kept, same]
  constructor
  · exact .inl
  · rintro (equal | ⟨toSecond, fromSecond⟩ | ⟨toSecond, fromSecond⟩)
    · exact equal
    · exact toSecond.trans fromSecond
    · exact toSecond.trans fromSecond

variable [DecidableEq κ]

/-! ## The root of an element -/

variable (forest)

theorem remaining_parent_lt (moved : forest.parent id ≠ id) :
    forest.remaining (forest.parent id) < forest.remaining id := by
  have early := forest.early id moved
  unfold remaining
  split
  · exact Nat.sub_pos_of_lt early
  next parentMoved => exact Nat.sub_lt_sub_left early (forest.ascending id moved parentMoved)

variable {steps fuel more : Nat}

/-- As many steps up as remain lead to a root. -/
theorem isRoot_iterate (enough : forest.remaining id ≤ steps) :
    forest.parent (forest.parent^[steps] id) = forest.parent^[steps] id := by
  induction steps generalizing id with
  | zero =>
    by_contra moved
    exact Nat.not_lt_zero _ (Nat.lt_of_lt_of_le (forest.remaining_parent_lt moved) enough)
  | succ steps ih =>
    rw [iterate_succ_apply]
    by_cases moved : forest.parent id = id
    · rw [moved, iterate_fixed moved, moved]
    · exact ih (Nat.le_of_lt_succ (Nat.lt_of_lt_of_le (forest.remaining_parent_lt moved) enough))

theorem isRoot_root (id : κ) :
    forest.parent (forest.root id) = forest.root id := by
  apply forest.isRoot_iterate
  unfold remaining
  split
  · exact Nat.zero_le _
  · exact Nat.sub_le _ _

theorem respects_root : forest.Respects forest.root := by
  intro id
  rw [root, ← iterate_succ_apply, iterate_succ_apply']
  exact forest.isRoot_root id

/-- A forest that respects the roots of another and makes no new ones has the same. -/
theorem root_eq_of_respects (respects : after.Respects before.root)
    (roots : ∀ id, after.parent id = id → before.parent id = id) : after.root = before.root := by
  funext id
  rw [← respects.root id]
  exact (root_of_isRoot (roots _ (after.isRoot_root id))).symm

/-! ## Walks and unions -/

/-- More fuel does not change a walk that ends. -/
theorem findFrom_mono {forest : Forest κ} {walked : Forest κ × κ}
    (walks : findFrom fuel forest id = some walked)
    (le : fuel ≤ more) : findFrom more forest id = some walked := by
  induction fuel generalizing more forest id with
  | zero => cases walks
  | succ fuel ih =>
    obtain ⟨rest, rfl⟩ := Nat.exists_eq_add_of_le' (Nat.zero_lt_of_lt le)
    unfold findFrom at walks ⊢
    split
    next isRoot => rwa [if_pos isRoot] at walks
    next moved =>
      rw [if_neg moved] at walks
      exact ih walks (Nat.le_of_succ_le_succ le)

/-- Every walk ends, after at most as many steps as there were unions. -/
theorem findFrom_eq_find (id : κ) (enough : forest.unions < fuel) :
    findFrom fuel forest id = some (forest.find id) := by
  have least : forest.remaining id < forest.unions + 1 := by
    unfold remaining
    split
    · exact Nat.succ_pos _
    · exact Nat.lt_succ_of_le (Nat.sub_le _ _)
  obtain ⟨after, root, walks, _⟩ := findFrom_found least
  rw [find, walks, findFrom_mono walks enough]
  rfl

theorem find_snd (id : κ) : (forest.find id).2 = forest.root id := by
  have found := forest.find_found id
  have isRoot := (forest.find_parent_eq_self_iff id _).mp found.isRoot
  rw [← (found.keepsLabels forest.respects_root).2]
  exact (root_of_isRoot isRoot).symm

/-- A walk changes no root. -/
theorem root_find (id : κ) : (forest.find id).1.root = forest.root :=
  root_eq_of_respects ((forest.find_found id).keepsLabels forest.respects_root).1
    fun other isRoot => (forest.find_parent_eq_self_iff id other).mp isRoot

/-- The elements under a root that is joined to another come under that one. -/
theorem root_join (childIsRoot : forest.parent child = child)
    (isRoot : forest.parent target = target) (apart : child ≠ target) (id : κ) :
    (forest.join child target isRoot apart).root id =
      if forest.root id = child then target else forest.root id := by
  let label : κ → κ := fun id => if forest.root id = child then target else forest.root id
  have targetLabel : label target = target := by
    simp only [label, root_of_isRoot isRoot, if_neg apart.symm]
  have respects : (forest.join child target isRoot apart).Respects label := by
    intro other
    by_cases isChild : other = child
    · subst isChild
      have parentEq : (forest.join other target isRoot apart).parent other = target :=
        update_self ..
      rw [parentEq, targetLabel]
      simp only [label, root_of_isRoot childIsRoot, if_true]
    · have parentEq : (forest.join child target isRoot apart).parent other =
          forest.parent other := update_of_ne isChild ..
      simp only [label, parentEq, forest.respects_root other]
  have joinedRoot := (forest.join child target isRoot apart).isRoot_root id
  have notChild : (forest.join child target isRoot apart).root id ≠ child := by
    intro isChild
    rw [isChild] at joinedRoot
    exact apart (joinedRoot.symm.trans (update_self ..))
  have wasRoot : forest.parent ((forest.join child target isRoot apart).root id) =
      (forest.join child target isRoot apart).root id :=
    (update_of_ne notChild ..).symm.trans joinedRoot
  have kept := respects.root id
  simp only [label, root_of_isRoot wasRoot, if_neg notChild] at kept
  exact kept

/-- Joining the root of one element to that of another unites them. -/
theorem unites_join (kept : walked.root = before.root)
    (firstIsRoot : walked.parent (before.root first) = before.root first)
    (isRoot : walked.parent (before.root second) = before.root second)
    (apart : before.root first ≠ before.root second) : Unites before first second
      (walked.join (before.root first) (before.root second) isRoot apart) := by
  intro id other
  rw [walked.root_join firstIsRoot, walked.root_join firstIsRoot, kept]
  split
  next idFirst =>
    split
    next otherFirst => simp [idFirst, otherFirst]
    next otherFirst =>
      rw [idFirst]
      simp [Ne.symm otherFirst]
  next idFirst =>
    split
    next otherFirst =>
      rw [otherFirst]
      simp [idFirst]
    next otherFirst => simp [idFirst, Ne.symm otherFirst]

/-- The two walks of a union. -/
theorem walked_root (first second : κ) :
    ((forest.find first).1.find second).1.root = forest.root := by
  rw [root_find, root_find]

theorem walked_isRoot (first second id : κ) :
    ((forest.find first).1.find second).1.parent (forest.root id) = forest.root id :=
  ((find_parent_eq_self_iff _ second _).trans (find_parent_eq_self_iff _ first _)).mpr
    (forest.isRoot_root id)

theorem unites_union (first second : κ) :
    Unites forest first second (forest.union first second) := by
  unfold union
  simp only [find_snd, root_find]
  split
  next apart =>
    exact unites_join (forest.walked_root first second) (forest.walked_isRoot first second first)
      (forest.walked_isRoot first second second) apart
  next same => exact unites_of_root_eq (forest.walked_root first second) (not_not.mp same)

theorem unites_unionByRank (rank : κ → Nat) (first second : κ) :
    Unites forest first second (unionByRank (forest, rank) first second).1 := by
  unfold unionByRank
  simp only [find_snd, root_find]
  split
  next same => exact unites_of_root_eq (forest.walked_root first second) same
  next apart =>
    split
    · exact unites_join (forest.walked_root first second)
        (forest.walked_isRoot first second first) (forest.walked_isRoot first second second) apart
    · exact (unites_join (forest.walked_root first second)
        (forest.walked_isRoot first second second) (forest.walked_isRoot first second first)
        (Ne.symm apart)).symm

end Forest

/-! ## The unions of a list of pairs -/

/-- Connected by a path of pairs, in either direction. -/
def Connected (pairs : List (κ × κ)) : κ → κ → Prop :=
  Relation.EqvGen fun first second => (first, second) ∈ pairs

/-- What the two of every pair share, connected elements share. -/
theorem Connected.label_eq {β : Type v} {label : κ → β} {pairs : List (κ × κ)}
    (shared : ∀ pair ∈ pairs, label pair.1 = label pair.2) {id other : κ}
    (connected : Connected pairs id other) : label id = label other := by
  induction connected with
  | rel first second pairMem => exact shared _ pairMem
  | refl first => rfl
  | symm first second _ ih => exact ih.symm
  | trans first second third _ _ ih ihAfter => exact ih.trans ihAfter

namespace Forest

section Fold

variable {σ : Type w} (forest : σ → Forest κ) {step : σ → κ × κ → σ}

section

variable (unites : ∀ state pair, Unites (forest state) pair.1 pair.2 (forest (step state pair)))

include unites

/-- After the unions of a list of pairs two elements have one root exactly when a path of
pairs and of elements that had one root before connects them. -/
theorem root_foldl_eq_iff (pairs : List (κ × κ)) (state : σ) (id other : κ) :
    (forest (pairs.foldl step state)).root id = (forest (pairs.foldl step state)).root other ↔
      Relation.EqvGen (fun first second =>
        (forest state).root first = (forest state).root second ∨ (first, second) ∈ pairs)
        id other := by
  induction pairs generalizing state with
  | nil =>
    constructor
    · exact fun same => .rel _ _ (.inl same)
    · intro path
      induction path with
      | rel first second linked => exact linked.resolve_right not_mem_nil
      | refl first => rfl
      | symm first second _ ih => exact ih.symm
      | trans first second third _ _ ih ihAfter => exact ih.trans ihAfter
  | cons pair pairs ih =>
    rw [foldl_cons, ih (step state pair)]
    -- Each link of one path is a path of the other kind.
    constructor
    · apply Relation.EqvGen.eqvGen_le
      rintro first second (same | later)
      · have whole : Relation.EqvGen (fun first second =>
            (forest state).root first = (forest state).root second ∨
              (first, second) ∈ pair :: pairs) pair.1 pair.2 :=
          .rel _ _ (.inr (.head _))
        rcases (unites state pair first second).mp same with
          before | ⟨toFirst, fromSecond⟩ | ⟨toSecond, fromFirst⟩
        · exact .rel _ _ (.inl before)
        · exact (Relation.EqvGen.rel _ _ (.inl toFirst)).trans _ _ _
            (whole.trans _ _ _ (.rel _ _ (.inl fromSecond)))
        · exact (Relation.EqvGen.rel _ _ (.inl toSecond)).trans _ _ _
            ((whole.symm _ _).trans _ _ _ (.rel _ _ (.inl fromFirst)))
      · exact .rel _ _ (.inr (.tail _ later))
    · apply Relation.EqvGen.mono
      rintro first second (before | member)
      · exact .inl ((unites state pair first second).mpr (.inl before))
      · rcases mem_cons.mp member with rfl | later
        · exact .inl ((unites state (first, second) first second).mpr (.inr (.inl ⟨rfl, rfl⟩)))
        · exact .inr later

/-- From elements each on its own, the roots are one exactly where the pairs connect. -/
theorem root_foldl_eq_iff_connected {state : σ} (alone : forest state = singletons)
    (pairs : List (κ × κ)) (id other : κ) :
    (forest (pairs.foldl step state)).root id = (forest (pairs.foldl step state)).root other ↔
      Connected pairs id other := by
  rw [root_foldl_eq_iff forest unites, alone]
  unfold Connected
  constructor
  · apply Relation.EqvGen.eqvGen_le
    rintro first second (same | member)
    · rw [root_singletons] at same
      exact same ▸ .refl _
    · exact .rel _ _ member
  · exact Relation.EqvGen.mono (fun _ _ => .inr) _ _

end

end Fold

end Forest

/-! ## Classes -/

section Classes

variable {α : Type u} {ρ : Type v}

/-- The lists are the classes of a relation on some elements, each element once. -/
structure Classes (related : α → α → Prop) (elements : List α) (classes : List (List α)) :
    Prop where
  cover : classes.flatten.Perm elements
  inhabited : ∀ members ∈ classes, members ≠ []
  exact : ∀ members ∈ classes, ∀ id ∈ members, ∀ other ∈ elements,
    other ∈ members ↔ related id other

variable [DecidableEq ρ]

/-- The items under their keys. -/
def groupBy (key : α → ρ) (items : List α) : List (ρ × List α) :=
  items.foldl (fun groups item => addTo (key item) item groups) []

/-- The groups under construction hold the items so far, each under its key, and no key
twice. -/
structure Grouped (key : α → ρ) (items : List α) (groups : List (ρ × List α)) : Prop where
  cover : (members groups).Perm items
  keyed : ∀ group ∈ groups, ∀ item ∈ group.2, key item = group.1
  distinct : (groups.map Prod.fst).Nodup
  inhabited : ∀ group ∈ groups, group.2 ≠ []

variable {items elements others : List α}

theorem Grouped.addTo {key : α → ρ} {groups : List (ρ × List α)}
    (grouped : Grouped key items groups) (item : α) :
    Grouped key (items ++ [item]) (addTo (key item) item groups) where
  cover := members_addTo.trans
    ((grouped.cover.cons item).trans (perm_append_singleton item items).symm)
  keyed := forall_mem_addTo grouped.keyed (forall_mem_singleton.mpr rfl) fun _ keyed =>
    forall_mem_append.mpr ⟨keyed, forall_mem_singleton.mpr rfl⟩
  distinct := nodup_keys_addTo grouped.distinct
  inhabited := forall_mem_addTo grouped.inhabited (by simp) fun _ _ => by simp

theorem grouped_groupBy (key : α → ρ) (items : List α) : Grouped key items (groupBy key items) := by
  induction items using List.reverseRecOn with
  | nil =>
    exact ⟨List.Perm.refl _, fun _ groupMem => absurd groupMem not_mem_nil,
      nodup_nil, fun _ groupMem => absurd groupMem not_mem_nil⟩
  | append_singleton items item ih =>
    rw [groupBy, foldl_append]
    exact ih.addTo item

/-- Items under their keys are the classes of items with one key. -/
theorem classes_groupBy {key : α → ρ} :
    Classes (fun item other => key item = key other) items ((groupBy key items).map Prod.snd) := by
  have grouped := grouped_groupBy key items
  refine ⟨grouped.cover, ?_, ?_⟩
  · intro group groupMem
    obtain ⟨keyed, keyedMem, rfl⟩ := mem_map.mp groupMem
    exact grouped.inhabited keyed keyedMem
  · intro group groupMem item itemMem other otherMem
    obtain ⟨keyed, keyedMem, rfl⟩ := mem_map.mp groupMem
    rw [grouped.keyed keyed keyedMem item itemMem]
    constructor
    · exact fun isMember => (grouped.keyed keyed keyedMem other isMember).symm
    · intro sameKey
      obtain ⟨found, foundMem, isMember⟩ := mem_flatten.mp (grouped.cover.mem_iff.mpr otherMem)
      obtain ⟨holder, holderMem, rfl⟩ := mem_map.mp foundMem
      have sameGroup : holder = keyed :=
        inj_on_of_nodup_map grouped.distinct holderMem keyedMem
          ((grouped.keyed holder holderMem other isMember).symm.trans sameKey.symm)
      exact sameGroup ▸ isMember

variable {related linked : α → α → Prop} {classes : List (List α)}

theorem Classes.perm (isClasses : Classes related elements classes) (same : elements.Perm others) :
    Classes related others classes :=
  ⟨isClasses.cover.trans same, isClasses.inhabited, fun members membersMem id idMem other mem =>
    isClasses.exact members membersMem id idMem other (same.mem_iff.mpr mem)⟩

theorem Classes.congr (isClasses : Classes related elements classes)
    (same : ∀ id other, related id other ↔ linked id other) : Classes linked elements classes :=
  ⟨isClasses.cover, isClasses.inhabited, fun members membersMem id idMem other otherMem =>
    (isClasses.exact members membersMem id idMem other otherMem).trans (same id other)⟩

end Classes

end Caura.Partition
