import Mathlib.Data.List.Basic

/-!
# Resolving a relative path

A path is split at separators, and its parts are walked from a directory: an empty part
and `.` stay, `..` leaves a directory, and any other part enters one.  POSIX has one
separator and one root.  Windows has two separators, a root for each volume, and three
ways to leave the directory a path is resolved against without a `..`: a drive letter, two
leading separators, which name a share, and one leading separator.

A part starts where the path starts or behind a separator.  The rules below reduce what
holds of every part to what holds of every such suffix of the path.
-/

namespace Caura.Paths

open List

universe u v

variable {α : Type u} {β : Type v}

/-! ## Parts and where they start -/

/-- The suffixes behind the separators. -/
def laterStarts (isSep : α → Bool) : List α → List (List α)
  | [] => []
  | char :: path =>
    if isSep char then path :: laterStarts isSep path else laterStarts isSep path

/-- The suffixes of a path at which its parts start. -/
def partStarts (isSep : α → Bool) (path : List α) : List (List α) :=
  path :: laterStarts isSep path

/-- A part goes from its start to the next separator. -/
theorem splitOnP_eq_map_partStarts (isSep : α → Bool) (path : List α) : path.splitOnP isSep =
      (partStarts isSep path).map fun start => start.takeWhile fun char => !isSep char := by
  induction path with
  | nil => rfl
  | cons char path ih =>
    rw [splitOnP_cons_eq_if_modifyHead, ih]
    cases separates : isSep char with
    | true | false => simp [partStarts, laterStarts, separates]

variable {isSep isOther : α → Bool}

section

variable (more : ∀ char, isSep char = true → isOther char = true) (path : List α)

include more path

theorem laterStarts_subset : laterStarts isSep path ⊆ laterStarts isOther path := by
  induction path with
  | nil => exact List.Subset.refl _
  | cons char path ih =>
    unfold laterStarts
    cases separates : isSep char with
    | true =>
      rw [if_pos (more char separates)]
      exact cons_subset_cons path ih
    | false =>
      rw [if_neg Bool.false_ne_true]
      split
      · exact subset_cons_of_subset path ih
      · exact ih

/-- With more separators there are more starts. -/
theorem partStarts_subset : partStarts isSep path ⊆ partStarts isOther path :=
  cons_subset_cons path (laterStarts_subset more path)

end

/-- The parts of a path whose characters were replaced. -/
theorem splitOnP_map (change : α → β) (isSep : β → Bool) (path : List α) :
    (path.map change).splitOnP isSep =
      (path.splitOnP fun char => isSep (change char)).map (List.map change) := by
  induction path with
  | nil => rfl
  | cons char path ih =>
    rw [map_cons, splitOnP_cons_eq_if_modifyHead, ih,
      splitOnP_cons_eq_if_modifyHead]
    split
    · rfl
    · obtain ⟨head, tail, equal⟩ := exists_cons_of_ne_nil
        (splitOnP_ne_nil (fun char => isSep (change char)) path)
      rw [equal]
      rfl

theorem length_splitOnP_le (isSep : α → Bool) (path : List α) :
    (path.splitOnP isSep).length ≤ path.length + 1 := by
  induction path with
  | nil => exact Nat.le_refl 1
  | cons char path ih =>
    rw [splitOnP_cons_eq_if_modifyHead]
    split
    · exact Nat.succ_le_succ ih
    · rw [length_modifyHead]
      exact Nat.le_trans ih (Nat.le_succ _)

/-! ## Walking -/

/-- A part of a path. -/
abbrev Part := List Char

/-- The directory behind one more part. -/
def descend (directory : List Part) (part : Part) : List Part :=
  if part = [] ∨ part = ['.'] then
    directory
  else if part = ['.', '.'] then
    directory.dropLast
  else
    directory ++ [part]

/-- Descend through parts. -/
def walk (directory : List Part) (parts : List Part) : List Part :=
  parts.foldl descend directory

variable {directory parts base location : List Part}

theorem descend_of_named {part : Part} (named : part.head? ≠ some '.') :
    descend directory part = if part = [] then directory else directory ++ [part] := by
  unfold descend
  cases part with
  | nil => simp
  | cons char part =>
    have apart : char ≠ '.' := fun isDot => named (by rw [isDot]; rfl)
    simp [apart]

/-- Parts that do not start with a dot only enter directories. -/
theorem walk_of_named (named : ∀ part ∈ parts, part.head? ≠ some '.') (directory : List Part) :
    walk directory parts = directory ++ parts.filter fun part => !part.isEmpty := by
  induction parts generalizing directory with
  | nil => simp [walk]
  | cons part parts ih =>
    have rest := ih fun other otherMem => named other (.tail _ otherMem)
    rw [walk, foldl_cons, descend_of_named (named part (.head _))]
    change walk _ parts = _
    rw [rest]
    cases part with
    | nil | cons char part => simp

theorem length_walk_le (directory : List Part) (parts : List Part) :
    (walk directory parts).length ≤ directory.length + parts.length := by
  induction parts generalizing directory with
  | nil => exact Nat.le_refl _
  | cons part parts ih =>
    have step : (descend directory part).length ≤ directory.length + 1 := by
      unfold descend
      split
      · exact Nat.le_succ _
      · split
        · rw [length_dropLast]
          exact Nat.le_trans (Nat.sub_le _ _) (Nat.le_succ _)
        · exact Nat.le_of_eq length_append
    have rest := ih (descend directory part)
    rw [walk, foldl_cons, length_cons]
    exact Nat.le_trans rest (by omega)

/-- Strictly inside a directory. -/
def Inside (base location : List Part) : Prop :=
  ∃ rest, rest ≠ [] ∧ location = base ++ rest

theorem Inside.length_lt (inside : Inside base location) : base.length < location.length := by
  obtain ⟨rest, nonempty, rfl⟩ := inside
  rw [length_append]
  exact Nat.lt_add_of_pos_right (length_pos_iff.mpr nonempty)

variable {path : List Char}

/-- A path that starts with a character other than a separator and none of whose parts
starts with a dot leads inside. -/
theorem inside_walk {isSep : Char → Bool}
    (starts : ∃ char, path.head? = some char ∧ isSep char = false)
    (named : ∀ part ∈ path.splitOnP isSep, part.head? ≠ some '.') (base : List Part) :
    Inside base (walk base (path.splitOnP isSep)) := by
  rw [walk_of_named named]
  refine ⟨_, ?_, rfl⟩
  obtain ⟨char, head, notSep⟩ := starts
  obtain ⟨rest, rfl⟩ := List.head?_eq_some_iff.mp head
  rw [splitOnP_eq_map_partStarts]
  simp [partStarts, notSep]

/-! ## POSIX -/

/-- The separator of POSIX. -/
def isSlash (char : Char) : Bool :=
  char == '/'

/-- The path resolved against a directory; a leading slash starts at the root. -/
def posixResolve (base : List Part) (path : List Char) : List Part :=
  walk (if path.head?.any isSlash then [] else base) (path.splitOnP isSlash)

theorem inside_posixResolve (starts : ∃ char, path.head? = some char ∧ isSlash char = false)
    (named : ∀ part ∈ path.splitOnP isSlash, part.head? ≠ some '.') (base : List Part) :
    Inside base (posixResolve base path) := by
  have relative : path.head?.any isSlash = false := by
    obtain ⟨char, head, notSep⟩ := starts
    rw [head, Option.any_some, notSep]
  rw [posixResolve, relative]
  exact inside_walk starts named base

/-! ## Windows -/

/-- A separator of Windows. -/
def isSeparator (char : Char) : Bool :=
  char == '/' || char == '\\'

/-- A drive by its capital letter, or a share. -/
inductive Volume where
  | drive (letter : Char)
  | share (server name : Part)
  deriving DecidableEq, Repr

/-- A volume and a directory on it. -/
structure Location where
  volume : Volume
  parts : List Part
  deriving DecidableEq, Repr

/-- What follows a drive letter and its colon. -/
def driveOf : List Char → Option (Char × List Char)
  | letter :: ':' :: rest =>
    if letter.isAlpha then some (letter.toUpper, rest) else none
  | _ => none

/-- The path starts with a separator. -/
def startsAtRoot (path : List Char) : Bool :=
  path.head?.any isSeparator

/-- The path resolved against a directory, where `current` is the current directory of each
other drive. -/
def windowsResolve (current : Char → List Part) (base : Location) (path : List Char) : Location :=
  match driveOf path with
  | some (letter, rest) =>
    if startsAtRoot rest then
      { volume := .drive letter, parts := walk [] (rest.splitOnP isSeparator) }
    else if base.volume = .drive letter then
      { base with parts := walk base.parts (rest.splitOnP isSeparator) }
    else
      { volume := .drive letter, parts := walk (current letter) (rest.splitOnP isSeparator) }
  | none =>
    if startsAtRoot path then
      if startsAtRoot path.tail then
        match path.tail.tail.splitOnP isSeparator with
        | server :: name :: parts =>
          { volume := .share server name, parts := walk [] parts }
        | parts =>
          { volume := .share parts.flatten [], parts := [] }
      else
        { base with parts := walk [] (path.splitOnP isSeparator) }
    else
      { base with parts := walk base.parts (path.splitOnP isSeparator) }

/-- Strictly inside a directory, on its volume. -/
def Location.Inside (base location : Location) : Prop :=
  location.volume = base.volume ∧ Paths.Inside base.parts location.parts

theorem inside_windowsResolve (noDrive : driveOf path = none)
    (starts : ∃ char, path.head? = some char ∧ isSeparator char = false)
    (named : ∀ part ∈ path.splitOnP isSeparator, part.head? ≠ some '.')
    (current : Char → List Part) (base : Location) :
    base.Inside (windowsResolve current base path) := by
  have relative : startsAtRoot path = false := by
    obtain ⟨char, head, notSep⟩ := starts
    rw [startsAtRoot, head, Option.any_some, notSep]
  simp only [windowsResolve, noDrive, relative]
  exact ⟨rfl, inside_walk starts named base.parts⟩

/-- A path with a drive letter leaves every directory of a share. -/
theorem not_inside_of_drive {drive : Char × List Char} (hasDrive : driveOf path = some drive)
    (current : Char → List Part) (server name : Part) (parts : List Part) :
    ¬ Location.Inside ⟨.share server name, parts⟩
      (windowsResolve current ⟨.share server name, parts⟩ path) := by
  rintro ⟨sameVolume, _⟩
  simp only [windowsResolve, hasDrive] at sameVolume
  split at sameVolume <;> cases sameVolume

/-- A path that starts with a separator leaves every directory of a drive that is deeper
than the path is long. -/
theorem not_inside_of_root (noDrive : driveOf path = none) (atRoot : startsAtRoot path = true)
    (current : Char → List Part) (letter : Char) (deep : path.length < parts.length) :
    ¬ Location.Inside ⟨.drive letter, parts⟩
      (windowsResolve current ⟨.drive letter, parts⟩ path) := by
  rintro ⟨sameVolume, inside⟩
  simp only [windowsResolve, noDrive, atRoot, if_true] at sameVolume inside
  split at sameVolume
  · split at sameVolume <;> cases sameVolume
  next single =>
    rw [if_neg single] at inside
    have longer : parts.length < (walk [] (path.splitOnP isSeparator)).length :=
      inside.length_lt
    have walked := length_walk_le [] (path.splitOnP isSeparator)
    have split := length_splitOnP_le isSeparator path
    rw [length_nil, Nat.zero_add] at walked
    omega

end Caura.Paths
