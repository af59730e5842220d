import Caura.Skills.Sentinel
import Caura.Transition.Fallible

/-!
# Where the accepted support files end up

A document whose scan has no fatal finding has a path in each of its support files, in
ASCII and without a part that starts with a dot.  Resolved against a directory by the rules
of POSIX such a path always leads inside.  By the rules of Windows it does so exactly if it
starts with neither a backslash nor a drive letter: the scanner refuses two backslashes and
a drive letter in front of a backslash, but not one backslash, nor a drive letter in front
of a slash or of nothing.
-/

namespace Caura.Skills

open Caura.Paths Caura.Transition Caura.Value List

/-! ## What a path without a fault is -/

/-- The checks that a path passes. -/
structure PassesPathChecks (path : List Char) : Prop where
  ascii : isAscii path = true
  notAbsolute : isAbsolute path = false
  notTraversing : (partStarts isSeparator path).any traversalAt = false
  notHidden : (partStarts isSeparator path).any hiddenAt = false
  noBareDot : hasBareDot path = false

variable {platform : Platform} {file data : Data}

theorem passes_of_pathFault {path : String} (faultless : pathFault platform file path = .ok none) :
    PassesPathChecks path.toList := by
  revert faultless
  fun_cases pathFault platform file path <;> intro faultless <;> try cases faultless
  next ascii relative traversing hidden bare =>
    rw [Bool.not_eq_true, Bool.not_eq_false'] at ascii
    rw [Bool.not_eq_true] at relative traversing hidden bare
    exact ⟨ascii, relative, traversing, hidden, bare⟩

/-- The path of a support file. -/
def pathOf : Json → Option String
  | .obj file =>
    match Dict.get file "path" with
    | some (.str path) => some path
    | _ => none
  | _ => none

theorem path_of_scanSupportPath {file : Json} {index : Nat}
    (faultless : scanSupportPath platform (file, index) = .ok none) :
    ∃ path, pathOf file = some path ∧ path ≠ "" ∧ PassesPathChecks path.toList := by
  revert faultless
  fun_cases scanSupportPath platform (file, index) <;> intro faultless <;> try cases faultless
  next isObject path isPath nonempty =>
    cases isObject
    obtain ⟨fault, found, none⟩ := bind_eq_ok_iff.mp faultless
    have noFault : fault = Option.none := by
      cases fault with
      | none => rfl
      | some message => cases none
    refine ⟨path, ?_, nonempty, passes_of_pathFault (noFault ▸ found)⟩
    simp [pathOf, isPath]

theorem fatal_of_scanSupportPath {entry : Json × Nat} {finding : ScanFinding}
    (found : scanSupportPath platform entry = .ok (some finding)) :
    finding.fatal = true := by
  revert found
  fun_cases scanSupportPath platform entry <;> intro found <;> try (cases found; rfl)
  obtain ⟨fault, _, isFinding⟩ := bind_eq_ok_iff.mp found
  cases fault with
  | none => cases isFinding
  | some message =>
    cases isFinding
    rfl

/-! ## What a scan without a fatal finding has seen -/

variable {patterns : Patterns} {caps : Caps} {result : ScanResult}

theorem paths_of_scanData {now : String}
    (scanned : scanData platform patterns caps now data = .ok result) :
    ∃ paths, scanPathViolations platform (supportFiles data) = .ok paths ∧
      paths ⊆ result.findings := by
  obtain ⟨bodies, _, rest⟩ := bind_eq_ok_iff.mp scanned
  obtain ⟨paths, found, isResult⟩ := bind_eq_ok_iff.mp rest
  refine ⟨paths, found, ?_⟩
  cases isResult
  intro finding findingMem
  simp only [resultOf, mem_append]
  exact .inl (.inl (.inr findingMem))

/-- Each support file of an accepted document has a path that passes the checks. -/
theorem path_of_accepted {now : String}
    (scanned : scanData platform patterns caps now data = .ok result)
    (accepted : result.anyFatal = false) {file : Json} (fileMem : file ∈ supportFiles data) :
    ∃ path, pathOf file = some path ∧ path ≠ "" ∧ PassesPathChecks path.toList := by
  obtain ⟨paths, found, shown⟩ := paths_of_scanData scanned
  obtain ⟨findings, mapped, isPaths⟩ := bind_eq_ok_iff.mp found
  cases isPaths
  obtain ⟨index, indexLt, atIndex⟩ := mem_iff_getElem.mp fileMem
  have each := forall₂_iff_get.mp (forall₂_of_mapM mapped)
  have inZip : index < (supportFiles data).zipIdx.length := by
    rwa [length_zipIdx]
  have inFindings : index < findings.length := each.1 ▸ inZip
  have checked := each.2 index inZip inFindings
  rw [get_eq_getElem, get_eq_getElem, getElem_zipIdx, atIndex] at checked
  cases finding : findings[index] with
  | none =>
    rw [finding] at checked
    exact path_of_scanSupportPath checked
  | some violation =>
    -- Every finding on a path is fatal, so an accepted document has none.
    rw [finding] at checked
    have isFatal := fatal_of_scanSupportPath checked
    have inPaths : violation ∈ findings.filterMap id :=
      mem_filterMap.mpr ⟨_, getElem_mem inFindings, finding⟩
    have notFatal := any_eq_false.mp accepted violation (shown inPaths)
    exact absurd isFatal notFatal

/-! ## Parts and roots -/

variable {path : List Char}

theorem starts_of_passes (passes : PassesPathChecks path) :
    ∀ start ∈ partStarts isSeparator path, start.head? ≠ some '.' := by
  intro start startMem isDot
  obtain ⟨rest, rfl⟩ := List.head?_eq_some_iff.mp isDot
  have notHidden := any_eq_false.mp passes.notHidden _ startMem
  -- Behind the dot stands a separator or nothing, so the part is a bare dot.
  have bare : (('.' :: rest).takeWhile fun char => !isSeparator char) = ['.'] := by
    cases rest with
    | nil => rfl
    | cons char rest =>
      have separates : isSeparator char = true := by simpa [hiddenAt] using notHidden
      have dot : isSeparator '.' = false := by decide
      simp [dot, separates]
  have isPart : ['.'] ∈ path.splitOnP isSeparator := by
    rw [splitOnP_eq_map_partStarts]
    exact mem_map.mpr ⟨_, startMem, bare⟩
  have separators : (fun char => isSlash (if char = '\\' then '/' else char)) = isSeparator := by
    funext char
    unfold isSlash isSeparator
    by_cases backslash : char = '\\'
    · simp [backslash]
    · simp [backslash]
  have noBareDot := passes.noBareDot
  unfold hasBareDot at noBareDot
  rw [splitOnP_map, separators] at noBareDot
  have notDot := any_eq_false.mp noBareDot _ (mem_map_of_mem isPart)
  exact notDot (by decide)

/-- No part of an accepted path starts with a dot, by the separators of either system. -/
theorem named_of_passes (passes : PassesPathChecks path) {isSep : Char → Bool}
    (fewer : ∀ char, isSep char = true → isSeparator char = true) :
    ∀ part ∈ path.splitOnP isSep, part.head? ≠ some '.' := by
  intro part partMem isDot
  rw [splitOnP_eq_map_partStarts] at partMem
  obtain ⟨start, startMem, rfl⟩ := mem_map.mp partMem
  refine starts_of_passes passes start (partStarts_subset fewer path startMem) ?_
  cases start with
  | nil => cases isDot
  | cons char start =>
    rw [takeWhile_cons] at isDot
    split at isDot
    · exact isDot
    · cases isDot

theorem isSeparator_of_isSlash (char : Char) (slash : isSlash char = true) :
    isSeparator char = true := by
  unfold isSlash at slash
  unfold isSeparator
  rw [slash, Bool.true_or]

/-- The path starts with neither a backslash nor a drive letter. -/
def Relative (path : List Char) : Prop :=
  path.head? ≠ some '\\' ∧ driveOf path = none

/-- Resolved against any directory by the rules of either system, the path names a location
strictly inside. -/
def StaysInside (path : List Char) : Prop :=
  (∀ base, Inside base (posixResolve base path)) ∧
    ∀ current base, Location.Inside base (windowsResolve current base path)

theorem head_of_passes (passes : PassesPathChecks path) (nonempty : path ≠ []) :
    ∃ char, path.head? = some char ∧ isSlash char = false := by
  obtain ⟨char, rest, rfl⟩ := exists_cons_of_ne_nil nonempty
  refine ⟨char, rfl, ?_⟩
  rw [isSlash, beq_eq_false_iff_ne]
  rintro rfl
  cases passes.notAbsolute

theorem staysInside_iff (passes : PassesPathChecks path) (nonempty : path ≠ []) :
    StaysInside path ↔ Relative path := by
  obtain ⟨char, head, notSlash⟩ := head_of_passes passes nonempty
  constructor
  · rintro ⟨_, windows⟩
    have noDrive : driveOf path = none := by
      cases found : driveOf path with
      | none => rfl
      | some drive =>
        exact absurd (windows (fun _ => []) _) (not_inside_of_drive found _ ['s'] ['t'] [])
    refine ⟨fun backslash => ?_, noDrive⟩
    have atRoot : startsAtRoot path = true := by
      rw [startsAtRoot, backslash]
      rfl
    have long : path.length < (List.replicate (path.length + 1) ['s']).length := by
      rw [length_replicate]
      exact Nat.lt_succ_self _
    exact not_inside_of_root noDrive atRoot (fun _ => []) 'C' long (windows _ _)
  · rintro ⟨notBackslash, noDrive⟩
    refine ⟨fun base => ?_, fun current base => ?_⟩
    · exact inside_posixResolve ⟨char, head, notSlash⟩
        (named_of_passes passes isSeparator_of_isSlash) base
    · have notSep : isSeparator char = false := by
        unfold isSlash at notSlash
        unfold isSeparator
        rw [notSlash, Bool.false_or, beq_eq_false_iff_ne]
        rintro rfl
        exact notBackslash head
      exact inside_windowsResolve noDrive ⟨char, head, notSep⟩
        (named_of_passes passes fun _ separates => separates) current base

/-! ## Accepted documents -/

/-- The file is an object with a path in ASCII that stays inside and has no hidden
segment. -/
def SafeEntry (file : Json) : Prop :=
  ∃ path, pathOf file = some path ∧ path ≠ "" ∧ isAscii path.toList = true ∧
    StaysInside path.toList ∧
    ∀ segment ∈ path.toList.splitOnP isSeparator, segment.head? ≠ some '.'

/-- The support files of a document without a fatal finding are safe exactly if none of
their paths starts with a backslash or a drive letter. -/
theorem support_paths_inside_iff (platform : Platform) (patterns : Patterns) (caps : Caps)
    (now : String) (data : Data) (files : List Json) (result : ScanResult)
    (isList : Dict.get data "support_files" = some (.arr files))
    (scanned : scanSkillDoc platform patterns caps now (.obj data) = .ok result)
    (accepted : result.anyFatal = false) :
    (∀ file ∈ files, SafeEntry file) ↔
      ∀ file ∈ files, ∀ path, pathOf file = some path → Relative path.toList := by
  have isFiles : supportFiles data = files := by
    unfold supportFiles
    rw [isList]
  have paths : ∀ file ∈ files, ∃ path, pathOf file = some path ∧ path ≠ "" ∧
      PassesPathChecks path.toList :=
    fun file fileMem => path_of_accepted scanned accepted (isFiles ▸ fileMem)
  constructor
  · intro safe file fileMem path isPath
    obtain ⟨other, isOther, nonempty, passes⟩ := paths file fileMem
    cases isPath.symm.trans isOther
    obtain ⟨_, isPath, _, _, inside, _⟩ := safe file fileMem
    cases isPath.symm.trans isOther
    exact (staysInside_iff passes (mt String.toList_eq_nil_iff.mp nonempty)).mp inside
  · intro relative file fileMem
    obtain ⟨path, isPath, nonempty, passes⟩ := paths file fileMem
    have inside := (staysInside_iff passes (mt String.toList_eq_nil_iff.mp nonempty)).mpr
      (relative file fileMem path isPath)
    exact ⟨path, isPath, nonempty, passes.ascii, inside,
      named_of_passes passes fun _ separates => separates⟩

/-! ## A drive letter in front of a slash -/

/-- A document with one support file. -/
def oneFile (path : String) : Data :=
  [("support_files", .arr [.obj [("path", .str path)]])]

/-- The scan of a document with nothing to find. -/
def cleanResult : ScanResult :=
  { state := .clean, scannedAt := "", critical := 0, warn := 0, info := 0 }

theorem scan_relative : scanSkillDoc plainPlatform noPatterns {} "" (.obj (oneFile "docs/a.txt")) =
      .ok cleanResult := by
  decide +kernel

/-- A path without a root is safe. -/
theorem support_paths_inside_iff_relative : SafeEntry (.obj [("path", .str "docs/a.txt")]) := by
  refine (support_paths_inside_iff plainPlatform noPatterns {} "" (oneFile "docs/a.txt")
    [.obj [("path", .str "docs/a.txt")]] cleanResult rfl scan_relative rfl).mpr ?_ _
    (.head _)
  intro file fileMem path isPath
  cases mem_singleton.mp fileMem
  cases isPath
  exact ⟨by decide, by decide⟩

/-- The scanner finds nothing in a path to another drive. -/
theorem drive_path_accepted :
    scanSkillDoc plainPlatform noPatterns {} "" (.obj (oneFile "C:/a.txt")) = .ok cleanResult ∧
      cleanResult.anyFatal = false ∧
      windowsResolve (fun _ => []) ⟨.drive 'D', [['s']]⟩ "C:/a.txt".toList =
        ⟨.drive 'C', ["a.txt".toList]⟩ ∧
      ¬ SafeEntry (.obj [("path", .str "C:/a.txt")]) := by
  refine ⟨by decide +kernel, by decide, by decide +kernel, ?_⟩
  rintro ⟨path, isPath, _, _, ⟨_, windows⟩, _⟩
  cases isPath
  have sameVolume := (windows (fun _ => []) ⟨.drive 'D', [['s']]⟩).1
  revert sameVolume
  decide +kernel

/-- Nor in a path to the root of the drive. -/
example :
    scanSkillDoc plainPlatform noPatterns {} "" (.obj (oneFile "\\a.txt")) =
        .ok cleanResult ∧
      windowsResolve (fun _ => []) ⟨.drive 'D', [['s']]⟩ "\\a.txt".toList =
        ⟨.drive 'D', ["a.txt".toList]⟩ := by
  decide +kernel

end Caura.Skills
