import Caura.Skills.System

/-!
# Active skills are the ones that were scanned

An approval scans the document that it then writes back, so the texts that it activates are
those that it scanned.  A tick scans the row that its query returned and then flips the
status of whatever document the id has: the texts that it activates are those of the row
unless the Forge worker has written other texts over the candidate in between.
-/

namespace Caura.Skills

open Caura.Transition Function

section Activation

variable (platform : Platform) (patterns : Patterns)

/-- The texts of a document are ones on which the scan gave a result of some kind. -/
def TextsScanned (caps : Caps) (passes : ScanResult → Prop) (data : Data) : Prop :=
  ∃ scanned now result, SameTexts data scanned ∧
    scanSkillDoc platform patterns caps now (.obj scanned) = .ok result ∧ passes result

/-- A document that a step activates ships scanned texts: without a finding if a tick
activates it, and clean without a fatal finding if an approval without an override does. -/
def ActivatesScanned (world : Pool Documents Thread) (event : ThreadEvent Request TickAnswer) :
    Prop :=
  ∀ target pid answer id doc, event = .advance pid answer →
    (skillSystem platform patterns).step world event = some target →
    target.store id = some doc → doc.hasStatus "active" = true →
    ¬ world.store.Has id "active" →
      (∀ settings phase, world.threads pid = some (.tick settings phase) →
        TextsScanned platform patterns settings.caps (fun result => result.findings = [])
          doc.data) ∧
      ∀ call phase, world.threads pid = some (.inbox call phase) →
        call.action = .approve none →
          TextsScanned platform patterns call.caps
            (fun result => result.state = .clean ∧ result.anyFatal = false) doc.data

/-- No write of the Forge worker with other texts lands over a candidate that a tick has
queried and not yet flipped. -/
def KeepsQueried (world : Pool Documents Thread) (event : ThreadEvent Request TickAnswer) :
    Prop :=
  ∀ pid answer cluster after, event = .advance pid answer →
    world.threads pid = some (.forge cluster false) →
    writeCandidate platform patterns world.store cluster answer.now = .ok after →
    world.store.Has cluster.docId "candidate" →
      ∀ other settings phase, world.threads other = some (.tick settings phase) →
        ∀ row ∈ phase.rows, row.1 = cluster.docId →
          SameTexts (cluster.data answer.now) row.2.data

end Activation

/-! ## What a tick holds -/

variable {settings : TickSettings} {now : String}

section Rows

variable {platform : Platform} {patterns : Patterns} {store after : Documents}

/-- The document of a row exists, and ships the texts of the row while it is a candidate. -/
def RowKept (store : Documents) (row : String × Document) : Prop :=
  ∃ doc, store row.1 = some doc ∧
    (doc.hasStatus "candidate" = true → SameTexts doc.data row.2.data)

/-- The rows of a tick, and what each thread knows. -/
def Thread.Holds (platform : Platform) (patterns : Patterns) (thread : Thread)
    (store : Documents) : Prop :=
  thread.Known platform patterns ∧
    ∀ settings phase, thread = .tick settings phase → ∀ row ∈ phase.rows, RowKept store row

/-- A change keeps a row unless the worker writes other texts. -/
theorem RowKept.change {id : String} {thread : Thread} {doc : Document}
    {row : String × Document} (kept : RowKept store row) (known : thread.Known platform patterns)
    (change : Change store now thread id doc)
    (same : ∀ cluster, thread = .forge cluster false → store.Has cluster.docId "candidate" →
      row.1 = cluster.docId → SameTexts (cluster.data now) row.2.data) :
    RowKept (update store id (some doc)) row := by
  by_cases isRow : row.1 = id
  · refine ⟨doc, by rw [isRow, update_self], fun isCandidate => ?_⟩
    obtain ⟨cluster, isForge, isCluster, texts⟩ := change.of_candidate known isCandidate
    subst isForge
    cases change with
    | forge cluster doc replaced texts status =>
      obtain ⟨stored, isStored, _⟩ := kept
      rw [isRow] at isStored
      have wasCandidate := replaced.resolve_left fun isNone => nomatch isNone.symm.trans isStored
      exact texts.trans (same cluster rfl wasCandidate isRow)
  · obtain ⟨stored, isStored, texts⟩ := kept
    exact ⟨stored, by rw [update_of_ne isRow, isStored], texts⟩

/-- A step of a tick keeps the rows that it holds afterwards. -/
theorem rowKept_of_tickMoved {phase next : TickPhase}
    (known : (Thread.tick settings phase).Known platform patterns)
    (kept : ∀ row ∈ phase.rows, RowKept store row)
    (moved : TickMoved platform patterns store settings now phase after next) :
    ∀ row ∈ next.rows, RowKept after row := by
  intro row isRow
  cases moved with
  | queried rows isQuerying areRows =>
    exact ⟨row.2, (areRows row isRow).1, fun _ => SameTexts.refl _⟩
  | dropped next isFree areRows => exact kept row (areRows row isRow)
  | judged first target rows isJudging verdict =>
    subst isJudging
    exact kept row isRow
  | flipped first target rows isFlipping stored isStored isCandidate =>
    subst isFlipping
    exact (kept row (.tail _ isRow)).change known
      (.flip settings first target rows stored isStored isCandidate)
      fun _ isForge => nomatch isForge

/-- The assertions of the ticks are free of interference. -/
theorem interferenceFree_holds :
    (skillSystem platform patterns).InterferenceFree (KeepsQueried platform patterns)
      (fun _ => True) (Thread.Holds platform patterns) where
  start request store _ := by
    cases request with
    | inbox call | forge cluster => exact ⟨trivial, fun _ _ isTick => nomatch isTick⟩
    | tick settings =>
      refine ⟨trivial, fun _ _ isTick row isRow => ?_⟩
      cases isTick
      cases isRow
  own world pid answer thread store next sound guarded isThread acted := by
    obtain ⟨known, kept⟩ := sound.threads pid thread isThread
    refine ⟨trivial, known_of_act known acted, fun settings phase isTick => ?_⟩
    subst isTick
    obtain ⟨before, rfl, stepped⟩ := tick_of_act acted
    exact rowKept_of_tickMoved known (kept settings before rfl) (tickMoved_of_tickStep stepped)
  others world pid answer thread store next sound guarded isThread acted other bystander _
      isBystander := by
    have known := (sound.threads pid thread isThread).1
    obtain ⟨bystanderKnown, kept⟩ := sound.threads other bystander isBystander
    refine ⟨bystanderKnown, fun settings phase isTick row isRow => ?_⟩
    by_cases unchanged : store = world.store
    · exact unchanged ▸ kept settings phase isTick row isRow
    · obtain ⟨id, doc, change, rfl⟩ := (change_of_act acted).resolve_left unchanged
      refine (kept settings phase isTick row isRow).change known change ?_
      intro cluster isForge wasCandidate isCluster
      subst isForge isTick
      have written : (Thread.forge cluster false).act platform patterns world.store answer = _ :=
        acted
      have landed := (forge_of_act written).2.2.resolve_left unchanged
      exact guarded pid answer cluster _ rfl isThread landed wasCandidate other settings phase
        isBystander row isRow isCluster

end Rows

/-! ## Activations -/

section Activations

variable {platform : Platform} {patterns : Patterns}

/-- An approval without an override activates what it scanned. -/
theorem textsScanned_of_composed {call : Call} {loaded written : Data}
    (isApproval : call.action = .approve none)
    (composed : Composed platform patterns call loaded written) :
    TextsScanned platform patterns call.caps
      (fun result => result.state = .clean ∧ result.anyFatal = false) written := by
  obtain ⟨now, scan, scanned, passes⟩ := composed.rescanned none isApproval
  refine ⟨loaded, now, scan, ?_, scanned, ?_⟩
  · refine SameTexts.of_get_eq call.action.changed composed.kept ?_
    rw [isApproval]
    simp [shippedTexts, Action.changed]
  · simpa [passesRescan, and_comm] using passes

/-- A tick activates a document with the texts of its row. -/
theorem textsScanned_of_flipped {store : Documents}
    {row : String × Document} {rows : List (String × Document)} {stored : Document}
    (known : (Thread.tick settings (.flipping row "active" rows)).Known platform patterns)
    (kept : RowKept store row) (isStored : store row.1 = some stored)
    (isCandidate : stored.hasStatus "candidate" = true) :
    TextsScanned platform patterns settings.caps (fun result => result.findings = [])
      (flipped now "active" stored.data) := by
  obtain ⟨_, scanTime, result, scanned, noFinding⟩ := known.resolve_left (by decide)
  refine ⟨row.2.data, scanTime, result, ?_, scanned, noFinding⟩
  obtain ⟨found, isFound, texts⟩ := kept
  cases isStored.symm.trans isFound
  refine SameTexts.trans ?_ (texts isCandidate)
  refine SameTexts.of_get_eq ["status", "active_at"] (fun key other => ?_) (by decide)
  simp only [List.mem_cons, List.not_mem_nil, or_false, not_or] at other
  exact get_flipped_of_ne _ other.1 other.2

theorem activatesScanned_of_sound {world : Pool Documents Thread}
    (sound : world.Sound (fun _ => True) (Thread.Holds platform patterns))
    (event : ThreadEvent Request TickAnswer) :
    ActivatesScanned platform patterns world event := by
  intro target pid answer id doc isAdvance stepEq isDoc isActive wasInactive
  subst isAdvance
  obtain ⟨thread, store, next, isThread, acted, rfl⟩ :=
    ThreadSystem.step_advance_eq_some_iff.mp stepEq
  obtain ⟨known, kept⟩ := sound.threads pid thread isThread
  rcases change_of_act acted with rfl | ⟨changed, written, change, rfl⟩
  · exact absurd ⟨doc, isDoc, isActive⟩ wasInactive
  · have isChanged : id = changed := by
      by_contra other
      rw [Pool.put_store, update_of_ne other] at isDoc
      exact wasInactive ⟨doc, isDoc, isActive⟩
    subst isChanged
    rw [Pool.put_store, update_self, Option.some.injEq] at isDoc
    subst isDoc
    rw [isThread]
    rcases change.of_active known isActive with
      ⟨call, override, loaded, write, isInbox, _, _, sameData⟩ |
      ⟨settings, row, rows, stored, isTick, rfl, isStored, isCandidate, sameData⟩
    · subst isInbox
      refine ⟨fun _ _ isTick => (nomatch isTick), fun other phase isOther isApproval => ?_⟩
      cases isOther
      rw [sameData]
      exact textsScanned_of_composed isApproval known
    · subst isTick
      refine ⟨fun other phase isOther => ?_, fun _ _ isInbox => nomatch isInbox⟩
      cases isOther
      rw [sameData]
      exact textsScanned_of_flipped known (kept settings _ rfl row (.head _)) isStored isCandidate

/-- In every run in which the Forge worker leaves the texts of queried candidates alone, what
becomes active are scanned texts. -/
theorem activations_scanned (platform : Platform) (patterns : Patterns) (store : Documents)
    (events : List (ThreadEvent Request TickAnswer))
    (guarded : GuardedRun (skillSystem platform patterns).step (KeepsQueried platform patterns)
      ⟨store, fun _ => none⟩ events) :
    GuardedRun (skillSystem platform patterns).step (ActivatesScanned platform patterns)
      ⟨store, fun _ => none⟩ events :=
  guardedRun_of_invariant interferenceFree_holds.preserved
    (fun _ event sound _ => activatesScanned_of_sound sound event)
    (.idle trivial) guarded

end Activations

/-! ## A rewritten candidate -/

/-- The pattern `\bmkfs\.[a-z0-9]+\s` in printable text, searched from a place on. -/
def searchMkfs (start : Nat) (before : Char) : List Char → Option PatternMatch
  | [] => none
  | char :: rest =>
    let kind := (rest.drop 4).takeWhile Char.isAlphanum
    let group := (char :: rest).take (kind.length + 6)
    if !(before.isAlphanum || before == '_') && (group.take 5).map Char.toLower == "mkfs.".toList &&
        kind != [] && (group.drop (kind.length + 5)).any Char.isWhitespace then
      some ⟨String.ofList group, start, start + group.length⟩
    else
      searchMkfs (start + 1) char rest

/-- A scanner with this one of the patterns. -/
def warnsMkfs : Patterns :=
  { noPatterns with admin := [fun text => searchMkfs 0 ' ' text.toList] }

/-- The worker mines a skill, a tick judges it, and the worker mines other texts for it. -/
def rewriteRun : List (ThreadEvent Request TickAnswer) :=
  [.start 0 (.forge (minedSkill "ls")), .advance 0 {},
    .start 1 (.tick autoTick), .advance 1 freshAnswer, .advance 1 freshAnswer,
    .start 2 (.forge (minedSkill "mkfs.ext4 /dev/sdb1")), .advance 2 {}]

/-- The thread is a tick. -/
def Thread.isTick : Thread → Bool
  | .tick _ _ => true
  | _ => false

/-- The scanner warns of every document with that content. -/
theorem findings_ne_nil_of_mkfs {caps : Caps} {data : Data} {result : ScanResult}
    (isContent : data.get "content" = some (.str "mkfs.ext4 /dev/sdb1"))
    (scanned : scanSkillDoc plainPlatform warnsMkfs caps now (.obj data) = .ok result) :
    result.findings ≠ [] := by
  obtain ⟨bodies, _, rest⟩ := bind_eq_ok_iff.mp scanned
  obtain ⟨paths, _, isResult⟩ := bind_eq_ok_iff.mp rest
  cases isResult
  have isFound : (scanDestructiveCommands plainPlatform warnsMkfs "mkfs.ext4 /dev/sdb1"
      "data.content").length = 1 := by
    decide +kernel
  intro noFindings
  simp only [resultOf, List.append_eq_nil_iff] at noFindings
  have noShipped := noFindings.1.1.1.1.2
  rw [scanShipped, List.flatMap_eq_nil_iff] at noShipped
  have noContent := noShipped "content" (by decide)
  rw [isContent] at noContent
  simp only [List.append_eq_nil_iff] at noContent
  have noneFound := congrArg List.length noContent.1.2
  exact absurd (isFound.symm.trans noneFound) (by decide)

/-- The tick activates the texts that it has not scanned. -/
theorem rewritten_candidate_activated : ¬ GuardedRun (skillSystem plainPlatform warnsMkfs).step
      (ActivatesScanned plainPlatform warnsMkfs) ⟨fun _ => none, fun _ => none⟩
      (rewriteRun ++ [.advance 1 freshAnswer]) := by
  intro guarded
  have ran : run (skillSystem plainPlatform warnsMkfs).step ⟨fun _ => none, fun _ => none⟩
      rewriteRun = some _ := rfl
  have scanned := (guardedRun_of_append guarded ran).1 _ 1 freshAnswer "forge/x" _ rfl rfl rfl rfl
    (by
      rintro ⟨other, isOther, otherActive⟩
      cases isOther
      cases otherActive)
  obtain ⟨data, now, result, texts, scan, noFinding⟩ := scanned.1 _ _ rfl
  exact findings_ne_nil_of_mkfs (texts "content" (by decide)).symm scan noFinding

/-- Among the first threads there is no tick while the Forge worker writes. -/
def sparesTicks (bound : Nat) (world : Pool Documents Thread)
    (event : ThreadEvent Request TickAnswer) : Bool :=
  !((world.threads event.pid).any fun thread => thread matches .forge _ _) ||
    (List.range bound).all fun other => !(world.threads other).any Thread.isTick

theorem keepsQueried_of_sparesTicks {platform : Platform} {patterns : Patterns} {bound : Nat}
    (world : Pool Documents Thread) (event : ThreadEvent Request TickAnswer)
    (below : world.Below bound) (spares : sparesTicks bound world event = true) :
    KeepsQueried platform patterns world event := by
  rintro pid answer cluster after rfl isForge _ _ other settings phase isTick
  rw [sparesTicks, ThreadEvent.pid, isForge] at spares
  have noTick := List.all_eq_true.mp spares other (List.mem_range.mpr (below.lt isTick))
  rw [isTick] at noTick
  cases noTick

/-- The Forge worker writes a candidate, and then a tick queries it. -/
def minedThenTick : List (ThreadEvent Request TickAnswer) :=
  [.start 0 (.forge (minedSkill "ls")), .advance 0 {}, .start 1 (.tick autoTick)] ++
    List.replicate 3 (.advance 1 freshAnswer)

/-- The tick activates the mined candidate, with the texts that it scanned. -/
theorem activations_scanned_mined : GuardedRun (skillSystem plainPlatform warnsMkfs).step
      (ActivatesScanned plainPlatform warnsMkfs) ⟨fun _ => none, fun _ => none⟩ minedThenTick ∧
    (run (skillSystem plainPlatform warnsMkfs).step ⟨fun _ => none, fun _ => none⟩
      minedThenTick).any (fun world => showsDoc world "forge/x" fun doc =>
        doc.hasStatus "active") = true := by
  have spared : GuardedRun (skillSystem plainPlatform warnsMkfs).step
      (fun world event => sparesTicks 2 world event = true) ⟨fun _ => none, fun _ => none⟩
      minedThenTick := by
    decide +kernel
  refine ⟨activations_scanned plainPlatform warnsMkfs (fun _ => none) minedThenTick ?_,
    by decide +kernel⟩
  exact ThreadSystem.guardedRun_of_few 2 keepsQueried_of_sparesTicks (by decide) (fun _ _ => rfl)
    spared

end Caura.Skills
