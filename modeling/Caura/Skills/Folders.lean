import Caura.Skills.System

/-!
# One active skill for each install folder

A skill installs as its id without the namespace, so three ids share a folder.  An approval
reads the two others one after the other and then writes; a tick reads none of them.

No two active skills share a folder along the runs in which a tick finds its folder free and
nothing becomes active that an approval still at work has already read.
-/

namespace Caura.Skills

open Caura.Transition List Option

/-! ## Folders -/

variable {space docId other id status : String}

theorem eq_append_of_isPrefixOf (starts : space.toList.isPrefixOf docId.toList = true) :
    docId = space ++ String.ofList (docId.toList.drop space.length) := by
  obtain ⟨rest, isRest⟩ := isPrefixOf_iff_prefix.mp starts
  apply String.toList_injective
  rw [String.toList_append, String.toList_ofList, ← isRest, ← String.length_toList, drop_left]

/-- The ids of a folder are the three that an approval knows. -/
theorem mem_folderIds (same : installFolder other = installFolder docId)
    (different : other ≠ docId) : other ∈ folderIds docId := by
  rw [folderIds, mem_filter, ← same]
  refine ⟨?_, by simpa using different⟩
  unfold installFolder
  split
  next space isSpace =>
    have starts := List.find?_some isSpace
    exact .tail _ (mem_map.mpr
      ⟨space, mem_of_find?_eq_some isSpace, (eq_append_of_isPrefixOf starts).symm⟩)
  · exact .head _

/-- No two active documents have the same install folder. -/
def OnePerFolder (store : Documents) : Prop :=
  ∀ id other, store.Has id "active" → store.Has other "active" →
    installFolder id = installFolder other → id = other

variable {store : Documents} {doc : Document}

theorem has_update_iff : Documents.Has (Function.update store id (some doc)) other status ↔
    if other = id then doc.hasStatus status = true else store.Has other status := by
  unfold Documents.Has
  by_cases isId : other = id <;> simp [isId]

/-- A change keeps one active document in each folder if it activates only in a free one. -/
theorem OnePerFolder.update (one : OnePerFolder store)
    (free : doc.hasStatus "active" = true → ∀ other, other ≠ id →
      installFolder other = installFolder id → ¬ store.Has other "active") :
    OnePerFolder (Function.update store id (some doc)) := by
  intro first second firstActive secondActive same
  rw [has_update_iff] at firstActive secondActive
  split at firstActive
  next isFirst =>
    subst isFirst
    split at secondActive
    next isSecond => exact isSecond.symm
    next isSecond => exact absurd secondActive (free firstActive second isSecond same.symm)
  next isFirst =>
    split at secondActive
    next isSecond => exact absurd firstActive (free secondActive first isFirst (isSecond ▸ same))
    · exact one first second firstActive secondActive same

/-! ## What an approval has read -/

/-- The ids that an approval of a document has read by a phase. -/
def Phase.readIds (slug : String) : Phase → List String
  | .checkingFolder _ _ others => (folderIds slug).filter fun id => !others.contains id
  | .writing _ _ => folderIds slug
  | _ => []

/-- The ids that a call has found not to be active. -/
def Call.checkedIds (call : Call) (phase : Phase) : List String :=
  match call.action with
  | .approve _ => phase.readIds call.slug
  | _ => []

/-- An approval at work has read a document. -/
def ReadByApproval (world : Pool Documents Thread) (id : String) : Prop :=
  ∃ pid call phase, world.threads pid = some (.inbox call phase) ∧ id ∈ call.checkedIds phase

/-- A tick activates only in a free folder, and nothing becomes active that an approval at
work has read. -/
structure FoldersFree (world : Pool Documents Thread) (event : ThreadEvent Request TickAnswer) :
    Prop where
  tick : ∀ pid answer settings row rows, event = .advance pid answer →
    world.threads pid = some (.tick settings (.flipping row "active" rows)) →
    world.store.Has row.1 "candidate" →
      (∀ other, other ≠ row.1 → installFolder other = installFolder row.1 →
        ¬ world.store.Has other "active") ∧
      ¬ ReadByApproval world row.1
  approval : ∀ pid answer call override loaded write, event = .advance pid answer →
    world.threads pid = some (.inbox call (.writing loaded write)) →
    call.action = .approve override → world.store.Has call.slug write.decidedOn →
      ¬ ReadByApproval world call.slug

/-- What each thread knows, and what an approval has read is not active. -/
def Thread.Checked (platform : Platform) (patterns : Patterns) (thread : Thread)
    (store : Documents) : Prop :=
  thread.Known platform patterns ∧
    ∀ call phase, thread = .inbox call phase →
      ∀ id ∈ call.checkedIds phase, ¬ store.Has id "active"

section Approvals

variable {platform : Platform} {patterns : Patterns} {store after : Documents} {call : Call}
  {answer : Answer} {phase next : Phase}

/-- An approval goes on only if what it reads is not active. -/
theorem readIds_of_approve {override : Option String} {now : String}
    (checked : ∀ id ∈ phase.readIds call.slug, ¬ store.Has id "active")
    (handled : approve platform patterns store call override now phase = some (.ok next)) :
    ∀ id ∈ next.readIds call.slug, ¬ store.Has id "active" := by
  unfold approve at handled
  split at handled
  · obtain ⟨doc, _, isNext⟩ := bind_eq_ok_iff.mp (Option.some.inj handled)
    cases isNext
    exact nofun
  · obtain ⟨doc, _, rest⟩ := bind_eq_ok_iff.mp (Option.some.inj handled)
    obtain ⟨_, _, isNext⟩ := bind_eq_ok_iff.mp rest
    cases isNext
    exact nofun
  · obtain ⟨doc, _, rest⟩ := bind_eq_ok_iff.mp (Option.some.inj handled)
    obtain ⟨_, _, rest⟩ := bind_eq_ok_iff.mp rest
    obtain ⟨scan, _, rest⟩ := bind_eq_ok_iff.mp rest
    obtain ⟨_, _, isNext⟩ := bind_eq_ok_iff.mp rest
    cases isNext
    intro id isRead
    simp [Phase.readIds] at isRead
  next loaded scan other others =>
    obtain ⟨_, inactive, isNext⟩ := bind_eq_ok_iff.mp (Option.some.inj handled)
    cases isNext
    intro id isRead
    by_cases isOther : id = other
    · rintro ⟨doc, isDoc, isActive⟩
      rw [← isOther, isDoc, any_some, isActive] at inactive
      cases inactive
    · refine checked id ?_
      simp only [Phase.readIds] at isRead ⊢
      simpa [isOther] using isRead
  next loaded scan =>
    cases handled
    intro id isRead
    have isFolderId : id ∈ folderIds call.slug := isRead
    exact checked id (by simpa [Phase.readIds] using isFolderId)
  · cases handled

/-- What a call has read is not active along its own steps. -/
theorem checkedIds_of_moved (checked : ∀ id ∈ call.checkedIds phase, ¬ store.Has id "active")
    (moved : call.Moved platform patterns store answer phase after next) :
    ∀ id ∈ call.checkedIds next, ¬ after.Has id "active" := by
  unfold Call.checkedIds at checked ⊢
  split
  next override isApproval =>
    rw [isApproval] at checked
    cases moved with
    | read next handled =>
      unfold Call.handle at handled
      rw [isApproval] at handled
      exact readIds_of_approve checked handled
    | refused raised | wrote loaded write isWriting has => exact nofun
  · exact nofun

/-- A change keeps an id inactive unless it activates it. -/
theorem not_has_active_update {changed : String} (inactive : ¬ store.Has id "active")
    (notActivated : doc.hasStatus "active" = true → id ≠ changed) :
    ¬ Documents.Has (Function.update store changed (some doc)) id "active" := by
  rw [has_update_iff]
  split
  next isChanged => exact fun isActive => notActivated isActive isChanged
  · exact inactive

end Approvals

/-! ## Runs -/

section Runs

variable {platform : Platform} {patterns : Patterns}

/-- A step that activates a document does so in a free folder, and no approval has read it. -/
theorem free_of_change {world : Pool Documents Thread} {pid : Nat} {answer : TickAnswer}
    {thread : Thread}
    (sound : world.Sound OnePerFolder (Thread.Checked platform patterns))
    (guarded : FoldersFree world (.advance pid answer)) (isThread : world.threads pid = some thread)
    (change : Change world.store answer.now thread id doc)
    (isActive : doc.hasStatus "active" = true) :
    (∀ other, other ≠ id → installFolder other = installFolder id →
      ¬ world.store.Has other "active") ∧ ¬ ReadByApproval world id := by
  obtain ⟨known, checked⟩ := sound.threads pid thread isThread
  rcases change.of_active known isActive with
    ⟨call, override, loaded, write, rfl, isApproval, rfl, _⟩ |
    ⟨settings, row, rows, stored, rfl, rfl, isStored, isCandidate, _⟩
  · cases change with
    | write _ _ _ has =>
      refine ⟨fun other different same => ?_,
        guarded.approval pid answer call override loaded write rfl isThread isApproval has⟩
      refine checked call _ rfl other ?_
      unfold Call.checkedIds
      rw [isApproval]
      exact mem_folderIds same different
  · exact guarded.tick pid answer settings row rows rfl isThread ⟨stored, isStored, isCandidate⟩

theorem interferenceFree_checked :
    (skillSystem platform patterns).InterferenceFree FoldersFree OnePerFolder
      (Thread.Checked platform patterns) where
  start request store _ := by
    cases request with
    | inbox call =>
      refine ⟨trivial, fun other phase isInbox id isRead => ?_⟩
      cases isInbox
      unfold Call.checkedIds at isRead
      split at isRead <;> cases isRead
    | forge cluster | tick settings => exact ⟨trivial, fun _ _ isInbox => nomatch isInbox⟩
  own world pid answer thread store next sound guarded isThread acted := by
    obtain ⟨known, checked⟩ := sound.threads pid thread isThread
    refine ⟨?_, known_of_act known acted, ?_⟩
    · rcases change_of_act acted with rfl | ⟨id, doc, change, rfl⟩
      · exact sound.store
      · exact sound.store.update fun isActive =>
          (free_of_change sound guarded isThread change isActive).1
    · intro call phase isInbox
      subst isInbox
      obtain ⟨before, rfl, advanced⟩ := inbox_of_act acted
      exact checkedIds_of_moved (checked call before rfl) (Call.moved_of_advance advanced)
  others world pid answer thread store next sound guarded isThread acted other bystander _
      isBystander := by
    obtain ⟨bystanderKnown, checked⟩ := sound.threads other bystander isBystander
    refine ⟨bystanderKnown, fun call phase isInbox id isRead => ?_⟩
    rcases change_of_act acted with rfl | ⟨changed, doc, change, rfl⟩
    · exact checked call phase isInbox id isRead
    · refine not_has_active_update (checked call phase isInbox id isRead) ?_
      rintro isActive rfl
      subst isInbox
      exact (free_of_change sound guarded isThread change isActive).2
        ⟨other, call, phase, isBystander, isRead⟩

/-- From a tenant without active skills, in every run that meets the condition no two active
skills share an install folder. -/
theorem one_active_per_folder (platform : Platform) (patterns : Patterns) (store : Documents)
    (events : List (ThreadEvent Request TickAnswer)) (target : Pool Documents Thread)
    (inactive : ∀ id, ¬ store.Has id "active")
    (guarded : GuardedRun (skillSystem platform patterns).step FoldersFree
      ⟨store, fun _ => none⟩ events)
    (ran : run (skillSystem platform patterns).step ⟨store, fun _ => none⟩ events = some target) :
    OnePerFolder target.store := by
  have start : OnePerFolder store := fun id _ isActive => absurd isActive (inactive id)
  exact (invariant_of_guardedRun interferenceFree_checked.preserved (.idle start) guarded ran).store

end Runs

/-! ## Two skills of one folder -/

/-- A skill under review. -/
def stagedSkill : Document where
  fleetId := none
  data := [("status", .str "staged"), ("content_hash", .str "h")]

/-- Two staged skills and a mined candidate of one folder. -/
def folderStore : Documents := fun id =>
  if id = "x" ∨ id = "agent/x" then
    some stagedSkill
  else if id = "forge/x" then
    (distillCluster plainPlatform noPatterns (minedSkill "ls") "").toOption
  else
    none

/-- The approval of a skill. -/
def approvalOf (slug : String) : Request :=
  .inbox { slug := slug, action := .approve none }

/-- An approval, and then a tick that activates the candidate. -/
def tickAfterApproval : List (ThreadEvent Request TickAnswer) :=
  [.start 0 (approvalOf "x")] ++ List.replicate 7 (.advance 0 {}) ++
    [.start 1 (.tick autoTick)] ++ List.replicate 3 (.advance 1 freshAnswer)

/-- Two approvals that both read the folder before either of them writes. -/
def racingApprovals : List (ThreadEvent Request TickAnswer) :=
  [.start 0 (approvalOf "x"), .start 1 (approvalOf "agent/x")] ++
    List.replicate 6 (.advance 0 {}) ++ List.replicate 6 (.advance 1 {}) ++
    [.advance 0 {}, .advance 1 {}]

theorem folderStore_inactive (id : String) : ¬ folderStore.Has id "active" := by
  have inactive : ∀ id ∈ ["x", "agent/x", "forge/x"], ¬ folderStore.Has id "active" := by
    decide +kernel
  intro isActive
  refine inactive id ?_ isActive
  obtain ⟨doc, isDoc, _⟩ := isActive
  by_contra other
  simp only [mem_cons, not_or] at other
  simp [folderStore, other] at isDoc

/-- No call among the first threads has read what another is about to write, and no tick is
about to activate. -/
def foldersChecked (bound : Nat) (world : Pool Documents Thread)
    (event : ThreadEvent Request TickAnswer) : Bool :=
  match world.threads event.pid with
  | some (.inbox call (.writing _ _)) => (List.range bound).all fun other =>
    match world.threads other with
    | some (.inbox reader phase) => !(reader.checkedIds phase).contains call.slug
    | _ => true
  | some (.tick _ (.flipping _ _ _)) => false
  | _ => true

theorem foldersFree_of_foldersChecked {bound : Nat} (world : Pool Documents Thread)
    (event : ThreadEvent Request TickAnswer) (below : world.Below bound)
    (checked : foldersChecked bound world event = true) : FoldersFree world event := by
  constructor
  · rintro pid answer settings row rows rfl isTick
    rw [foldersChecked, ThreadEvent.pid, isTick] at checked
    cases checked
  · rintro pid answer call override loaded write rfl isWriting _ _
      ⟨other, reader, phase, isReader, isRead⟩
    rw [foldersChecked, ThreadEvent.pid, isWriting] at checked
    have unread := all_eq_true.mp checked other (mem_range.mpr (below.lt isReader))
    simp [isReader, isRead] at unread

/-- Two approvals for one folder, the second after the first. -/
def approvalsInTurn : List (ThreadEvent Request TickAnswer) :=
  .start 0 (approvalOf "x") :: List.replicate 7 (.advance 0 {}) ++
    .start 1 (approvalOf "agent/x") :: List.replicate 4 (.advance 1 {})

/-- The status code with which a call was refused. -/
def Thread.refusal : Thread → Option Nat
  | .inbox _ (.answered (.error (.http statusCode _))) => some statusCode
  | _ => none

/-- The first approval activates its skill and the second is refused: no two active skills
share the folder. -/
theorem one_active_per_folder_approved :
    ∃ target, run (skillSystem plainPlatform noPatterns).step ⟨folderStore, fun _ => none⟩
      approvalsInTurn = some target ∧ target.store.Has "x" "active" ∧
        (target.threads 1).bind Thread.refusal = some 409 ∧ OnePerFolder target.store := by
  have checked : GuardedRun (skillSystem plainPlatform noPatterns).step
      (fun world event => foldersChecked 2 world event = true) ⟨folderStore, fun _ => none⟩
      approvalsInTurn := by
    decide +kernel
  have guarded := ThreadSystem.guardedRun_of_few 2 foldersFree_of_foldersChecked (by decide)
    (fun _ _ => rfl) checked
  exact ⟨_, rfl, ⟨_, rfl, rfl⟩, rfl, one_active_per_folder plainPlatform noPatterns folderStore
    approvalsInTurn _ folderStore_inactive guarded rfl⟩

/-- A tick takes a folder that an active skill has, and two approvals take one folder. -/
theorem folder_taken_twice : (∀ id, ¬ folderStore.Has id "active") ∧
    (∃ target, run (skillSystem plainPlatform noPatterns).step ⟨folderStore, fun _ => none⟩
      tickAfterApproval = some target ∧ ¬ OnePerFolder target.store) ∧
    ∃ target, run (skillSystem plainPlatform noPatterns).step ⟨folderStore, fun _ => none⟩
      racingApprovals = some target ∧ ¬ OnePerFolder target.store := by
  refine ⟨folderStore_inactive, ⟨_, rfl, fun one => ?_⟩, ⟨_, rfl, fun one => ?_⟩⟩
  · exact absurd (one "x" "forge/x" ⟨_, rfl, rfl⟩ ⟨_, rfl, rfl⟩ (by decide +kernel)) (by decide)
  · exact absurd (one "x" "agent/x" ⟨_, rfl, rfl⟩ ⟨_, rfl, rfl⟩ (by decide +kernel)) (by decide)

end Caura.Skills
