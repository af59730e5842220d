import Caura.Skills.System

/-!
# What an edit or a deferral has acknowledged

An edit that has succeeded shows in every later version of its document until another edit
changes its texts, and a deferral until an edit or an approval clears it, as long as every
call that writes finds what it loaded: the status in the write's condition does not tell a
document from an edited or deferred one, so a call that loaded before such a change writes
the older texts back.

A deferral also replaces the time of an earlier one.
-/

namespace Caura.Skills

open Caura.Transition Caura.Value Option Function

/-- What a document has at a key. -/
def valueOf (store : Documents) (id key : String) : Option Json :=
  (store id).bind fun doc => doc.data.get key

section Acknowledged

variable (platform : Platform) (patterns : Patterns)

/-- A call succeeds in a step. -/
def Succeeds (world : Pool Documents Thread) (event : ThreadEvent Request TickAnswer)
    (target : Pool Documents Thread) (call : Call) : Prop :=
  (skillSystem platform patterns).step world event = some target ∧
    ∃ pid answer loaded write response, event = .advance pid answer ∧
      world.threads pid = some (.inbox call (.writing loaded write)) ∧
      target.threads pid = some (.inbox call (.answered (.ok response)))

/-- No call of some kind on a document succeeds in a step. -/
def NoneSucceeds (kind : Action → Prop) (id : String) (world : Pool Documents Thread)
    (event : ThreadEvent Request TickAnswer) : Prop :=
  ∀ target call, Succeeds platform patterns world event target call → call.slug = id →
    ¬ kind call.action

/-- An edit that gives a text. -/
def Action.Gives (key : String) (action : Action) : Prop :=
  ∃ request, action = .edit request ∧ key ∈ request.changes.map Prod.fst

/-- An edit or an approval. -/
def Action.Clears (action : Action) : Prop :=
  (∃ request, action = .edit request) ∨ ∃ override, action = .approve override

/-- What is acknowledged along a run stays. -/
structure AcknowledgedKept (start : Pool Documents Thread)
    (events : List (ThreadEvent Request TickAnswer)) : Prop where
  edits : ∀ before event after first second last call request,
    events = before ++ event :: after →
    run (skillSystem platform patterns).step start before = some first →
    Succeeds platform patterns first event second call → call.action = .edit request →
    run (skillSystem platform patterns).step second after = some last →
      (∀ change ∈ request.changes, valueOf second.store call.slug change.1 = some change.2) ∧
      ∀ key ∈ editableTexts,
        GuardedRun (skillSystem platform patterns).step
          (NoneSucceeds platform patterns (Action.Gives key) call.slug) second after →
        valueOf last.store call.slug key = valueOf second.store call.slug key
  deferrals : ∀ before event after first second last call reason,
    events = before ++ event :: after →
    run (skillSystem platform patterns).step start before = some first →
    Succeeds platform patterns first event second call → call.action = .defer reason →
    run (skillSystem platform patterns).step second after = some last →
      (valueOf second.store call.slug "deferred_at").isSome = true ∧
      (GuardedRun (skillSystem platform patterns).step
          (NoneSucceeds platform patterns Action.Clears call.slug) second after →
        valueOf last.store call.slug "deferred_at" = valueOf second.store call.slug "deferred_at")

end Acknowledged

/-- The keys that a call has to find as it loaded them. -/
def Action.watched : Action → List String
  | .edit request => editableTexts.filter fun key => !(request.changes.map Prod.fst).contains key
  | .approve _ | .defer _ => editableTexts
  | .reject .. | .quarantine _ => "deferred_at" :: editableTexts

/-- A call that writes over the status it decided on finds the watched keys as it loaded them,
and a deferral finds no earlier one. -/
def FindsLoaded (world : Pool Documents Thread) (event : ThreadEvent Request TickAnswer) : Prop :=
  ∀ pid answer call loaded write stored, event = .advance pid answer →
    world.threads pid = some (.inbox call (.writing loaded write)) →
    world.store call.slug = some stored → stored.hasStatus write.decidedOn = true →
      (∀ key ∈ call.action.watched, stored.data.get key = loaded.data.get key) ∧
      ∀ reason, call.action = .defer reason → stored.data.get "deferred_at" = none

/-! ## One step -/

variable {platform : Platform} {patterns : Patterns} {value : Option Json} {store : Documents}
  {world target : Pool Documents Thread}

section Steps

/-- A document under review or later that has a value at a key. -/
def Holding (id key : String) (value : Option Json) (store : Documents) : Prop :=
  ∃ doc, store id = some doc ∧ doc.data.get key = value ∧ doc.hasStatus "candidate" = false

variable {id key now changed : String}

theorem Holding.valueOf_eq (holding : Holding id key value store) :
    valueOf store id key = value := by
  obtain ⟨doc, isDoc, isValue, _⟩ := holding
  rwa [valueOf, isDoc]

variable {call : Call} {event : ThreadEvent Request TickAnswer}

/-- A call that succeeds has written what it composed. -/
theorem of_succeeds
    (known : ∀ pid thread, world.threads pid = some thread → thread.Known platform patterns)
    (succeeds : Succeeds platform patterns world event target call) :
    ∃ loaded write, Composed platform patterns call loaded write.data ∧
      target.store = update world.store call.slug
        (some ⟨(write : PendingWrite).fleetId, write.data⟩) := by
  obtain ⟨stepEq, pid, answer, loaded, write, response, rfl, isWriting, isAnswered⟩ := succeeds
  obtain ⟨thread, store, next, isThread, acted, rfl⟩ :=
    ThreadSystem.step_advance_eq_some_iff.mp stepEq
  cases isWriting.symm.trans isThread
  rw [Pool.put_threads_self, Option.some.injEq] at isAnswered
  subst isAnswered
  obtain ⟨⟨_, following⟩, advanced, same⟩ := map_eq_some_iff.mp acted
  cases same
  have composed := known pid _ isWriting
  cases Call.moved_of_advance advanced with
  | read next handled =>
    unfold Call.handle at handled
    split at handled <;> cases handled
  | wrote other pending isPending has =>
    cases isPending
    exact ⟨loaded.data, write, composed, rfl⟩

variable {doc loaded stored : Document}

/-- What a write leaves of a document under review. -/
theorem holding_of_composed {loaded : Data}
    (composed : Composed platform patterns call loaded doc.data)
    (isValue : doc.data.get key = value) :
    Holding call.slug key value (update store call.slug (some doc)) := by
  refine ⟨doc, update_self .., isValue, ?_⟩
  rw [← Bool.not_eq_true, Document.hasStatus_iff]
  intro isCandidate
  obtain ⟨status, isTarget, isStatus⟩ := composed.status
  cases isStatus.symm.trans isCandidate
  exact absurd isTarget call.action.candidate_notMem_targets

/-- The actions that are not of a kind leave a value at a key alone. -/
def Spared (key : String) (value : Option Json) (kind : Action → Prop) : Prop :=
  ∀ action, ¬ kind action → (key ∉ action.changed ∧ key ∈ action.watched) ∨
    (value ≠ none ∧ key = "deferred_at" ∧ ∃ reason, action = .defer reason)

variable {kind : Action → Prop}

/-- A write by a call that is not of the kind keeps the value. -/
theorem Holding.write (spared : Spared key value kind) (otherKind : ¬ kind call.action)
    (composed : Composed platform patterns call loaded.data doc.data)
    (isValue : stored.data.get key = value)
    (found : ∀ key ∈ call.action.watched, stored.data.get key = loaded.data.get key)
    (fresh : ∀ reason, call.action = .defer reason → stored.data.get "deferred_at" = none) :
    Holding call.slug key value (update store call.slug (some doc)) := by
  refine holding_of_composed composed ?_
  rcases spared call.action otherKind with
    ⟨unchanged, isWatched⟩ | ⟨isSome, rfl, reason, isDeferral⟩
  · rw [composed.kept key unchanged, ← found key isWatched, isValue]
  · exact absurd (isValue.symm.trans (fresh reason isDeferral)) isSome

/-- Ticks and the worker leave a document that is no candidate. -/
theorem Holding.other {thread : Thread} (holding : Holding id key value store)
    (change : Change store now thread changed doc)
    (notInbox : ∀ call phase, thread ≠ .inbox call phase) :
    Holding id key value (update store changed (some doc)) := by
  obtain ⟨stored, isStored, isValue, notCandidate⟩ := holding
  refine ⟨stored, ?_, isValue, notCandidate⟩
  rw [update_of_ne, isStored]
  rintro rfl
  rcases change.over_candidate notInbox with isNone | ⟨other, isOther, isCandidate⟩
  · cases isNone.symm.trans isStored
  · cases isOther.symm.trans isStored
    cases notCandidate.symm.trans isCandidate

/-- A step by which no call of the kind succeeds keeps the value. -/
theorem Holding.step (spared : Spared key value kind) (holding : Holding id key value world.store)
    (known : ∀ pid thread, world.threads pid = some thread → thread.Known platform patterns)
    (finds : FindsLoaded world event)
    (noneSucceeds : NoneSucceeds platform patterns kind id world event)
    (stepEq : (skillSystem platform patterns).step world event = some target) :
    Holding id key value target.store := by
  cases event with
  | start pid request =>
    obtain ⟨_, rfl⟩ := ThreadSystem.step_start_eq_some_iff.mp stepEq
    exact holding
  | advance pid answer =>
    obtain ⟨thread, store, next, isThread, acted, rfl⟩ :=
      ThreadSystem.step_advance_eq_some_iff.mp stepEq
    change thread.act platform patterns world.store answer = some (store, next) at acted
    cases thread with
    | inbox call phase =>
      obtain ⟨⟨_, following⟩, advanced, same⟩ := map_eq_some_iff.mp acted
      cases same
      cases Call.moved_of_advance advanced with
      | read next handled | refused raised => exact holding
      | wrote loaded write isWriting has =>
        subst isWriting
        by_cases isChanged : id = call.slug
        · subst isChanged
          obtain ⟨stored, isStored, isValue, _⟩ := holding
          obtain ⟨decided, isDecided, hasStatus⟩ := has
          cases isDecided.symm.trans isStored
          obtain ⟨found, fresh⟩ :=
            finds pid answer call loaded write stored rfl isThread isStored hasStatus
          have otherKind := noneSucceeds _ call
            ⟨stepEq, pid, answer, loaded, write, write.response, rfl, isThread,
              Pool.put_threads_self ..⟩ rfl
          exact Holding.write spared otherKind (known pid _ isThread) isValue found fresh
        · obtain ⟨stored, isStored, rest⟩ := holding
          exact ⟨stored, (update_of_ne isChanged ..).trans isStored, rest⟩
    | tick settings phase | forge cluster isDone =>
      rcases change_of_act acted with rfl | ⟨changed, doc, change, rfl⟩
      · exact holding
      · exact holding.other change fun _ _ isInbox => nomatch isInbox

end Steps

/-! ## Runs -/

section Runs

/-- What each thread knows holds along every run. -/
theorem interferenceFree_known :
    (skillSystem platform patterns).InterferenceFree (fun _ _ => True) (fun _ => True)
      (fun thread _ => thread.Known platform patterns) where
  start request _ _ := by
    cases request <;> trivial
  own _ pid _ thread _ _ sound _ isThread acted :=
    ⟨trivial, known_of_act (sound.threads pid thread isThread) acted⟩
  others _ _ _ _ _ _ sound _ _ _ other bystander _ isBystander :=
    sound.threads other bystander isBystander

variable {first second : Pool Documents Thread}
  {events before : List (ThreadEvent Request TickAnswer)}

theorem known_of_run
    (ran : Transition.run (skillSystem platform patterns).step ⟨store, fun _ => none⟩ events =
      some target) :
    target.Sound (fun _ => True) fun thread _ => thread.Known platform patterns :=
  invariant_of_guardedRun interferenceFree_known.preserved (.idle trivial)
    (guardedRun_of_forall (fun _ _ _ => trivial) _) ran

/-- A document has a value at a key, and each thread knows what it has read. -/
def KnownHolding (platform : Platform) (patterns : Patterns) (id key : String)
    (value : Option Json) (world : Pool Documents Thread) : Prop :=
  Holding id key value world.store ∧
    world.Sound (fun _ => True) fun thread _ => thread.Known platform patterns

/-- The value is kept along every run in which no call of the kind succeeds. -/
theorem Holding.run {id key : String} {kind : Action → Prop} (spared : Spared key value kind)
    (holding : Holding id key value world.store)
    (sound : world.Sound (fun _ => True) fun thread _ => thread.Known platform patterns)
    (finds : GuardedRun (skillSystem platform patterns).step FindsLoaded world events)
    (noneSucceeds : GuardedRun (skillSystem platform patterns).step
      (NoneSucceeds platform patterns kind id) world events)
    (ran : Transition.run (skillSystem platform patterns).step world events = some target) :
    Holding id key value target.store := by
  have preserved : ∀ source event next, KnownHolding platform patterns id key value source →
      (FindsLoaded source event ∧ NoneSucceeds platform patterns kind id source event) →
      (skillSystem platform patterns).step source event = some next →
        KnownHolding platform patterns id key value next := by
    intro source event next inv guards stepEq
    exact ⟨inv.1.step spared inv.2.threads guards.1 guards.2 stepEq,
      interferenceFree_known.preserved source event next inv.2 trivial stepEq⟩
  exact (invariant_of_guardedRun preserved ⟨holding, sound⟩ (finds.and noneSucceeds) ran).1

/-- The actions that do not give a text leave it alone. -/
theorem spared_text {key : String} (isText : key ∈ editableTexts) (value : Option Json) :
    Spared key value (Action.Gives key) := by
  have free : ∀ key ∈ editableTexts, key ∉ editKeys ∧
      key ∉ (Action.approve none).changed ∧ key ∉ (Action.reject "" none).changed ∧
      key ∉ (Action.quarantine "").changed ∧ key ∉ (Action.defer none).changed := by
    decide
  obtain ⟨notEdit, notApproval, notRejection, notQuarantine, notDeferral⟩ := free key isText
  intro action notGiven
  refine .inl ?_
  cases action with
  | approve override => exact ⟨notApproval, isText⟩
  | reject reason cooloffDays => exact ⟨notRejection, .tail _ isText⟩
  | quarantine reason => exact ⟨notQuarantine, .tail _ isText⟩
  | defer reason => exact ⟨notDeferral, isText⟩
  | edit request =>
    have notChanged : key ∉ request.changes.map Prod.fst := fun isGiven =>
      notGiven ⟨request, rfl, isGiven⟩
    refine ⟨fun isChanged => (List.mem_append.mp isChanged).elim notEdit notChanged, ?_⟩
    rw [Action.watched, List.mem_filter]
    exact ⟨isText, by simpa using notChanged⟩

/-- The actions that are neither edits nor approvals leave a deferral alone. -/
theorem spared_deferral (isSome : value ≠ none) : Spared "deferred_at" value Action.Clears := by
  intro action notCleared
  cases action with
  | approve override => exact absurd (.inr ⟨override, rfl⟩) notCleared
  | reject reason cooloffDays | quarantine reason => exact .inl ⟨by simp [Action.changed], .head _⟩
  | defer reason => exact .inr ⟨isSome, rfl, reason, rfl⟩
  | edit request => exact absurd (.inl ⟨request, rfl⟩) notCleared

/-- The version that a successful call leaves. -/
theorem holding_of_succeeds {event : ThreadEvent Request TickAnswer} {call : Call}
    (ran : Transition.run (skillSystem platform patterns).step ⟨store, fun _ => none⟩ before =
      some first) (succeeds : Succeeds platform patterns first event second call) :
    ∃ written, (∃ loaded, Composed platform patterns call loaded written) ∧
      (∀ key, Holding call.slug key (written.get key) second.store) ∧
      second.Sound (fun _ => True) fun thread _ => thread.Known platform patterns := by
  have sound := known_of_run ran
  obtain ⟨loaded, write, composed, isSecond⟩ := of_succeeds sound.threads succeeds
  refine ⟨write.data, ⟨loaded, composed⟩, fun key => ?_,
    interferenceFree_known.preserved _ _ _ sound trivial succeeds.1⟩
  rw [isSecond]
  exact holding_of_composed composed rfl

/-- In every run in which the calls that write find what they loaded, what has been
acknowledged stays. -/
theorem acknowledged_changes_kept (platform : Platform) (patterns : Patterns) (store : Documents)
    (events : List (ThreadEvent Request TickAnswer))
    (finds : GuardedRun (skillSystem platform patterns).step FindsLoaded ⟨store, fun _ => none⟩
      events) :
    AcknowledgedKept platform patterns ⟨store, fun _ => none⟩ events where
  edits before event after first second last call request isSplit ranBefore succeeds isEdit
      ran := by
    subst isSplit
    obtain ⟨written, ⟨_, composed⟩, holds, secondSound⟩ := holding_of_succeeds ranBefore succeeds
    have rest := (guardedRun_of_append finds ranBefore).2 second succeeds.1
    refine ⟨fun change isChange => ?_, fun key isText noneGives => ?_⟩
    · rw [(holds change.1).valueOf_eq]
      exact composed.given request isEdit change isChange
    · rw [(holds key).valueOf_eq]
      exact ((holds key).run (spared_text isText _) secondSound rest noneGives ran).valueOf_eq
  deferrals before event after first second last call reason isSplit ranBefore succeeds isDeferral
      ran := by
    subst isSplit
    obtain ⟨written, ⟨_, composed⟩, holds, secondSound⟩ := holding_of_succeeds ranBefore succeeds
    have rest := (guardedRun_of_append finds ranBefore).2 second succeeds.1
    have isSome := composed.deferred reason isDeferral
    rw [(holds "deferred_at").valueOf_eq]
    refine ⟨isSome, fun noneClears => ?_⟩
    have spared := spared_deferral (isSome_iff_ne_none.mp isSome)
    exact ((holds "deferred_at").run spared secondSound rest noneClears ran).valueOf_eq

end Runs

/-! ## A deferral over an edit -/

/-- A staged skill with a text. -/
def draftStore : Documents := fun id =>
  if id = "x" then
    some
      { fleetId := none
        data := [("name", .str "n"), ("slug", .str "x"), ("description", .str ""),
          ("domain", .str ""), ("kind", .str "create"), ("source", .str "imported"),
          ("status", .str "staged"), ("content", .str "old")] }
  else
    none

/-- A deferral reads the document, an edit succeeds, and then the deferral writes. -/
def editThenStale : List (ThreadEvent Request TickAnswer) :=
  [.start 0 (.inbox { slug := "x", action := .edit { content := some "new" } }),
    .start 1 (.inbox { slug := "x", action := .defer none }),
    .advance 1 {}, .advance 1 {}, .advance 0 {}, .advance 0 {}]

/-- The call was answered without an error. -/
def Thread.hasSucceeded : Thread → Bool
  | .inbox _ (.answered (.ok _)) => true
  | _ => false

/-- Two values that are missing or the same text. -/
def sameText : Option Json → Option Json → Bool
  | none, none => true
  | some (.str first), some (.str second) => first == second
  | _, _ => false

theorem eq_of_sameText {first second : Option Json} (same : sameText first second = true) :
    first = second := by
  unfold sameText at same
  split at same
  · rfl
  · rw [beq_iff_eq.mp same]
  · cases same

/-- A call that writes finds the watched texts as it loaded them, and no deferral. -/
def findsChecked (world : Pool Documents Thread) (event : ThreadEvent Request TickAnswer) : Bool :=
  match world.threads event.pid with
  | some (.inbox call (.writing loaded _)) => (world.store call.slug).all fun stored =>
    (stored.data.get "deferred_at").isNone && call.action.watched.all fun key =>
      sameText (stored.data.get key) (loaded.data.get key)
  | _ => true

theorem findsLoaded_of_findsChecked {bound : Nat} (world : Pool Documents Thread)
    (event : ThreadEvent Request TickAnswer) (_ : world.Below bound)
    (checked : findsChecked world event = true) : FindsLoaded world event := by
  rintro pid answer call loaded write stored rfl isWriting isStored _
  rw [findsChecked, ThreadEvent.pid, isWriting] at checked
  dsimp only at checked
  rw [isStored, all_some, Bool.and_eq_true, isNone_iff_eq_none, List.all_eq_true] at checked
  exact ⟨fun key watched => eq_of_sameText (checked.2 key watched), fun _ _ => checked.1⟩

/-- An edit succeeds, and then a deferral that has loaded the edited document. -/
def editThenDeferral : List (ThreadEvent Request TickAnswer) :=
  .start 0 (.inbox { slug := "x", action := .edit { content := some "new" } }) ::
    List.replicate 3 (.advance 0 {}) ++
      .start 1 (.inbox { slug := "x", action := .defer none }) :: List.replicate 3 (.advance 1 {})

/-- Both succeed, and the deferred document has the text of the edit. -/
theorem acknowledged_changes_kept_edit :
    AcknowledgedKept plainPlatform noPatterns ⟨draftStore, fun _ => none⟩ editThenDeferral ∧
    (run (skillSystem plainPlatform noPatterns).step ⟨draftStore, fun _ => none⟩
      editThenDeferral).any (fun world => (world.threads 0).any Thread.hasSucceeded &&
        (world.threads 1).any Thread.hasSucceeded &&
        (valueOf world.store "x" "content").any fun value => value.equals (.str "new")) = true := by
  have checked : GuardedRun (skillSystem plainPlatform noPatterns).step
      (fun world event => findsChecked world event = true) ⟨draftStore, fun _ => none⟩
      editThenDeferral := by
    decide +kernel
  refine ⟨acknowledged_changes_kept plainPlatform noPatterns draftStore editThenDeferral ?_,
    by decide +kernel⟩
  exact ThreadSystem.guardedRun_of_few 2 findsLoaded_of_findsChecked (by decide)
    (fun _ _ => rfl) checked

/-- The deferral brings the text before the edit back. -/
theorem deferral_undoes_edit :
    ¬ AcknowledgedKept plainPlatform noPatterns ⟨draftStore, fun _ => none⟩
      (editThenStale ++ [.advance 0 {}, .advance 1 {}]) := by
  intro kept
  obtain ⟨shown, stays⟩ := kept.edits editThenStale (.advance 0 {}) [.advance 1 {}] _ _ _
    { slug := "x", action := .edit { content := some "new" } } _ rfl rfl
    ⟨rfl, 0, {}, _, _, _, rfl, rfl, rfl⟩ rfl rfl
  have new := shown ("content", .str "new") (List.mem_singleton_self _)
  rw [← stays "content" (by decide) ?_] at new
  · exact absurd (Json.str.inj (Option.some.inj new)) (by decide)
  · refine ⟨?_, fun _ _ => trivial⟩
    rintro target other ⟨_, pid, answer, _, _, _, isAdvance, isOther, _⟩ _ ⟨given, isGiving, _⟩
    cases isAdvance
    cases isOther
    cases isGiving

end Caura.Skills
