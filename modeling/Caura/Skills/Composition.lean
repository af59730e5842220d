import Caura.Skills.Inbox

/-!
# What a call writes

Whatever it has read, a call writes the document that it loaded with the keys of its action
changed, under a status of its action.  An edit writes the texts that it was given, and an
approval without an override a document whose scan it saw to be clean.

These facts are about a call alone: they follow its phases and hold whatever the storage
answers.
-/

namespace Caura.Skills

open Caura.Transition Caura.Value List Option Dict

/-! ## Keys and statuses of an action -/

/-- The statuses under which an action leaves its document. -/
def Action.targets : Action → List String
  | .approve _ => ["active"]
  | .reject .. => ["rejected"]
  | .quarantine _ => ["quarantined"]
  | .defer _ => ["staged"]
  | .edit _ => ["staged", "quarantined"]

/-- The keys that the validator or the edit itself may change. -/
def editKeys : List String :=
  ["status", "quarantined_at", "scan", "origin", "content_hash", "created_at", "updated_at",
    "edited_at", "deferred_at", "defer_reason"]

/-- The texts that an edit may give. -/
def editableTexts : List String :=
  ["content", "description", "summary"]

/-- The keys that an action may change. -/
def Action.changed : Action → List String
  | .approve _ =>
    ["status", "active_at", "updated_at", "scan", "quarantine_override", "deferred_at",
      "defer_reason", "quarantined_at", "quarantine_reason"]
  | .reject .. => ["status", "rejected_at", "updated_at", "rejection_reason"]
  | .quarantine _ => ["status", "quarantined_at", "updated_at", "quarantine_reason"]
  | .defer _ => ["deferred_at", "defer_reason", "updated_at"]
  | .edit request => editKeys ++ request.changes.map Prod.fst

/-- The actions that go through `_persist_status_transition`. -/
def Action.IsTransition : Action → Prop
  | .approve _ | .reject .. | .quarantine _ => True
  | .defer _ | .edit _ => False

/-- No action leaves a candidate. -/
theorem Action.candidate_notMem_targets (action : Action) : "candidate" ∉ action.targets := by
  cases action <;> simp [targets]

/-- Only an approval activates. -/
theorem Action.exists_of_active_mem_targets {action : Action} (active : "active" ∈ action.targets) :
    ∃ override, action = .approve override := by
  cases action with
  | approve override => exact ⟨override, rfl⟩
  | reject reason cooloffDays | quarantine reason | defer reason | edit request =>
    simp [targets] at active

/-! ## Composed writes -/

section Composed

variable (platform : Platform) (patterns : Patterns)

/-- A scan of the data that an approval lets pass. -/
def Rescanned (call : Call) (data : Data) : Prop :=
  ∀ override, call.action = .approve override →
    ∃ now scan, scanSkillDoc platform patterns call.caps now (.obj data) = .ok scan ∧
      passesRescan override scan = true

/-- What a call writes, against the document that it loaded. -/
structure Composed (call : Call) (loaded written : Data) : Prop where
  status : ∃ status ∈ call.action.targets, written.get "status" = some (.str status)
  kept : ∀ key, key ∉ call.action.changed → written.get key = loaded.get key
  given : ∀ request, call.action = .edit request → ∀ change ∈ request.changes,
    written.get change.1 = some change.2
  deferred : ∀ reason, call.action = .defer reason →
    (written.get "deferred_at").isSome = true
  rescanned : Rescanned platform patterns call loaded

/-- What a call knows of the documents in its phase. -/
def Phase.Composed (call : Call) : Phase → Prop
  | .checkingFolder loaded _ _ => Rescanned platform patterns call loaded.data
  | .binding loaded draft _ =>
    ∃ request, call.action = .edit request ∧ draft = editDraft request loaded.data
  | .confirming loaded edited _ => Skills.Composed platform patterns call loaded.data edited
  | .writing loaded write => Skills.Composed platform patterns call loaded.data write.data
  | _ => True

end Composed

/-! ## Transitions -/

variable {now newStatus : String} {removeKeys : List String}

section Transitions

variable {patches : Data}

theorem get_transitionData_status (data : Data)
    (notTime : newStatus ++ "_at" ≠ "status") (notPatched : "status" ∉ patches.map Prod.fst)
    (notRemoved : "status" ∉ removeKeys) :
    (transitionData now newStatus patches removeKeys data).get "status" =
      some (.str newStatus) := by
  rw [transitionData, get_without, if_neg notRemoved, get_update_of_notMem _ _ notPatched,
    get_set, if_neg (by decide), get_flipped_status data notTime]

theorem get_transitionData_of_notMem (data : Data) {key : String}
    (unchanged : key ∉ ["status", newStatus ++ "_at", "updated_at"] ++ patches.map Prod.fst ++
      removeKeys) :
    (transitionData now newStatus patches removeKeys data).get key = data.get key := by
  simp only [mem_append, mem_cons, not_mem_nil, or_false, not_or] at unchanged
  obtain ⟨⟨⟨notStatus, notTime, notUpdated⟩, notPatched⟩, notRemoved⟩ := unchanged
  rw [transitionData, get_without, if_neg notRemoved, get_update_of_notMem _ _ notPatched,
    get_set, if_neg notUpdated, get_flipped_of_ne data notStatus notTime]

end Transitions

/-! ## The write of each action -/

variable {platform : Platform} {patterns : Patterns} {store : Documents} {call : Call}
  {next phase : Phase}

section Writes

variable {loaded doc : Document} {slug reason key : String} {expected keys : List String}

theorem of_reloadAndAssertStatus
    (reloaded : reloadAndAssertStatus platform store slug expected = .ok doc) :
    store slug = some doc ∧ ∃ status ∈ expected, doc.hasStatus status = true := by
  obtain ⟨found, load, rest⟩ := bind_eq_ok_iff.mp reloaded
  obtain ⟨isExpected, status, rest⟩ := bind_eq_ok_iff.mp rest
  obtain ⟨_, expectedHolds, same⟩ := bind_eq_ok_iff.mp rest
  cases same
  rw [refuseIf_eq_ok_iff, Bool.not_eq_false'] at expectedHolds
  subst expectedHolds
  unfold loadDocOr404 at load
  split at load <;> cases load
  next stored isStored =>
    obtain ⟨text, textMem, isText⟩ := isIn_eq_ok_true_iff.mp status
    exact ⟨isStored, text, textMem, Document.hasStatus_iff.mpr (eq_some_of_getD isText)⟩

/-- A transition of a document without edits. -/
theorem composed_transition {patches : Data} (isTarget : newStatus ∈ call.action.targets)
    (notTime : newStatus ++ "_at" ≠ "status")
    (changed : ∀ key ∈ ["status", newStatus ++ "_at", "updated_at"] ++ patches.map Prod.fst ++
      removeKeys, key ∈ call.action.changed) (notPatched : "status" ∉ patches.map Prod.fst)
    (notRemoved : "status" ∉ removeKeys) (isTransition : call.action.IsTransition)
    (rescanned : Rescanned platform patterns call loaded.data) :
    Composed platform patterns call loaded.data
      (transitionData now newStatus patches removeKeys loaded.data) where
  status := ⟨newStatus, isTarget,
    get_transitionData_status loaded.data notTime notPatched notRemoved⟩
  kept key unchanged := get_transitionData_of_notMem loaded.data fun isKey =>
    unchanged (changed key isKey)
  given _ isEdit := absurd isTransition (isEdit ▸ not_false)
  deferred _ isDeferral := absurd isTransition (isDeferral ▸ not_false)
  rescanned := rescanned

/-- A call that is no approval has nothing to rescan. -/
theorem rescanned_of_ne (notApproval : ∀ override, call.action ≠ .approve override) (data : Data) :
    Rescanned platform patterns call data :=
  fun override isApproval => absurd isApproval (notApproval override)

theorem composed_approved {override : Option String} (isApproval : call.action = .approve override)
    {scan : ScanResult} (rescanned : Rescanned platform patterns call loaded.data) :
    (approved call override now loaded scan).Composed platform patterns call := by
  cases call
  cases isApproval
  refine composed_transition (mem_singleton_self _) (by decide) ?_ ?_ ?_ trivial rescanned
  · cases override <;> simp [overridePatch, quarantineMarkers, Action.changed]
  · cases override <;> simp [overridePatch]
  · cases override <;> simp [quarantineMarkers]

theorem composed_rejected {cooloffDays : Option Int}
    (isRejection : call.action = .reject reason cooloffDays) {isPoisoned : Bool} :
    (rejected call reason cooloffDays now loaded isPoisoned).Composed platform patterns call := by
  cases call
  cases isRejection
  exact composed_transition (mem_singleton_self _) (by decide) (by simp [Action.changed])
    (by simp) (by simp) trivial (rescanned_of_ne (by simp) _)

theorem composed_quarantined (isQuarantine : call.action = .quarantine reason) :
    (persistStatusTransition call now loaded "quarantined" [("quarantine_reason", .str reason)] []
      none).Composed platform patterns call := by
  cases call
  cases isQuarantine
  exact composed_transition (mem_singleton_self _) (by decide) (by simp [Action.changed])
    (by simp) (by simp) trivial (rescanned_of_ne (by simp) _)

theorem get_deferredData {reason : Option String} (data : Data)
    (other : key ∉ ["deferred_at", "defer_reason", "updated_at"]) :
    (deferredData now reason data).get key = data.get key := by
  simp only [mem_cons, not_or] at other
  obtain ⟨notAt, notReason, notUpdated⟩ := other
  unfold deferredData
  cases reason with
  | none => simp [notAt, notUpdated]
  | some reason => by_cases isEmpty : reason = "" <;> simp [isEmpty, notAt, notReason, notUpdated]

theorem composed_deferred {reason : Option String} (isDeferral : call.action = .defer reason)
    (isStaged : loaded.hasStatus "staged" = true) :
    Composed platform patterns call loaded.data (deferredData now reason loaded.data) where
  status := by
    refine ⟨"staged", by rw [isDeferral]; exact mem_singleton_self _, ?_⟩
    rw [← Document.hasStatus_iff.mp isStaged]
    exact get_deferredData _ (by decide)
  kept key unchanged := by
    rw [isDeferral] at unchanged
    exact get_deferredData _ unchanged
  given request isEdit := nomatch isDeferral.symm.trans isEdit
  deferred other _ := by
    unfold deferredData
    cases reason with
    | none => simp
    | some reason => by_cases isEmpty : reason = "" <;> simp [isEmpty]
  rescanned override isApproval := nomatch isDeferral.symm.trans isApproval

/-! ### Edits -/

theorem EditRequest.nodup_changes (request : EditRequest) :
    (request.changes.map Prod.fst).Nodup := by
  obtain ⟨content, description, summary, force⟩ := request
  cases content <;> cases description <;> cases summary <;> simp [EditRequest.changes]

variable {request : EditRequest}

theorem EditRequest.mem_editableTexts {change : String × Json}
    (isChange : change ∈ request.changes) : change.1 ∈ editableTexts := by
  obtain ⟨content, description, summary, force⟩ := request
  simp only [EditRequest.changes, mem_append, mem_toList, map_eq_some_iff] at isChange
  rcases isChange with (⟨_, _, rfl⟩ | ⟨_, _, rfl⟩) | ⟨_, _, rfl⟩ <;> simp [editableTexts]

theorem get_entriesAt (data : Data) (keys : List String) (key : String) :
    (entriesAt data keys).get key = if key ∈ keys then data.get key else none := by
  induction keys with
  | nil => rfl
  | cons first keys ih =>
    unfold entriesAt at ih ⊢
    cases value : data.get first with
    | none =>
      rw [filterMap_cons_none (by rw [value]; rfl), ih]
      by_cases isFirst : key = first <;> simp [isFirst, value]
    | some json =>
      rw [filterMap_cons_some (by rw [value]; rfl), get_cons, ih]
      by_cases isFirst : key = first <;> simp [isFirst, value]

theorem nodup_entriesAt (data : Data) (distinct : keys.Nodup) :
    ((entriesAt data keys).map Prod.fst).Nodup := by
  have areKeys : (entriesAt data keys).map Prod.fst = keys.filter data.has := by
    rw [entriesAt, map_filterMap, ← filterMap_eq_filter]
    congr 1
    funext key
    cases value : data.get key <;> simp [Dict.has, Option.guard, value]
  rw [areKeys]
  exact distinct.filter _

/-- The draft of an edit has the texts that were given and otherwise those of the document,
without the reserved fields. -/
theorem get_editDraft (request : EditRequest) (data : Data) (key : String) :
    (editDraft request data).get key =
      if key ∈ reservedFields then none else (request.changes.get key).or (data.get key) := by
  rw [editDraft, get_without, get_update_of_nodup _ request.nodup_changes]

/-- The keys that an edit writes itself. -/
theorem get_editedData (loaded normalized : Data)
    (other : key ∉ ["status", "edited_at", "deferred_at", "defer_reason"]) :
    (editedData now loaded normalized).get key =
      if key ∈ reservedFields then (loaded.get key).or (normalized.get key)
      else normalized.get key := by
  simp only [mem_cons, not_mem_nil, or_false, not_or] at other
  obtain ⟨notStatus, notEdited, notDeferred, notReason⟩ := other
  rw [editedData, get_pop, if_neg notReason, get_pop, if_neg notDeferred, get_set,
    if_neg notEdited, get_set, if_neg notStatus,
    get_update_of_nodup _ (nodup_entriesAt loaded (by decide)), get_entriesAt]
  split <;> rfl

/-- What an edit writes once the validator has returned. -/
theorem composed_edited (isEdit : call.action = .edit request) {live : Option Data}
    {normalized : Data} {scan : ScanResult}
    (valid : validateAndNormalizeSkillWrite platform patterns call.context now live
      (.obj (editDraft request loaded.data)) = .ok (normalized, scan)) :
    Composed platform patterns call loaded.data (editedData now loaded.data normalized) := by
  obtain ⟨body, header, content, filled, isBody, stages⟩ := stages_of_validate valid
  cases isBody
  have textsAreFree : (∀ key ∈ editableTexts, key ∉ editKeys) ∧
      ∀ key ∈ editableTexts, key ∉ reservedFields := by
    decide
  have validatorKeys : ∀ key ∈ ["status", "quarantined_at", "scan", "origin", "content_hash",
      "created_at", "updated_at"], key ∈ editKeys := by
    decide
  have ownKeys : ∀ key ∈ ["status", "edited_at", "deferred_at", "defer_reason"],
      key ∈ editKeys := by
    decide
  have edited : ∀ key, key ∉ editKeys → (editedData now loaded.data normalized).get key =
      if key ∈ reservedFields then
        (loaded.data.get key).or ((editDraft request loaded.data).get key)
      else (editDraft request loaded.data).get key := by
    intro key notWritten
    rw [get_editedData _ _ fun isKey => notWritten (ownKeys key isKey),
      stages.get_eq fun isKey => notWritten (validatorKeys key isKey)]
  refine ⟨?_, ?_, ?_, fun _ isDeferral => (nomatch isEdit.symm.trans isDeferral),
    rescanned_of_ne (fun override isApproval => ?_) _⟩
  · rw [isEdit]
    refine ⟨_, ?_, by rw [editedData, get_pop, if_neg (by decide), get_pop,
      if_neg (by decide), get_set, if_neg (by decide), get_set, if_pos rfl]⟩
    split <;> simp [Action.targets]
  · intro key unchanged
    rw [isEdit, Action.changed, mem_append, not_or] at unchanged
    obtain ⟨notWritten, notGiven⟩ := unchanged
    rw [edited key notWritten, get_editDraft, get_eq_none_of_notMem notGiven]
    split
    · rw [or_none]
    · rfl
  · intro other isOther change isChange
    cases isEdit.symm.trans isOther
    have isText := EditRequest.mem_editableTexts isChange
    have notReserved : change.1 ∉ reservedFields := textsAreFree.2 _ isText
    rw [edited _ (textsAreFree.1 _ isText), if_neg notReserved, get_editDraft,
      if_neg notReserved, get_eq_some_of_mem request.nodup_changes isChange, some_or]
  · rw [isEdit] at isApproval
    cases isApproval

/-! ## The phases of a call -/

section Handlers

/-- A check and a phase that hold nothing. -/
theorem composed_of_check {α : Type} {check : Except Raised α} {following : α → Phase}
    (isNext : (do let value ← check; return following value) = .ok next)
    (free : ∀ value, (following value).Composed platform patterns call) :
    next.Composed platform patterns call := by
  obtain ⟨value, _, same⟩ := bind_eq_ok_iff.mp isNext
  cases same
  exact free value

variable (composed : phase.Composed platform patterns call)

include composed

theorem composed_approve {override : Option String} (isApproval : call.action = .approve override)
    (handled : approve platform patterns store call override now phase = some (.ok next)) :
    next.Composed platform patterns call := by
  unfold approve at handled
  split at handled
  · exact composed_of_check (Option.some.inj handled) fun _ => trivial
  · obtain ⟨doc, _, rest⟩ := bind_eq_ok_iff.mp (Option.some.inj handled)
    exact composed_of_check rest fun _ => trivial
  · obtain ⟨doc, _, rest⟩ := bind_eq_ok_iff.mp (Option.some.inj handled)
    obtain ⟨_, _, rest⟩ := bind_eq_ok_iff.mp rest
    obtain ⟨scan, scanned, rest⟩ := bind_eq_ok_iff.mp rest
    obtain ⟨_, passes, isNext⟩ := bind_eq_ok_iff.mp rest
    cases isNext
    rw [refuseIf_eq_ok_iff, Bool.not_eq_false'] at passes
    intro other isOther
    cases isApproval.symm.trans isOther
    exact ⟨now, scan, scanned, passes⟩
  · exact composed_of_check (Option.some.inj handled) fun _ => composed
  · cases handled
    exact composed_approved isApproval composed
  · cases handled

omit composed in
theorem composed_reject {cooloffDays : Option Int} {answer : Answer}
    (isRejection : call.action = .reject reason cooloffDays)
    (handled : reject platform store call reason cooloffDays answer phase = some (.ok next)) :
    next.Composed platform patterns call := by
  unfold reject at handled
  split at handled
  · exact composed_of_check (Option.some.inj handled) fun _ => trivial
  · obtain ⟨doc, _, rest⟩ := bind_eq_ok_iff.mp (Option.some.inj handled)
    split at rest
    · cases rest
      exact composed_rejected isRejection
    · exact composed_of_check rest fun _ => trivial
  · exact composed_of_check (Option.some.inj handled) fun _ => trivial
  · exact composed_of_check (Option.some.inj handled) fun _ => composed_rejected isRejection
  · cases handled

omit composed in
theorem composed_quarantine (isQuarantine : call.action = .quarantine reason)
    (handled : quarantine platform store call reason now phase = some (.ok next)) :
    next.Composed platform patterns call := by
  unfold quarantine at handled
  split at handled
  · exact composed_of_check (Option.some.inj handled) fun _ => trivial
  · exact composed_of_check (Option.some.inj handled) fun _ => composed_quarantined isQuarantine
  · cases handled

omit composed in
theorem composed_defer {reason : Option String} (isDeferral : call.action = .defer reason)
    (handled : defer platform store call reason now phase = some (.ok next)) :
    next.Composed platform patterns call := by
  unfold defer at handled
  split at handled
  · exact composed_of_check (Option.some.inj handled) fun _ => trivial
  · obtain ⟨doc, reloaded, isNext⟩ := bind_eq_ok_iff.mp (Option.some.inj handled)
    cases isNext
    obtain ⟨_, status, isStaged, has⟩ := of_reloadAndAssertStatus reloaded
    rw [mem_singleton] at isStaged
    exact composed_deferred isDeferral (isStaged ▸ has)
  · cases handled

omit composed in
theorem composed_validatedEdit (isEdit : call.action = .edit request) {target : Option Document}
    (validated : validatedEdit platform patterns call now loaded (editDraft request loaded.data)
      target = .ok next) : next.Composed platform patterns call := by
  obtain ⟨⟨normalized, scan⟩, valid, isNext⟩ := bind_eq_ok_iff.mp validated
  cases isNext
  exact composed_edited isEdit valid

theorem composed_edit (isEdit : call.action = .edit request)
    (handled : edit platform patterns store call request now phase = some (.ok next)) :
    next.Composed platform patterns call := by
  unfold edit at handled
  split at handled
  · obtain ⟨_, _, rest⟩ := bind_eq_ok_iff.mp (Option.some.inj handled)
    obtain ⟨doc, _, rest⟩ := bind_eq_ok_iff.mp rest
    dsimp only at rest
    split at rest
    next target isTarget =>
      cases rest
      exact ⟨request, isEdit, rfl⟩
    · exact composed_validatedEdit isEdit rest
  next draft target =>
    obtain ⟨other, isOther, rfl⟩ := composed
    cases isEdit.symm.trans isOther
    exact composed_validatedEdit isEdit (Option.some.inj handled)
  · exact composed_of_check (Option.some.inj handled) fun _ => composed
  · cases handled

/-- A handler composes its write as its action says. -/
theorem composed_handle {answer : Answer}
    (handled : call.handle platform patterns store answer phase = some (.ok next)) :
    next.Composed platform patterns call := by
  unfold Call.handle at handled
  split at handled
  next override isApproval => exact composed_approve composed isApproval handled
  next reason cooloffDays isRejection => exact composed_reject isRejection handled
  next reason isQuarantine => exact composed_quarantine isQuarantine handled
  next reason isDeferral => exact composed_defer isDeferral handled
  next request isEdit => exact composed_edit composed isEdit handled

end Handlers

end Writes

/-! ## One step of a call -/

section Steps

variable {after : Documents} {answer : Answer}

/-- What a step of a call can do: read and go on, be refused, or write over the status that
it decided on. -/
inductive Call.Moved (platform : Platform) (patterns : Patterns) (store : Documents) (call : Call)
    (answer : Answer) (phase : Phase) : Documents → Phase → Prop
  | read (next : Phase)
      (handled : call.handle platform patterns store answer phase = some (.ok next)) :
      Moved platform patterns store call answer phase store next
  | refused (raised : Raised) :
      Moved platform patterns store call answer phase store (.answered (.error raised))
  | wrote (loaded : Document) (write : PendingWrite) (isWriting : phase = .writing loaded write)
      (has : store.Has call.slug write.decidedOn) :
      Moved platform patterns store call answer phase
        (Function.update store call.slug (some ⟨write.fleetId, write.data⟩))
        (.answered (.ok write.response))

theorem of_putSkill {slug : String} {write : PendingWrite}
    (put : putSkill platform store slug write = .ok after) :
    after = Function.update store slug (some ⟨write.fleetId, write.data⟩) ∧
      store.Has slug write.decidedOn := by
  unfold putSkill at put
  split at put <;> cases put
  next written =>
    obtain ⟨isAfter, may⟩ := of_documentUpsert written
    exact ⟨isAfter, has_of_mayReplaceStored may⟩

theorem Call.moved_of_advance
    (advanced : call.advance platform patterns store answer phase = some (after, next)) :
    call.Moved platform patterns store answer phase after next := by
  unfold Call.advance at advanced
  split at advanced
  next loaded write =>
    split at advanced <;> cases advanced
    next put =>
      obtain ⟨rfl, has⟩ := of_putSkill put
      exact .wrote loaded write rfl has
    next raised _ =>
      exact .refused raised
  · obtain ⟨result, handled, same⟩ := map_eq_some_iff.mp advanced
    cases result with
    | ok following =>
      cases same
      exact .read following handled
    | error raised =>
      cases same
      exact .refused raised

/-- A call knows what it composed along its steps. -/
theorem composed_of_moved (composed : phase.Composed platform patterns call)
    (moved : call.Moved platform patterns store answer phase after next) :
    next.Composed platform patterns call := by
  cases moved with
  | read next handled => exact composed_handle composed handled
  | refused raised | wrote loaded write isWriting has => trivial

end Steps

end Caura.Skills
