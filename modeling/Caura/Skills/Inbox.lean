import Caura.Skills.Documents

/-!
# Inbox calls

An inbox call reads its document one to three times, decides, and writes the whole document
back over the status that it decided on.  Each handler is a state machine whose phases are
the points at which it waits for the storage: what a phase carries is what the handler has
read so far.

Only the last phase writes.  What it writes is the document that was loaded with the few
keys of the action changed.
-/

namespace Caura.Skills

open Caura.Value

/-! ## Requests -/

/-- `EditRequest`. -/
structure EditRequest where
  content : Option String := none
  description : Option String := none
  summary : Option String := none
  force : Bool := false

/-- The fields that a request gives. -/
def EditRequest.changes (request : EditRequest) : Data :=
  (request.content.map fun text => ("content", Json.str text)).toList ++
    (request.description.map fun text => ("description", Json.str text)).toList ++
    (request.summary.map fun text => ("summary", Json.str text)).toList

/-- `has_changes`. -/
def EditRequest.hasChanges (request : EditRequest) : Bool :=
  request.content.isSome || request.description.isSome || request.summary.isSome

/-- An inbox action with its body.  An approval overrides a quarantine if it has a reason for
that. -/
inductive Action
  | approve (override : Option String)
  | reject (reason : String) (cooloffDays : Option Int)
  | quarantine (reason : String)
  | defer (reason : Option String)
  | edit (request : EditRequest)

/-- A call by an admin, with what it reads of the credential and of the settings. -/
structure Call where
  slug : String
  action : Action
  caps : Caps := {}
  callerAgentId : Option String := none
  approver : String := "admin-api-key"
  rejectionCooloffDays : Int := 30

/-- `ActionResponse`. -/
structure ActionResponse where
  slug : String
  previousStatus : String
  newStatus : String
  detail : Option String := none

/-- `SkillWriteContext` of an edit. -/
def Call.context (call : Call) : SkillWriteContext :=
  { callerAgentId := call.callerAgentId, isAdmin := true, isInternalForge := false
    isInboxEdit := true, caps := call.caps }

/-! ## Phases -/

/-- The arguments of `_write_skill`, and the response if it succeeds. -/
structure PendingWrite where
  fleetId : Option String
  data : Data
  decidedOn : String
  force : Bool := false
  response : ActionResponse

/-- Where a call waits for the storage. -/
inductive Phase
  | loading
  | reloading (first : Document)
  | rechecking (first second : Document)
  | checkingFolder (loaded : Document) (scan : ScanResult) (others : List String)
  | poisoning (loaded : Document)
  | binding (loaded : Document) (draft : Data) (target : String)
  | confirming (loaded : Document) (edited : Data) (scan : ScanResult)
  | writing (loaded : Document) (write : PendingWrite)
  | answered (result : Except Raised ActionResponse)

/-! ## Helpers of the handlers -/

/-- `_SKILL_NAMESPACES`. -/
def skillNamespaces : List String :=
  ["forge/", "agent/"]

/-- `_install_folder`. -/
def installFolder (docId : String) : String :=
  match skillNamespaces.find? fun space => space.toList.isPrefixOf docId.toList with
  | some space => String.ofList (docId.toList.drop space.length)
  | none => docId

/-- The other ids that install as the folder of an id, in the order in which they are read. -/
def folderIds (docId : String) : List String :=
  let folder := installFolder docId
  (folder :: skillNamespaces.map fun space => space ++ folder).filter fun other =>
    other != docId

/-- `_binding_target_slug`. -/
def bindingTargetSlug (data : Data) : Option String :=
  match data.get "kind", data.get "slug" with
  | some (.str "update"), some (.str slug) =>
    if slug = "" then none else some slug
  | _, _ => none

/-- The cluster fingerprint, if it is a text that is not empty. -/
def fingerprintOf (doc : Document) : Option String :=
  match doc.data.get "cluster_fingerprint" with
  | some (.str fingerprint) =>
    if fingerprint = "" then none else some fingerprint
  | _ => none

/-- A `content_hash` that is a text and not empty. -/
def hasContentHash (doc : Document) : Bool :=
  match doc.data.get "content_hash" with
  | some (.str hash) => hash != ""
  | _ => false

/-- The status of a document that has one, as a text. -/
def Document.statusText (doc : Document) : String :=
  match doc.data.get "status" with
  | some (.str status) => status
  | _ => ""

/-- `f"{value}"`. -/
def shown (platform : Platform) : Json → String
  | .str text => text
  | other => platform.repr other

/-- `approvable`. -/
def approvable : Option String → List String
  | none => ["staged"]
  | some _ => ["quarantined", "staged"]

/-- `under_review`. -/
def underReview : List String :=
  ["candidate", "quarantined", "staged"]

/-- `rejectable`. -/
def rejectable (first : Document) : List String :=
  if first.hasStatus "active" then ["active"] else underReview

/-- `_QUARANTINE_MARKERS`. -/
def quarantineMarkers : List String :=
  ["quarantined_at", "quarantine_reason"]

/-- `_RESERVED_FIELDS`. -/
def reservedFields : List String :=
  ["status", "cluster_fingerprint", "cites", "origin", "created_at", "telemetry"]

/-- The entries of a document at some keys. -/
def entriesAt (data : Data) (keys : List String) : Data :=
  keys.filterMap fun key => (data.get key).map fun value => (key, value)

/-- The data that `_persist_status_transition` writes. -/
def transitionData (now newStatus : String) (patches : Data) (removeKeys : List String)
    (data : Data) : Data :=
  (((flipped now newStatus data).set "updated_at" (.str now)).update patches).without removeKeys

section Handlers

variable (platform : Platform) (patterns : Patterns)

/-- `_load_doc_or_404`. -/
def loadDocOr404 (store : Documents) (slug : String) : Except Raised Document :=
  match store slug with
  | some doc => .ok doc
  | none => .error (.http 404 s!"skill {platform.repr (.str slug)} not found")

/-- `_reload_and_assert_status`. -/
def reloadAndAssertStatus (store : Documents) (slug : String) (expected : List String) :
    Except Raised Document := do
  let doc ← loadDocOr404 platform store slug
  let isExpected ← isIn doc.status expected
  refuseIf (!isExpected) <| .http 409
    (s!"skill {platform.repr (.str slug)} was concurrently transitioned to " ++
      s!"status={platform.repr doc.status} " ++
      s!"(expected one of {platform.repr (.arr (expected.map .str))}); " ++
      "reload and retry")
  return doc

/-- The first load of a handler: the document, if its status admits the action. -/
def firstLoad (store : Documents) (slug : String) (admits : Json → Except Raised Bool)
    (reason : String) : Except Raised Document := do
  let doc ← loadDocOr404 platform store slug
  let admitted ← admits doc.status
  refuseIf (!admitted) <| .http 409
    (s!"skill {platform.repr (.str slug)} status={platform.repr doc.status}; " ++ reason)
  return doc

/-- `_persist_status_transition`, up to its write. -/
def persistStatusTransition (call : Call) (now : String) (doc : Document) (newStatus : String)
    (patches : Data) (removeKeys : List String) (detail : Option String) : Phase :=
  .writing doc
    { fleetId := doc.fleetId
      data := transitionData now newStatus patches removeKeys doc.data
      decidedOn := doc.statusText
      response :=
        { slug := call.slug, previousStatus := doc.statusText, newStatus := newStatus
          detail := detail } }

/-- `_write_skill`. -/
def putSkill (store : Documents) (slug : String) (write : PendingWrite) :
    Except Raised Documents :=
  match documentUpsert platform store slug ⟨write.fleetId, write.data⟩ write.force
      [some write.decidedOn] with
  | .ok after => .ok after
  | .error (.http statusCode detail) => .error (.http statusCode detail)
  | .error (.exception _) =>
    .error (.http 409 (s!"skill {platform.repr (.str slug)} was concurrently moved out of " ++
      s!"status={platform.repr (.str write.decidedOn)}; reload and retry"))

/-! ## Handlers -/

/-- What an approval records of an override. -/
def overridePatch (call : Call) (data : Data) (scan : ScanResult) (reason : String) : Data :=
  [("quarantine_override", .obj ([("reason", .str reason),
      ("critical_codes", .arr ((scan.findings.filter fun finding =>
        finding.severity == .critical).map fun finding => .str finding.code)),
      ("approved_by", .str call.approver)] ++ entriesAt data quarantineMarkers))]

/-- The write of an approval. -/
def approved (call : Call) (override : Option String) (now : String) (loaded : Document)
    (scan : ScanResult) : Phase :=
  let patches : Data := ("scan", scan.asDocField) ::
    match override with
    | some reason => overridePatch call loaded.data scan reason
    | none => []
  let markers := match override with
    | some _ => quarantineMarkers
    | none => []
  persistStatusTransition call now loaded "active" patches
    (["deferred_at", "defer_reason"] ++ markers) none

/-- The rescan lets an approval pass. -/
def passesRescan (override : Option String) (scan : ScanResult) : Bool :=
  !scan.anyFatal && (scan.state == .clean || (override.isSome && scan.state == .quarantined))

/-- `f"{[(f.code, f.message) for f in findings]}"`. -/
def shownFindings (findings : List ScanFinding) : String :=
  "[" ++ ", ".intercalate (findings.map fun finding =>
    s!"({platform.repr (.str finding.code)}, {platform.repr (.str finding.message)})") ++ "]"

/-- `approve`. -/
def approve (store : Documents) (call : Call) (override : Option String) (now : String) :
    Phase → Option (Except Raised Phase)
  | .loading => some do
      let doc ← firstLoad platform store call.slug (fun status => isIn status (approvable override))
        ("can only approve from 'staged'" ++
          if override.isSome then " or 'quarantined'"
          else " ('quarantined' needs override_quarantine)")
      return .reloading doc
  | .reloading first => some do
      let doc ← reloadAndAssertStatus platform store call.slug (approvable override)
      refuseIf (!hasContentHash doc) <| .http 422
        (s!"skill {platform.repr (.str call.slug)} has no content_hash; cannot safely approve " ++
          "(rerun Forge to re-derive, or reject the candidate)")
      return .rechecking first doc
  | .rechecking _ second => some do
      let doc ← reloadAndAssertStatus platform store call.slug (approvable override)
      let hash := (doc.data.get "content_hash").getD .null
      refuseIf (!hash.equals ((second.data.get "content_hash").getD .null)) <| .http 409
        (s!"skill {platform.repr (.str call.slug)} content was modified during the rescan; " ++
          "reload and retry approve")
      let scan ← scanSkillDoc platform patterns call.caps now (.obj doc.data)
      refuseIf (!passesRescan override scan) <| .http 422
        (s!"pre-apply rescan refused (state={scan.state.text}): " ++
          shownFindings platform scan.findings)
      return .checkingFolder doc scan (folderIds call.slug)
  | .checkingFolder loaded scan (other :: others) => some do
      refuseIf ((store other).any fun row => row.hasStatus "active") <| .http 409
        (s!"skill {platform.repr (.str call.slug)} would install as folder " ++
          s!"{platform.repr (.str (installFolder call.slug))}, which active skill " ++
          s!"{platform.repr (.str other)} already uses, and a plugin node cannot install both. " ++
          s!"Move {platform.repr (.str other)} out of 'active' first, or reject this candidate.")
      return .checkingFolder loaded scan others
  | .checkingFolder loaded scan [] => some (.ok (approved call override now loaded scan))
  | _ => none

/-- The write of a rejection. -/
def rejected (call : Call) (reason : String) (cooloffDays : Option Int) (now : String)
    (loaded : Document) (isPoisoned : Bool) : Phase :=
  let cooloff := cooloffDays.getD call.rejectionCooloffDays
  persistStatusTransition call now loaded "rejected" [("rejection_reason", .str reason)] []
    (some (if isPoisoned then s!"cluster fingerprint poisoned for {cooloff} days"
      else "no cluster fingerprint, so no cooloff was set" ++
        if cooloffDays.isSome then "; cooloff_days was ignored" else ""))

/-- `reject`. -/
def reject (store : Documents) (call : Call) (reason : String) (cooloffDays : Option Int)
    (answer : Answer) : Phase → Option (Except Raised Phase)
  | .loading => some do
      let doc ← firstLoad platform store call.slug
        (fun status => isIn status (underReview ++ ["active"]))
        "can only reject from staged/candidate/quarantined/active"
      return .reloading doc
  | .reloading first => some do
      let doc ← reloadAndAssertStatus platform store call.slug (rejectable first)
      match fingerprintOf first with
      | none =>
        return rejected call reason cooloffDays answer.now doc false
      | some _ =>
        refuseIf (fingerprintOf doc).isNone <| .http 422
          (s!"skill {platform.repr (.str call.slug)} has no fingerprint after reload; " ++
            "cannot poison cluster")
        return .rechecking first doc
  | .rechecking first _ => some do
      let doc ← reloadAndAssertStatus platform store call.slug (rejectable first)
      return .poisoning doc
  | .poisoning loaded => some do
      answer.poison
      return rejected call reason cooloffDays answer.now loaded true
  | _ => none

/-- `quarantine`. -/
def quarantine (store : Documents) (call : Call) (reason now : String) :
    Phase → Option (Except Raised Phase)
  | .loading => some do
      let doc ← firstLoad platform store call.slug
        (fun status => isIn status ["candidate", "staged"])
        "can only quarantine from staged/candidate"
      return .reloading doc
  | .reloading _ => some do
      let doc ← reloadAndAssertStatus platform store call.slug ["candidate", "staged"]
      return persistStatusTransition call now doc "quarantined"
        [("quarantine_reason", .str reason)] [] none
  | _ => none

/-- The data that a deferral writes. -/
def deferredData (now : String) (reason : Option String) (data : Data) : Data :=
  let data := data.set "deferred_at" (.str now)
  let data := match reason with
    | some reason => if reason = "" then data else data.set "defer_reason" (.str reason)
    | none => data
  data.set "updated_at" (.str now)

/-- `defer`. -/
def defer (store : Documents) (call : Call) (reason : Option String) (now : String) :
    Phase → Option (Except Raised Phase)
  | .loading => some do
      let doc ← firstLoad platform store call.slug
        (fun status => .ok (status.equals (.str "staged"))) "can only defer from 'staged'"
      return .reloading doc
  | .reloading _ => some do
      let doc ← reloadAndAssertStatus platform store call.slug ["staged"]
      return .writing doc
        { fleetId := doc.fleetId, data := deferredData now reason doc.data, decidedOn := "staged"
          response := { slug := call.slug, previousStatus := "staged", newStatus := "staged"
                        detail := some "deferred" } }
  | _ => none

/-- What an edit hands to the validator. -/
def editDraft (request : EditRequest) (data : Data) : Data :=
  (data.update request.changes).without reservedFields

/-- What an edit writes after the validator has returned. -/
def editedData (now : String) (loaded normalized : Data) : Data :=
  let isQuarantined := ((normalized.get "status").getD .null).equals (.str "quarantined")
  let restored := normalized.update (entriesAt loaded reservedFields)
  let restored := restored.set "status" (.str (if isQuarantined then "quarantined" else "staged"))
  ((restored.set "edited_at" (.str now)).pop "deferred_at").pop "defer_reason"

/-- The validator on a draft, and what the edit then waits to write. -/
def validatedEdit (call : Call) (now : String) (loaded : Document) (draft : Data)
    (target : Option Document) : Except Raised Phase := do
  let (normalized, scan) ← validateAndNormalizeSkillWrite platform patterns call.context now
    (target.map Document.data) (.obj draft)
  return .confirming loaded (editedData now loaded.data normalized) scan

/-- `edit`. -/
def edit (store : Documents) (call : Call) (request : EditRequest) (now : String) :
    Phase → Option (Except Raised Phase)
  | .loading => some do
      refuseIf (!request.hasChanges) <| .http 422
        "edit requires at least one of content/description/summary"
      let doc ← reloadAndAssertStatus platform store call.slug ["staged"]
      let draft := editDraft request doc.data
      match bindingTargetSlug draft with
      | some target =>
        return .binding doc draft target
      | none => validatedEdit platform patterns call now doc draft none
  | .binding loaded draft target =>
    some (validatedEdit platform patterns call now loaded draft (store target))
  | .confirming loaded edited scan => some do
      let doc ← reloadAndAssertStatus platform store call.slug ["staged"]
      let hash := shown platform ((edited.get "content_hash").getD .null)
      return .writing loaded
        { fleetId := doc.fleetId, data := edited, decidedOn := "staged", force := request.force
          response :=
            { slug := call.slug, previousStatus := "staged"
              newStatus := (Document.mk doc.fleetId edited).statusText
              detail := some s!"rehashed → {hash}; scan={scan.state.text}" } }
  | _ => none

/-- The handler of a call, up to its write. -/
def Call.handle (store : Documents) (call : Call) (answer : Answer) (phase : Phase) :
    Option (Except Raised Phase) :=
  match call.action with
  | .approve override => approve platform patterns store call override answer.now phase
  | .reject reason cooloffDays => reject platform store call reason cooloffDays answer phase
  | .quarantine reason => quarantine platform store call reason answer.now phase
  | .defer reason => defer platform store call reason answer.now phase
  | .edit request => edit platform patterns store call request answer.now phase

/-- One step of a call: the store and the phase after it. -/
def Call.advance (store : Documents) (call : Call) (answer : Answer) :
    Phase → Option (Documents × Phase)
  | .writing _ write =>
    match putSkill platform store call.slug write with
    | .ok after => some (after, .answered (.ok write.response))
    | .error raised => some (store, .answered (.error raised))
  | phase =>
    (call.handle platform patterns store answer phase).map fun result =>
      (store, match result with
        | .ok next => next
        | .error raised => .answered (.error raised))

end Handlers

end Caura.Skills
