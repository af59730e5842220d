import Caura.Skills.Sentinel
import Caura.Transition.Fallible
import Caura.Value.Sha256
import Caura.Value.Uuid

/-!
# The validator of skill writes

`validate_and_normalize_skill_write` checks the body of a write against the caller and
against the live document of its id, fills in what the server controls, scans the result
and returns the document to store.  A check that fails raises; nothing is stored then.
-/

namespace Caura.Skills

open Caura.Transition Caura.Value List

/-! ## Values -/

/-- Raise if a check failed. -/
def refuseIf (failed : Bool) (raised : Raised) : Except Raised Unit :=
  if failed then .error raised else .ok ()

/-- `data.get(key)`, where `None` is a missing value. -/
def valueAt (data : Data) (key : String) : Option Json :=
  match data.get key with
  | some .null => none
  | value => value

/-- Whether a value is one of some texts; a value that cannot be hashed raises. -/
def isIn (value : Json) (texts : List String) : Except Raised Bool :=
  match value with
  | .str text => .ok (texts.contains text)
  | .arr _ | .obj _ => .error (.exception "TypeError")
  | _ => .ok false

/-- `repr` of a list of texts without quotation marks. -/
def listRepr (texts : List String) : String :=
  "[" ++ ", ".intercalate (texts.map fun text => s!"'{text}'") ++ "]"

/-- `_sha256`. -/
def contentHash (text : String) : String :=
  "sha256:" ++ String.ofList ((sha256 text.toUTF8.data.toList).flatMap fun byte =>
    [Uuid.hexDigit (byte.toNat / 16), Uuid.hexDigit (byte.toNat % 16)])

/-- `ALLOWED_KINDS`. -/
def allowedKinds : List String :=
  ["create", "update"]

/-- `ALLOWED_SOURCES`. -/
def allowedSources : List String :=
  ["agent", "forge", "imported", "manual"]

/-- `ALLOWED_STATUSES`. -/
def allowedStatuses : List String :=
  ["active", "candidate", "deprecated", "quarantined", "rejected", "stale", "staged"]

/-- `SYSTEM_ONLY_STATUSES`. -/
def systemOnlyStatuses : List String :=
  ["quarantined", "rejected", "stale", "deprecated"]

/-- `PROTECTED_LIVE_STATUSES`. -/
def protectedLiveStatuses : List String :=
  ["active", "candidate"] ++ systemOnlyStatuses

/-- `UNATTRIBUTED_AGENT_ID`. -/
def unattributedAgentId : String :=
  "unknown"

/-- `REQUIRED_TOP_LEVEL_KEYS`, sorted. -/
def requiredTopLevelKeys : List String :=
  ["description", "domain", "kind", "name", "slug", "source"]

/-- `SkillWriteContext`. -/
structure SkillWriteContext where
  callerAgentId : Option String
  isAdmin : Bool
  isInternalForge : Bool
  caps : Caps := {}
  isInboxEdit : Bool := false

/-- The first character of `_SLUG_RE`. -/
def isSlugStart (char : Char) : Bool :=
  char.isDigit || ('a' ≤ char && char ≤ 'z')

/-- `_SLUG_RE.fullmatch`. -/
def isSlug (slug : String) : Bool :=
  match slug.toList with
  | first :: rest =>
    isSlugStart first && rest.length ≤ 99 &&
      rest.all fun char => isSlugStart char || char == '.' || char == '_' || char == '-'
  | [] => false

/-! ## The body -/

/-- The fields that the later checks read. -/
structure Header where
  slug : String
  description : String
  kind : String
  source : String

/-- A key whose value is a text. -/
def textAt (data : Data) (key : String) : Except Raised String :=
  match data.get key with
  | some (.str text) => .ok text
  | _ => .error (.http 422 s!"skills write: data['{key}'] must be a string.")

/-- A key whose value is one of some texts. -/
def enumAt (platform : Platform) (data : Data) (key : String) (allowed : List String) :
    Except Raised String := do
  let value := (data.get key).getD .null
  match value, ← isIn value allowed with
  | .str text, true =>
    return text
  | _, _ =>
    .error (.http 422 (s!"skills write: data['{key}'] must be one of {listRepr allowed}, " ++
      s!"got {platform.repr value}."))

/-- The tags are missing or a list of texts. -/
def tagsAreTexts (data : Data) : Bool :=
  match data.get "tags" with
  | none => true
  | some (.arr tags) =>
    tags.all fun tag =>
      match tag with
      | .str _ => true
      | _ => false
  | some _ => false

/-- The checks on the body alone. -/
def readHeader (platform : Platform) (data : Data) : Except Raised Header := do
  let missing := requiredTopLevelKeys.filter fun key => !data.has key
  refuseIf (!missing.isEmpty) <| .http 422
    (s!"skills write missing required key(s): {listRepr missing}. " ++
      s!"All of {listRepr requiredTopLevelKeys} must be present.")
  let _ ← textAt data "name"
  let slug ← textAt data "slug"
  let description ← textAt data "description"
  let _ ← textAt data "domain"
  refuseIf (!isSlug slug) <| .http 422
    ("skills write: data['slug'] must match ^[a-z0-9][a-z0-9._-]\x7b0,99\x7d$ — got " ++
      platform.repr (.str slug) ++ ".")
  let kind ← enumAt platform data "kind" allowedKinds
  let source ← enumAt platform data "source" allowedSources
  refuseIf (!tagsAreTexts data) <| .http 422
    "skills write: data['tags'] must be a list of strings if present."
  return { slug := slug, description := description, kind := kind, source := source }

section Checks

variable (platform : Platform) (ctx : SkillWriteContext)

/-- Who may write a source. -/
def checkSource (source : String) : Except Raised Unit := do
  let shown := platform.repr (.str source)
  refuseIf (!ctx.isInboxEdit && source == "forge" && !ctx.isInternalForge) <| .http 403
    (s!"skills write: source={shown} is reserved for the internal Forge worker. " ++
      "Regular agent and admin callers cannot mint source=forge directly.")
  refuseIf (!ctx.isInboxEdit && source == "manual" && !ctx.isAdmin) <| .http 403
    (s!"skills write: source={shown} requires admin role. " ++
      "Use source='agent' for a regular agent-direct write.")

/-- The statuses that the caller may write. -/
def checkStatus (status : Json) : Except Raised Unit := do
  let shown := platform.repr status
  let isAllowed ← isIn status allowedStatuses
  refuseIf (!isAllowed) <| .http 422
    (s!"skills write: data['status'] must be one of {listRepr allowedStatuses}, got {shown}.")
  let isCandidate ← isIn status ["candidate"]
  refuseIf (isCandidate && !ctx.isInternalForge) <| .http 403
    s!"skills write: status={shown} is reserved for the internal Forge worker."
  let isActive ← isIn status ["active"]
  refuseIf (isActive && !ctx.isAdmin) <| .http 403
    (s!"skills write: status={shown} requires admin role. " ++
      "Use HITL Inbox approval to transition staged → active.")
  let isSystem ← isIn status systemOnlyStatuses
  refuseIf isSystem <| .http 403
    (s!"skills write: status={shown} is system-managed and cannot be " ++
      "written directly. These transitions happen via Sentinel " ++
      "scan / Inbox Reject / hash-binding stale detection / " ++
      "deprecation flow — not via caura_doc.")

/-- The body with a status. -/
def withStatus (data : Data) : Data :=
  if data.has "status" then data
  else data.set "status" (.str (if ctx.isInternalForge then "candidate" else "staged"))

/-- The agent that a document names as its author. -/
def liveOwner (live : Data) : Option Json :=
  match live.get "origin" with
  | some (.obj origin) =>
    (valueAt origin "agent_id").filter fun owner => !owner.equals (.str unattributedAgentId)
  | _ => none

/-- The owner of a document is the caller, or it has none. -/
def mayReplace (live : Data) : Bool :=
  (liveOwner live).all fun owner =>
    ctx.callerAgentId.any fun caller => owner.equals (.str caller)

/-- The gate on the live document. -/
def checkLive (slug : String) : Option Data → Except Raised Unit
  | none => .ok ()
  | some live =>
    if ctx.isAdmin || ctx.isInternalForge then
      .ok ()
    else do
      let isProtected ← isIn ((live.get "status").getD .null) protectedLiveStatuses
      refuseIf isProtected <| .http 403
        (s!"skills write: slug={platform.repr (.str slug)} already exists and cannot " ++
          "be overwritten by a non-admin caller — a write to an existing " ++
          "slug replaces the live row outright, whatever its kind. Ask an " ++
          "admin to make the change, or to retire the existing skill first.")
      refuseIf (!mayReplace ctx live) <| .http 403
        (s!"skills write: slug={platform.repr (.str slug)} is taken by another " ++
          "agent's unreviewed draft and cannot be overwritten. Author " ++
          "the skill under a slug of your own, or ask an admin to " ++
          "reassign this one.")

/-- The checks on sizes; the content, if there is one. -/
def checkSizes (header : Header) (data : Data) : Except Raised (Option String) := do
  let descBytes : Int := header.description.utf8ByteSize
  refuseIf (ctx.caps.descriptionMaxBytes < descBytes) <| .http 422
    (s!"skills write: data['description'] is {descBytes} bytes; " ++
      s!"cap is {ctx.caps.descriptionMaxBytes} (configurable via " ++
      "org_settings.skills_factory.description_max_bytes).")
  match valueAt data "content" with
  | some (.str content) =>
    let bodyBytes : Int := content.utf8ByteSize
    refuseIf (ctx.caps.bodyMaxBytes < bodyBytes) <| .http 422
      (s!"skills write: data['content'] is {bodyBytes} bytes; " ++
        s!"cap is {ctx.caps.bodyMaxBytes} (configurable via " ++
        "org_settings.skills_factory.body_max_bytes).")
    return some content
  | none =>
    refuseIf (header.source != "imported") <| .http 422
      (s!"skills write: data['content'] is required when " ++
        s!"source={platform.repr (.str header.source)}. " ++
        "Only source='imported' may omit the content body.")
    return none
  | some _ => .error (.http 422 "skills write: data['content'] must be a string if present.")

/-- `dict(out.get("origin") or {})`. -/
def originOf (data : Data) : Except Raised Data :=
  let origin := (data.get "origin").getD .null
  if origin.falsy then
    .ok []
  else
    match origin with
    | .obj origin => .ok origin
    | other => (platform.dictOf other).mapError .exception

/-- `ctx.caller_agent_id or UNATTRIBUTED_AGENT_ID`. -/
def stampOf : String :=
  (ctx.callerAgentId.filter fun caller => caller != "").getD unattributedAgentId

/-- The body with what the server controls. -/
def fill (now : String) (content : Option String) (data : Data) : Except Raised Data := do
  let data := if data.has "created_at" then data else data.set "created_at" (.str now)
  let data := data.set "updated_at" (.str now)
  let data := match content with
    | some content => data.set "content_hash" (.str (contentHash content))
    | none => data
  let origin ← originOf platform data
  return data.set "origin" (.obj (origin.set "agent_id" (.str (stampOf ctx))))

/-- The hash that the body of an update names. -/
def targetHash (data : Data) : Option Json :=
  match data.get "target" with
  | some (.obj target) => Dict.get target "target_content_hash"
  | _ => none

/-- The binding of an update to the content of the live document. -/
def checkBinding (header : Header) (data : Data) (live : Option Data) : Except Raised Unit :=
  let slug := platform.repr (.str header.slug)
  if header.kind = "update" then
    match targetHash data, live with
    | none, _ =>
      .error (.http 422
        "skills write: kind='update' requires data['target']['target_content_hash'].")
    | some _, none =>
      .error (.http 404
        s!"skills write: kind='update' targets slug={slug} but no live skill exists.")
    | some target, some live =>
      match valueAt live "content_hash" with
      | none =>
        .error (.http 409 (s!"skills write: kind='update' on slug={slug} cannot bind — " ++
          "the live skill has no content_hash (likely an imported pointer-only doc). " ++
          "Re-author it as a fresh kind='create' if appropriate."))
      | some liveHash =>
        refuseIf (!target.equals liveHash) <| .http 409
          (s!"skills write: target_content_hash mismatch for slug={slug}. " ++
            s!"Caller saw {platform.repr target}; live is {platform.repr liveHash}. " ++
            "Live skill changed between propose and write — re-revise the proposal.")
  else
    .ok ()

/-- The document to store after its scan. -/
def applyScan (now : String) (result : ScanResult) (data : Data) : Except Raised Data :=
  match result.findings.find? ScanFinding.fatal with
  | some fatal => .error (.http 422 s!"skills write: {fatal.code} — {fatal.message}")
  | none =>
    let data := if result.state = .quarantined then
        (data.set "status" (.str "quarantined")).set "quarantined_at" (.str now)
      else data
    .ok (data.set "scan" result.asDocField)

end Checks

/-- `validate_and_normalize_skill_write`. -/
def validateAndNormalizeSkillWrite (platform : Platform) (patterns : Patterns)
    (ctx : SkillWriteContext) (now : String) (live : Option Data) :
    Json → Except Raised (Data × ScanResult)
  | .obj data => do
      let header ← readHeader platform data
      checkSource platform ctx header.source
      let data := withStatus ctx data
      checkStatus platform ctx ((data.get "status").getD .null)
      checkLive platform ctx header.slug live
      let content ← checkSizes platform ctx header data
      let data ← fill platform ctx now content data
      checkBinding platform header data live
      let result ← scanSkillDoc platform patterns ctx.caps now (.obj data)
      let data ← applyScan now result data
      return (data, result)
  | _ => .error (.http 422 "skills write requires a JSON object 'data' body.")

/-! ## What the checks guarantee -/

theorem refuseIf_eq_ok_iff {failed : Bool} {raised : Raised} {result : Unit} :
    refuseIf failed raised = .ok result ↔ failed = false := by
  cases failed <;> simp [refuseIf]

theorem isIn_eq_ok_true_iff {value : Json} {texts : List String} :
    isIn value texts = .ok true ↔ ∃ text ∈ texts, value = .str text := by
  cases value <;> simp [isIn]

theorem isIn_str (text : String) (texts : List String) :
    isIn (.str text) texts = .ok (texts.contains text) :=
  rfl

variable {data : Data} {key text : String}

theorem valueAt_eq_some_iff {value : Json} :
    valueAt data key = some value ↔ data.get key = some value ∧ value ≠ .null := by
  unfold valueAt
  split
  next isNull =>
    rw [isNull]
    refine iff_of_false (Option.some_ne_none value).symm ?_
    rintro ⟨same, notNull⟩
    exact notNull (Option.some.inj same).symm
  next notNull =>
    exact ⟨fun stored => ⟨stored, fun isNull => notNull (isNull ▸ stored)⟩, And.left⟩

variable {platform : Platform}

theorem eq_some_of_getD {found : Option Json} (isText : found.getD .null = .str text) :
    found = some (.str text) := by
  cases found with
  | none => cases isText
  | some value => exact congrArg some isText

theorem get_of_enumAt {allowed : List String} (read : enumAt platform data key allowed = .ok text) :
    data.get key = some (.str text) := by
  obtain ⟨found, isFound, rest⟩ := bind_eq_ok_iff.mp read
  split at rest <;> cases rest
  next isText => exact eq_some_of_getD isText

theorem get_of_readHeader {header : Header} (read : readHeader platform data = .ok header) :
    data.get "kind" = some (.str header.kind) ∧ data.get "source" = some (.str header.source) := by
  iterate 6
    obtain ⟨_, _, read⟩ := bind_eq_ok_iff.mp read
  obtain ⟨kind, isKind, read⟩ := bind_eq_ok_iff.mp read
  obtain ⟨source, isSource, read⟩ := bind_eq_ok_iff.mp read
  obtain ⟨_, _, read⟩ := bind_eq_ok_iff.mp read
  cases read
  exact ⟨get_of_enumAt isKind, get_of_enumAt isSource⟩

variable {ctx : SkillWriteContext} {now : String} {header : Header} {filled : Data}
  {live : Option Data} {content : Option String}

section Guarantees

variable {draft : Data}

/-- Only the status differs from the body. -/
theorem get_withStatus (other : key ≠ "status") : (withStatus ctx data).get key = data.get key := by
  unfold withStatus
  split
  · rfl
  · rw [Dict.get_set, if_neg other]

/-- A caller without privileges writes the status `staged`. -/
theorem staged_of_checkStatus (notAdmin : ctx.isAdmin = false)
    (notForge : ctx.isInternalForge = false) {status : Json}
    (checked : checkStatus platform ctx status = .ok ()) : status = .str "staged" := by
  obtain ⟨isAllowed, allowed, checked⟩ := bind_eq_ok_iff.mp checked
  obtain ⟨_, allowedHolds, checked⟩ := bind_eq_ok_iff.mp checked
  obtain ⟨isCandidate, candidate, checked⟩ := bind_eq_ok_iff.mp checked
  obtain ⟨_, notCandidate, checked⟩ := bind_eq_ok_iff.mp checked
  obtain ⟨isActive, active, checked⟩ := bind_eq_ok_iff.mp checked
  obtain ⟨_, notActive, checked⟩ := bind_eq_ok_iff.mp checked
  obtain ⟨isSystem, system, notSystem⟩ := bind_eq_ok_iff.mp checked
  rw [refuseIf_eq_ok_iff] at allowedHolds notCandidate notActive notSystem
  rw [Bool.not_eq_false'] at allowedHolds
  rw [notForge, Bool.not_false, Bool.and_true] at notCandidate
  rw [notAdmin, Bool.not_false, Bool.and_true] at notActive
  subst allowedHolds notCandidate notActive notSystem
  obtain ⟨text, textMem, rfl⟩ := isIn_eq_ok_true_iff.mp allowed
  rw [isIn_str, Except.ok.injEq] at candidate active system
  have onlyStaged : ∀ text ∈ allowedStatuses, ["candidate"].contains text = false →
      ["active"].contains text = false → systemOnlyStatuses.contains text = false →
        text = "staged" := by
    decide
  rw [onlyStaged text textMem candidate active system]

/-- A document that a caller without privileges replaces is not protected, and names that
caller as its author if it names one. -/
theorem of_checkLive (notAdmin : ctx.isAdmin = false) (notForge : ctx.isInternalForge = false)
    {slug : String} {stored : Data}
    (checked : checkLive platform ctx slug (some stored) = .ok ()) :
    isIn ((stored.get "status").getD .null) protectedLiveStatuses = .ok false ∧
      ∀ owner, liveOwner stored = some owner →
        ∃ caller, ctx.callerAgentId = some caller ∧ owner = .str caller := by
  unfold checkLive at checked
  rw [notAdmin, notForge] at checked
  obtain ⟨isProtected, status, checked⟩ := bind_eq_ok_iff.mp checked
  obtain ⟨_, notProtected, mayNot⟩ := bind_eq_ok_iff.mp checked
  rw [refuseIf_eq_ok_iff] at notProtected mayNot
  refine ⟨notProtected ▸ status, fun owner isOwner => ?_⟩
  rw [Bool.not_eq_false', mayReplace, isOwner, Option.all_some, Option.any_eq_true] at mayNot
  obtain ⟨caller, isCaller, same⟩ := mayNot
  exact ⟨caller, isCaller, Json.equals_str_iff.mp same⟩

/-- The content is the text of the body, and only an imported document has none. -/
theorem content_of_checkSizes (checked : checkSizes platform ctx header data = .ok content) :
    valueAt data "content" = content.map Json.str ∧
      (content = none → header.source = "imported") := by
  obtain ⟨_, _, checked⟩ := bind_eq_ok_iff.mp checked
  split at checked
  next text isText =>
    obtain ⟨_, _, checked⟩ := bind_eq_ok_iff.mp checked
    cases checked
    exact ⟨isText, nofun⟩
  next missing =>
    obtain ⟨_, imported, checked⟩ := bind_eq_ok_iff.mp checked
    cases checked
    rw [refuseIf_eq_ok_iff, bne_eq_false_iff_eq] at imported
    exact ⟨missing, fun _ => imported⟩
  · cases checked

/-- What the server fills in. -/
theorem of_fill (filledIn : fill platform ctx now content data = .ok filled) :
    (∃ origin, filled.get "origin" = some (.obj origin) ∧
      Dict.get origin "agent_id" = some (.str (stampOf ctx))) ∧
    filled.get "content_hash" =
      (content.map fun text => Json.str (contentHash text)).or (data.get "content_hash") ∧
    ∀ key, key ∉ ["origin", "content_hash", "created_at", "updated_at"] →
      filled.get key = data.get key := by
  obtain ⟨origin, _, isFilled⟩ := bind_eq_ok_iff.mp filledIn
  cases isFilled
  refine ⟨⟨_, by rw [Dict.get_set, if_pos rfl], by rw [Dict.get_set, if_pos rfl]⟩, ?_, ?_⟩
  · cases content with
    | none => by_cases created : data.has "created_at" = true <;> simp [created]
    | some text => simp
  · intro key other
    simp only [mem_cons, not_or] at other
    obtain ⟨notOrigin, notHash, notCreated, notUpdated⟩ := other
    cases content with
    | none =>
      by_cases created : data.has "created_at" = true <;>
        simp [created, notOrigin, notCreated, notUpdated]
    | some text =>
      by_cases created : data.has "created_at" = true <;>
        simp [created, notOrigin, notHash, notCreated, notUpdated]

/-- An update names the hash that the live document has. -/
theorem of_checkBinding (checked : checkBinding platform header data live = .ok ())
    (isUpdate : header.kind = "update") :
    ∃ target stored liveHash, targetHash data = some target ∧ live = some stored ∧
      stored.get "content_hash" = some liveHash ∧ liveHash ≠ .null ∧
      target.equals liveHash = true := by
  unfold checkBinding at checked
  rw [if_pos isUpdate] at checked
  split at checked
  · cases checked
  · cases checked
  next target stored isTarget =>
    split at checked
    · cases checked
    next liveHash isHash =>
      rw [refuseIf_eq_ok_iff, Bool.not_eq_false'] at checked
      obtain ⟨hashAt, notNull⟩ := valueAt_eq_some_iff.mp isHash
      exact ⟨target, stored, liveHash, isTarget, rfl, hashAt, notNull, checked⟩

/-- A document without a fatal finding is stored with its scan, and in quarantine if the
scan says so. -/
theorem of_applyScan {result : ScanResult} (applied : applyScan now result data = .ok filled) :
    result.anyFatal = false ∧
    filled.get "status" =
      (if result.state = .quarantined then some (.str "quarantined") else data.get "status") ∧
    filled.get "scan" = some result.asDocField ∧
    ∀ key, key ∉ ["status", "quarantined_at", "scan"] → filled.get key = data.get key := by
  unfold applyScan at applied
  split at applied <;> cases applied
  next noFatal =>
    refine ⟨?_, ?_, ?_, ?_⟩
    · rw [ScanResult.anyFatal, any_eq_false]
      exact List.find?_eq_none.mp noFatal
    · split <;> simp
    · simp
    · intro key other
      simp only [mem_cons, not_or] at other
      split <;> simp [other]

end Guarantees

/-! ## The stages of a write -/

section Writes

variable {patterns : Patterns} {result : ScanResult}

/-- The stages that a validated write went through. -/
structure Stages (platform : Platform) (patterns : Patterns) (ctx : SkillWriteContext)
    (now : String) (stored : Option Data) (data : Data) (result : ScanResult) (body : Data)
    (header : Header) (content : Option String) (filled : Data) : Prop where
  read : readHeader platform body = .ok header
  status : checkStatus platform ctx (((withStatus ctx body).get "status").getD .null) = .ok ()
  live : checkLive platform ctx header.slug stored = .ok ()
  sizes : checkSizes platform ctx header (withStatus ctx body) = .ok content
  filledIn : fill platform ctx now content (withStatus ctx body) = .ok filled
  binding : checkBinding platform header filled stored = .ok ()
  scanned : scanSkillDoc platform patterns ctx.caps now (.obj filled) = .ok result
  applied : applyScan now result filled = .ok data

theorem stages_of_validate {written : Json}
    (valid : validateAndNormalizeSkillWrite platform patterns ctx now live written =
      .ok (data, result)) :
    ∃ body header content filled, written = .obj body ∧
      Stages platform patterns ctx now live data result body header content filled := by
  unfold validateAndNormalizeSkillWrite at valid
  split at valid
  next body =>
    obtain ⟨header, read, valid⟩ := bind_eq_ok_iff.mp valid
    obtain ⟨_, _, valid⟩ := bind_eq_ok_iff.mp valid
    obtain ⟨_, status, valid⟩ := bind_eq_ok_iff.mp valid
    obtain ⟨_, live, valid⟩ := bind_eq_ok_iff.mp valid
    obtain ⟨content, sizes, valid⟩ := bind_eq_ok_iff.mp valid
    obtain ⟨filled, filledIn, valid⟩ := bind_eq_ok_iff.mp valid
    obtain ⟨_, binding, valid⟩ := bind_eq_ok_iff.mp valid
    obtain ⟨_, scanned, valid⟩ := bind_eq_ok_iff.mp valid
    obtain ⟨_, applied, valid⟩ := bind_eq_ok_iff.mp valid
    cases valid
    exact ⟨body, header, content, filled, rfl, read, status, live, sizes, filledIn, binding,
      scanned, applied⟩
  · cases valid

namespace Stages

variable {body : Data}
  (stages : Stages platform patterns ctx now live data result body header content filled)

include stages

/-- A field that no stage writes is that of the body. -/
theorem get_eq (untouched : key ∉ ["status", "quarantined_at", "scan", "origin", "content_hash",
      "created_at", "updated_at"]) : data.get key = Dict.get body key := by
  simp only [mem_cons, not_or] at untouched
  obtain ⟨notStatus, notAt, notScan, notOrigin, notHash, notCreated, notUpdated⟩ := untouched
  rw [(of_applyScan stages.applied).2.2.2 key (by simp [notStatus, notAt, notScan]),
    (of_fill stages.filledIn).2.2 key (by simp [notOrigin, notHash, notCreated, notUpdated]),
    get_withStatus notStatus]

theorem status_filled (notAdmin : ctx.isAdmin = false) (notForge : ctx.isInternalForge = false) :
    filled.get "status" = some (.str "staged") := by
  rw [(of_fill stages.filledIn).2.2 "status" (by decide)]
  exact eq_some_of_getD (staged_of_checkStatus notAdmin notForge stages.status)

/-- The content of the stored document. -/
theorem content_eq : valueAt data "content" = content.map Json.str := by
  have sameContent : data.get "content" = (withStatus ctx body).get "content" := by
    rw [stages.get_eq (by decide), get_withStatus (by decide)]
  rw [← (content_of_checkSizes stages.sizes).1]
  unfold valueAt
  rw [sameContent]

theorem hash_eq : data.get "content_hash" =
    (content.map fun text => Json.str (contentHash text)).or (Dict.get body "content_hash") := by
  rw [(of_applyScan stages.applied).2.2.2 _ (by decide), (of_fill stages.filledIn).2.1,
    get_withStatus (by decide)]

end Stages

/-- The state of a scan is quarantine if it has a critical finding. -/
theorem state_of_scan {draft : Data} {caps : Caps}
    (scanned : scanSkillDoc platform patterns caps now (.obj draft) = .ok result)
    (accepted : result.anyFatal = false) :
    result.state = .quarantined ↔ ∃ finding ∈ result.findings, finding.severity = .critical := by
  obtain ⟨bodies, _, rest⟩ := bind_eq_ok_iff.mp scanned
  obtain ⟨paths, _, isResult⟩ := bind_eq_ok_iff.mp rest
  cases isResult
  rw [resultOf, ScanResult.anyFatal] at accepted
  simp only [resultOf]
  generalize (_ : List ScanFinding) = findings at *
  rw [accepted, Bool.false_or]
  constructor
  · intro isQuarantined
    split at isQuarantined
    next some =>
      rw [decide_eq_true_eq, countP_pos_iff] at some
      obtain ⟨finding, findingMem, critical⟩ := some
      exact ⟨finding, findingMem, by simpa using critical⟩
    · cases isQuarantined
  · rintro ⟨finding, findingMem, critical⟩
    rw [if_pos]
    rw [decide_eq_true_eq, countP_pos_iff]
    exact ⟨finding, findingMem, by simp [critical]⟩

end Writes

end Caura.Skills
