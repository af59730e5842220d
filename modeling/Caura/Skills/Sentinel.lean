import Caura.Paths.Resolve
import Caura.Value.Dict
import Caura.Value.Json
import Mathlib.Data.List.Dedup

/-!
# The scanner of skill documents

`scan_skill_doc` runs eight checks over a document and counts what they find.  A finding
is critical, a warning or for information, and a fatal one refuses the operation.  The
patterns of the text checks are parameters; the checks on the paths of support files and
on sizes, which alone are fatal, are modelled in full.

A support file whose role is neither a text nor false makes the scan raise.
-/

namespace Caura.Skills

open Caura.Paths Caura.Value

/-- The `data` of a document. -/
abbrev Data := Dict Json

/-- What a call raises: an `HTTPException`, or another exception. -/
inductive Raised where
  | http (statusCode : Nat) (detail : String)
  | exception (name : String)
  deriving DecidableEq, Repr

/-- What the code takes from the language: `repr`, `str.lower`, `dict` of a value that is not
an object, `int`, the length of a dumped document, whether a length is at least a tenth of
another in floats, and their ratio as a text. -/
structure Platform where
  repr : Json → String
  lower : String → String
  dictOf : Json → Except String Data
  intOf : Json → Option Int
  dumpsLength : Data → Nat
  isTenth : Nat → Nat → Bool
  percent : Nat → Nat → String

/-! ## Findings -/

/-- The severity of a finding. -/
inductive Severity
  | critical
  | warn
  | info
  deriving DecidableEq, Repr

/-- Its name. -/
def Severity.text : Severity → String
  | critical => "critical"
  | warn => "warn"
  | info => "info"

/-- `ScanFinding`. -/
structure ScanFinding where
  code : String
  severity : Severity
  message : String
  fatal : Bool := false
  locator : Option String := none
  deriving DecidableEq, Repr

/-- `ScanState`. -/
inductive ScanState
  | pending
  | clean
  | failed
  | quarantined
  deriving DecidableEq, Repr

/-- Its name. -/
def ScanState.text : ScanState → String
  | pending => "pending"
  | clean => "clean"
  | failed => "failed"
  | quarantined => "quarantined"

/-- `ScanResult`. -/
structure ScanResult where
  state : ScanState
  scannedAt : String
  critical : Nat
  warn : Nat
  info : Nat
  findings : List ScanFinding := []
  deriving DecidableEq, Repr

/-- A finding in `as_doc_field`. -/
def ScanFinding.asDocField (finding : ScanFinding) : Json :=
  .obj ([("code", .str finding.code), ("severity", .str finding.severity.text),
    ("message", .str finding.message), ("fatal", .bool finding.fatal)] ++
      match finding.locator with
      | some locator =>
        if locator = "" then [] else [("locator", .str locator)]
      | none => [])

/-- `as_doc_field`. -/
def ScanResult.asDocField (result : ScanResult) : Json :=
  .obj [("state", .str result.state.text), ("scanned_at", .str result.scannedAt),
    ("critical", .int result.critical), ("warn", .int result.warn), ("info", .int result.info),
    ("findings", .arr (result.findings.map ScanFinding.asDocField))]

/-- `any_fatal`. -/
def ScanResult.anyFatal (result : ScanResult) : Bool :=
  result.findings.any ScanFinding.fatal

/-! ## Texts -/

/-- A match of a pattern: its text and where it is. -/
structure PatternMatch where
  group : String
  start : Nat
  stop : Nat
  deriving DecidableEq, Repr

/-- `pattern.search`. -/
abbrev Searcher := String → Option PatternMatch

/-- The patterns of the checks on texts. -/
structure Patterns where
  promptInjection : List Searcher
  attack : List Searcher
  admin : List Searcher
  genericRm : Searcher
  urlExfil : List Searcher
  pii : List (String × Searcher)

/-- `_SHELL_INJECTION_PATTERNS`: what a script is searched for. -/
def Patterns.shellInjection (patterns : Patterns) : List Searcher :=
  patterns.attack ++ patterns.admin ++ [patterns.genericRm]

/-- The match of the first pattern that has one. -/
def firstMatch (searchers : List Searcher) (text : String) : Option PatternMatch :=
  searchers.findSome? fun search => search text

/-- `_quoted`. -/
def quoted (platform : Platform) (found : PatternMatch) : String :=
  platform.repr (.str (if found.group.length ≤ 200 then found.group
    else String.ofList (found.group.toList.take 200 ++ ['…'])))

/-- Where a match is. -/
def spanOf (location : String) (found : PatternMatch) : String :=
  s!"{location}[{found.start}:{found.stop}]"

section Texts

variable (platform : Platform) (patterns : Patterns)

/-- `_scan_prompt_injection`. -/
def scanPromptInjection (text : Option Json) (fieldName : String) : List ScanFinding :=
  match text with
  | some (.str text) =>
    if text = "" then
      []
    else
      ((firstMatch patterns.promptInjection text).map fun found =>
        { code := "PROMPT_INJECTION", severity := .critical
          message := s!"prompt-injection marker detected in data.{fieldName}: " ++
            quoted platform found
          locator := some (spanOf s!"data.{fieldName}" found) }).toList
  | _ => []

/-- `_scan_pii`. -/
def scanPii (text : Option Json) (fieldName : String) : List ScanFinding :=
  match text with
  | some (.str text) =>
    if text = "" then
      []
    else
      patterns.pii.filterMap fun rule => (rule.2 text).map fun found =>
        { code := "PII_" ++ rule.1, severity := .warn
          message := s!"possible PII ({rule.1}) in data.{fieldName}"
          locator := some (spanOf s!"data.{fieldName}" found) }
  | _ => []

/-- `_scan_shell_injection`. -/
def scanShellInjection (searchers : List Searcher) (body location : String) : List ScanFinding :=
  if body = "" then
    []
  else
    ((firstMatch searchers body).map fun found =>
      { code := "SHELL_INJECTION", severity := .critical
        message := "shell-injection pattern detected: " ++ quoted platform found
        locator := some (spanOf location found) }).toList

/-- `_scan_destructive_commands`. -/
def scanDestructiveCommands (body location : String) : List ScanFinding :=
  ((firstMatch patterns.admin body).map fun found =>
    { code := "DESTRUCTIVE_COMMAND", severity := .warn
      message := "destructive command: " ++ quoted platform found
      locator := some (spanOf location found) }).toList

/-- `_scan_url_exfil`. -/
def scanUrlExfil (body location : String) : List ScanFinding :=
  if body = "" then
    []
  else
    ((firstMatch patterns.urlExfil body).map fun found =>
      { code := "URL_EXFILTRATION", severity := .warn
        message := "suspicious outbound network pattern: " ++ quoted platform found
        locator := some (spanOf location found) }).toList

/-- The checks on one natural-language text. -/
def scanText (text : Option Json) (fieldName : String) : List ScanFinding :=
  scanPromptInjection platform patterns text fieldName ++ scanPii patterns text fieldName

/-- `_iter_evidence_strings`, where `levels` is how much deeper the walk may go. -/
def iterEvidenceStrings : Nat → Json → String → List (String × String)
  | 0, _, _ => []
  | levels + 1, value, location =>
    match value with
    | .str text => [(location, text)]
    | .obj entries =>
      entries.flatMap fun entry =>
        iterEvidenceStrings levels entry.2 s!"{location}.{entry.1}"
    | .arr items =>
      items.zipIdx.flatMap fun item =>
        iterEvidenceStrings levels item.1 s!"{location}[{item.2}]"
    | _ => []

/-- `_EVIDENCE_RECURSE_MAX_DEPTH`. -/
def evidenceRecurseMaxDepth : Nat :=
  4

/-- The locator of an evidence text without the name of the field. -/
def removeEvidence (location : String) : String :=
  let start := "evidence.".toList
  if start.isPrefixOf location.toList then String.ofList (location.toList.drop start.length)
  else location

/-- The checks on the tags. -/
def scanTags (data : Data) : List ScanFinding :=
  match data.get "tags" with
  | some (.arr tags) =>
    tags.zipIdx.flatMap fun tag =>
      match tag.1 with
      | .str text => scanText platform patterns (some (.str text)) s!"tags[{tag.2}]"
      | _ => []
  | _ => []

/-- The checks on the evidence. -/
def scanEvidence (data : Data) : List ScanFinding :=
  match data.get "evidence" with
  | some (.str text) => scanText platform patterns (some (.str text)) "evidence"
  | some (.obj entries) =>
    (iterEvidenceStrings (evidenceRecurseMaxDepth + 1) (.obj entries) "evidence").flatMap
      fun found => scanText platform patterns (some (.str found.2)) (removeEvidence found.1)
  | _ => []

/-- The checks on the texts that a skill ships. -/
def scanShipped (data : Data) : List ScanFinding :=
  ["name", "content", "summary", "description"].flatMap fun fieldName =>
    match data.get fieldName with
    | some (.str text) =>
      scanShellInjection platform patterns.attack text s!"data.{fieldName}" ++
        scanDestructiveCommands platform patterns text s!"data.{fieldName}" ++
        scanUrlExfil platform patterns text s!"data.{fieldName}"
    | _ => []

end Texts

/-! ## Paths of support files -/

/-- `_SCRIPT_ROLES`. -/
def scriptRoles : List String :=
  ["command", "exec", "script", "scripts"]

/-- `(sf.get("role") or "").lower()`. -/
def roleOf (platform : Platform) (file : Data) : Except Raised String :=
  match file.get "role" with
  | none => .ok ""
  | some role =>
    if role.falsy then
      .ok ""
    else
      match role with
      | .str text => .ok (platform.lower text)
      | _ => .error (.exception "AttributeError")

/-- `path.isascii()`. -/
def isAscii (path : List Char) : Bool :=
  path.all fun char => char.toNat < 128

/-- `_FORBIDDEN_ABS_PREFIXES` and `_WINDOWS_ABS_RE`. -/
def isAbsolute : List Char → Bool
  | '/' :: _ | '~' :: _ | '\\' :: '\\' :: _ => true
  | letter :: ':' :: '\\' :: _ => letter.isAlpha
  | _ => false

/-- What `_PATH_TRAVERSAL_RE` matches at the start of a part; the end of the text is also in
front of a last line break. -/
def traversalAt : List Char → Bool
  | ['.', '.'] | ['.', '.', '\n'] => true
  | '.' :: '.' :: char :: _ => isSeparator char
  | _ => false

/-- What `_HIDDEN_SEGMENT_RE` matches at the start of a part. -/
def hiddenAt : List Char → Bool
  | '.' :: char :: _ => !isSeparator char
  | _ => false

/-- `path.replace("\\", "/").split("/")` has the part `.`. -/
def hasBareDot (path : List Char) : Bool :=
  ((path.map fun char => if char = '\\' then '/' else char).splitOnP isSlash).any
    fun part => part == ['.']

/-- One of the extensions starts here and ends at a word boundary. -/
def extensionAt (extensions : List String) : List Char → Bool
  | '.' :: rest =>
    extensions.any fun extension =>
      extension.toList.isPrefixOf (rest.map Char.toLower) &&
        (rest.drop extension.length).head?.all fun char => !(char.isAlphanum || char == '_')
  | _ => false

/-- `_SCRIPT_EXT_RE`. -/
def hasScriptExt (path : List Char) : Bool :=
  path.tails.any (extensionAt ["sh", "bash", "zsh", "ps1", "bat", "cmd"])

/-- `_BINARY_EXT_RE`. -/
def hasBinaryExt (path : List Char) : Bool :=
  path.tails.any (extensionAt ["exe", "dll", "so", "dylib"])

/-- A finding on a path. -/
def pathViolation (index : Nat) (message : String) (locator : String) : ScanFinding :=
  { code := "PATH_VIOLATION", severity := .critical
    message := s!"support_files[{index}]" ++ message
    fatal := true, locator := some locator }

/-- What is wrong with a text as a path, with the role of its file. -/
def pathFault (platform : Platform) (file : Data) (path : String) :
    Except Raised (Option String) :=
  let shown := s!".path={platform.repr (.str path)}"
  let chars := path.toList
  if !isAscii chars then
    .ok (some (shown ++ " contains non-ASCII characters"))
  else if isAbsolute chars then
    .ok (some (shown ++ " is absolute or targets a system path"))
  else if (partStarts isSeparator chars).any traversalAt then
    .ok (some (shown ++ " contains '..' traversal"))
  else if (partStarts isSeparator chars).any hiddenAt then
    .ok (some (shown ++ " contains a hidden segment"))
  else if hasBareDot chars then
    .ok (some (shown ++ " contains a bare '.' component"))
  else do
    let role ← roleOf platform file
    if hasBinaryExt chars then
      return some (shown ++ " has a binary executable extension " ++
        "and cannot be safety-audited; only text scripts are permitted")
    else if hasScriptExt chars && !scriptRoles.contains role then
      return some (shown ++ " has an executable extension " ++
        s!"but role={platform.repr (.str role)} " ++
        "(not in ['command', 'exec', 'script', 'scripts']). " ++
        "Move to role='scripts' or rename.")
    else
      return none

/-- The finding on one support file. -/
def scanSupportPath (platform : Platform) (entry : Json × Nat) :
    Except Raised (Option ScanFinding) :=
  let location := s!"data.support_files[{entry.2}]"
  match entry.1 with
  | .obj file =>
    match Dict.get file "path" with
    | some (.str path) =>
      if path = "" then
        .ok (some (pathViolation entry.2 ".path missing or not a string" (location ++ ".path")))
      else do
        let fault ← pathFault platform file path
        return fault.map fun message =>
          pathViolation entry.2 message (location ++ ".path")
    | _ =>
      .ok (some (pathViolation entry.2 ".path missing or not a string" (location ++ ".path")))
  | _ => .ok (some (pathViolation entry.2 " is not a dict" location))

/-- `_scan_path_violations`. -/
def scanPathViolations (platform : Platform) (files : List Json) :
    Except Raised (List ScanFinding) := do
  let found ← files.zipIdx.mapM (scanSupportPath platform)
  return found.filterMap id

/-! ## Bodies of support files, ids and sizes -/

/-- `sf.get("content") or sf.get("body") or ""`. -/
def bodyOf (file : Data) : Json :=
  let truthy := fun key => (file.get key).filter fun value => !value.falsy
  ((truthy "content").or (truthy "body")).getD (.str "")

/-- The findings on the body of one support file. -/
def scanSupportBody (platform : Platform) (patterns : Patterns) (entry : Json × Nat) :
    Except Raised (List ScanFinding) :=
  let location := s!"data.support_files[{entry.2}].content"
  match entry.1 with
  | .obj file => do
      let role ← roleOf platform file
      match bodyOf file with
      | .str body =>
        return scanShellInjection platform patterns.shellInjection body location ++
          if scriptRoles.contains role then scanUrlExfil platform patterns body location
          else []
      | _ =>
        return []
  | _ => .ok []

/-- The texts among the items of a value. -/
def textsOf : Option Json → List String
  | some (.arr items) =>
    items.filterMap fun item =>
      match item with
      | .str text => some text
      | _ => none
  | _ => []

/-- `MAX_MEMORY_IDS_BEFORE_WARN`. -/
def maxMemoryIdsBeforeWarn : Nat :=
  20

/-- `_scan_memory_id_stuffing`. -/
def scanMemoryIdStuffing (data : Data) : List ScanFinding :=
  let evidence :=
    match data.get "evidence" with
    | some (.obj entries) => textsOf (Dict.get entries "memory_ids")
    | _ => []
  let unique := (textsOf (data.get "cites") ++ evidence).dedup.length
  if maxMemoryIdsBeforeWarn < unique then
    [{ code := "MEMORY_ID_STUFFING", severity := .warn
       message := s!"{unique} unique cited memory ids " ++
         s!"(> {maxMemoryIdsBeforeWarn} cap); inbox renderer will truncate"
       locator := some "data.cites" }]
  else
    []

/-- `_utf8_len`. -/
def utf8Len : Option Json → Int
  | some (.str text) => text.utf8ByteSize
  | _ => 0

/-- The tenant's limits. -/
structure Caps where
  bodyMaxBytes : Int := 40000
  descriptionMaxBytes : Int := 160

/-- `_scan_sizes`. -/
def scanSizes (caps : Caps) (data : Data) : List ScanFinding :=
  let bodySize := utf8Len (data.get "content")
  let descSize := utf8Len (data.get "description")
  (if caps.bodyMaxBytes < bodySize then
    [{ code := "BODY_TOO_LARGE", severity := .critical
       message := s!"data.content size {bodySize} bytes exceeds cap {caps.bodyMaxBytes}; " ++
         "refuse the write"
       fatal := true, locator := some "data.content" }]
  else
    []) ++
  if caps.descriptionMaxBytes < descSize then
    [{ code := "DESCRIPTION_TOO_LARGE", severity := .critical
       message := s!"data.description size {descSize} bytes exceeds cap " ++
         s!"{caps.descriptionMaxBytes}; refuse the write"
       fatal := true, locator := some "data.description" }]
  else
    []

/-! ## The scan -/

/-- The items of `support_files`, if it is a list. -/
def supportFiles (data : Data) : List Json :=
  match data.get "support_files" with
  | some (.arr files) => files
  | _ => []

/-- The result that counts the findings. -/
def resultOf (now : String) (findings : List ScanFinding) : ScanResult :=
  let count := fun severity => findings.countP fun finding => finding.severity == severity
  { state :=
      if findings.any ScanFinding.fatal || 0 < count .critical then .quarantined else .clean
    scannedAt := now
    critical := count .critical, warn := count .warn, info := count .info
    findings := findings }

/-- `scan_skill_doc` on an object. -/
def scanData (platform : Platform) (patterns : Patterns) (caps : Caps) (now : String)
    (data : Data) : Except Raised ScanResult := do
  let texts := ["name", "content", "description", "summary", "goal"].flatMap fun fieldName =>
    scanText platform patterns (data.get fieldName) fieldName
  let bodies ← (supportFiles data).zipIdx.mapM (scanSupportBody platform patterns)
  let paths ← scanPathViolations platform (supportFiles data)
  return resultOf now
    (texts ++ scanTags platform patterns data ++ scanEvidence platform patterns data ++
      scanShipped platform patterns data ++ bodies.flatten ++ paths ++
      scanMemoryIdStuffing data ++ scanSizes caps data)

/-- `scan_skill_doc`. -/
def scanSkillDoc (platform : Platform) (patterns : Patterns) (caps : Caps) (now : String) :
    Json → Except Raised ScanResult
  | .obj data => scanData platform patterns caps now data
  | _ =>
    .ok
      { state := .failed, scannedAt := now, critical := 1, warn := 0, info := 0
        findings := [{ code := "MALFORMED_INPUT", severity := .critical
                       message := "scan_skill_doc received a non-dict input"
                       fatal := true }] }

/-! ## A scanner without patterns -/

/-- A platform that shows nothing. -/
def plainPlatform : Platform where
  repr _ := ""
  lower text := text
  dictOf
    | .str _ => .error "ValueError"
    | _ => .error "TypeError"
  intOf
    | .int value => some value
    | _ => none
  dumpsLength _ := 0
  isTenth _ _ := true
  percent _ _ := ""

/-- Patterns that match nothing. -/
def noPatterns : Patterns where
  promptInjection := []
  attack := []
  admin := []
  genericRm _ := none
  urlExfil := []
  pii := []

end Caura.Skills
