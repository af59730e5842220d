import Caura.Skills.Documents
import Mathlib.Data.Rat.Cast.Defs

/-!
# The promoter and the Forge worker

A promoter tick queries the candidates of the Forge worker once, judges each of them on the
data that the query returned, and flips its status from `candidate`.  The six gates decide
whether it is promoted; a scan without findings decides, for a tenant that asked for it,
whether it becomes active at once or is staged for review.

The Forge worker writes a candidate that it has scanned over no document or over a
candidate.
-/

namespace Caura.Skills

open Caura.Transition Caura.Value Option

/-! ## Gates -/

/-- The settings of a tick. -/
structure TickSettings where
  minClusterSize : Int := 3
  minDistinctAgents : Int := 3
  freshnessWindowDays : Int := 14
  autoPromoteClean : Bool := false
  caps : Caps := {}

/-- What a tick is told: the time, the ids that its query selects, the age in days of a
window's end with its text, the answers of the poison table, and what the storage raises. -/
structure TickAnswer extends Answer where
  queried : List String := []
  windowAge : Json → Option (Rat × String) := fun _ => none
  poisonChecker : String → Except String Bool := fun _ => .ok false
  liveRaises : Option String := none
  updaterRaises : Bool := false

/-- `GateOutcome`. -/
structure GateOutcome where
  name : String
  passed : Bool
  reason : String := ""

/-- A gate with the reason for which it fails, if it does. -/
def gateOf (name : String) : Option String → GateOutcome
  | none =>
    { name := name, passed := true }
  | some reason =>
    { name := name, passed := false, reason := reason }

/-- A value that is an instance of `int`. -/
def intValue : Option Json → Option Int
  | some (.int value) => some value
  | some (.bool value) => some (if value then 1 else 0)
  | _ => none

/-- `(doc.get(key) or {})` where an object is needed. -/
def objectAt (doc : Data) (key : String) : Except Raised Data :=
  let value := (doc.get key).getD .null
  if value.falsy then
    .ok []
  else
    match value with
    | .obj entries => .ok entries
    | _ => .error (.exception "AttributeError")

/-- A gate on a count of the origin. -/
def countGate (name field : String) (least : Int) (origin : Data) : GateOutcome :=
  gateOf name <|
    match intValue (origin.get field) with
    | none => some s!"missing origin.{field}"
    | some count =>
      if count < least then some s!"{field}={count} < min_{field}={least}" else none

/-- G3. -/
def freshnessGate (settings : TickSettings) (answer : TickAnswer) (origin : Data) : GateOutcome :=
  gateOf "freshness" <|
    match answer.windowAge ((origin.get "window_end").getD .null) with
    | none => some "missing/unparseable origin.window_end"
    | some (days, text) =>
      if (settings.freshnessWindowDays : Rat) < days then
        some s!"window_end is {text}d old (> {settings.freshnessWindowDays}d)"
      else none

/-- G4. -/
def poisonGate (answer : TickAnswer) (doc : Data) : GateOutcome :=
  gateOf "poison" <|
    match doc.get "cluster_fingerprint" with
    | some (.str fingerprint) =>
      if fingerprint = "" then
        some "missing fingerprint"
      else
        match answer.poisonChecker fingerprint with
        | .error name => some s!"poison_checker raised: {name}"
        | .ok true => some s!"fingerprint {fingerprint} is poisoned"
        | .ok false => none
    | _ => some "missing fingerprint"

/-- G6, where `live` are the documents that the fetcher reads. -/
def hashBindingGate (platform : Platform) (answer : TickAnswer) (live : Documents) (doc : Data) :
    GateOutcome :=
  if ((doc.get "kind").getD (.str "create")).equals (.str "update") then
    gateOf "hash_binding" <|
      match targetHash doc, doc.get "slug" with
      | some (.str target), some (.str slug) =>
        match answer.liveRaises with
        | some name => some s!"live_data_fetcher raised: {name}"
        | none =>
          let liveHash := (((live slug).bind fun found => found.data.get "content_hash").getD
            .null)
          if liveHash.equals (.str target) then none
          else some (s!"target_hash={platform.repr (.str target)} != " ++
            s!"live_hash={platform.repr liveHash}")
      | _, _ => some "kind=update missing target.target_content_hash or slug"
  else
    { name := "hash_binding", passed := true, reason := "n/a (kind=create)" }

/-- `evaluate_auto_gates`. -/
def evaluateAutoGates (platform : Platform) (settings : TickSettings) (answer : TickAnswer)
    (live : Documents) (doc : Data) : Except Raised (List GateOutcome) := do
  let origin ← objectAt doc "origin"
  let scan ← objectAt doc "scan"
  let scanState := (scan.get "state").getD .null
  return [ countGate "volume" "cluster_size" settings.minClusterSize origin,
    countGate "diversity" "distinct_agents" settings.minDistinctAgents origin,
    freshnessGate settings answer origin,
    poisonGate answer doc,
    gateOf "scan" (if scanState.equals (.str "clean") then none
      else some s!"scan.state={platform.repr scanState} (expected 'clean')"),
    hashBindingGate platform answer live doc]

/-! ## The verdict on a candidate -/

section Tick

variable (platform : Platform) (patterns : Patterns)

/-- `int(value)`. -/
def asInt (value : Json) : Option Int :=
  (intValue (some value)).or (platform.intOf value)

/-- `_scan_warned`. -/
def scanWarned (doc : Data) : Bool :=
  match objectAt doc "scan" with
  | .error _ => true
  | .ok scan =>
    let warn := (scan.get "warn").getD (.int 0)
    (asInt platform (if warn.falsy then .int 0 else warn)).all fun count => 0 < count

/-- `_scan_is_clean`. -/
def scanIsClean (doc : Data) : Bool :=
  match objectAt doc "scan" with
  | .error _ => false
  | .ok scan =>
    (asInt platform ((scan.get "critical").getD (.int 0))).any fun critical =>
      ((scan.get "state").getD .null).equals (.str "clean") && critical == 0

/-- `rescan_before_apply`: the verdict and the findings. -/
def rescanBeforeApply (caps : Caps) (now : String) (doc : Data) :
    Except Raised (Bool × List ScanFinding) := do
  let result ← scanSkillDoc platform patterns caps now (.obj doc)
  return (result.state == .clean && !result.anyFatal, result.findings)

/-- The status to which a tick promotes a candidate, if it does. -/
def targetStatus (settings : TickSettings) (answer : TickAnswer) (live : Documents) (doc : Data) :
    Except Raised (Option String) := do
  let gates ← evaluateAutoGates platform settings answer live doc
  if gates.all GateOutcome.passed then
    if settings.autoPromoteClean && scanIsClean platform doc && !scanWarned platform doc then do
      let (allow, findings) ← rescanBeforeApply platform patterns settings.caps answer.now doc
      return some (if allow && findings.isEmpty then "active" else "staged")
    else
      return some "staged"
  else
    return none

/-! ## A tick -/

/-- A document that the query of a tick may return. -/
def isForgeCandidate (doc : Document) : Bool :=
  doc.hasStatus "candidate" && ((doc.data.get "source").getD .null).equals (.str "forge")

/-- Where a tick waits for the storage: it holds the rows of its query that it has not yet
judged, or the one that it flips. -/
inductive TickPhase
  | querying
  | judging (rows : List (String × Document))
  | flipping (row : String × Document) (target : String) (rows : List (String × Document))
  | finished

/-- The rows that a tick still holds. -/
def TickPhase.rows : TickPhase → List (String × Document)
  | .judging rows => rows
  | .flipping row _ rows => row :: rows
  | _ => []

/-- The rows of a query, if all the ids are candidates of the Forge worker. -/
def queriedRows (store : Documents) (ids : List String) : Option (List (String × Document)) :=
  ids.mapM fun id => ((store id).filter isForgeCandidate).map fun doc => (id, doc)

/-- One step of `promote_pending_candidates`.  A flip that misses leaves the store as it is,
and an exception of the judgement ends the tick. -/
def tickStep (store : Documents) (settings : TickSettings) (answer : TickAnswer) :
    TickPhase → Option (Documents × TickPhase)
  | .querying => (queriedRows store answer.queried).map fun rows => (store, .judging rows)
  | .judging [] => some (store, .finished)
  | .judging (row :: rows) =>
    match targetStatus platform patterns settings answer store row.2.data with
    | .error _ => some (store, .finished)
    | .ok none => some (store, .judging rows)
    | .ok (some target) => some (store, .flipping row target rows)
  | .flipping row target rows =>
    if answer.updaterRaises then
      some (store, .judging rows)
    else some ((documentUpdateStatus store row.1 answer.now target "candidate").getD store,
        .judging rows)
  | .finished => none

/-! ## The Forge worker -/

/-- What a cluster was distilled to. -/
structure Distilled where
  slug : String
  name : Json
  kind : Json := .str "create"
  description : Json
  summary : Json
  domain : Json := .null
  tags : Json := .arr []
  content : String
  goal : Json := .null
  evidence : Json := .null
  cites : Json := .arr []
  fingerprint : Json := .null
  runId : Json := .null
  clusterSize : Int := 0
  distinctAgents : Int := 0
  windowEnd : String := ""
  fleetId : Option String := none
  caps : Caps := {}

/-- The id of a Forge candidate. -/
def Distilled.docId (cluster : Distilled) : String :=
  "forge/" ++ cluster.slug

/-- The data of a candidate before its scan. -/
def Distilled.data (cluster : Distilled) (now : String) : Data :=
  [("name", cluster.name), ("slug", .str cluster.slug), ("version", .str "v1"),
    ("kind", cluster.kind), ("source", .str "forge"), ("status", .str "candidate"),
    ("description", cluster.description), ("summary", cluster.summary),
    ("domain", cluster.domain), ("tags", cluster.tags), ("content", .str cluster.content),
    ("content_hash", .str (contentHash cluster.content)), ("cites", cluster.cites),
    ("goal", cluster.goal), ("evidence", cluster.evidence),
    ("cluster_fingerprint", cluster.fingerprint),
    ("origin", .obj [("agent_id", .str "forge"), ("session_key", .null),
      ("run_id", cluster.runId), ("message_id", .null), ("cluster_size", .int cluster.clusterSize),
      ("distinct_agents", .int cluster.distinctAgents), ("window_end", .str cluster.windowEnd)]),
    ("created_at", .str now), ("updated_at", .str now),
    ("telemetry", .obj [("fires_total", .int 0), ("fires_success", .int 0),
      ("fires_failure", .int 0), ("last_fired_at", .null), ("utilization_30d", .null)])]

/-- The end of `_distill_cluster`: the candidate with its scan. -/
def distillCluster (cluster : Distilled) (now : String) : Except Raised Document := do
  let data := cluster.data now
  let scan ← scanSkillDoc platform patterns cluster.caps now (.obj data)
  refuseIf scan.anyFatal (.exception "_SentinelFatalSkip")
  let data := data.set "scan" scan.asDocField
  let data := if scan.state = .quarantined then
      (data.set "status" (.str "quarantined")).set "quarantined_at" (.str now)
    else data
  return { fleetId := cluster.fleetId, data := data }

/-- The write of `_make_candidate_writer`. -/
def writeCandidate (store : Documents) (cluster : Distilled) (now : String) :
    Except Raised Documents := do
  let doc ← distillCluster platform patterns cluster now
  documentUpsert platform store cluster.docId doc false [none, some "candidate"]

end Tick

/-! ## What a tick and the worker do -/

section Guarantees

variable {platform : Platform} {patterns : Patterns} {store after : Documents}
  {settings : TickSettings} {answer : TickAnswer} {phase next : TickPhase}

/-- A promoted candidate is staged, or becomes active after a scan without a finding. -/
theorem of_targetStatus {live : Documents} {doc : Data} {target : String}
    (isTarget : targetStatus platform patterns settings answer live doc = .ok (some target)) :
    target = "staged" ∨ (target = "active" ∧ ∃ result,
      scanSkillDoc platform patterns settings.caps answer.now (.obj doc) = .ok result ∧
        result.findings = []) := by
  obtain ⟨gates, _, rest⟩ := bind_eq_ok_iff.mp isTarget
  split at rest
  · split at rest
    · obtain ⟨⟨allow, findings⟩, rescanned, rest⟩ := bind_eq_ok_iff.mp rest
      obtain ⟨result, scanned, verdict⟩ := bind_eq_ok_iff.mp rescanned
      cases verdict
      dsimp only at rest
      split at rest <;> cases rest
      next passes =>
        rw [Bool.and_eq_true, List.isEmpty_iff] at passes
        exact .inr ⟨rfl, result, scanned, passes.2⟩
      · exact .inl rfl
    · cases rest
      exact .inl rfl
  · cases rest

/-- The rows of a query are candidates as they are stored. -/
theorem of_queriedRows {ids : List String} {rows : List (String × Document)}
    (queried : queriedRows store ids = some rows) :
    ∀ row ∈ rows, store row.1 = some row.2 ∧ row.2.hasStatus "candidate" = true := by
  induction ids generalizing rows with
  | nil =>
    cases queried
    exact nofun
  | cons id ids ih =>
    simp only [queriedRows, List.mapM_cons] at queried
    obtain ⟨first, isFirst, rest⟩ := bind_eq_some_iff.mp queried
    obtain ⟨others, areOthers, isRows⟩ := bind_eq_some_iff.mp rest
    cases isRows
    refine List.forall_mem_cons.mpr ⟨?_, ih areOthers⟩
    obtain ⟨doc, filtered, same⟩ := map_eq_some_iff.mp isFirst
    cases same
    obtain ⟨stored, isCandidate⟩ := filter_eq_some_iff.mp filtered
    rw [isForgeCandidate, Bool.and_eq_true] at isCandidate
    exact ⟨stored, isCandidate.1⟩

/-- What a tick knows of the target to which it flips a row. -/
def Verdict (platform : Platform) (patterns : Patterns) (settings : TickSettings) (data : Data)
    (target : String) : Prop :=
  target = "staged" ∨ (target = "active" ∧ ∃ now result,
    scanSkillDoc platform patterns settings.caps now (.obj data) = .ok result ∧
      result.findings = [])

/-- What a step of a tick can do: query, drop rows, take a verdict on the first row, or flip
a candidate. -/
inductive TickMoved (platform : Platform) (patterns : Patterns) (store : Documents)
    (settings : TickSettings) (now : String) (phase : TickPhase) : Documents → TickPhase → Prop
  | queried (rows : List (String × Document)) (isQuerying : phase = .querying)
      (areRows : ∀ row ∈ rows, store row.1 = some row.2 ∧ row.2.hasStatus "candidate" = true) :
      TickMoved platform patterns store settings now phase store (.judging rows)
  | dropped (next : TickPhase) (isFree : ∀ row target rows, next ≠ .flipping row target rows)
      (areRows : ∀ row ∈ next.rows, row ∈ phase.rows) :
      TickMoved platform patterns store settings now phase store next
  | judged (row : String × Document) (target : String) (rows : List (String × Document))
      (isJudging : phase = .judging (row :: rows))
      (verdict : Verdict platform patterns settings row.2.data target) :
      TickMoved platform patterns store settings now phase store (.flipping row target rows)
  | flipped (row : String × Document) (target : String) (rows : List (String × Document))
      (isFlipping : phase = .flipping row target rows) (stored : Document)
      (isStored : store row.1 = some stored) (isCandidate : stored.hasStatus "candidate" = true) :
      TickMoved platform patterns store settings now phase (Function.update store row.1
          (some { stored with data := Skills.flipped now target stored.data }))
        (.judging rows)

theorem tickMoved_of_tickStep
    (stepped : tickStep platform patterns store settings answer phase = some (after, next)) :
    TickMoved platform patterns store settings answer.now phase after next := by
  revert stepped
  -- One case for each line of the step function that gives a state, in its order.
  fun_cases tickStep platform patterns store settings answer phase <;> intro stepped <;>
    try cases stepped
  · obtain ⟨rows, areRows, same⟩ := map_eq_some_iff.mp stepped
    cases same
    exact .queried rows rfl (of_queriedRows areRows)
  · exact .dropped _ (by simp) fun _ isRow => isRow
  · exact .dropped _ (by simp) nofun
  · exact .dropped _ (by simp) fun _ isRow => .tail _ isRow
  next isTarget =>
    refine .judged _ _ _ rfl ?_
    rcases of_targetStatus isTarget with isStaged | ⟨isActive, result, scanned, none⟩
    · exact .inl isStaged
    · exact .inr ⟨isActive, answer.now, result, scanned, none⟩
  · exact .dropped _ (by simp) fun _ isRow => .tail _ isRow
  next row target rows _ =>
    cases updated : documentUpdateStatus store row.1 answer.now target "candidate" with
    | none => exact .dropped _ (by simp) fun _ isRow => .tail _ isRow
    | some changed =>
      obtain ⟨stored, isStored, isCandidate, rfl⟩ := of_documentUpdateStatus updated
      exact .flipped row target rows rfl stored isStored isCandidate

/-- What the worker writes: a candidate or a quarantined document with the texts of its
cluster, over nothing or over a candidate. -/
theorem of_writeCandidate {cluster : Distilled} {now : String}
    (written : writeCandidate platform patterns store cluster now = .ok after) :
    ∃ doc, after = Function.update store cluster.docId (some doc) ∧
      (store cluster.docId = none ∨ store.Has cluster.docId "candidate") ∧
      SameTexts doc.data (cluster.data now) ∧
      (doc.hasStatus "candidate" = true ∨ doc.hasStatus "quarantined" = true) := by
  obtain ⟨doc, distilled, upserted⟩ := bind_eq_ok_iff.mp written
  obtain ⟨isAfter, may⟩ := of_documentUpsert upserted
  refine ⟨doc, isAfter, ?_, ?_⟩
  · cases stored : store cluster.docId with
    | none => exact .inl rfl
    | some found =>
      rw [stored] at may
      exact .inr ⟨found, stored, by simpa [mayReplaceStored] using may⟩
  · obtain ⟨scan, _, rest⟩ := bind_eq_ok_iff.mp distilled
    obtain ⟨_, _, isDoc⟩ := bind_eq_ok_iff.mp rest
    cases isDoc
    constructor
    · refine SameTexts.of_get_eq ["scan", "status", "quarantined_at"] ?_ (by decide)
      intro key other
      simp only [List.mem_cons, not_or] at other
      split <;> simp [other]
    · rw [Document.hasStatus_iff, Document.hasStatus_iff]
      split
      · exact .inr (by simp)
      · exact .inl (by simp [Distilled.data, Dict.get_cons])

end Guarantees

end Caura.Skills
