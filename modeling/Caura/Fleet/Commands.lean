import Caura.Transition.Lock
import Caura.Value.DateTime
import Caura.Value.Dict
import Caura.Value.Json

/-!
# Fleet commands

A heartbeat reads the pending commands of its node and then acks those it has read; the node
reports how a command ended; and an interview request that was delivered is spent by a claim.

The claim asks that the command has no result and writes one, and nothing takes a result away, so
a command is claimed once.  The ack asks for nothing, so it also takes back a command that has been
reported since the heartbeat has read it, and so does a report of an earlier status.
-/

namespace Caura.Fleet

open Caura.Value Caura.Transition

/-- A row of `fleet_commands`, and whether it was ever reported done or failed. -/
structure FleetCommand where
  tenantId : String
  nodeId : String
  command : String
  status : Option String := some "pending"
  result : Option Json := none
  ackedAt : Option Time := none
  completedAt : Option Time := none
  reported : Bool := false

/-! ## Statements -/

/-- Whether `fleet_get_pending_commands` returns the command. -/
def FleetCommand.isPendingFor (command : FleetCommand) (nodeId tenantId : String) : Bool :=
  command.nodeId = nodeId && command.tenantId = tenantId && command.status = some "pending"

/-- `fleet_ack_commands` with the id of the command. -/
def FleetCommand.ack (command : FleetCommand) (tenantId : String) (now : Time) : FleetCommand :=
  if command.tenantId = tenantId then
    { command with status := some "acked", ackedAt := some now }
  else
    command

/-- The arguments of `fleet_update_command_result`.  Without a tenant it is unscoped; with an
owner, it is told whether the node of the command is bound to that credential. -/
structure Report where
  status : String
  tenantId : Option String := none
  result : Option (Dict Json) := none
  completedAt : Option Time := none
  ownsNode : Bool := true

/-- Whether a report is about the command. -/
def Report.matches (report : Report) (command : FleetCommand) : Bool :=
  (report.tenantId.all fun tenantId => command.tenantId = tenantId) && report.ownsNode

/-- A report that the command has ended. -/
def Report.isFinal (report : Report) : Bool :=
  report.status = "done" || report.status = "failed"

/-- The columns that a report writes. -/
def Report.values (report : Report) (command : FleetCommand) : FleetCommand :=
  if report.status = "acked" then
    { command with status := some "acked", ackedAt := report.completedAt }
  else
    { command with
      status := some report.status
      result := (report.result.map Json.obj).or command.result
      completedAt := report.completedAt.or command.completedAt }

/-- `fleet_update_command_result`. -/
def updateCommandResult (report : Report) (command : FleetCommand) : FleetCommand :=
  if report.matches command then
    { report.values command with reported := command.reported || report.isFinal }
  else
    command

/-- Whether a column has a result, and not SQL null or the document null. -/
def hasResult : Option Json → Bool
  | none | some .null => false
  | some _ => true

/-- Whether a claim for a node is granted. -/
def FleetCommand.mayClaim (command : FleetCommand) (tenantId nodeId : String) : Bool :=
  command.tenantId = tenantId && command.nodeId = nodeId &&
    command.command = "interview_request" && command.status = some "acked" &&
    !hasResult command.result

/-- `fleet_claim_interview_request`. -/
def claimInterviewRequest (tenantId nodeId : String) (command : FleetCommand) :
    FleetCommand × Bool :=
  if command.mayClaim tenantId nodeId then
    ({ command with result := some (.obj [("claimed_by", .str "interview_submit")]) }, true)
  else
    (command, false)

/-! ## Threads -/

/-- What a node or an operator sends. -/
inductive Request
  | heartbeat (nodeId tenantId : String)
  | report (report : Report)
  | claim (tenantId nodeId : String)

/-- The next statement of a request. -/
inductive Phase
  | reading (nodeId tenantId : String)
  | acking (tenantId : String)
  | reporting (report : Report)
  | claiming (tenantId nodeId : String)
  | claimed (granted : Bool)
  | finished

/-- Where it starts. -/
def Request.phase : Request → Phase
  | .heartbeat nodeId tenantId => .reading nodeId tenantId
  | .report sent => .reporting sent
  | .claim tenantId nodeId => .claiming tenantId nodeId

/-- One statement of a request.  A heartbeat that has not read the command acks other ones. -/
def Phase.act (command : FleetCommand) (now : Time) : Phase → Option (FleetCommand × Phase)
  | .reading nodeId tenantId =>
    some (command, if command.isPendingFor nodeId tenantId then .acking tenantId else .finished)
  | .acking tenantId => some (command.ack tenantId now, .finished)
  | .reporting report => some (updateCommandResult report command, .finished)
  | .claiming tenantId nodeId =>
    let answer := claimInterviewRequest tenantId nodeId command
    some (answer.1, .claimed answer.2)
  | .claimed _ | .finished => none

/-- The requests about one command. -/
def commandSystem : ThreadSystem FleetCommand Phase Request Time where
  init := Request.phase
  act command phase now := phase.act command now

/-! ## Progress -/

/-- A command that was reported done or failed is neither pending nor acked. -/
def StaysReported (command : FleetCommand) : Prop :=
  command.reported = true → command.status ≠ some "pending" ∧ command.status ≠ some "acked"

/-- At most one claim was granted. -/
def ClaimedOnce (pool : Pool FleetCommand Phase) : Prop :=
  ∀ pid other, pool.threads pid = some (.claimed true) →
    pool.threads other = some (.claimed true) → pid = other

/-- The command is pending or acked. -/
def FleetCommand.isOpen (command : FleetCommand) : Bool :=
  command.status = some "pending" || command.status = some "acked"

/-- An ack, or a report that a command is pending or acked, comes while the command is open. -/
def Phase.OnOpen (command : FleetCommand) : Phase → Prop
  | .acking tenantId => command.tenantId = tenantId → command.isOpen = true
  | .reporting report =>
    report.matches command = true → report.status = "pending" ∨ report.status = "acked" →
      command.isOpen = true
  | .reading _ _ | .claiming _ _ | .claimed _ | .finished => True

instance (command : FleetCommand) (phase : Phase) : Decidable (phase.OnOpen command) := by
  cases phase <;> dsimp only [Phase.OnOpen] <;> infer_instance

/-- Every statement that opens a command finds it open. -/
def ReopensNone (pool : Pool FleetCommand Phase) : ThreadEvent Request Time → Prop
  | .start _ _ => True
  | .advance pid _ => ∀ phase ∈ pool.threads pid, phase.OnOpen pool.store

instance : DecidableRel ReopensNone := fun pool event => by
  cases event <;> dsimp only [ReopensNone] <;> infer_instance

section Statements

variable {command after : FleetCommand} {phase next : Phase} {now : Time}

theorem StaysReported.not_open (stays : StaysReported command)
    (isReported : command.reported = true) : command.isOpen = false := by
  obtain ⟨notPending, notAcked⟩ := stays isReported
  simp [FleetCommand.isOpen, notPending, notAcked]

theorem StaysReported.ack {tenantId : String} (stays : StaysReported command)
    (onOpen : command.tenantId = tenantId → command.isOpen = true) :
    StaysReported (command.ack tenantId now) := by
  unfold FleetCommand.ack
  split
  next isTenant =>
    intro isReported
    cases (stays.not_open isReported).symm.trans (onOpen isTenant)
  · exact stays

theorem status_values (report : Report) (command : FleetCommand) :
    (report.values command).status = some report.status := by
  unfold Report.values
  split
  next isAcked => rw [isAcked]
  · rfl

theorem StaysReported.report {report : Report} (stays : StaysReported command)
    (onOpen : report.matches command = true → report.status = "pending" ∨ report.status = "acked" →
      command.isOpen = true) : StaysReported (updateCommandResult report command) := by
  unfold updateCommandResult
  split
  next isMatch =>
    intro isReported
    have notBack : ¬(report.status = "pending" ∨ report.status = "acked") := by
      intro isBack
      rcases (Bool.or_eq_true _ _).mp isReported with wasReported | isFinal
      · cases (stays.not_open wasReported).symm.trans (onOpen isMatch isBack)
      · rcases isBack with isBack | isBack <;> simp [Report.isFinal, isBack] at isFinal
    simpa [status_values] using notBack
  · exact stays

/-- A statement that finds an open command wherever it opens one keeps what was reported. -/
theorem StaysReported.act (stays : StaysReported command) (onOpen : phase.OnOpen command)
    (acted : phase.act command now = some (after, next)) : StaysReported after := by
  cases phase with
  | reading _ _ =>
    cases acted
    exact stays
  | acking tenantId =>
    cases acted
    exact stays.ack onOpen
  | reporting report =>
    cases acted
    exact stays.report onOpen
  | claiming tenantId nodeId =>
    cases acted
    unfold claimInterviewRequest
    split <;> exact stays
  | claimed _ | finished => cases acted

/-! ## Claims -/

theorem hasResult_values {report : Report} (isSpent : hasResult command.result = true) :
    hasResult (report.values command).result = true := by
  unfold Report.values
  split
  · exact isSpent
  · cases report.result with
    | none => exact isSpent
    | some result => rfl

/-- No statement takes a result away. -/
theorem hasResult_act (isSpent : hasResult command.result = true)
    (acted : phase.act command now = some (after, next)) : hasResult after.result = true := by
  cases phase with
  | reading _ _ =>
    cases acted
    exact isSpent
  | acking tenantId =>
    cases acted
    unfold FleetCommand.ack
    split <;> exact isSpent
  | reporting report =>
    cases acted
    unfold updateCommandResult
    split
    · exact hasResult_values isSpent
    · exact isSpent
  | claiming tenantId nodeId =>
    cases acted
    unfold claimInterviewRequest
    split
    · rfl
    · exact isSpent
  | claimed _ | finished => cases acted

/-- A claim that was granted. -/
def Phase.isGranted : Phase → Bool
  | .claimed granted => granted
  | _ => false

/-- A claim that is granted finds no result and leaves one. -/
theorem result_of_granted (isGranted : next.isGranted = true)
    (acted : phase.act command now = some (after, next)) :
    hasResult command.result = false ∧ hasResult after.result = true := by
  cases phase with
  | claiming tenantId nodeId =>
    simp only [Phase.act, claimInterviewRequest] at acted
    split at acted
    next mayClaim =>
      obtain ⟨rfl, _⟩ := Prod.mk.inj (Option.some.inj acted)
      exact ⟨Bool.not_eq_true' _ ▸ (Bool.and_eq_true_iff.mp mayClaim).2, rfl⟩
    · cases acted
      cases isGranted
  | reading _ _ =>
    simp only [Phase.act] at acted
    split at acted <;> (cases acted; cases isGranted)
  | acking _ | reporting _ =>
    cases acted
    cases isGranted
  | claimed _ | finished => cases acted

end Statements

/-- The result is a lock that a granted claim takes and nothing frees. -/
theorem claimsSafe : commandSystem.LockSafe (fun command => hasResult command.result)
    Phase.isGranted fun _ _ => True where
  start request _ := ⟨by cases request <;> rfl, trivial⟩
  acquired _ _ _ _ _ acted _ isGranted := result_of_granted isGranted acted
  held _ _ _ _ _ acted _ isSpent _ := hasResult_act isSpent acted
  kept _ _ _ _ _ acted _ isSpent := hasResult_act isSpent acted
  own _ _ _ _ _ _ _ := trivial
  others _ _ _ _ _ _ _ _ _ _ := trivial

theorem reportsFree : commandSystem.InterferenceFree ReopensNone StaysReported fun _ _ => True where
  start _ _ _ := trivial
  own _ _ _ phase _ _ sound reopensNone isThread acted :=
    ⟨sound.store.act (reopensNone phase isThread) acted, trivial⟩
  others _ _ _ _ _ _ _ _ _ _ _ _ _ _ := trivial

/-- A command that no request is about yet; one that is done or failed was reported so. -/
def initialPool (command : FleetCommand) : Pool FleetCommand Phase :=
  ⟨{ command with reported := command.status = some "done" || command.status = some "failed" },
    fun _ => none⟩

theorem staysReported_initialPool (command : FleetCommand) :
    StaysReported (initialPool command).store := by
  intro isReported
  change (decide (command.status = some "done") || decide (command.status = some "failed")) = true
    at isReported
  change command.status ≠ some "pending" ∧ command.status ≠ some "acked"
  rw [Bool.or_eq_true, decide_eq_true_eq, decide_eq_true_eq] at isReported
  rcases isReported with isDone | isFailed
  · rw [isDone]
    decide
  · rw [isFailed]
    decide

/-- A command is claimed once.  When it is open wherever an ack or a report opens it, it is neither
pending nor acked once it was reported done or failed. -/
theorem commands_move_forward (command : FleetCommand) (events : List (ThreadEvent Request Time))
    (target : Pool FleetCommand Phase)
    (runEq : run commandSystem.step (initialPool command) events = some target) :
    ClaimedOnce target ∧ (GuardedRun commandSystem.step ReopensNone (initialPool command) events →
        StaysReported target.store) := by
  constructor
  · have locked := invariant_of_run claimsSafe.preserved (.idle _ _ _ _) runEq
    exact fun pid other isGranted isToo => locked.alone pid other _ _ isGranted isToo rfl rfl
  · intro reopensNone
    exact (invariant_of_guardedRun reportsFree.preserved (.idle (staysReported_initialPool command))
      reopensNone runEq).store

/-- An interview request. -/
def interviewRequest : FleetCommand where
  tenantId := "tenant"
  nodeId := "node"
  command := "interview_request"

/-- The request is delivered by a heartbeat, claimed twice, and reported done. -/
def delivered : List (ThreadEvent Request Time) :=
  [.start 0 (.heartbeat "node" "tenant"), .advance 0 0, .advance 0 1,
    .start 1 (.claim "tenant" "node"), .start 2 (.claim "tenant" "node"), .advance 1 2,
    .advance 2 3, .start 3 (.report { status := "done" }), .advance 3 4]

theorem commands_move_forward_delivered :
    ∃ target, run commandSystem.step (initialPool interviewRequest) delivered = some target ∧
      ClaimedOnce target ∧ StaysReported target.store := by
  have both := commands_move_forward interviewRequest delivered _ rfl
  exact ⟨_, rfl, both.1, both.2 (by decide +kernel)⟩

/-- After a run, a command that was reported done is acked. -/
def GoesBack (events : List (ThreadEvent Request Time)) : Prop :=
  ∃ target, run commandSystem.step (initialPool interviewRequest) events = some target ∧
    ¬StaysReported target.store

/-- A command that was reported done is acked again by a heartbeat that has read it before another
one delivered it, and by a report that it is acked. -/
theorem reported_command_acked :
    GoesBack [.start 0 (.heartbeat "node" "tenant"), .start 1 (.heartbeat "node" "tenant"),
        .advance 0 0, .advance 1 0, .advance 0 1, .start 2 (.report { status := "done" }),
        .advance 2 2, .advance 1 3] ∧
      GoesBack [.start 0 (.report { status := "done" }), .advance 0 0,
        .start 1 (.report { status := "acked" }), .advance 1 1] := by
  unfold GoesBack StaysReported
  decide +kernel

end Caura.Fleet
