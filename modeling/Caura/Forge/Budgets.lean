/-!
# The budgets of a Forge run

The loop of `run_forge_distill` over the eligible clusters
(`core_api.services.forge.forge_service`).  What it awaits is given by functions that pass a
state of the world on, so that every outcome of every step is covered.  The calls are logged
with their answers, and what a run spends is read off the log: the log is made of calls that
the functions answered one after another.
-/

namespace Caura.Forge

/-- How the body of the loop ends: at one of the counters, or with a written document. -/
inductive Exit where
  | skippedPoisoned
  | skippedSentinel
  | skippedDistillError
  | skippedIoError
  | skippedInternalError
  | skippedExisting
  | written (docId : String)

/-- What an awaited call raises: an exception it has a clause of its own for, one of
`_PROGRAMMING_ERRORS`, or any other. -/
inductive Raised (ε : Type) where
  | named (exception : ε)
  | programmingError
  | other

/-- The clauses behind an awaited call, `clause` being those of its own. -/
def Raised.exit {ε : Type} (clause : ε → Exit) : Raised ε → Exit
  | .named exception => clause exception
  | .programmingError => .skippedInternalError
  | .other => .skippedIoError

/-- The exceptions of `_distill_cluster` with a clause of their own. -/
inductive DistillSkip where
  | poisonedCluster
  | sentinelFatal
  | distillParseError

/-- The counters of their clauses. -/
def DistillSkip.exit : DistillSkip → Exit
  | .poisonedCluster => .skippedPoisoned
  | .sentinelFatal => .skippedSentinel
  | .distillParseError => .skippedDistillError

/-- What a cluster is distilled to. -/
structure CandidateDoc (δ : Type) where
  docId : String
  data : δ

/-- The awaited functions. -/
structure Callables (κ δ σ : Type) where
  distillCluster : κ → σ → Except (Raised DistillSkip) (CandidateDoc δ) × σ
  statusChecker : Option (String → σ → Except (Raised Empty) (Option String) × σ)
  /-- The one exception with a clause of its own is `CandidateSlugClaimedError`. -/
  candidateWriter : CandidateDoc δ → σ → Except (Raised Unit) Unit × σ

/-- A call of one of them, with its answer. -/
inductive Call (κ δ : Type) where
  | distill (cluster : κ) (answer : Except (Raised DistillSkip) (CandidateDoc δ))
  | check (docId : String) (answer : Except (Raised Empty) (Option String))
  | write (doc : CandidateDoc δ) (answer : Except (Raised Unit) Unit)

/-- The budgets of `ForgeConfig`. -/
structure ForgeConfig where
  maxWritesPerRun : Nat := 20
  maxClustersPerRun : Nat := 0

/-- `DEFAULT_CLUSTER_ATTEMPT_MULTIPLIER`. -/
def defaultClusterAttemptMultiplier : Nat :=
  3

/-- `effective_max_clusters_per_run`. -/
def ForgeConfig.effectiveMaxClustersPerRun (cfg : ForgeConfig) : Nat :=
  if 0 < cfg.maxClustersPerRun then max cfg.maxClustersPerRun cfg.maxWritesPerRun
  else cfg.maxWritesPerRun * defaultClusterAttemptMultiplier

/-- One attempt at a cluster: the calls it made, and how it ended. -/
structure Attempt (κ δ : Type) where
  cluster : κ
  calls : List (Call κ δ)
  exit : Exit

section

variable {κ δ σ : Type} (calls : Callables κ δ σ) (cluster : κ)

/-- The clauses behind the write. -/
def writeExit (docId : String) : Except (Raised Unit) Unit → Exit
  | .error raised => raised.exit fun _ => .skippedExisting
  | .ok () => .written docId

/-- The end of the body, behind the calls before it. -/
def Callables.write (earlier : List (Call κ δ)) (doc : CandidateDoc δ) (world : σ) :
    Attempt κ δ × σ :=
  let (answer, world) := calls.candidateWriter doc world
  (⟨cluster, earlier ++ [.write doc answer], writeExit doc.docId answer⟩, world)

/-- The body of the loop, behind the checks of the budgets. -/
def Callables.attempt (world : σ) : Attempt κ δ × σ :=
  match calls.distillCluster cluster world with
  | (.error raised, world) =>
    (⟨cluster, [.distill cluster (.error raised)], raised.exit DistillSkip.exit⟩, world)
  | (.ok doc, world) =>
    let distilled := .distill cluster (.ok doc)
    match calls.statusChecker with
    | none => calls.write cluster [distilled] doc world
    | some statusChecker =>
      match statusChecker doc.docId world with
      | (.error raised, world) =>
        (⟨cluster, [distilled, .check doc.docId (.error raised)], raised.exit Empty.elim⟩, world)
      | (.ok status, world) =>
        let checked := .check doc.docId (.ok status)
        if status ≠ none ∧ status ≠ some "candidate" then
          (⟨cluster, [distilled, checked], .skippedExisting⟩, world)
        else
          calls.write cluster [distilled, checked] doc world

end

/-- The counters of a run, and its attempts in their order. -/
structure Run (κ δ : Type) where
  attempts : List (Attempt κ δ) := []
  clustersAttempted : Nat := 0
  writtenIds : List String := []
  skippedPoisoned : Nat := 0
  skippedSentinel : Nat := 0
  skippedDistillError : Nat := 0
  skippedIoError : Nat := 0
  skippedInternalError : Nat := 0
  skippedExisting : Nat := 0

section

variable {κ δ σ : Type} {cfg : ForgeConfig} {run : Run κ δ} {attempt : Attempt κ δ}
  {calls : Callables κ δ σ} {before middle after : σ}

/-- The counter of an exit. -/
def Run.account (run : Run κ δ) : Exit → Run κ δ
  | .skippedPoisoned => { run with skippedPoisoned := run.skippedPoisoned + 1 }
  | .skippedSentinel => { run with skippedSentinel := run.skippedSentinel + 1 }
  | .skippedDistillError => { run with skippedDistillError := run.skippedDistillError + 1 }
  | .skippedIoError => { run with skippedIoError := run.skippedIoError + 1 }
  | .skippedInternalError => { run with skippedInternalError := run.skippedInternalError + 1 }
  | .skippedExisting => { run with skippedExisting := run.skippedExisting + 1 }
  | .written docId => { run with writtenIds := run.writtenIds ++ [docId] }

/-- The run after an attempt. -/
def Run.enter (run : Run κ δ) (attempt : Attempt κ δ) : Run κ δ :=
  { run with
    attempts := run.attempts ++ [attempt]
    clustersAttempted := run.clustersAttempted + 1 }.account attempt.exit

/-- The loop over the clusters left: both budgets are read before a cluster is entered. -/
def distillFrom (cfg : ForgeConfig) (calls : Callables κ δ σ) :
    Run κ δ → List κ → σ → Run κ δ × σ
  | run, [], world => (run, world)
  | run, cluster :: rest, world =>
    if cfg.maxWritesPerRun ≤ run.writtenIds.length then (run, world)
    else if cfg.effectiveMaxClustersPerRun ≤ run.clustersAttempted then (run, world)
    else
      let (attempt, world) := calls.attempt cluster world
      distillFrom cfg calls (run.enter attempt) rest world

/-- The loop of `run_forge_distill`, with the world that it leaves. -/
def runForgeDistill (cfg : ForgeConfig) (calls : Callables κ δ σ) (eligible : List κ) (world : σ) :
    Run κ δ × σ :=
  distillFrom cfg calls {} eligible world

/-! ## What a run spends -/

/-- The function that is called gives the answer. -/
def Callables.Answers (calls : Callables κ δ σ) (before after : σ) : Call κ δ → Prop
  | .distill cluster answer => calls.distillCluster cluster before = (answer, after)
  | .check docId answer =>
    ∃ statusChecker ∈ calls.statusChecker, statusChecker docId before = (answer, after)
  | .write doc answer => calls.candidateWriter doc before = (answer, after)

/-- The calls, made one after another, take one world to the other. -/
def Callables.Ran (calls : Callables κ δ σ) : List (Call κ δ) → σ → σ → Prop
  | [], before, after => before = after
  | call :: log, before, after =>
    ∃ middle, calls.Answers before middle call ∧ calls.Ran log middle after

/-- The calls of an attempt and its exit: the model is called first, and once; what it gives is
checked if there is a checker; and it is written unless it was found as something else than a
candidate. -/
inductive Attempt.Made (checks : Bool) : Attempt κ δ → Prop
  | notDistilled (cluster : κ) (raised : Raised DistillSkip) :
      Made checks ⟨cluster, [.distill cluster (.error raised)], raised.exit DistillSkip.exit⟩
  | notChecked (cluster : κ) (doc : CandidateDoc δ) (raised : Raised Empty) :
      Made checks ⟨cluster, [.distill cluster (.ok doc), .check doc.docId (.error raised)],
        raised.exit Empty.elim⟩
  | existing (cluster : κ) (doc : CandidateDoc δ) {status : String}
      (isOther : status ≠ "candidate") :
      Made checks ⟨cluster, [.distill cluster (.ok doc), .check doc.docId (.ok (some status))],
        .skippedExisting⟩
  | unchecked (cluster : κ) (doc : CandidateDoc δ) (answer : Except (Raised Unit) Unit)
      (noChecker : checks = false) :
      Made checks ⟨cluster, [.distill cluster (.ok doc), .write doc answer],
        writeExit doc.docId answer⟩
  | checked (cluster : κ) (doc : CandidateDoc δ) {status : Option String}
      (answer : Except (Raised Unit) Unit) (isOpen : status = none ∨ status = some "candidate") :
      Made checks ⟨cluster, [.distill cluster (.ok doc), .check doc.docId (.ok status),
        .write doc answer], writeExit doc.docId answer⟩

/-- The documents a list of attempts has written. -/
def written (attempts : List (Attempt κ δ)) : List String :=
  attempts.filterMap fun attempt =>
    match attempt.exit with
    | .written docId => some docId
    | _ => none

/-- A run has made the calls of its attempts and spent what its counters say, within both
budgets.  No attempt begins once the writes are spent. -/
structure Run.Accounted (cfg : ForgeConfig) (calls : Callables κ δ σ) (before after : σ)
    (run : Run κ δ) : Prop where
  ran : calls.Ran (run.attempts.flatMap Attempt.calls) before after
  made : ∀ attempt ∈ run.attempts, attempt.Made calls.statusChecker.isSome
  attempted_eq : run.clustersAttempted = run.writtenIds.length + (run.skippedPoisoned +
    run.skippedSentinel + run.skippedDistillError + run.skippedIoError +
    run.skippedInternalError + run.skippedExisting)
  length_attempts : run.attempts.length = run.clustersAttempted
  written_eq : written run.attempts = run.writtenIds
  written_le : run.writtenIds.length ≤ cfg.maxWritesPerRun
  attempted_le : run.clustersAttempted ≤ cfg.effectiveMaxClustersPerRun
  unspent : ∀ count < run.attempts.length,
    (written (run.attempts.take count)).length < cfg.maxWritesPerRun

/-- The attempts are the first of the eligible clusters, and others are left out only with a
budget exhausted. -/
structure Run.Spent (cfg : ForgeConfig) (calls : Callables κ δ σ) (eligible : List κ)
    (before after : σ) (run : Run κ δ) : Prop where
  accounted : run.Accounted cfg calls before after
  attempted : run.attempts.map Attempt.cluster <+: eligible
  exhausted : run.attempts.length < eligible.length →
    run.writtenIds.length = cfg.maxWritesPerRun ∨
      run.clustersAttempted = cfg.effectiveMaxClustersPerRun

theorem Callables.ran_append {log more : List (Call κ δ)} : calls.Ran (log ++ more) before after ↔
    ∃ middle, calls.Ran log before middle ∧ calls.Ran more middle after := by
  induction log generalizing before with
  | nil => simp [Ran]
  | cons call log ih =>
    simp only [List.cons_append, Ran, ih]
    grind

/-- What one attempt does. -/
theorem Callables.made_attempt (calls : Callables κ δ σ) (cluster : κ) (world : σ) :
    let result := calls.attempt cluster world
    result.1.cluster = cluster ∧ result.1.Made calls.statusChecker.isSome ∧
      calls.Ran result.1.calls world result.2 := by
  unfold attempt
  split
  next raised after isAnswer => exact ⟨rfl, .notDistilled cluster raised, after, isAnswer, rfl⟩
  next doc distilled isDistilled =>
    dsimp only
    split
    next isNone =>
      have noChecker : calls.statusChecker.isSome = false := by rw [isNone]; rfl
      exact ⟨rfl, .unchecked cluster doc _ noChecker, distilled, isDistilled, _, rfl, rfl⟩
    next statusChecker isChecker =>
      split
      next raised after isAnswer =>
        exact ⟨rfl, .notChecked cluster doc raised, distilled, isDistilled, after,
          ⟨_, isChecker, isAnswer⟩, rfl⟩
      next status checked isStatus =>
        have isCheck : calls.Answers distilled checked (.check doc.docId (.ok status)) :=
          ⟨_, isChecker, isStatus⟩
        split
        next isOther =>
          obtain ⟨status, rfl⟩ := Option.ne_none_iff_exists'.mp isOther.1
          exact ⟨rfl, .existing cluster doc fun same => isOther.2 (congrArg some same), distilled,
            isDistilled, checked, isCheck, rfl⟩
        next isOpen =>
          have isOpen : status = none ∨ status = some "candidate" := by
            simpa [Classical.or_iff_not_imp_left] using isOpen
          exact ⟨rfl, .checked cluster doc _ isOpen, distilled, isDistilled, checked, isCheck,
            _, rfl, rfl⟩

theorem Run.attempts_enter : (run.enter attempt).attempts = run.attempts ++ [attempt] := by
  rw [enter]
  cases attempt.exit <;> rfl

/-- An attempt that both budgets allow is accounted once. -/
theorem Run.Accounted.enter (accounted : run.Accounted cfg calls before middle)
    (writes : run.writtenIds.length < cfg.maxWritesPerRun)
    (attempts : run.clustersAttempted < cfg.effectiveMaxClustersPerRun)
    (isMade : attempt.Made calls.statusChecker.isSome)
    (isRan : calls.Ran attempt.calls middle after) :
    (run.enter attempt).Accounted cfg calls before after := by
  obtain ⟨ran, made, attempted_eq, length_attempts, written_eq, _, _, unspent⟩ := accounted
  have ran : calls.Ran ((run.enter attempt).attempts.flatMap Attempt.calls) before after := by
    rw [attempts_enter, List.flatMap_append, List.flatMap_singleton]
    exact Callables.ran_append.mpr ⟨middle, ran, isRan⟩
  have made : ∀ entered ∈ (run.enter attempt).attempts,
      entered.Made calls.statusChecker.isSome := by
    simpa [attempts_enter, or_imp, forall_and] using ⟨made, isMade⟩
  have unspent : ∀ count < (run.enter attempt).attempts.length,
      (written ((run.enter attempt).attempts.take count)).length < cfg.maxWritesPerRun := by
    intro count isLess
    rw [attempts_enter, List.length_append, List.length_singleton] at isLess
    rw [attempts_enter, List.take_append_of_le_length (by omega)]
    rcases Nat.lt_or_eq_of_le (Nat.le_of_lt_succ isLess) with less | rfl
    · exact unspent count less
    · rwa [List.take_length, written_eq]
  refine ⟨ran, made, ?_, ?_, ?_, ?_, ?_, unspent⟩ <;> clear ran made unspent isMade isRan <;>
    rw [Run.enter] <;> cases isExit : attempt.exit <;> simp_all [account, written] <;> omega

theorem Run.Accounted.spent_distillFrom (rest : List κ) {earlier : List κ}
    (accounted : run.Accounted cfg calls before middle)
    (entered : run.attempts.map Attempt.cluster = earlier) :
    let result := distillFrom cfg calls run rest middle
    result.1.Spent cfg calls (earlier ++ rest) before result.2 := by
  induction rest generalizing earlier run middle with
  | nil => exact ⟨accounted, by simp [distillFrom, entered], by simp [distillFrom, ← entered]⟩
  | cons cluster rest ih =>
    have stopped (exhausted : run.writtenIds.length = cfg.maxWritesPerRun ∨
        run.clustersAttempted = cfg.effectiveMaxClustersPerRun) :
        run.Spent cfg calls (earlier ++ cluster :: rest) before middle :=
      ⟨accounted, ⟨_, by rw [entered]⟩, fun _ => exhausted⟩
    rw [distillFrom]
    split
    next full => exact stopped (.inl (Nat.le_antisymm accounted.written_le full))
    split
    next full => exact stopped (.inr (Nat.le_antisymm accounted.attempted_le full))
    next writes attempts =>
    obtain ⟨isCluster, isMade, isRan⟩ := calls.made_attempt cluster middle
    have accounted := accounted.enter (Nat.not_le.mp writes) (Nat.not_le.mp attempts) isMade isRan
    simpa [attempts_enter, entered, isCluster] using ih accounted rfl

end

/-- A Forge run spends its two budgets and no more, whatever the outcomes of its steps are. -/
theorem run_spends_budgets {κ δ σ : Type} (cfg : ForgeConfig) (calls : Callables κ δ σ)
    (eligible : List κ) (world : σ) :
    let result := runForgeDistill cfg calls eligible world
    result.1.Spent cfg calls eligible world result.2 := by
  have accounted : Run.Accounted cfg calls world world ({} : Run κ δ) := by
    constructor <;> simp [written, Callables.Ran]
  exact accounted.spent_distillFrom eligible rfl

end Caura.Forge
