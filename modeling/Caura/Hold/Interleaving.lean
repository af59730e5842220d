import Caura.Hold.Decision
import Caura.Transition.Core

/-!
# Writes against changing settings

Writes of several processes interleave with changes of one tenant's settings.  A
write resolves the settings from its process's cache, which may be arbitrarily stale,
decides, and inserts in a transaction of its own.  The transaction compares the
versions that its payloads claim with the committed one.  On a refusal the write loads
the settings again, decides again and inserts once more.  An auto-chunked write then
inserts its chunks in a second transaction.

With each row goes what was committed at some moment of the transaction that inserted
it.  The claim makes a row live only under settings that allow it.  The chunks claim
nothing, so they need that no settings which hold their agent are committed between
the check of the parent and their own transaction.
-/

namespace Caura.Hold

open Caura.Transition List Option Function

/-! ## Committed settings -/

/-- The committed settings, with those before them, oldest first.  A version is a
position. -/
structure History where
  older : List Settings := []
  committed : Settings
  deriving DecidableEq

namespace History

/-- The settings with a version. -/
def version (history : History) (number : Nat) : Option Settings :=
  (history.older ++ [history.committed])[number]?

/-- `organization_settings_read`: the committed settings and their version. -/
def read (history : History) : ResolvedConfig :=
  { settings := history.committed, settingsVersion := some history.older.length }

/-- Commit new settings. -/
def commit (history : History) (settings : Settings) : History :=
  { older := history.older ++ [history.committed], committed := settings }

end History

/-! ## Tasks -/

/-- Which insert of a write: the first, the one decided again, or that of the
chunks. -/
inductive Stage where
  | first
  | again
  | chunks
  deriving DecidableEq, Repr

/-- What a write does next.  An open transaction carries what was committed since it
began. -/
inductive Phase where
  | ready (stage : Stage) (drafts : List Write.Draft)
  | opened (stage : Stage) (drafts : List Write.Draft) (during : List Settings)
  | checked (stage : Stage) (drafts : List Write.Draft) (during : List Settings)
  | refused (drafts : List Write.Draft)
  | done
  deriving DecidableEq

/-- A transaction that is open sees the settings committed. -/
def Phase.observe (settings : Settings) : Phase → Phase
  | .opened stage drafts during => .opened stage drafts (settings :: during)
  | .checked stage drafts during => .checked stage drafts (settings :: during)
  | phase => phase

/-- An inserted row, with what was committed during its transaction. -/
structure Stored where
  payload : Payload
  stage : Stage
  during : List Settings
  deriving DecidableEq

/-- The tenant's settings, the caches of the processes, the writes under way and the
rows they inserted. -/
structure World where
  history : History
  caches : Nat → Option ResolvedConfig
  tasks : Nat → Option (Write × Phase)
  rows : List Stored

/-- A tenant with its first settings and nothing written. -/
def World.initial (settings : Settings) : World :=
  { history := { committed := settings }, caches := fun _ => none,
    tasks := fun _ => none, rows := [] }

/-- A step: new settings, a load into a cache that began under some version, an
eviction, or a step of a write. -/
inductive Happening where
  | updateSettings (settings : Settings)
  | cache (process version : Nat)
  | evict (process : Nat)
  | start (task : Nat) (write : Write)
  | openTransaction (task : Nat)
  | check (task : Nat)
  | commit (task : Nat) (swallowed : List Nat)
  | reload (task : Nat)
  | fail (task : Nat)
  deriving DecidableEq

/-- `_assert_settings_unchanged`: every claim is of the committed version. -/
def settingsUnchanged (history : History) (drafts : List Write.Draft) : Bool :=
  (drafts.filterMap fun draft => draft.1.settingsVersion).all fun claimed =>
    claimed == history.older.length

/-- The insert may leave out items that an earlier attempt committed. -/
def Write.swallows (write : Write) (stage : Stage) : Bool :=
  match write.path with
  | .bulk _ => true
  | _ => stage == .chunks

/-- The items of a batch that are inserted. -/
def insertedDrafts (drafts : List Write.Draft) (swallowed : List Nat) : List Write.Draft :=
  (drafts.zipIdx.filter fun entry => !swallowed.contains entry.2).map Prod.fst

/-- What a write does after it committed: the chunks of a parent, or nothing. -/
def Write.afterCommit (write : Write) (stage : Stage) (drafts : List Write.Draft) : Phase :=
  match write.path, stage, drafts with
  | .autoChunk _ _ _, .first, [(parent, _)] | .autoChunk _ _ _, .again, [(parent, _)] =>
    .ready .chunks (write.chunkPayloads parent)
  | _, _, _ => .done

namespace World

variable (trust : String → Option Int)

/-- `resolve_config`: from the cache, else from storage. -/
def resolveConfig (world : World) (process : Nat) : ResolvedConfig :=
  (world.caches process).getD world.history.read

/-- Set what a write does next. -/
def setTask (world : World) (task : Nat) (write : Write) (phase : Phase) : World :=
  { world with tasks := update world.tasks task (some (write, phase)) }

/-- Set what a process has cached. -/
def setCache (world : World) (process : Nat) (config : Option ResolvedConfig) : World :=
  { world with caches := update world.caches process config }

theorem tasks_setTask (world : World) (task other : Nat) (write : Write) (phase : Phase) :
    (world.setTask task write phase).tasks other =
      if other = task then some (write, phase) else world.tasks other :=
  update_apply ..

theorem caches_setCache (world : World) (process other : Nat) (config : Option ResolvedConfig) :
    (world.setCache process config).caches other =
      if other = process then config else world.caches other :=
  update_apply ..

/-- Commit settings, which every open transaction may come to see. -/
def updateSettings (world : World) (settings : Settings) : World :=
  { world with
    history := world.history.commit settings
    tasks := fun task => (world.tasks task).map fun entry =>
      (entry.1, entry.2.observe settings) }

/-- A step of the system, if it is enabled. -/
def step : Step World Happening
  | world, .updateSettings settings => some (world.updateSettings settings)
  | world, .cache process version =>
    (world.history.version version).map fun settings =>
      world.setCache process (some { settings, settingsVersion := some version })
  | world, .evict process => some (world.setCache process none)
  | world, .start task write =>
    match world.tasks task with
    | none =>
      let config := world.resolveConfig write.process
      some ((world.setCache write.process (some config)).setTask task write
        (.ready .first (write.decide trust config write.drafts)))
    | some _ => none
  | world, .openTransaction task =>
    match world.tasks task with
    | some (write, .ready stage drafts) =>
      some (world.setTask task write (.opened stage drafts [world.history.committed]))
    | _ => none
  | world, .check task =>
    match world.tasks task with
    | some (write, .opened stage drafts during) =>
      some (world.setTask task write (if settingsUnchanged world.history drafts then
          .checked stage drafts during
        else if stage = .first then .refused drafts
        else .done))
    | _ => none
  | world, .commit task swallowed =>
    match world.tasks task with
    | some (write, .checked stage drafts during) =>
      if swallowed.isEmpty || write.swallows stage then
        some { world.setTask task write (write.afterCommit stage drafts) with
          rows := world.rows ++ (insertedDrafts drafts swallowed).map fun draft =>
            { payload := draft.1, stage, during } }
      else
        none
    | _ => none
  | world, .reload task =>
    match world.tasks task with
    | some (write, .refused drafts) =>
      let config := world.history.read
      some ((world.setCache write.process (some config)).setTask task write
        (.ready .again (write.decide trust config drafts)))
    | _ => none
  | world, .fail task =>
    match world.tasks task with
    | some (write, _) => some (world.setTask task write .done)
    | none => none

end World

/-! ## Claims -/

variable {trust : String → Option Int} {write : Write} {drafts : List Write.Draft}

section Claims

variable {history : History}

theorem version_committed (history : History) :
    history.version history.older.length = some history.committed := by
  simp [History.version]

/-- A version keeps its settings. -/
theorem version_commit {number : Nat} {settings : Settings}
    (known : history.version number = some settings) (newer : Settings) :
    (history.commit newer).version number = some settings := by
  have bound := (List.getElem?_eq_some_iff.mp known).1
  unfold History.version History.commit
  rwa [List.getElem?_append_left bound]

/-- The config is that of some committed settings. -/
def History.Loaded (history : History) (config : ResolvedConfig) : Prop :=
  ∃ number, config.settingsVersion = some number ∧
    history.version number = some config.settings

theorem loaded_read : history.Loaded history.read :=
  ⟨history.older.length, rfl, version_committed history⟩

variable {config : ResolvedConfig}

theorem History.Loaded.commit (loaded : history.Loaded config) (newer : Settings) :
    (history.commit newer).Loaded config := by
  obtain ⟨number, versionEq, known⟩ := loaded
  exact ⟨number, versionEq, version_commit known newer⟩

/-- The draft is of the write's agent and fleet, and it is in quarantine or has no
hold. -/
structure Write.Owns (write : Write) (draft : Write.Draft) : Prop where
  agent : draft.1.agentId = write.agentId
  fleet : draft.1.fleetId = write.fleetId
  hold : draft.1.status = .quarantined ∨ draft.1.hold = none

/-- The draft is in quarantine, or claims settings that allow it. -/
structure Write.Claims (trust : String → Option Int) (history : History) (write : Write)
    (draft : Write.Draft) : Prop extends write.Owns draft where
  claim : draft.1.status = .quarantined ∨
    ∃ number settings, draft.1.settingsVersion = some number ∧
      history.version number = some settings ∧
      ¬ settings.Holds trust write.agentId write.fleetId

variable {draft : Write.Draft}

theorem Write.Claims.commit (claims : write.Claims trust history draft) (newer : Settings) :
    write.Claims trust (history.commit newer) draft := by
  refine ⟨claims.toOwns, claims.claim.imp_right ?_⟩
  rintro ⟨number, settings, versionEq, known, allowed⟩
  exact ⟨number, settings, versionEq, version_commit known newer, allowed⟩

theorem owns_drafts (write : Write) : ∀ draft ∈ write.drafts, write.Owns draft := by
  intro draft draftMem
  unfold Write.drafts at draftMem
  split at draftMem
  · cases mem_singleton.mp draftMem
    exact ⟨rfl, rfl, .inr rfl⟩
  · cases mem_singleton.mp draftMem
    exact ⟨rfl, rfl, .inr rfl⟩
  · obtain ⟨item, _, rfl⟩ := mem_map.mp draftMem
    exact ⟨rfl, rfl, .inr rfl⟩

/-- A decision leaves each draft in quarantine or with a claim. -/
theorem claims_decide (loaded : history.Loaded config) (owns : ∀ draft ∈ drafts, write.Owns draft) :
    ∀ draft ∈ write.decide trust config drafts, write.Claims trust history draft := by
  intro decided decidedMem
  obtain ⟨number, versionEq, known⟩ := loaded
  obtain ⟨⟨payload, gate⟩, draftMem, rfl⟩ := mem_map.mp decidedMem
  obtain ⟨agentEq, fleetEq, hold⟩ := owns _ draftMem
  dsimp only at agentEq fleetEq hold ⊢
  cases decision : gate.or
      (holdFor trust write.agentId write.fleetId config false write.captured) with
  | some record => exact ⟨⟨agentEq, fleetEq, .inl rfl⟩, .inl rfl⟩
  | none =>
    have undecided := (or_eq_none_iff.mp decision).2
    have allowed := not_holds_of_holdFor undecided
    simp only [Payload.withHold, Payload.claimSettings, Bool.or_false]
    split
    next dropped =>
      have quarantined : payload.status = .quarantined := by
        refine hold.resolve_right fun noHold => ?_
        simp [noHold, versionEq] at dropped
      exact ⟨⟨agentEq, fleetEq, hold⟩, .inl quarantined⟩
    · exact ⟨⟨agentEq, fleetEq, hold⟩, .inr ⟨number, config.settings, versionEq, known, allowed⟩⟩

/-- Where the check passes, the committed settings allow each draft that is not in
quarantine. -/
theorem allowed_of_settingsUnchanged (unchanged : settingsUnchanged history drafts = true)
    (draftMem : draft ∈ drafts) (claims : write.Claims trust history draft)
    (live : draft.1.status ≠ .quarantined) :
    ¬ history.committed.Holds trust write.agentId write.fleetId := by
  obtain ⟨number, settings, versionEq, known, allowed⟩ := claims.claim.resolve_left live
  have claimed : number ∈ drafts.filterMap fun draft => draft.1.settingsVersion :=
    mem_filterMap.mpr ⟨draft, draftMem, versionEq⟩
  have current := all_eq_true.mp unchanged number claimed
  rw [beq_iff_eq] at current
  rw [current, version_committed] at known
  cases known
  exact allowed

end Claims

/-! ## What a step does -/

/-- A step commits settings, changes a cache to something that was loaded, decides on the drafts of
a write, or moves a write on. -/
inductive World.Moved (trust : String → Option Int) (world : World) : Happening → World → Prop
  | settings (settings : Settings) :
      Moved trust world (.updateSettings settings) (world.updateSettings settings)
  | cache {happening : Happening} (process : Nat) {config : Option ResolvedConfig}
      (loaded : ∀ value, config = some value → world.history.Loaded value) :
      Moved trust world happening (world.setCache process config)
  | decide {happening : Happening} {task : Nat} {write : Write} {stage : Stage}
      {config : ResolvedConfig} {drafts : List Write.Draft} (unchunked : stage ≠ .chunks)
      (isConfig : config = world.resolveConfig write.process ∨ config = world.history.read)
      (areDrafts : drafts = write.drafts ∨ world.tasks task = some (write, .refused drafts)) :
      Moved trust world happening
        ((world.setCache write.process (some config)).setTask task write
          (.ready stage (write.decide trust config drafts)))
  | opens {happening : Happening} {task : Nat} {write : Write} {stage : Stage}
      {drafts : List Write.Draft} (entry : world.tasks task = some (write, .ready stage drafts)) :
      Moved trust world happening
        (world.setTask task write (.opened stage drafts [world.history.committed]))
  | checks {happening : Happening} {task : Nat} {write : Write} {stage : Stage}
      {drafts : List Write.Draft} {during : List Settings}
      (entry : world.tasks task = some (write, .opened stage drafts during)) :
      Moved trust world happening
        (world.setTask task write
          (if settingsUnchanged world.history drafts then .checked stage drafts during
          else if stage = .first then .refused drafts
          else .done))
  | commits {happening : Happening} {task : Nat} {write : Write} {stage : Stage}
      {drafts : List Write.Draft} {during : List Settings} (swallowed : List Nat)
      (entry : world.tasks task = some (write, .checked stage drafts during)) :
      Moved trust world happening
        { world.setTask task write (write.afterCommit stage drafts) with
          rows := world.rows ++ (insertedDrafts drafts swallowed).map fun draft =>
            { payload := draft.1, stage, during } }
  | fails {happening : Happening} (task : Nat) (write : Write) :
      Moved trust world happening (world.setTask task write .done)

variable {happening : Happening} {task : Nat} {phase : Phase} {during : List Settings}

theorem World.moved_of_step {world next : World}
    (stepEq : World.step trust world happening = some next) :
    world.Moved trust happening next := by
  revert stepEq
  -- One case for each line of the step function that gives a state, in its order.
  fun_cases World.step trust world happening <;> intro stepEq <;> try cases stepEq
  · exact .settings _
  next process version =>
    obtain ⟨settings, known, rfl⟩ := map_eq_some_iff.mp stepEq
    refine .cache process fun value valueEq => ?_
    cases valueEq
    exact ⟨version, rfl, known⟩
  · exact .cache _ fun value valueEq => by cases valueEq
  · exact .decide (by decide) (.inl rfl) (.inl rfl)
  next entry => exact .opens entry
  next entry => exact .checks entry
  next entry => exact .commits _ entry
  next entry _ => exact .decide (by decide) (.inr rfl) (.inr entry)
  next task write _ _ => exact .fails task write

/-! ## What every run keeps -/

/-- Settings that allow the payload, unless it is in quarantine. -/
def Payload.Allowed (trust : String → Option Int) (payload : Payload)
    (during : List Settings) : Prop :=
  payload.status ≠ .quarantined →
    ∃ settings ∈ during, ¬ settings.Holds trust payload.agentId payload.fleetId

theorem Payload.Allowed.cons {payload : Payload}
    (allowed : payload.Allowed trust during) (settings : Settings) :
    payload.Allowed trust (settings :: during) := by
  intro live
  obtain ⟨earlier, earlierMem, allows⟩ := allowed live
  exact ⟨earlier, .tail _ earlierMem, allows⟩

/-- Up to its check an insert other than the chunks' has its claims, and after it a
moment of its transaction that allows its rows. -/
def Phase.Sound (trust : String → Option Int) (history : History) (write : Write) : Phase → Prop
  | .ready stage drafts => stage ≠ .chunks → ∀ draft ∈ drafts, write.Claims trust history draft
  | .opened stage drafts during =>
    history.committed ∈ during ∧
      (stage ≠ .chunks → ∀ draft ∈ drafts, write.Claims trust history draft)
  | .checked stage drafts during =>
    stage ≠ .chunks → ∀ draft ∈ drafts, write.Owns draft ∧ draft.1.Allowed trust during
  | .refused drafts => ∀ draft ∈ drafts, write.Owns draft
  | .done => True

/-- Caches hold settings that were committed, and every row that is no chunk was
allowed at a moment of its transaction. -/
structure World.Sound (trust : String → Option Int) (world : World) : Prop where
  caches : ∀ process config, world.caches process = some config →
    world.history.Loaded config
  tasks : ∀ task write phase, world.tasks task = some (write, phase) →
    phase.Sound trust world.history write
  rows : ∀ row ∈ world.rows, row.stage ≠ .chunks → row.payload.Allowed trust row.during

theorem mem_of_mem_insertedDrafts {swallowed : List Nat}
    {draft : Write.Draft} (inserted : draft ∈ insertedDrafts drafts swallowed) :
    draft ∈ drafts := by
  obtain ⟨⟨entry, index⟩, entryMem, rfl⟩ := mem_map.mp inserted
  exact fst_mem_of_mem_zipIdx (mem_filter.mp entryMem).1

theorem forall_setTask {world : World} {holds : Write → Phase → Prop} (own : holds write phase)
    (others : ∀ task write phase, world.tasks task = some (write, phase) → holds write phase)
    (other : Nat) (otherWrite : Write) (otherPhase : Phase)
    (entry : (world.setTask task write phase).tasks other = some (otherWrite, otherPhase)) :
    holds otherWrite otherPhase := by
  rw [World.tasks_setTask] at entry
  split at entry
  · cases entry
    exact own
  · exact others other otherWrite otherPhase entry

/-- The rows that a checked insert adds at a stage are allowed if its drafts are. -/
theorem allowed_append (concerns : Stage → Prop) {rows : List Stored} {stage : Stage}
    (swallowed : List Nat)
    (earlier : ∀ row ∈ rows, concerns row.stage → row.payload.Allowed trust row.during)
    (allowed : concerns stage → ∀ draft ∈ drafts, draft.1.Allowed trust during) :
    ∀ row ∈ rows ++ (insertedDrafts drafts swallowed).map fun draft =>
        { payload := draft.1, stage, during },
      concerns row.stage → row.payload.Allowed trust row.during := by
  refine forall_mem_append.mpr ⟨earlier, forall_mem_map.mpr ?_⟩
  intro draft draftMem isStage
  exact allowed isStage draft (mem_of_mem_insertedDrafts draftMem)

variable {world next : World}

namespace World.Sound

theorem initial (settings : Settings) : (World.initial settings).Sound trust where
  caches _ _ cached := by cases cached
  tasks _ _ _ entry := by cases entry
  rows _ rowMem := by cases rowMem

section

variable (sound : world.Sound trust)

include sound

theorem setTask (phaseSound : phase.Sound trust world.history write) :
    (world.setTask task write phase).Sound trust where
  caches := sound.caches
  tasks := forall_setTask phaseSound sound.tasks
  rows := sound.rows

theorem setCache {process : Nat} {config : Option ResolvedConfig}
    (loaded : ∀ value, config = some value → world.history.Loaded value) :
    (world.setCache process config).Sound trust where
  caches other value cached := by
    rw [World.caches_setCache] at cached
    split at cached
    · exact loaded value cached
    · exact sound.caches other value cached
  tasks := sound.tasks
  rows := sound.rows

theorem loaded_resolveConfig (process : Nat) :
    world.history.Loaded (world.resolveConfig process) := by
  unfold World.resolveConfig
  cases cached : world.caches process with
  | none => exact loaded_read
  | some config => exact sound.caches process config cached

theorem updateSettings (settings : Settings) :
    (world.updateSettings settings).Sound trust where
  caches process config cached := (sound.caches process config cached).commit settings
  tasks task write phase entry := by
    obtain ⟨⟨owner, before⟩, found, changed⟩ := map_eq_some_iff.mp entry
    cases changed
    have beforeSound := sound.tasks task owner before found
    cases before with
    | ready stage drafts =>
      exact fun unchunked draft draftMem =>
        (beforeSound unchunked draft draftMem).commit settings
    | opened stage drafts during =>
      exact ⟨.head _, fun unchunked draft draftMem =>
        (beforeSound.2 unchunked draft draftMem).commit settings⟩
    | checked stage drafts during =>
      exact fun unchunked draft draftMem =>
        ⟨(beforeSound unchunked draft draftMem).1,
          (beforeSound unchunked draft draftMem).2.cons settings⟩
    | refused drafts => exact beforeSound
    | done => exact trivial
  rows := sound.rows

end

/-- The next phase after a commit is that of chunks, or the last. -/
theorem sound_afterCommit (trust : String → Option Int) (history : History)
    (write : Write) (stage : Stage) (drafts : List Write.Draft) :
    (write.afterCommit stage drafts).Sound trust history write := by
  unfold Write.afterCommit
  split
  · exact absurd rfl
  · exact absurd rfl
  · exact trivial

theorem step (sound : world.Sound trust)
    (stepEq : World.step trust world happening = some next) : next.Sound trust := by
  cases World.moved_of_step stepEq with
  | settings settings => exact sound.updateSettings settings
  | cache process loaded => exact sound.setCache loaded
  | @decide _ task write stage config drafts _ isConfig areDrafts =>
    have loaded : world.history.Loaded config := by
      rcases isConfig with rfl | rfl
      · exact sound.loaded_resolveConfig write.process
      · exact loaded_read
    have owns : ∀ draft ∈ drafts, write.Owns draft := by
      rcases areDrafts with rfl | entry
      · exact owns_drafts write
      · exact sound.tasks _ _ _ entry
    refine (sound.setCache fun value valueEq => ?_).setTask fun _ => ?_
    · cases valueEq
      exact loaded
    · exact claims_decide loaded owns
  | opens entry => exact sound.setTask ⟨mem_singleton.mpr rfl, sound.tasks _ _ _ entry⟩
  | checks entry =>
    obtain ⟨seen, claims⟩ := sound.tasks _ _ _ entry
    apply sound.setTask
    split_ifs with unchanged isFirst
    · intro unchunked draft draftMem
      have claim := claims unchunked draft draftMem
      refine ⟨claim.toOwns, fun live => ⟨_, seen, ?_⟩⟩
      rw [claim.agent, claim.fleet]
      exact allowed_of_settingsUnchanged unchanged draftMem claim live
    · exact fun draft draftMem => (claims (by simp [isFirst]) draft draftMem).toOwns
    · exact trivial
  | commits swallowed entry =>
    refine ⟨sound.caches, forall_setTask (sound_afterCommit ..) sound.tasks, ?_⟩
    refine allowed_append (· ≠ .chunks) swallowed sound.rows fun unchunked draft draftMem => ?_
    exact (sound.tasks _ _ _ entry unchunked draft draftMem).2
  | fails task write => exact sound.setTask trivial

end World.Sound

/-! ## Chunks -/

/-- The write is auto-chunked, its parent passed its check to go live, and its chunks
have no transaction yet. -/
def Phase.AwaitsChunks (write : Write) : Phase → Prop
  | .checked stage drafts _ =>
    stage ≠ .chunks ∧ ∃ draft ∈ drafts, write.chunkPayloads draft.1 ≠ [] ∧
      draft.1.status ≠ .quarantined
  | .ready .chunks drafts => ∃ draft ∈ drafts, draft.1.status ≠ .quarantined
  | _ => False

/-- The condition on a step: new settings do not hold the agent of a write that
still has to insert its chunks. -/
def Undisturbed (trust : String → Option Int) (world : World) : Happening → Prop
  | .updateSettings settings =>
    ∀ task write phase, world.tasks task = some (write, phase) →
      phase.AwaitsChunks write → ¬ settings.Holds trust write.agentId write.fleetId
  | _ => True

/-- Chunks are of the write's agent and fleet, and once their transaction is open it
has a moment that allows them. -/
def Phase.ChunksAllowed (trust : String → Option Int) (write : Write) : Phase → Prop
  | .ready .chunks drafts =>
    ∀ draft ∈ drafts, draft.1.agentId = write.agentId ∧ draft.1.fleetId = write.fleetId
  | .opened .chunks drafts during | .checked .chunks drafts during =>
    ∀ draft ∈ drafts, draft.1.Allowed trust during
  | _ => True

/-- While chunks are waited for, the committed settings allow them, and every inserted
chunk was allowed. -/
structure World.ChunksSound (trust : String → Option Int) (world : World) : Prop where
  waits : ∀ task write phase, world.tasks task = some (write, phase) →
    phase.AwaitsChunks write →
      ¬ world.history.committed.Holds trust write.agentId write.fleetId
  tasks : ∀ task write phase, world.tasks task = some (write, phase) →
    phase.ChunksAllowed trust write
  rows : ∀ row ∈ world.rows, row.stage = .chunks → row.payload.Allowed trust row.during

namespace World.ChunksSound

theorem initial (settings : Settings) : (World.initial settings).ChunksSound trust where
  waits _ _ _ entry := by cases entry
  tasks _ _ _ entry := by cases entry
  rows _ rowMem := by cases rowMem

section

variable (sound : world.ChunksSound trust)

include sound

theorem setTask (waits : phase.AwaitsChunks write →
      ¬ world.history.committed.Holds trust write.agentId write.fleetId)
    (allowed : phase.ChunksAllowed trust write) :
    (world.setTask task write phase).ChunksSound trust where
  waits := forall_setTask waits sound.waits
  tasks := forall_setTask allowed sound.tasks
  rows := sound.rows

theorem setCache (process : Nat) (config : Option ResolvedConfig) :
    (world.setCache process config).ChunksSound trust :=
  ⟨sound.waits, sound.tasks, sound.rows⟩

theorem updateSettings {settings : Settings}
    (undisturbed : Undisturbed trust world (.updateSettings settings)) :
    (world.updateSettings settings).ChunksSound trust where
  waits task write phase entry awaits := by
    obtain ⟨⟨owner, before⟩, found, changed⟩ := map_eq_some_iff.mp entry
    cases changed
    refine undisturbed task owner before found ?_
    cases before <;> exact awaits
  tasks task write phase entry := by
    obtain ⟨⟨owner, before⟩, found, changed⟩ := map_eq_some_iff.mp entry
    cases changed
    have allowed := sound.tasks task owner before found
    cases before with
    | ready stage drafts => exact allowed
    | opened stage drafts during | checked stage drafts during =>
      cases stage with
      | chunks => exact fun draft draftMem => (allowed draft draftMem).cons settings
      | first | again => exact trivial
    | refused drafts | done => exact trivial
  rows := sound.rows

end

/-- A chunk is its parent without the claim. -/
theorem eq_of_mem_chunkPayloads {parent : Payload} {draft : Write.Draft}
    (chunk : draft ∈ write.chunkPayloads parent) :
    draft.1 = { parent with settingsVersion := none } := by
  unfold Write.chunkPayloads at chunk
  split at chunk
  · rw [(mem_replicate.mp chunk).2]
  · cases chunk

/-- What a commit leads to waits for chunks only if the parent did. -/
theorem afterCommit_spec {stage : Stage}
    (phaseSound : (Phase.checked stage drafts during).Sound trust world.history write) :
    ((write.afterCommit stage drafts).AwaitsChunks write →
        (Phase.checked stage drafts during).AwaitsChunks write) ∧
      (write.afterCommit stage drafts).ChunksAllowed trust write := by
  have ofParent : ∀ parent gate, stage ≠ .chunks → drafts = [(parent, gate)] →
      ((Phase.ready .chunks (write.chunkPayloads parent)).AwaitsChunks write →
        (Phase.checked stage drafts during).AwaitsChunks write) ∧
      (Phase.ready .chunks (write.chunkPayloads parent)).ChunksAllowed trust write := by
    intro parent gate unchunked draftsEq
    have parentMem : (parent, gate) ∈ drafts := by
      rw [draftsEq]
      exact .head _
    constructor
    · rintro ⟨chunk, chunkMem, live⟩
      rw [eq_of_mem_chunkPayloads chunkMem] at live
      exact ⟨unchunked, (parent, gate), parentMem, ne_nil_of_mem chunkMem, live⟩
    · intro chunk chunkMem
      have owns := (phaseSound unchunked _ parentMem).1
      rw [eq_of_mem_chunkPayloads chunkMem]
      exact ⟨owns.agent, owns.fleet⟩
  unfold Write.afterCommit
  split
  next parent gate _ => exact ofParent parent gate (by simp) rfl
  next parent gate _ => exact ofParent parent gate (by simp) rfl
  · exact ⟨False.elim, trivial⟩

theorem step (sound : world.ChunksSound trust) (whole : world.Sound trust)
    (undisturbed : Undisturbed trust world happening)
    (stepEq : World.step trust world happening = some next) : next.ChunksSound trust := by
  cases World.moved_of_step stepEq with
  | settings settings => exact sound.updateSettings undisturbed
  | cache process _ => exact sound.setCache process _
  | @decide _ _ _ stage _ _ unchunked _ _ =>
    cases stage with
    | first | again => exact (sound.setCache _ _).setTask False.elim trivial
    | chunks => exact absurd rfl unchunked
  | @opens _ _ _ stage _ entry =>
    refine sound.setTask False.elim ?_
    cases stage with
    | first | again => exact trivial
    | chunks =>
      intro draft draftMem live
      obtain ⟨agentEq, fleetEq⟩ := sound.tasks _ _ _ entry draft draftMem
      refine ⟨world.history.committed, mem_singleton.mpr rfl, ?_⟩
      rw [agentEq, fleetEq]
      exact sound.waits _ _ _ entry ⟨draft, draftMem, live⟩
  | @checks _ _ _ stage _ _ entry =>
    have claims := (whole.tasks _ _ _ entry).2
    have allowed := sound.tasks _ _ _ entry
    split_ifs with unchanged
    · refine sound.setTask ?_ ?_
      · rintro ⟨unchunked, draft, draftMem, _, live⟩
        exact allowed_of_settingsUnchanged unchanged draftMem (claims unchunked draft draftMem) live
      · cases stage <;> exact allowed
    · exact sound.setTask False.elim trivial
    · exact sound.setTask False.elim trivial
  | commits swallowed entry =>
    obtain ⟨waited, allowed⟩ := afterCommit_spec (whole.tasks _ _ _ entry)
    refine ⟨forall_setTask (fun awaits => ?_) sound.waits, forall_setTask allowed sound.tasks,
      allowed_append (· = .chunks) swallowed sound.rows ?_⟩
    · exact sound.waits _ _ _ entry (waited awaits)
    · rintro rfl
      exact sound.tasks _ _ _ entry
  | fails task write => exact sound.setTask False.elim trivial

end World.ChunksSound

/-! ## Runs -/

/-- In every run a row that is no chunk, if it went live, was inserted by a transaction
during which some committed settings allow it.  So was every chunk, in every run in
which no settings that hold its agent are committed between the check of its parent
and its own transaction. -/
theorem live_rows_allowed (trust : String → Option Int) (settings : Settings)
    {happenings : List Happening} {world : World}
    (runEq : run (World.step trust) (World.initial settings) happenings = some world) :
    (∀ row ∈ world.rows, row.stage ≠ .chunks → row.payload.Allowed trust row.during) ∧
      (GuardedRun (World.step trust) (Undisturbed trust) (World.initial settings)
        happenings → ∀ row ∈ world.rows, row.payload.Allowed trust row.during) := by
  have sound : world.Sound trust :=
    invariant_of_run (fun _ _ _ before stepEq => before.step stepEq)
      (World.Sound.initial settings) runEq
  refine ⟨sound.rows, fun undisturbed row rowMem => ?_⟩
  have both : world.Sound trust ∧ world.ChunksSound trust := by
    apply invariant_of_guardedRun ?_
      ⟨World.Sound.initial settings, World.ChunksSound.initial settings⟩ undisturbed runEq
    rintro source happening target ⟨whole, chunks⟩ guarded stepEq
    exact ⟨whole.step stepEq, chunks.step whole guarded stepEq⟩
  by_cases chunk : row.stage = .chunks
  · exact both.2.rows row rowMem chunk
  · exact both.1.rows row rowMem chunk

/-- Every agent has trust 0. -/
def noTrust : String → Option Int :=
  fun _ => some 0

/-- An auto-chunked write with two chunks. -/
def longWrite : Write :=
  { process := 0, agentId := "a", fleetId := none,
    path := .autoChunk .active false 2 }

/-- The write inserts its parent; then settings are committed; then it inserts its
chunks. -/
def parentThenSettings (settings : Settings) : List Happening :=
  [.start 0 longWrite, .openTransaction 0, .check 0, .commit 0 [],
    .updateSettings settings, .openTransaction 0, .check 0, .commit 0 []]

/-- Settings that hold nothing disturb no write. -/
theorem undisturbed_parentThenSettings (world : World) :
    ∀ happening ∈ parentThenSettings {}, Undisturbed noTrust world happening := by
  have noneHeld : ∀ agentId fleetId, ¬ Settings.Holds noTrust {} agentId fleetId := by
    intro agentId fleetId holds
    cases fleetId <;> simp [Settings.Holds, quarantineBelowTrust] at holds
  intro happening happeningMem
  cases happening with
  | updateSettings settings =>
    have unset : settings = {} := by simpa [parentThenSettings] using happeningMem
    exact fun _ write _ _ _ => unset ▸ noneHeld write.agentId write.fleetId
  | _ => exact trivial

/-- The parent and both chunks go live, each under settings that allow it. -/
theorem live_rows_allowed_undisturbed :
    ((run (World.step noTrust) (World.initial {}) (parentThenSettings {})).map
        fun world => world.rows.map fun row => row.payload.status) =
      some [.active, .active, .active] ∧
    ∀ world, run (World.step noTrust) (World.initial {}) (parentThenSettings {}) =
        some world → ∀ row ∈ world.rows, row.payload.Allowed noTrust row.during :=
  ⟨by decide, fun _ runEq => (live_rows_allowed noTrust {} runEq).2
    (guardedRun_of_forall undisturbed_parentThenSettings _)⟩

/-- Settings that hold every agent, committed after the parent, do not reach the
chunks: they go live in a transaction during which only those settings are
committed. -/
theorem chunks_live_against_settings : (run (World.step noTrust) (World.initial {})
        (parentThenSettings { belowTrust := some 1 })).isSome = true ∧
      ∀ world, run (World.step noTrust) (World.initial {})
          (parentThenSettings { belowTrust := some 1 }) = some world →
        ∃ row ∈ world.rows, row.stage = .chunks ∧ ¬ row.payload.Allowed noTrust row.during := by
  unfold Payload.Allowed
  decide +kernel

end Caura.Hold
