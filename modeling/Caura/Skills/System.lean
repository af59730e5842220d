import Caura.Skills.Composition
import Caura.Skills.Promoter
import Caura.Transition.Threads

/-!
# Inbox calls, promoter ticks and the Forge worker together

The threads of the system are inbox calls, ticks of the promoter and writes of the Forge
worker; they share the documents of a tenant and take their steps in any order.

A step leaves the documents alone or changes one of them: a call writes over the status
that it decided on, a tick flips a candidate, and the worker writes over nothing or a
candidate.  What a thread knows of the documents that it has read follows its own steps.
-/

namespace Caura.Skills

open Caura.Transition Option

/-! ## Threads -/

/-- A call on the inbox, a tick of the promoter or a write of the Forge worker. -/
inductive Thread
  | inbox (call : Call) (phase : Phase)
  | tick (settings : TickSettings) (phase : TickPhase)
  | forge (cluster : Distilled) (isDone : Bool)

/-- What starts a thread. -/
inductive Request
  | inbox (call : Call)
  | tick (settings : TickSettings)
  | forge (cluster : Distilled)

/-- Where it starts. -/
def Request.thread : Request → Thread
  | .inbox call => .inbox call .loading
  | .tick settings => .tick settings .querying
  | .forge cluster => .forge cluster false

section System

variable (platform : Platform) (patterns : Patterns)

/-- One step of a thread. -/
def Thread.act (store : Documents) (answer : TickAnswer) : Thread → Option (Documents × Thread)
  | .inbox call phase =>
    (call.advance platform patterns store answer.toAnswer phase).map fun moved =>
      (moved.1, .inbox call moved.2)
  | .tick settings phase =>
    (tickStep platform patterns store settings answer phase).map fun moved =>
      (moved.1, .tick settings moved.2)
  | .forge cluster false =>
    match writeCandidate platform patterns store cluster answer.now with
    | .ok after => some (after, .forge cluster true)
    | .error _ => some (store, .forge cluster true)
  | .forge _ true => none

/-- The system of a tenant. -/
def skillSystem : ThreadSystem Documents Thread Request TickAnswer where
  init := Request.thread
  act store thread answer := thread.act platform patterns store answer

/-- What a thread knows of the documents that it has read. -/
def Thread.Known : Thread → Prop
  | .inbox call phase => phase.Composed platform patterns call
  | .tick settings (.flipping row target _) =>
    Verdict platform patterns settings row.2.data target
  | _ => True

end System

/-- A document that a thread changes: its id, and what it then is. -/
inductive Change (store : Documents) (now : String) : Thread → String → Document → Prop
  | write (call : Call) (loaded : Document) (write : PendingWrite)
      (has : store.Has call.slug write.decidedOn) :
      Change store now (.inbox call (.writing loaded write)) call.slug ⟨write.fleetId, write.data⟩
  | flip (settings : TickSettings) (row : String × Document) (target : String)
      (rows : List (String × Document)) (stored : Document) (isStored : store row.1 = some stored)
      (isCandidate : stored.hasStatus "candidate" = true) :
      Change store now (.tick settings (.flipping row target rows)) row.1
        { stored with data := flipped now target stored.data }
  | forge (cluster : Distilled) (doc : Document)
      (replaced : store cluster.docId = none ∨ store.Has cluster.docId "candidate")
      (texts : SameTexts doc.data (cluster.data now))
      (status : doc.hasStatus "candidate" = true ∨ doc.hasStatus "quarantined" = true) :
      Change store now (.forge cluster false) cluster.docId doc

/-! ## Steps -/

variable {platform : Platform} {patterns : Patterns} {store : Documents} {thread : Thread}

section Steps

variable {after : Documents} {answer : TickAnswer} {next : Thread}

/-- A step of the worker is its last, whether its write lands or not. -/
theorem forge_of_act {cluster : Distilled} {isDone : Bool}
    (acted : (Thread.forge cluster isDone).act platform patterns store answer =
      some (after, next)) :
    next = .forge cluster true ∧ isDone = false ∧
      (after = store ∨ writeCandidate platform patterns store cluster answer.now = .ok after) := by
  cases isDone with
  | true => cases acted
  | false =>
    unfold Thread.act at acted
    dsimp only at acted
    split at acted <;> cases acted
    next written => exact ⟨rfl, rfl, .inr written⟩
    · exact ⟨rfl, rfl, .inl rfl⟩

/-- A step leaves the documents alone or changes one of them. -/
theorem change_of_act (acted : thread.act platform patterns store answer = some (after, next)) :
    after = store ∨ ∃ id doc, Change store answer.now thread id doc ∧
      after = Function.update store id (some doc) := by
  cases thread with
  | inbox call phase =>
    obtain ⟨⟨_, following⟩, advanced, same⟩ := map_eq_some_iff.mp acted
    cases same
    cases Call.moved_of_advance advanced with
    | read next handled | refused raised => exact .inl rfl
    | wrote loaded write isWriting has =>
      subst isWriting
      exact .inr ⟨_, _, .write call loaded write has, rfl⟩
  | tick settings phase =>
    obtain ⟨⟨_, following⟩, stepped, same⟩ := map_eq_some_iff.mp acted
    cases same
    cases tickMoved_of_tickStep stepped with
    | queried rows isQuerying areRows | dropped next isFree areRows => exact .inl rfl
    | judged row target rows isJudging verdict => exact .inl rfl
    | flipped row target rows isFlipping stored isStored isCandidate =>
      subst isFlipping
      exact .inr ⟨_, _, .flip settings row target rows stored isStored isCandidate, rfl⟩
  | forge cluster isDone =>
    obtain ⟨_, rfl, unchanged | written⟩ := forge_of_act acted
    · exact .inl unchanged
    · obtain ⟨doc, isAfter, replaced, texts, status⟩ := of_writeCandidate written
      exact .inr ⟨_, doc, .forge cluster doc replaced texts status, isAfter⟩

/-- What has become an inbox call by a step was that call before. -/
theorem inbox_of_act {call : Call} {phase : Phase}
    (acted : thread.act platform patterns store answer = some (after, .inbox call phase)) :
    ∃ before, thread = .inbox call before ∧
      call.advance platform patterns store answer.toAnswer before = some (after, phase) := by
  cases thread with
  | inbox other before =>
    obtain ⟨_, advanced, same⟩ := map_eq_some_iff.mp acted
    cases same
    exact ⟨before, rfl, advanced⟩
  | tick settings before =>
    obtain ⟨_, _, same⟩ := map_eq_some_iff.mp acted
    cases same
  | forge cluster isDone => cases (forge_of_act acted).1

/-- What has become a tick by a step was that tick before. -/
theorem tick_of_act {settings : TickSettings} {phase : TickPhase}
    (acted : thread.act platform patterns store answer = some (after, .tick settings phase)) :
    ∃ before, thread = .tick settings before ∧
      tickStep platform patterns store settings answer before = some (after, phase) := by
  cases thread with
  | inbox call before =>
    obtain ⟨_, _, same⟩ := map_eq_some_iff.mp acted
    cases same
  | tick others before =>
    obtain ⟨_, stepped, same⟩ := map_eq_some_iff.mp acted
    cases same
    exact ⟨before, rfl, stepped⟩
  | forge cluster isDone => cases (forge_of_act acted).1

/-- What a thread knows follows its steps. -/
theorem known_of_act (known : thread.Known platform patterns)
    (acted : thread.act platform patterns store answer = some (after, next)) :
    next.Known platform patterns := by
  cases thread with
  | inbox call phase =>
    obtain ⟨⟨_, following⟩, advanced, same⟩ := map_eq_some_iff.mp acted
    cases same
    exact composed_of_moved known (Call.moved_of_advance advanced)
  | tick settings phase =>
    obtain ⟨⟨_, following⟩, stepped, same⟩ := map_eq_some_iff.mp acted
    cases same
    cases tickMoved_of_tickStep stepped with
    | queried rows isQuerying areRows => trivial
    | dropped next isFree areRows =>
      cases following with
      | flipping row target rows => exact absurd rfl (isFree row target rows)
      | querying | judging rows | finished => trivial
    | judged row target rows isJudging verdict => exact verdict
    | flipped row target rows isFlipping stored isStored isCandidate => trivial
  | forge cluster isDone =>
    cases (forge_of_act acted).1
    trivial

end Steps

/-! ## The status of a changed document -/

section Statuses

variable {now id : String} {doc : Document} {target : String}

theorem hasStatus_flipped {stored : Document} (isTarget : target = "staged" ∨ target = "active") :
    Document.hasStatus { stored with data := flipped now target stored.data } target = true := by
  refine Document.hasStatus_iff.mpr (get_flipped_status _ ?_)
  rcases isTarget with rfl | rfl <;> decide

/-- The target of a tick. -/
theorem target_of_known {settings : TickSettings} {row : String × Document}
    {rows : List (String × Document)}
    (known : (Thread.tick settings (.flipping row target rows)).Known platform patterns) :
    target = "staged" ∨ target = "active" :=
  known.imp_right And.left

/-- Ticks and the worker change only candidates. -/
theorem Change.over_candidate (change : Change store now thread id doc)
    (notInbox : ∀ call phase, thread ≠ .inbox call phase) :
    store id = none ∨ store.Has id "candidate" := by
  cases change with
  | write call loaded write has => exact absurd rfl (notInbox call _)
  | flip settings row target rows stored isStored isCandidate =>
    exact .inr ⟨stored, isStored, isCandidate⟩
  | forge cluster doc replaced texts status => exact replaced

section

variable (known : thread.Known platform patterns) (change : Change store now thread id doc)

include known change

/-- Only the worker leaves a candidate. -/
theorem Change.of_candidate (isCandidate : doc.hasStatus "candidate" = true) :
    ∃ cluster, thread = .forge cluster false ∧ id = cluster.docId ∧
      SameTexts doc.data (cluster.data now) := by
  cases change with
  | write call loaded write has =>
    obtain ⟨status, isTarget, isStatus⟩ := Composed.status known
    cases Document.hasStatus_unique isCandidate (Document.hasStatus_iff.mpr isStatus)
    exact absurd isTarget call.action.candidate_notMem_targets
  | flip settings row target rows stored isStored wasCandidate =>
    have isTarget := target_of_known known
    rw [← Document.hasStatus_unique isCandidate (hasStatus_flipped isTarget)] at isTarget
    exact absurd isTarget (by decide)
  | forge cluster doc replaced texts status => exact ⟨cluster, rfl, rfl, texts⟩

/-- Only an approval and a tick activate. -/
theorem Change.of_active (isActive : doc.hasStatus "active" = true) :
    (∃ call override loaded write, thread = .inbox call (.writing loaded write) ∧
      call.action = .approve override ∧ id = call.slug ∧ doc.data = write.data) ∨
    ∃ settings row rows stored, thread = .tick settings (.flipping row "active" rows) ∧
      id = row.1 ∧ store id = some stored ∧ stored.hasStatus "candidate" = true ∧
      doc.data = flipped now "active" stored.data := by
  cases change with
  | write call loaded write has =>
    obtain ⟨status, isTarget, isStatus⟩ := Composed.status known
    cases Document.hasStatus_unique isActive (Document.hasStatus_iff.mpr isStatus)
    obtain ⟨override, isApproval⟩ := Action.exists_of_active_mem_targets isTarget
    exact .inl ⟨call, override, loaded, write, rfl, isApproval, rfl, rfl⟩
  | flip settings row target rows stored isStored wasCandidate =>
    cases Document.hasStatus_unique isActive (hasStatus_flipped (target_of_known known))
    exact .inr ⟨settings, row, rows, stored, rfl, rfl, isStored, wasCandidate, rfl⟩
  | forge cluster doc replaced texts status =>
    rcases status with isCandidate | isQuarantined
    · exact absurd (Document.hasStatus_unique isActive isCandidate) (by decide)
    · exact absurd (Document.hasStatus_unique isActive isQuarantined) (by decide)

end

end Statuses

/-! ## A mined skill -/

/-- A cluster that passes the gates. -/
def minedSkill (content : String) : Distilled where
  slug := "x"
  name := .str "n"
  description := .str ""
  summary := .str ""
  content := content
  fingerprint := .str "fp"
  clusterSize := 3
  distinctAgents := 3
  windowEnd := "2026-01-01T00:00:00+00:00"

/-- A tick that activates clean skills. -/
def autoTick : TickSettings :=
  { autoPromoteClean := true }

/-- A tick that finds the candidate and its window fresh. -/
def freshAnswer : TickAnswer :=
  { queried := ["forge/x"], windowAge := fun _ => some (0, "0.0") }

/-- A check of the document of an id. -/
def showsDoc (world : Pool Documents Thread) (id : String) (check : Document → Bool) : Bool :=
  (world.store id).any check

end Caura.Skills
