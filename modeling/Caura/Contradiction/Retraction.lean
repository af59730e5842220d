import Caura.Contradiction.Rdf

/-!
# Retracting a verdict that an edge records

After entity extraction a verdict is judged again.  The pair is the one a
supersedes edge joins: the edge of the trigger, or the one edge that points at
the trigger when it has none of its own.  If the pair is still as detection
left it, the triple check would not mark it again and the judge clears it, the
loser is reverted and then the edge is cleared, provided it still points there.

The judge is a language model, so its answer is a parameter.
-/

namespace Caura.Contradiction

open Caura.Memory

/-- `_rdf_object_key`. -/
def rdfObjectKey (text : TextOps) (value : String) : String :=
  text.lower (text.squeeze value)

/-- `_rdf_pass_would_mark`: the triple check for the trigger would mark `other`,
whose status does not matter when it is the loser. -/
def rdfPassWouldMark (text : TextOps) (newMemory other : Row) (otherIsLoser : Bool) : Bool :=
  match singleValueTriple text newMemory with
  | none => false
  | some (subject, predicate, value) =>
    other.deletedAt.isNone && other.subjectEntityId == some subject &&
      (otherIsLoser || Status.live.contains other.status) &&
      (predicateCluster text predicate).contains
        (text.lower (other.predicate.getD "")) &&
      other.fleetId.getD "" == newMemory.fleetId.getD "" &&
      (newMemory.visibility == .other "" || other.visibility == newMemory.visibility) &&
      (newMemory.visibility != .scopeAgent || newMemory.agentId == "" ||
        other.agentId == newMemory.agentId) &&
      other.objectValue.any fun otherValue =>
        rdfObjectKey text value != rdfObjectKey text otherValue

/-- The pair to retract: the row to revert, and the row whose edge is cleared. -/
structure Retraction where
  candidate : Row
  edgeOwner : Row
  deriving DecidableEq

/-- The pair that an edge joins with the trigger, by direction. -/
def edgePair (memories : Memories) (newMemory : Row) : Option Retraction :=
  match newMemory.supersedesId with
  | some target =>
    (getMemory memories target newMemory.tenantId).map fun candidate =>
      { candidate := candidate, edgeOwner := newMemory }
  | none =>
    match findBySupersedesId memories newMemory.tenantId newMemory.id with
    | [owner] => some { candidate := newMemory, edgeOwner := owner }
    | _ => none

/-- The checks before the judge is asked. -/
def Retraction.open (text : TextOps) (newMemory : Row) (pair : Retraction) : Bool :=
  pair.candidate.deletedAt.isNone && pair.candidate.contradicted &&
    pair.edgeOwner.supersedesId == some pair.candidate.id &&
    pair.edgeOwner.id != pair.candidate.id &&
    !(if newMemory.supersedesId.isSome then
        rdfPassWouldMark text newMemory pair.candidate true
      else
        rdfPassWouldMark text newMemory pair.edgeOwner false)

/-- What is to be retracted for the trigger, if anything.  `clears` is the
judge's answer on a winner and a loser. -/
def resolveRetraction (text : TextOps) (enabled : Bool)
    (clears : Row → Row → Bool) (memories : Memories) (newMemory : Row) :
    Option Retraction :=
  if enabled then
    (edgePair memories newMemory).filter fun pair =>
      pair.open text newMemory && clears pair.edgeOwner pair.candidate
  else
    none

/-- The first write: the loser is active again. -/
def revertCandidate (now : Timestamp) (memories : Memories) (pair : Retraction) : Memories :=
  (memoryUpdateStatus now memories pair.candidate.id pair.candidate.tenantId
    { status := .active }).1

/-- The second write: the edge is cleared if it still points at the loser. -/
def clearEdge (memories : Memories) (pair : Retraction) : Memories :=
  (retractSupersedes memories pair.edgeOwner.id pair.edgeOwner.status
    pair.edgeOwner.tenantId pair.candidate.id).1

/-- `_attempt_entity_retraction` as one call: the table it leaves, and whether
it retracted. -/
def attemptEntityRetraction (text : TextOps) (now : Timestamp) (enabled : Bool)
    (clears : Row → Row → Bool) (memories : Memories) (newMemory : Row) :
    Memories × Bool :=
  match resolveRetraction text enabled clears memories newMemory with
  | none => (memories, false)
  | some pair => (clearEdge (revertCandidate now memories pair) pair, true)

theorem revertCandidate_eq (now : Timestamp) (memories : Memories) (pair : Retraction) :
    revertCandidate now memories pair =
      writeStatus memories pair.candidate.id pair.candidate.tenantId .active := by
  rw [revertCandidate, memoryUpdateStatus_plain (by decide)]

end Caura.Contradiction
