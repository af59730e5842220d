import Caura.Memory.Order

/-!
# Which memory beats which

What a contradiction verdict leaves in the store is a supersedes edge or a
conflict record.  `Defeats` is the relation the two stand for: a row beats the
row its edge names, and the newer side of a record beats the older one, unless
the record was dismissed or its verdict never applied.

The session rollback, the undo paths and the successor lookup each decide from
the store whether a row is beaten, in queries of their own.  They are compared
with this relation.
-/

namespace Caura.Memory

open Caura.Value

namespace Conflict

/-- The record joins the two memories, on either side. -/
def joins (record : Conflict) (first second : Uuid) : Prop :=
  record.newMemoryId = first ∧ record.oldMemoryId = second ∨
    record.newMemoryId = second ∧ record.oldMemoryId = first

instance (record : Conflict) (first second : Uuid) : Decidable (record.joins first second) := by
  unfold joins
  infer_instance

/-- The record's verdict stands: it was applied and nobody dismissed it. -/
def stands (record : Conflict) : Bool :=
  record.standing && record.verdictApplied

end Conflict

/-- A record whose verdict stands says that `loser` lost to the newer
`winner`. -/
def RecordedLoss (conflicts : Conflicts) (tenantId : String) (winner loser : Row) : Prop :=
  Older loser winner ∧
    ∃ record ∈ conflicts.rows, record.tenantId = tenantId ∧
      record.stands = true ∧ record.joins winner.id loser.id

instance (conflicts : Conflicts) (tenantId : String) (winner loser : Row) :
    Decidable (RecordedLoss conflicts tenantId winner loser) := by
  unfold RecordedLoss
  infer_instance

/-- `winner` beats `loser`, by its edge or by a record. -/
def Defeats (conflicts : Conflicts) (tenantId : String) (winner loser : Row) : Prop :=
  winner.supersedesId = some loser.id ∨
    RecordedLoss conflicts tenantId winner loser

instance (conflicts : Conflicts) (tenantId : String) (winner loser : Row) :
    Decidable (Defeats conflicts tenantId winner loser) := by
  unfold Defeats
  infer_instance

end Caura.Memory
