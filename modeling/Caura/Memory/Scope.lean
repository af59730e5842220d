import Caura.Memory.Row

/-!
# Read scopes

The predicates that a read conjoins to its query: who may see a row, in which
fleets, from which day on, verified or not.  An argument that is absent, empty or
an empty text restricts nothing, except that a reader without an agent sees no
private row.
-/

namespace Caura.Memory

/-- An optional text argument, where the empty text counts as absent. -/
def given (argument : Option String) : Option String :=
  argument.filter fun text => text != ""

/-- `_visibility_scope_clause`. -/
def visibilityScopeClause (callerAgentId callerTenantId : Option String) (row : Row) : Bool :=
  match given callerAgentId with
  | none => [Visibility.scopeTeam, Visibility.scopeOrg].contains row.visibility
  | some agentId =>
    row.visibility == .scopeOrg || row.visibility == .scopeTeam ||
      (row.visibility == .scopeAgent && row.agentId == agentId &&
        (given callerTenantId).all fun tenantId => row.tenantId == tenantId)

/-- `_fleet_scope_clause`, with organisation-wide rows included. -/
def fleetScopeClause (fleetIds : List String) (strict : Bool) (row : Row) : Bool :=
  (row.fleetId.any fun fleetId => fleetIds.contains fleetId) ||
    (!strict && row.fleetId.isNone) || row.visibility == .scopeOrg

/-- The UTC calendar day of a time. -/
def utcDay (time : Timestamp) : Int :=
  time / 86400000000

/-- `_started_by`: undated, or valid from that day or earlier. -/
def startedBy (validAt : Timestamp) (row : Row) : Bool :=
  row.tsValidStart.all fun start => utcDay start ≤ utcDay validAt

/-- `VERIFIED_STATUSES`. -/
def verifiedStatuses : List Verification :=
  [.toolObserved, .corroborated, .humanVerified]

/-- `_verified_clause`. -/
def verifiedClause (row : Row) : Bool :=
  verifiedStatuses.contains row.verification

/-- `_baton_clause`. -/
def batonClause (batonId : String) (row : Row) : Bool :=
  row.batonId == some batonId

end Caura.Memory
