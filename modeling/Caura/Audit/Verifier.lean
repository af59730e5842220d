import Caura.Audit.Writer

/-!
# The audit chain verifier

`verifyAuditChainRows` walks the rows of a window in the order of their numbers,
computes every hash again and compares the end of the chain with the head.
`auditVerifyChain` reads the window from the tables.  Both are `none` where the
code raises: on a row without a creation time that the walk reaches.

The walk over the rows of a window finds no break exactly when they are an intact
chain from the seed of the window.
-/

namespace Caura.Audit

open Caura.Value Caura.Chain

/-! ## Reports -/

/-- What is wrong with a row. -/
inductive LinkBreak where
  | seqGap
  | prevHashMismatch
  | eventHashMismatch
  deriving DecidableEq

/-- `first_broken` of a report. -/
inductive FirstBroken where
  | missingPredecessor (seq : Int)
  | link (seq : Option Int) (id : Uuid) (reason : LinkBreak) (createdAt : String)
  | tailTruncated (headSeq : Int) (chainSeq : Option Int)
  deriving DecidableEq

/-- The result of a verification. -/
inductive ChainReport where
  | broken (tenantId : String) (verifiedCount : Int) (firstBroken : FirstBroken)
  | valid (tenantId : String) (verifiedCount : Int) (headSeq : Option Int)
      (truncated : Bool) (nextSeq : Option Int)
  deriving DecidableEq

namespace ChainReport

/-- The field `valid`. -/
def isValid : ChainReport → Bool
  | .broken .. => false
  | .valid .. => true

/-- The field `next_seq`. -/
def nextSeq : ChainReport → Option Int
  | .broken .. => none
  | .valid _ _ _ _ nextSeq => nextSeq

end ChainReport

/-! ## Rows -/

/-- What is wrong with a row at its place in the chain, if anything. -/
def linkBreak (platform : Platform) (expectedSeq : Int) (expectedPrev : Bytes)
    (row : AuditRow) : Option (Option LinkBreak) :=
  if row.seq ≠ some expectedSeq then
    some (some .seqGap)
  else if row.prevHash ≠ some expectedPrev then
    some (some .prevHashMismatch)
  else
    (row.recompute platform expectedPrev).map fun hash =>
      if some hash ≠ row.eventHash then some .eventHashMismatch else none

/-- The loop of `_verify_audit_chain_rows`: the report of the first break, or
nothing when there is none. -/
def checkRows (platform : Platform) (tenantId : String) (startSeq : Int) :
    Int → Bytes → List AuditRow → Option (Option ChainReport)
  | _, _, [] => some none
  | expectedSeq, expectedPrev, row :: rows =>
    match linkBreak platform expectedSeq expectedPrev row with
    | none => none
    | some (some reason) =>
      row.createdAt.map fun createdAt =>
        some (.broken tenantId (expectedSeq - startSeq)
          (.link row.seq row.id reason (String.ofList createdAt.utc.isoformat)))
    | some none =>
      match row.eventHash with
      | none => none
      | some hash => checkRows platform tenantId startSeq (expectedSeq + 1) hash rows

/-- Where the rows of a window end: at their last row, else at the row before the
window, else at the genesis hash. -/
def windowEnd (rows : List AuditRow) (startSeq : Int) (seedPrev : Bytes) :
    Option Int × Option Bytes :=
  match rows.getLast? with
  | some row => (row.seq, row.eventHash)
  | none =>
    if startSeq > 1 then (some (startSeq - 1), some seedPrev)
    else (some 0, some genesisPrevHash)

/-- `_verify_audit_chain_rows`. -/
def verifyAuditChainRows (platform : Platform) (tenantId : String)
    (rows : List AuditRow) (head : Option ChainHead) (limit : Nat) (startSeq : Int)
    (seedPrev : Option Bytes) : Option ChainReport :=
  match seedPrev with
  | none => some (.broken tenantId 0 (.missingPredecessor startSeq))
  | some seed =>
    match checkRows platform tenantId startSeq startSeq seed rows with
    | none => none
    | some (some report) => some report
    | some none =>
      let truncated := decide (limit ≤ rows.length)
      let head := head.getD .genesis
      let last := windowEnd rows startSeq seed
      if truncated = false ∧
          (some head.lastSeq ≠ last.1 ∨ some head.lastHash ≠ last.2) then
        some (.broken tenantId rows.length (.tailTruncated head.lastSeq last.1))
      else
        some (.valid tenantId rows.length last.1 truncated
          (if truncated then last.1.map (· + 1) else none))

/-! ## Queries -/

/-- The order of rows by number. -/
def seqLe (first second : AuditRow) : Prop :=
  first.seq.getD 0 ≤ second.seq.getD 0

instance : DecidableRel seqLe := fun first second =>
  inferInstanceAs (Decidable (first.seq.getD 0 ≤ second.seq.getD 0))

/-- The chained rows of a tenant from a number on, in the order of numbers. -/
def rowsFrom (store : AuditStore) (tenantId : String) (startSeq : Int) : List AuditRow :=
  ((store.chainRows tenantId).filter fun row =>
    startSeq ≤ row.seq.getD 0).insertionSort seqLe

/-- The hash a window attaches to.  Two rows of one number raise. -/
def seedOf (store : AuditStore) (tenantId : String) (startSeq : Int) : Option (Option Bytes) :=
  if startSeq > 1 then
    match (store.tenantRows tenantId).filter
        fun row => row.seq == some (startSeq - 1) with
    | [] => some none
    | [row] => some row.eventHash
    | _ :: _ :: _ => none
  else
    some (some genesisPrevHash)

/-- `audit_verify_chain`. -/
def auditVerifyChain (platform : Platform) (store : AuditStore) (tenantId : String)
    (limit : Nat) (startSeq : Int) : Option ChainReport :=
  (seedOf store tenantId startSeq).bind fun seedPrev =>
    verifyAuditChainRows platform tenantId
      ((rowsFrom store tenantId startSeq).take limit) (store.heads tenantId) limit
      startSeq seedPrev

/-! ## What the walk over the rows finds -/

variable {platform : Platform} {tenantId : String} {startSeq : Int}
  {expectedPrev seed last : Bytes} {expectedSeq : Int}

theorem linkBreak_eq_none_iff {row : AuditRow} :
    linkBreak platform expectedSeq expectedPrev row = some none ↔
      row.seq = some expectedSeq ∧ row.prevHash = some expectedPrev ∧
        ∃ hash, row.eventHash = some hash ∧ row.recompute platform expectedPrev = some hash := by
  unfold linkBreak
  by_cases numbered : row.seq = some expectedSeq
  · by_cases linked : row.prevHash = some expectedPrev
    · cases computed : row.recompute platform expectedPrev with
      | none => simp [numbered]
      | some hash => simp [numbered, linked, eq_comm]
    · simp [numbered, linked]
  · simp [numbered]

variable {rows : List AuditRow}

/-- The loop finds no break exactly in an intact chain. -/
theorem checkRows_eq_none_iff :
    checkRows platform tenantId startSeq expectedSeq expectedPrev rows = some none ↔
      ∃ last, Intact (chainScheme platform) expectedSeq expectedPrev rows last := by
  induction rows generalizing expectedSeq expectedPrev with
  | nil => simp [checkRows]
  | cons row rows ih =>
    rw [checkRows]
    constructor
    · intro checked
      cases found : linkBreak platform expectedSeq expectedPrev row with
      | none => simp [found] at checked
      | some broken =>
        cases broken with
        | some reason => simp [found] at checked
        | none =>
          rcases linkBreak_eq_none_iff.mp found with
            ⟨numbered, linked, hash, stored, computed⟩
          simp only [found, stored] at checked
          obtain ⟨last, after⟩ := ih.mp checked
          exact ⟨last, numbered, linked, hash, stored, computed, after⟩
    · rintro ⟨last, numbered, linked, hash, stored, computed, after⟩
      have found : linkBreak platform expectedSeq expectedPrev row = some none :=
        linkBreak_eq_none_iff.mpr ⟨numbered, linked, hash, stored, computed⟩
      have storedHash : row.eventHash = some hash := stored
      simp only [found, storedHash]
      exact ih.mpr ⟨last, after⟩

/-- A report from the loop is one of a break. -/
theorem checkRows_isValid_eq_false {report : ChainReport}
    (found : checkRows platform tenantId startSeq expectedSeq expectedPrev rows =
      some (some report)) : report.isValid = false := by
  induction rows generalizing expectedSeq expectedPrev with
  | nil => simp [checkRows] at found
  | cons row rows ih =>
    rw [checkRows] at found
    split at found
    · cases found
    · obtain ⟨createdAt, _, reportEq⟩ := Option.map_eq_some_iff.mp found
      cases reportEq
      rfl
    · split at found
      · cases found
      · exact ih found

/-- The window of an intact chain ends where the chain does. -/
theorem windowEnd_of_intact (positive : 1 ≤ startSeq)
    (anchored : startSeq = 1 → seed = genesisPrevHash)
    (intact : Intact (chainScheme platform) startSeq seed rows last) :
    windowEnd rows startSeq seed = (some (startSeq + rows.length - 1), some last) := by
  unfold windowEnd
  cases isLast : rows.getLast? with
  | some row =>
    have columns := Intact.getLast_digest intact isLast
    exact Prod.ext columns.2 columns.1
  | none =>
    rw [List.getLast?_eq_none_iff] at isLast
    subst isLast
    have lastEq : last = seed := intact
    by_cases above : startSeq > 1
    · simp [above, lastEq]
    · have atGenesis : startSeq = 1 := by omega
      simp [atGenesis, lastEq, anchored atGenesis]

/-- The report on an intact window. -/
def validReport (tenantId : String) (startSeq : Int) (rows : List AuditRow)
    (limit : Nat) : ChainReport :=
  .valid tenantId rows.length (some (startSeq + rows.length - 1))
    (decide (limit ≤ rows.length))
    (if limit ≤ rows.length then some (startSeq + rows.length) else none)

variable {head : Option ChainHead} {limit : Nat}

section

variable (positive : 1 ≤ startSeq) (anchored : startSeq = 1 → seed = genesisPrevHash)

include positive anchored

/-- The verification of an intact window depends on the head alone, and not on it
when the window is full. -/
theorem verifyAuditChainRows_of_intact
    (intact : Intact (chainScheme platform) startSeq seed rows last) :
    verifyAuditChainRows platform tenantId rows head limit startSeq (some seed) =
      if rows.length < limit ∧ head.getD .genesis ≠ ⟨startSeq + rows.length - 1, last⟩ then
        some (.broken tenantId rows.length (.tailTruncated
          (head.getD .genesis).lastSeq (some (startSeq + rows.length - 1))))
      else some (validReport tenantId startSeq rows limit) := by
  have checked : checkRows platform tenantId startSeq startSeq seed rows = some none :=
    checkRows_eq_none_iff.mpr ⟨last, intact⟩
  unfold verifyAuditChainRows
  simp only [checked, windowEnd_of_intact positive anchored intact]
  generalize head.getD .genesis = current
  have differs : (some current.lastSeq ≠ some (startSeq + (rows.length : Int) - 1) ∨
      some current.lastHash ≠ some last) ↔
      current ≠ ⟨startSeq + rows.length - 1, last⟩ := by
    cases current
    simp only [ne_eq, Option.some.injEq, ChainHead.mk.injEq]
    exact Decidable.not_and_iff_or_not.symm
  simp only [differs]
  by_cases full : limit ≤ rows.length
  · simp [validReport]
  · simp [validReport]

/-- A window is valid exactly when its rows are an intact chain from its seed
that, unless the window is full, ends at the head. -/
theorem verifyAuditChainRows_valid_iff :
    (verifyAuditChainRows platform tenantId rows head limit startSeq
        (some seed)).any ChainReport.isValid ↔
      ∃ last, Intact (chainScheme platform) startSeq seed rows last ∧ (rows.length < limit →
          head.getD .genesis = ⟨startSeq + rows.length - 1, last⟩) := by
  constructor
  · intro valid
    have checked : checkRows platform tenantId startSeq startSeq seed rows = some none := by
      unfold verifyAuditChainRows at valid
      cases result : checkRows platform tenantId startSeq startSeq seed rows with
      | none => simp [result] at valid
      | some found =>
        cases found with
        | none => rfl
        | some report => simp [result, checkRows_isValid_eq_false result] at valid
    obtain ⟨last, intact⟩ := checkRows_eq_none_iff.mp checked
    refine ⟨last, intact, fun short => ?_⟩
    rw [verifyAuditChainRows_of_intact positive anchored intact] at valid
    by_contra differs
    simp [short, differs, ChainReport.isValid] at valid
  · rintro ⟨last, intact, atHead⟩
    rw [verifyAuditChainRows_of_intact positive anchored intact,
      if_neg fun broken => broken.2 (atHead broken.1)]
    rfl

end

end Caura.Audit
