import Caura.Audit.Agreement

/-!
# Verification in windows

A chain that is longer than a window is verified in several calls: while a report
is truncated, the next call starts at its `next_seq`.  Whatever the rows and the
head are, the windows of this walk are all valid exactly when one call over all
rows is.

The windows are consecutive pieces of the rows in the order of their numbers.  A
window is seeded with the stored hash of the row before it, which is the hash that
the window before has computed, so the pieces are intact exactly when the whole
is.  Only the last window compares its end with the head, and it is never full.
-/

namespace Caura.Audit

open Caura.Value Caura.Chain List ChainReport

/-- The reports of a walk from a number on, with fuel for the number of windows.  A
call that raises ends the walk. -/
def chainWalk (platform : Platform) (store : AuditStore) (tenantId : String)
    (limit : Nat) : Nat → Int → Option (List (Option ChainReport))
  | 0, _ => none
  | fuel + 1, startSeq =>
    let report := auditVerifyChain platform store tenantId limit startSeq
    match report.bind nextSeq with
    | none => some [report]
    | some nextSeq => (chainWalk platform store tenantId limit fuel nextSeq).map (report :: ·)

/-! ## Rows in the order of their numbers -/

/-- The order of rows by number, without equal numbers. -/
def seqLt (first second : AuditRow) : Prop :=
  first.seq.getD 0 < second.seq.getD 0

instance : IsTrans AuditRow seqLe where
  trans _ _ _ := Int.le_trans

instance : Std.Total seqLe where
  total first second := Int.le_total (first.seq.getD 0) (second.seq.getD 0)

variable {store : AuditStore} {tenantId : String} {startSeq : Int} {platform : Platform}
  {seed : Bytes}

section Rows

variable {nextSeq : Int} {row : AuditRow}

theorem isSome_seq_of_mem_chainRows (rowMem : row ∈ store.chainRows tenantId) : row.seq.isSome :=
  (mem_filter.mp rowMem).2

theorem mem_rowsFrom_iff : row ∈ rowsFrom store tenantId startSeq ↔
      row ∈ store.chainRows tenantId ∧ startSeq ≤ row.seq.getD 0 := by
  rw [rowsFrom, mem_insertionSort, mem_filter, decide_eq_true_eq]

/-- A row is the only one with its number. -/
theorem filter_seq_eq_singleton {rows : List AuditRow} (distinct : (rows.map AuditRow.seq).Nodup)
    (rowMem : row ∈ rows) : (rows.filter fun other => other.seq == row.seq) = [row] := by
  induction rows with
  | nil => simp at rowMem
  | cons first rows ih =>
    rw [map_cons, nodup_cons] at distinct
    rcases mem_cons.mp rowMem with rfl | rowMem
    · have othersDiffer : (rows.filter fun other => other.seq == row.seq) = [] := by
        rw [filter_eq_nil_iff]
        intro other otherMem sameSeq
        exact distinct.1 (beq_iff_eq.mp sameSeq ▸ mem_map_of_mem otherMem)
      rw [filter_cons, if_pos (beq_self_eq_true row.seq), othersDiffer]
    · have differs : ¬ (first.seq == row.seq) = true := by
        intro sameSeq
        exact distinct.1 (beq_iff_eq.mp sameSeq ▸ mem_map_of_mem rowMem)
      rw [filter_cons, if_neg differs]
      exact ih distinct.2 rowMem

variable (distinct : ((store.chainRows tenantId).map AuditRow.seq).Nodup)

include distinct

/-- With distinct numbers, the rows are read in strict order. -/
theorem pairwise_rowsFrom : (rowsFrom store tenantId startSeq).Pairwise seqLt := by
  have ordered : (rowsFrom store tenantId startSeq).Pairwise seqLe :=
    pairwise_insertionSort _ _
  have differ : (rowsFrom store tenantId startSeq).Pairwise
      fun first second => first.seq ≠ second.seq := by
    refine (perm_insertionSort seqLe _).symm.pairwise ?_ fun seqNe => seqNe.symm
    exact (pairwise_map.mp distinct).sublist filter_sublist
  refine List.Pairwise.imp_of_mem ?_ (ordered.and differ)
  rintro first second firstMem secondMem ⟨below, seqNe⟩
  have firstSome := isSome_seq_of_mem_chainRows (mem_rowsFrom_iff.mp firstMem).1
  have secondSome := isSome_seq_of_mem_chainRows (mem_rowsFrom_iff.mp secondMem).1
  rw [Option.isSome_iff_exists] at firstSome secondSome
  obtain ⟨m, firstSeq⟩ := firstSome
  obtain ⟨n, secondSeq⟩ := secondSome
  rw [firstSeq, secondSeq, Ne, Option.some.injEq] at seqNe
  rw [seqLe, firstSeq, secondSeq] at below
  rw [seqLt, firstSeq, secondSeq]
  exact lt_of_le_of_ne below seqNe

/-- The rows from a later number on. -/
theorem rowsFrom_filter (later : startSeq ≤ nextSeq) :
    (rowsFrom store tenantId startSeq).filter (fun row => nextSeq ≤ row.seq.getD 0) =
      rowsFrom store tenantId nextSeq := by
  refine List.Perm.eq_of_pairwise (fun first second _ _ below above => ?_)
    ((pairwise_rowsFrom distinct).sublist filter_sublist)
    (pairwise_rowsFrom distinct) ?_
  · exact absurd below (Int.not_lt.mpr (Int.le_of_lt above))
  · refine ((perm_insertionSort seqLe _).filter _).trans ?_
    refine List.Perm.trans ?_ (perm_insertionSort seqLe _).symm
    rw [filter_filter]
    refine List.Perm.of_eq (filter_congr fun row _ => ?_)
    rw [Bool.and_eq_left_iff_imp]
    simp only [decide_eq_true_eq]
    exact Int.le_trans later

variable {last : Bytes} {front back : List AuditRow}
  (split : rowsFrom store tenantId startSeq = front ++ back)
  (linked : Intact (chainScheme platform) startSeq seed front last) (nonempty : front ≠ [])

include split linked nonempty

/-- Behind an intact piece of the rows, the next window starts with the rest. -/
theorem rowsFrom_next : rowsFrom store tenantId (startSeq + front.length) = back := by
  have ordered : (rowsFrom store tenantId startSeq).Pairwise seqLt :=
    pairwise_rowsFrom distinct
  rw [split, pairwise_append] at ordered
  have later : startSeq ≤ startSeq + front.length := by omega
  rw [← rowsFrom_filter distinct later, split, filter_append]
  have passed : front.filter (fun row => startSeq + front.length ≤ row.seq.getD 0) = [] := by
    rw [filter_eq_nil_iff]
    intro row rowMem
    obtain ⟨index, found⟩ := mem_iff_getElem?.mp rowMem
    have below : index < front.length := (List.getElem?_eq_some_iff.mp found).1
    have numbered : row.seq = some (startSeq + index) := linked.number_eq found
    rw [numbered, Option.getD_some, decide_eq_true_eq]
    omega
  have remaining : back.filter (fun row => startSeq + front.length ≤ row.seq.getD 0) = back := by
    rw [filter_eq_self]
    intro row rowMem
    have isLast := List.getLast?_eq_some_getLast nonempty
    have numbered : (front.getLast nonempty).seq =
        some (startSeq + front.length - 1) := (linked.getLast_digest isLast).2
    have above := ordered.2.2 _ (getLast_mem nonempty) row rowMem
    rw [seqLt, numbered, Option.getD_some] at above
    rw [decide_eq_true_eq]
    omega
  rw [passed, remaining, nil_append]

/-- The next window is seeded with the hash an intact piece ends in. -/
theorem seedOf_next (positive : 1 ≤ startSeq) :
    seedOf store tenantId (startSeq + front.length) = some (some last) := by
  have someRows : 0 < front.length := length_pos_iff.mpr nonempty
  have isLast := List.getLast?_eq_some_getLast nonempty
  have columns := linked.getLast_digest isLast
  have stored : (front.getLast nonempty).eventHash = some last := columns.1
  have numbered : (front.getLast nonempty).seq = some (startSeq + front.length - 1) := columns.2
  have lastRead : front.getLast nonempty ∈ rowsFrom store tenantId startSeq := by
    rw [split]
    exact mem_append_left _ (getLast_mem nonempty)
  have lastMem := (mem_rowsFrom_iff.mp lastRead).1
  have found : (store.tenantRows tenantId).filter
      (fun row => row.seq == some (startSeq + front.length - 1)) = [front.getLast nonempty] := by
    rw [← numbered, ← filter_seq_eq_singleton distinct lastMem, AuditStore.chainRows, filter_filter]
    refine filter_congr fun row _ => ?_
    rw [eq_comm, Bool.and_eq_left_iff_imp]
    intro sameSeq
    rw [beq_iff_eq.mp sameSeq, numbered, Option.isSome_some]
  unfold seedOf
  rw [if_pos (by omega), found]
  exact congrArg some stored

end Rows

/-! ## The walk -/

section Walk

variable {limit : Nat}

/-- The rows from a number on are an intact chain that ends at the head. -/
def SoundFrom (platform : Platform) (store : AuditStore) (tenantId : String)
    (startSeq : Int) (seed : Bytes) : Prop :=
  ∃ last,
    Intact (chainScheme platform) startSeq seed (rowsFrom store tenantId startSeq) last ∧
    store.head tenantId =
      ⟨startSeq + (rowsFrom store tenantId startSeq).length - 1, last⟩

theorem nextSeq_eq_none_of_invalid {report : Option ChainReport} (invalid : ¬ report.any isValid) :
    report.bind nextSeq = none := by
  cases report with
  | none => rfl
  | some report =>
    cases report with
    | broken => rfl
    | valid => exact absurd rfl invalid

/-- A window has a next one exactly when it is full and intact. -/
theorem nextSeq_verifyAuditChainRows {rows : List AuditRow} {head : Option ChainHead}
    (positive : 1 ≤ startSeq) (anchored : startSeq = 1 → seed = genesisPrevHash) :
    (∀ last, Intact (chainScheme platform) startSeq seed rows last → limit ≤ rows.length →
      (verifyAuditChainRows platform tenantId rows head limit startSeq
        (some seed)).bind nextSeq = some (startSeq + rows.length)) ∧
    ((¬ ∃ last, Intact (chainScheme platform) startSeq seed rows last) ∨ rows.length < limit →
      (verifyAuditChainRows platform tenantId rows head limit startSeq
        (some seed)).bind nextSeq = none) := by
  constructor
  · intro last linked full
    rw [verifyAuditChainRows_of_intact positive anchored linked,
      if_neg fun broken => absurd full (Nat.not_le.mpr broken.1)]
    simp [validReport, nextSeq, full]
  · intro lastWindow
    by_cases intact : ∃ last, Intact (chainScheme platform) startSeq seed rows last
    · have short := lastWindow.resolve_left (not_not_intro intact)
      obtain ⟨last, linked⟩ := intact
      rw [verifyAuditChainRows_of_intact positive anchored linked]
      split
      · rfl
      · simp [validReport, nextSeq, Nat.not_le.mpr short]
    · refine nextSeq_eq_none_of_invalid fun valid => intact ?_
      rcases (verifyAuditChainRows_valid_iff positive anchored).mp valid with
        ⟨last, linked, _⟩
      exact ⟨last, linked⟩

/-- Behind an intact window, the rows are sound exactly when the rest is. -/
theorem soundFrom_iff_next {front back : List AuditRow} {middle : Bytes}
    (split : rowsFrom store tenantId startSeq = front ++ back)
    (rest : rowsFrom store tenantId (startSeq + front.length) = back)
    (linked : Intact (chainScheme platform) startSeq seed front middle) :
    SoundFrom platform store tenantId startSeq seed ↔
      SoundFrom platform store tenantId (startSeq + front.length) middle := by
  have endSeq : startSeq + ((front ++ back).length : Int) - 1 =
      startSeq + front.length + back.length - 1 := by
    rw [length_append]
    omega
  unfold SoundFrom
  rw [split, rest, endSeq]
  constructor
  · rintro ⟨last, whole, atHead⟩
    obtain ⟨middle', before, after⟩ := Intact.append_iff.mp whole
    cases Intact.last_unique linked before
    exact ⟨last, after, atHead⟩
  · rintro ⟨last, after, atHead⟩
    exact ⟨last, Intact.append_iff.mpr ⟨middle, linked, after⟩, atHead⟩

/-- The walk ends with a report that has no next window. -/
theorem chainWalk_of_last {fuel : Nat} (hasFuel : 0 < fuel)
    (isLast : (auditVerifyChain platform store tenantId limit startSeq).bind nextSeq = none) :
    chainWalk platform store tenantId limit fuel startSeq =
      some [auditVerifyChain platform store tenantId limit startSeq] := by
  cases fuel with
  | zero => exact absurd hasFuel (Nat.lt_irrefl 0)
  | succ fuel => simp only [chainWalk, isLast]

theorem chainWalk_of_next {fuel : Nat} {nextSeq : Int}
    (goesOn : (auditVerifyChain platform store tenantId limit startSeq).bind
      ChainReport.nextSeq = some nextSeq) :
    chainWalk platform store tenantId limit (fuel + 1) startSeq =
      (chainWalk platform store tenantId limit fuel nextSeq).map
        (auditVerifyChain platform store tenantId limit startSeq :: ·) := by
  simp [chainWalk, goesOn]

/-- A walk from a number on ends, with any fuel above the number of rows, and its
windows are valid exactly when the rows are sound. -/
def WalkDecides (platform : Platform) (store : AuditStore) (tenantId : String)
    (limit : Nat) (startSeq : Int) (seed : Bytes) : Prop :=
  ∃ reports,
    (∀ fuel, (rowsFrom store tenantId startSeq).length < fuel →
      chainWalk platform store tenantId limit fuel startSeq = some reports) ∧
    ((∀ report ∈ reports, report.any ChainReport.isValid) ↔
      SoundFrom platform store tenantId startSeq seed)

/-- A report without a next window decides when it is valid for sound rows only. -/
theorem walkDecides_of_last (isLast : (auditVerifyChain platform store tenantId limit startSeq).bind
      nextSeq = none)
    (decides : (auditVerifyChain platform store tenantId limit startSeq).any
      isValid ↔ SoundFrom platform store tenantId startSeq seed) :
    WalkDecides platform store tenantId limit startSeq seed := by
  refine ⟨[auditVerifyChain platform store tenantId limit startSeq],
    fun fuel hasFuel => chainWalk_of_last (by omega) isLast, ?_⟩
  rwa [forall_mem_singleton]

section

variable {window rest : List AuditRow} (seeded : seedOf store tenantId startSeq = some (some seed))

include seeded

theorem auditVerifyChain_of_seed :
    auditVerifyChain platform store tenantId limit startSeq = verifyAuditChainRows platform tenantId
        ((rowsFrom store tenantId startSeq).take limit) (store.heads tenantId) limit
        startSeq (some seed) := by
  rw [auditVerifyChain, seeded, Option.bind_some]

theorem auditVerifyChain_of_full (split : rowsFrom store tenantId startSeq = window ++ rest)
    (full : window.length = limit) :
    auditVerifyChain platform store tenantId limit startSeq =
      verifyAuditChainRows platform tenantId window (store.heads tenantId) limit
        startSeq (some seed) := by
  rw [auditVerifyChain_of_seed seeded, split, ← full, take_left]

variable (positive : 1 ≤ startSeq) (anchored : startSeq = 1 → seed = genesisPrevHash)

include positive anchored

/-- A call with room for all rows from a number on decides whether they are
sound. -/
theorem auditVerifyChain_valid_iff (hasRoom : (rowsFrom store tenantId startSeq).length < limit) :
    (auditVerifyChain platform store tenantId limit startSeq).any isValid ↔
      SoundFrom platform store tenantId startSeq seed := by
  rw [auditVerifyChain_of_seed seeded, take_of_length_le (Nat.le_of_lt hasRoom),
    verifyAuditChainRows_valid_iff positive anchored]
  simp only [hasRoom, true_imp_iff]
  rfl

/-- The last window has room for all rows and is compared with the head. -/
theorem walkDecides_of_short (short : (rowsFrom store tenantId startSeq).length < limit) :
    WalkDecides platform store tenantId limit startSeq seed := by
  refine walkDecides_of_last ?_ (auditVerifyChain_valid_iff seeded positive anchored short)
  rw [auditVerifyChain_of_seed seeded]
  refine (nextSeq_verifyAuditChainRows positive anchored).2 (.inr ?_)
  rw [length_take]
  omega

variable (split : rowsFrom store tenantId startSeq = window ++ rest)

include split

/-- A broken window ends the walk. -/
theorem walkDecides_of_broken (full : window.length = limit)
    (broken : ¬ ∃ middle, Intact (chainScheme platform) startSeq seed window middle) :
    WalkDecides platform store tenantId limit startSeq seed := by
  have invalid : ¬ (auditVerifyChain platform store tenantId limit startSeq).any isValid := by
    rw [auditVerifyChain_of_full seeded split full,
      verifyAuditChainRows_valid_iff positive anchored]
    rintro ⟨middle, linked, _⟩
    exact broken ⟨middle, linked⟩
  refine walkDecides_of_last (nextSeq_eq_none_of_invalid invalid) (iff_of_false invalid ?_)
  rintro ⟨last, whole, _⟩
  rw [split] at whole
  obtain ⟨middle, linked, _⟩ := Intact.append_iff.mp whole
  exact broken ⟨middle, linked⟩

/-- Behind a full window that is intact, the walk goes on with the rest. -/
theorem walkDecides_of_next {middle : Bytes}
    (restEq : rowsFrom store tenantId (startSeq + window.length) = rest)
    (full : window.length = limit) (limitPos : 1 ≤ limit)
    (linked : Intact (chainScheme platform) startSeq seed window middle)
    (next : WalkDecides platform store tenantId limit (startSeq + window.length) middle) :
    WalkDecides platform store tenantId limit startSeq seed := by
  have called : auditVerifyChain platform store tenantId limit startSeq = _ :=
    auditVerifyChain_of_full seeded split full
  have valid : (auditVerifyChain platform store tenantId limit startSeq).any isValid := by
    rw [called, verifyAuditChainRows_valid_iff positive anchored]
    exact ⟨middle, linked, fun short => absurd full (Nat.ne_of_lt short)⟩
  have goesOn : (auditVerifyChain platform store tenantId limit startSeq).bind
      nextSeq = some (startSeq + window.length) := by
    rw [called]
    exact (nextSeq_verifyAuditChainRows positive anchored).1 middle linked (Nat.le_of_eq full.symm)
  obtain ⟨reports, walked, decides⟩ := next
  refine ⟨auditVerifyChain platform store tenantId limit startSeq :: reports,
    fun fuel hasFuel => ?_, ?_⟩
  · rw [split, length_append] at hasFuel
    cases fuel with
    | zero => omega
    | succ fuel =>
      rw [chainWalk_of_next goesOn, walked fuel (by rw [restEq]; omega), Option.map_some]
  · rw [forall_mem_cons, decides, soundFrom_iff_next split restEq linked]
    exact and_iff_right valid

end

/-- Every walk ends and decides. -/
theorem walkDecides (distinct : ((store.chainRows tenantId).map AuditRow.seq).Nodup)
    (limitPos : 1 ≤ limit) (positive : 1 ≤ startSeq)
    (anchored : startSeq = 1 → seed = genesisPrevHash)
    (seeded : seedOf store tenantId startSeq = some (some seed)) :
    WalkDecides platform store tenantId limit startSeq seed := by
  -- By the number of rows that are left, which a full window reduces.
  induction lengthEq : (rowsFrom store tenantId startSeq).length using
    Nat.strong_induction_on generalizing startSeq seed with
  | _ count ih =>
    rcases Nat.lt_or_ge (rowsFrom store tenantId startSeq).length limit with
      short | enough
    · exact walkDecides_of_short seeded positive anchored short
    · have split := (take_append_drop limit (rowsFrom store tenantId startSeq)).symm
      have full := length_take_of_le enough
      generalize (rowsFrom store tenantId startSeq).take limit = window at split full
      generalize (rowsFrom store tenantId startSeq).drop limit = rest at split
      by_cases intact : ∃ middle, Intact (chainScheme platform) startSeq seed window middle
      · obtain ⟨middle, linked⟩ := intact
        have nonempty : window ≠ [] := ne_nil_of_length_pos (by omega)
        have restEq := rowsFrom_next distinct split linked nonempty
        have fewer : rest.length < count := by
          rw [← lengthEq, split, length_append]
          omega
        refine walkDecides_of_next seeded positive anchored split restEq full limitPos
          linked (ih rest.length fewer (by omega) (fun atGenesis => by omega)
            (seedOf_next distinct split linked nonempty positive) (by rw [restEq]))
      · exact walkDecides_of_broken seeded positive anchored split full intact

/-- A paginated walk decides the same as one pass: for rows with distinct numbers,
whatever their columns and the head are, the walk from the first number ends, and
its windows are all valid exactly when a single call over all rows is. -/
theorem paginated_walk_decides (platform : Platform) (store : AuditStore)
    (tenantId : String) (limit wholeLimit : Nat)
    (distinct : ((store.chainRows tenantId).map AuditRow.seq).Nodup)
    (limitPos : 1 ≤ limit)
    (hasRoom : (store.chainRows tenantId).length < wholeLimit) :
    ∃ reports, (∀ fuel, (store.chainRows tenantId).length < fuel →
        chainWalk platform store tenantId limit fuel 1 = some reports) ∧
      ((∀ report ∈ reports, report.any isValid) ↔
        (auditVerifyChain platform store tenantId wholeLimit 1).any isValid) := by
  have readAtMost : (rowsFrom store tenantId 1).length ≤ (store.chainRows tenantId).length := by
    rw [rowsFrom, length_insertionSort]
    exact length_filter_le _ _
  rcases walkDecides distinct limitPos (Int.le_refl 1) (fun _ => rfl) rfl with
    ⟨reports, walked, decides⟩
  refine ⟨reports, fun fuel hasFuel => walked fuel (by omega), ?_⟩
  rw [decides, auditVerifyChain_valid_iff rfl (Int.le_refl 1) (fun _ => rfl) (by omega)]

/-- A chain of three rows, walked in windows of one row. -/
theorem paginated_walk_decides_resent : ∃ reports,
      chainWalk asciiPlatform (runCalls asciiPlatform LegacyLog.empty.store resentCalls)
        "acme" 1 4 1 = some reports ∧
      ∀ report ∈ reports, report.any isValid := by
  have hasRoom : ((runCalls asciiPlatform LegacyLog.empty.store
      resentCalls).chainRows "acme").length < 4 := by
    decide
  rcases paginated_walk_decides asciiPlatform
    (runCalls asciiPlatform LegacyLog.empty.store resentCalls) "acme" 1 4 (by decide)
    (Nat.le_refl 1) hasRoom with ⟨reports, walked, decides⟩
  refine ⟨reports, walked 4 hasRoom, decides.mpr ?_⟩
  rw [(tenantInvariant_runCalls LegacyLog.empty resentCalls "acme").auditVerifyChain_eq hasRoom]
  rfl

end Walk

end Caura.Audit
