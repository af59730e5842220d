import Caura.Interval.Spans
import Mathlib.Data.Prod.Lex

/-!
# Scanning and masking sensitive text

`scan` runs every enabled rule over a text, gives the passwords of URLs precedence over
what they overlap, and resolves the remaining overlaps to disjoint findings; `mask`
replaces each finding by the token of its category.  The regular expressions are
parameters: a rule is any finder of spans, and the finder of URL passwords is any one
that reports spans from left to right.

The overlaps are resolved in the order of the starts.  A match that is dropped is
overlapped by a finding that was kept, which need not cover it: the exact condition
under which a high-severity match is masked in full is that a walk over the matches, from the
end of one to the end of the next that starts there or later, leaves no gap in it.
-/

namespace Caura.Governance

open Caura.Interval List

/-! ## Findings and rules -/

/-- `PiiCategory`. -/
inductive PiiCategory
  | email
  | phone
  | creditCard
  | iban
  | nationalId
  | apiKey
  | secret
  deriving DecidableEq, Repr

/-- `Severity`. -/
inductive Severity
  | low
  | medium
  | high
  deriving DecidableEq, Repr

/-- The rank used when overlapping findings are ordered (`_SEVERITY_RANK`). -/
def Severity.rank : Severity → Nat
  | low => 0
  | medium => 1
  | high => 2

/-- One detected span, without its text. -/
structure Finding where
  category : PiiCategory
  span : Span
  severity : Severity
  deriving DecidableEq, Repr

/-- The token a finding of the category is replaced by (`_REDACTION`). -/
def redaction : PiiCategory → List Char
  | .email => "«EMAIL»".toList
  | .phone => "«PHONE»".toList
  | .creditCard => "«CARD»".toList
  | .iban => "«IBAN»".toList
  | .nationalId => "«ID»".toList
  | .apiKey => "«API_KEY»".toList
  | .secret => "«SECRET»".toList

/-- A rule: `finditer` gives the value and the span of the rule's group at each match. -/
structure Rule where
  category : PiiCategory
  severity : Severity
  finditer : List Char → List (List Char × Span)
  validator : Option (List Char → Bool) := none

/-- The rules, and the finder of URL passwords, which reports non-empty spans from left
to right as every regular expression with a non-empty group does. -/
structure RuleSet where
  rules : List Rule
  urlPasswords : List Char → List Span
  passwordsNonempty : ∀ text, ∀ span ∈ urlPasswords text, span.start < span.stop
  passwordsOrdered : ∀ text, (urlPasswords text).Pairwise Span.Precedes

/-- The findings of one rule: its validated, non-empty matches. -/
def Rule.findings (rule : Rule) (text : List Char) : List Finding :=
  (rule.finditer text).filterMap fun found =>
    if (rule.validator.all fun validator => validator found.1) ∧
        found.2.start < found.2.stop then
      some { category := rule.category, span := found.2, severity := rule.severity }
    else
      none

/-- Whether a category is enabled; none means that all are. -/
def isAllowed (allowed : Option (List PiiCategory)) (category : PiiCategory) : Bool :=
  allowed.all fun categories => categories.contains category

/-! ## Overlaps -/

/-- The key findings are sorted by: the start, the longer first, the higher rank first. -/
def Finding.sortKey (finding : Finding) : ℕ ×ₗ ℤ ×ₗ ℤ :=
  toLex (finding.span.start,
    toLex (-((finding.span.stop : ℤ) - finding.span.start), -(finding.severity.rank : ℤ)))

/-- `_resolve_overlaps`: one greedy pass over the sorted findings. -/
def resolveOverlaps (findings : List Finding) : List Finding :=
  if findings.length ≤ 1 then
    findings
  else
    selectFrom Finding.span 0
      (findings.insertionSort fun first second => first.sortKey ≤ second.sortKey)

/-- How many of the ascending numbers are at most `bound`. -/
def bisectRight (ends : List Nat) (bound : Nat) : Nat :=
  (ends.takeWhile fun stop => stop ≤ bound).length

/-- Whether the finding overlaps none of the passwords. -/
def separate (passwords : List Finding) (finding : Finding) : Bool :=
  let ends := passwords.map fun password => password.span.stop
  match passwords[bisectRight ends finding.span.start]? with
  | none => true
  | some password => finding.span.stop ≤ password.span.start

/-! ## Scan and mask -/

variable (ruleSet : RuleSet) (allowed : Option (List PiiCategory)) (text : List Char)

/-- The findings of the enabled rules. -/
def ruleFindings : List Finding :=
  (ruleSet.rules.filter fun rule => isAllowed allowed rule.category).flatMap fun rule =>
    rule.findings text

/-- The passwords of URLs, if secrets are enabled. -/
def passwordFindings : List Finding :=
  if isAllowed allowed .secret then
    (ruleSet.urlPasswords text).map fun span =>
      { category := .secret, span, severity := .high }
  else
    []

/-- The findings whose overlaps are resolved: passwords displace what they overlap. -/
def candidates : List Finding :=
  if (passwordFindings ruleSet allowed text).isEmpty then
    ruleFindings ruleSet allowed text
  else
    (ruleFindings ruleSet allowed text).filter
      (separate (passwordFindings ruleSet allowed text)) ++
        passwordFindings ruleSet allowed text

/-- `scan`: the disjoint findings of a text. -/
def scan : List Finding :=
  if text.isEmpty then
    []
  else
    resolveOverlaps (candidates ruleSet allowed text)

/-- `mask`: the text with each finding replaced by the token of its category. -/
def mask (text : List Char) (findings : List Finding) : List Char :=
  if findings.isEmpty then
    text
  else
    splice Finding.span (fun finding => redaction finding.category) text 0
      (findings.insertionSort fun first second => first.span.start ≤ second.span.start)

/-! ## Coverage -/

/-- A match before any overlap is resolved: a non-empty one of an enabled rule that its
validator accepts, or the password of a URL if secrets are enabled. -/
inductive IsMatch : Finding → Prop
  | rule {rule : Rule} {value : List Char} {span : Span} (ruleMem : rule ∈ ruleSet.rules)
      (enabled : isAllowed allowed rule.category = true)
      (found : (value, span) ∈ rule.finditer text)
      (valid : (rule.validator.all fun validator => validator value) = true)
      (nonempty : span.start < span.stop) : IsMatch ⟨rule.category, span, rule.severity⟩
  | password {span : Span} (enabled : isAllowed allowed .secret = true)
      (found : span ∈ ruleSet.urlPasswords text) : IsMatch ⟨.secret, span, .high⟩

/-- The matches among which overlaps are resolved: the passwords, and those that overlap
none of them. -/
def Competes (found : Finding) : Prop :=
  found ∈ passwordFindings ruleSet allowed text ∨ IsMatch ruleSet allowed text found ∧
    ∀ password ∈ passwordFindings ruleSet allowed text, ¬ password.span.Overlaps found.span

/-- Some finding covers the position. -/
def Covered (findings : List Finding) (position : Nat) : Prop :=
  ∃ finding ∈ findings, finding.span.Contains position

/-- Every position of the match in the text is covered by a finding of the scan. -/
def FullyCovered (found : Finding) : Prop :=
  ∀ position < text.length, found.span.Contains position →
    Covered (scan ruleSet allowed text) position

/-- A walk over the competing matches goes from the beginning of the text to the end of the
first match, from there to the end of the first that starts there or later, and so on; of
those that start at one place, the longest with the highest severity is the first.  From every
point that it comes to before a position of the match, a competing match starts by then. -/
def NoGap (found : Finding) : Prop :=
  ∀ position < text.length, found.span.Contains position →
    ∀ point, Reached Finding.span Finding.sortKey (Competes ruleSet allowed text) 0 point →
      point ≤ position → ∃ other, Competes ruleSet allowed text other ∧
        point ≤ other.span.start ∧ other.span.start ≤ position

/-- Another text with the same matches that differs only inside the match. -/
structure DiffersInside (found : Finding) (other : List Char) : Prop where
  sameFindings : ∀ rule ∈ ruleSet.rules, rule.findings other = rule.findings text
  samePasswords : ruleSet.urlPasswords other = ruleSet.urlPasswords text
  sameLength : other.length = text.length
  sameOutside : ∀ position, ¬ found.span.Contains position → other[position]? = text[position]?

/-! ## Resolution -/

instance : Std.Total fun first second : Finding => first.sortKey ≤ second.sortKey :=
  ⟨fun first second => le_total first.sortKey second.sortKey⟩

instance : IsTrans Finding fun first second => first.sortKey ≤ second.sortKey :=
  ⟨fun _ _ _ => le_trans⟩

/-- The sort key orders by the start first. -/
theorem start_le_of_sortKey_le {first second : Finding}
    (ordered : first.sortKey ≤ second.sortKey) : first.span.start ≤ second.span.start := by
  rcases Prod.Lex.le_iff.mp ordered with earlier | ⟨same, _⟩
  · exact Nat.le_of_lt earlier
  · exact Nat.le_of_eq same

/-- Findings with the same key have the same span. -/
theorem stop_eq_of_sortKey_eq {first second : Finding} (same : second.sortKey = first.sortKey) :
    second.span.stop = first.span.stop := by
  simp only [Finding.sortKey, EmbeddingLike.apply_eq_iff_eq, Prod.mk.injEq] at same
  omega

/-- The early return for at most one finding is what the pass gives as well. -/
theorem resolveOverlaps_eq_selectFrom (findings : List Finding) :
    resolveOverlaps findings = selectFrom Finding.span 0
      (findings.insertionSort fun first second => first.sortKey ≤ second.sortKey) := by
  unfold resolveOverlaps
  split
  next few =>
    match findings, few with
    | [], _ => rfl
    | [finding], _ => rfl
  · rfl

variable {finding : Finding}

section Resolve

variable {findings : List Finding}

theorem mem_of_mem_resolveOverlaps (kept : finding ∈ resolveOverlaps findings) :
    finding ∈ findings := by
  rw [resolveOverlaps_eq_selectFrom] at kept
  exact (mem_insertionSort _).mp ((selectFrom_sublist 0 _).subset kept)

variable (nonempty : ∀ finding ∈ findings, finding.span.start < finding.span.stop)

include nonempty

/-- The resolved findings are ordered and disjoint. -/
theorem pairwise_resolveOverlaps : (resolveOverlaps findings).Pairwise fun first second =>
      first.span.Precedes second.span := by
  rw [resolveOverlaps_eq_selectFrom]
  apply pairwise_selectFrom
  intro finding findingMem
  exact nonempty finding ((mem_insertionSort _).mp findingMem)

/-- The positions that the resolved findings cover. -/
theorem covered_resolveOverlaps_iff {position : Nat} : Covered (resolveOverlaps findings) position ↔
    ∀ point, Reached Finding.span Finding.sortKey (· ∈ findings) 0 point → point ≤ position →
      ∃ other ∈ findings, point ≤ other.span.start ∧ other.span.start ≤ position := by
  have sorted := pairwise_insertionSort
    (fun first second : Finding => first.sortKey ≤ second.sortKey) findings
  have covers := exists_kept_contains_iff
    (fun other otherMem => nonempty other ((mem_insertionSort _).mp otherMem))
    (sorted.imp fun le => ⟨le, start_le_of_sortKey_le le⟩)
    (fun first _ second _ same => stop_eq_of_sortKey_eq same) (Nat.zero_le position)
  rw [Covered, resolveOverlaps_eq_selectFrom]
  simpa only [mem_insertionSort] using covers

/-- Each finding starts inside a kept one. -/
theorem covered_start (findingMem : finding ∈ findings) :
    Covered (resolveOverlaps findings) finding.span.start :=
  (covered_resolveOverlaps_iff nonempty).mpr fun _ _ atMost => ⟨finding, findingMem, atMost, le_rfl⟩

end Resolve

/-! ## Separation from the passwords -/

section Separate

variable {passwords : List Finding}

/-- The bisection passes over the passwords that end before the finding starts. -/
theorem separate_cons (password : Finding) : separate (password :: passwords) finding =
      if password.span.stop ≤ finding.span.start then
        separate passwords finding
      else decide (finding.span.stop ≤ password.span.start) := by
  unfold separate bisectRight
  dsimp only
  rw [map_cons, takeWhile_cons]
  by_cases before : password.span.stop ≤ finding.span.start
  · rw [if_pos (decide_eq_true before), if_pos before, length_cons, List.getElem?_cons_succ]
  · rw [if_neg (by simpa using before), if_neg before, length_nil, List.getElem?_cons_zero]

/-- A finding is separate when it overlaps no password. -/
theorem separate_iff
    (ordered : passwords.Pairwise fun first second => first.span.Precedes second.span)
    (nonempty : ∀ password ∈ passwords, password.span.start < password.span.stop) :
    separate passwords finding = true ↔
      ∀ password ∈ passwords, ¬ password.span.Overlaps finding.span := by
  induction passwords with
  | nil => simp [separate]
  | cons password passwords ih =>
    obtain ⟨precedes, restOrdered⟩ := pairwise_cons.mp ordered
    obtain ⟨passwordNonempty, restNonempty⟩ := forall_mem_cons.mp nonempty
    rw [separate_cons, forall_mem_cons]
    split
    next before =>
      rw [ih restOrdered restNonempty]
      exact (and_iff_right fun overlaps => absurd overlaps.2 (Nat.not_lt.mpr before)).symm
    next after =>
      rw [decide_eq_true_eq]
      constructor
      · refine fun endsBefore => ⟨fun overlaps => absurd overlaps.1 (Nat.not_lt.mpr endsBefore), ?_⟩
        intro other otherMem overlaps
        have follows : password.span.stop ≤ other.span.start := precedes other otherMem
        have startsBefore := overlaps.1
        omega
      · exact fun apart => Nat.le_of_not_lt fun starts =>
          apart.1 ⟨starts, Nat.lt_of_not_le after⟩

end Separate

/-! ## The findings of a scan -/

section Findings

variable {ruleSet allowed text}

theorem pairwise_passwordFindings :
    (passwordFindings ruleSet allowed text).Pairwise fun first second =>
      first.span.Precedes second.span := by
  unfold passwordFindings
  split
  · exact pairwise_map.mpr (ruleSet.passwordsOrdered text)
  · exact List.Pairwise.nil

/-- The findings of the rules and the passwords are the matches. -/
theorem isMatch_iff : IsMatch ruleSet allowed text finding ↔
    finding ∈ ruleFindings ruleSet allowed text ∨
      finding ∈ passwordFindings ruleSet allowed text := by
  constructor
  · rintro (⟨ruleMem, enabled, found, valid, nonempty⟩ | ⟨enabled, found⟩)
    · exact .inl (mem_flatMap.mpr ⟨_, mem_filter.mpr ⟨ruleMem, enabled⟩,
        mem_filterMap.mpr ⟨_, found, if_pos ⟨valid, nonempty⟩⟩⟩)
    · refine .inr ?_
      rw [passwordFindings, if_pos enabled]
      exact mem_map_of_mem found
  · rintro (byRule | password)
    · obtain ⟨rule, ruleMem, byRule⟩ := mem_flatMap.mp byRule
      obtain ⟨⟨value, span⟩, found, reported⟩ := mem_filterMap.mp byRule
      obtain ⟨ruleMem, enabled⟩ := mem_filter.mp ruleMem
      split at reported
      next accepted =>
        cases reported
        exact .rule ruleMem enabled found accepted.1 accepted.2
      · cases reported
    · unfold passwordFindings at password
      split at password
      next enabled =>
        obtain ⟨span, found, rfl⟩ := mem_map.mp password
        exact .password enabled found
      · cases password

theorem IsMatch.nonempty (isMatch : IsMatch ruleSet allowed text finding) :
    finding.span.start < finding.span.stop := by
  cases isMatch with
  | rule _ _ _ _ nonempty => exact nonempty
  | password _ found => exact ruleSet.passwordsNonempty text _ found

/-- The candidates are the competing matches. -/
theorem mem_candidates_iff :
    finding ∈ candidates ruleSet allowed text ↔ Competes ruleSet allowed text finding := by
  have separated : finding ∈ candidates ruleSet allowed text ↔
      (finding ∈ ruleFindings ruleSet allowed text ∧
        separate (passwordFindings ruleSet allowed text) finding = true) ∨
      finding ∈ passwordFindings ruleSet allowed text := by
    unfold candidates
    split
    next empty =>
      rw [isEmpty_iff.mp empty]
      simp [separate]
    · rw [mem_append, mem_filter]
  rw [separated, separate_iff pairwise_passwordFindings fun _ password =>
    (isMatch_iff.mpr (.inr password)).nonempty, Competes, isMatch_iff]
  tauto

theorem nonempty_of_mem_candidates (found : finding ∈ candidates ruleSet allowed text) :
    finding.span.start < finding.span.stop := by
  rcases mem_candidates_iff.mp found with password | ⟨isMatch, _⟩
  · exact (isMatch_iff.mpr (.inr password)).nonempty
  · exact isMatch.nonempty

/-- Distinct passwords do not overlap. -/
theorem eq_of_overlaps {first second : Finding}
    (firstMem : first ∈ passwordFindings ruleSet allowed text)
    (secondMem : second ∈ passwordFindings ruleSet allowed text)
    (overlaps : first.span.Overlaps second.span) : first = second := by
  by_contra distinct
  have apart : first.span.Precedes second.span ∨ second.span.Precedes first.span := by
    have symmetric : Std.Symm fun first second : Finding =>
        first.span.Precedes second.span ∨ second.span.Precedes first.span :=
      ⟨fun _ _ => .symm⟩
    have spread : (passwordFindings ruleSet allowed text).Pairwise fun first second =>
        first.span.Precedes second.span ∨ second.span.Precedes first.span :=
      pairwise_passwordFindings.imp .inl
    exact spread.forall firstMem secondMem distinct
  obtain ⟨startsBefore, endsAfter⟩ := overlaps
  rcases apart with (before : first.span.stop ≤ second.span.start) |
    (after : second.span.stop ≤ first.span.start)
  · omega
  · omega

/-- No password is dropped. -/
theorem mem_resolveOverlaps_of_password {password : Finding}
    (passwordMem : password ∈ passwordFindings ruleSet allowed text) :
    password ∈ resolveOverlaps (candidates ruleSet allowed text) := by
  obtain ⟨kept, keptMem, startsBefore, endsAfter⟩ := covered_start
    (fun _ => nonempty_of_mem_candidates) (mem_candidates_iff.mpr (.inl passwordMem))
  have passwordNonempty := (isMatch_iff.mpr (.inr passwordMem)).nonempty
  have overlaps : password.span.Overlaps kept.span :=
    ⟨endsAfter, startsBefore.trans_lt passwordNonempty⟩
  rcases mem_candidates_iff.mp (mem_of_mem_resolveOverlaps keptMem) with other | ⟨_, apart⟩
  · rwa [eq_of_overlaps passwordMem other overlaps]
  · exact absurd overlaps (apart password passwordMem)

variable {found : Finding}

/-- Each match is overlapped by a resolved finding, which may be the match itself. -/
theorem IsMatch.exists_overlaps (isMatch : IsMatch ruleSet allowed text found) :
    ∃ kept ∈ resolveOverlaps (candidates ruleSet allowed text), kept.span.Overlaps found.span := by
  by_cases competes : Competes ruleSet allowed text found
  · obtain ⟨kept, keptMem, startsBefore, endsAfter⟩ := covered_start
      (fun _ => nonempty_of_mem_candidates) (mem_candidates_iff.mpr competes)
    exact ⟨kept, keptMem, startsBefore.trans_lt isMatch.nonempty, endsAfter⟩
  · rw [Competes, not_or, not_and, not_forall₂] at competes
    obtain ⟨password, passwordMem, overlaps⟩ := competes.2 isMatch
    exact ⟨password, mem_resolveOverlaps_of_password passwordMem, not_not.mp overlaps⟩

variable (ruleSet allowed) in
theorem scan_eq_resolveOverlaps {position : Nat} (inText : position < text.length) :
    scan ruleSet allowed text = resolveOverlaps (candidates ruleSet allowed text) := by
  have notEmpty : ¬ text.isEmpty := by
    intro empty
    rw [isEmpty_iff.mp empty] at inText
    exact Nat.not_lt_zero _ inText
  exact if_neg notEmpty

theorem mem_candidates_of_mem_scan (found : finding ∈ scan ruleSet allowed text) :
    finding ∈ candidates ruleSet allowed text := by
  unfold scan at found
  split at found
  · cases found
  · exact mem_of_mem_resolveOverlaps found

theorem pairwise_scan : (scan ruleSet allowed text).Pairwise fun first second =>
      first.span.Precedes second.span := by
  unfold scan
  split
  · exact List.Pairwise.nil
  · exact pairwise_resolveOverlaps fun _ => nonempty_of_mem_candidates

/-- A match is covered in full exactly when the walk over the competing matches leaves no gap
in it. -/
theorem fullyCovered_iff_noGap :
    FullyCovered ruleSet allowed text found ↔ NoGap ruleSet allowed text found := by
  refine forall_congr' fun position => forall_congr' fun inText => forall_congr' fun _ => ?_
  rw [scan_eq_resolveOverlaps ruleSet allowed inText,
    covered_resolveOverlaps_iff fun _ => nonempty_of_mem_candidates]
  simp only [mem_candidates_iff]

variable {other : List Char}

/-- A text with the same matches has the same findings. -/
theorem DiffersInside.scan_eq (differs : DiffersInside ruleSet text found other) :
    scan ruleSet allowed other = scan ruleSet allowed text := by
  have sameRules : ruleFindings ruleSet allowed other = ruleFindings ruleSet allowed text := by
    apply flatMap_congr
    intro rule ruleMem
    exact differs.sameFindings rule (mem_of_mem_filter ruleMem)
  have sameEmpty : other.isEmpty = text.isEmpty := by
    rw [Bool.eq_iff_iff, isEmpty_iff_length_eq_zero, isEmpty_iff_length_eq_zero, differs.sameLength]
  unfold scan candidates passwordFindings
  rw [sameRules, differs.samePasswords, sameEmpty]

theorem nonempty_of_mem_scan (found : finding ∈ scan ruleSet allowed text) :
    finding.span.start < finding.span.stop :=
  nonempty_of_mem_candidates (mem_candidates_of_mem_scan found)

/-- The findings of a scan are in the order `mask` sorts them into. -/
theorem insertionSort_scan : (scan ruleSet allowed text).insertionSort
      (fun first second => first.span.start ≤ second.span.start) = scan ruleSet allowed text := by
  apply List.Pairwise.insertionSort_eq
  refine pairwise_scan.imp_of_mem ?_
  intro first second firstMem _ precedes
  exact Nat.le_trans (Nat.le_of_lt (nonempty_of_mem_scan firstMem)) precedes

theorem mask_scan (other : List Char) : mask other (scan ruleSet allowed text) =
      splice Finding.span (fun finding => redaction finding.category) other 0
        (scan ruleSet allowed text) := by
  unfold mask
  split
  next empty =>
    rw [isEmpty_iff.mp empty]
    rfl
  · rw [insertionSort_scan]

/-- The masked text depends on the positions no finding covers only. -/
theorem mask_scan_congr (agree : ∀ position, ¬ Covered (scan ruleSet allowed text) position →
      other[position]? = text[position]?) :
    mask other (scan ruleSet allowed text) = mask text (scan ruleSet allowed text) := by
  rw [mask_scan, mask_scan]
  apply splice_congr pairwise_scan
  · intro finding findingMem
    exact nonempty_of_mem_scan findingMem
  · intro _ _
    exact Nat.zero_le _
  · intro position _ outside
    apply agree
    rintro ⟨finding, findingMem, contains⟩
    exact outside finding findingMem contains

/-- Texts that differ only inside a match that is covered in full are masked alike. -/
theorem FullyCovered.mask_eq (covered : FullyCovered ruleSet allowed text found)
    (differs : DiffersInside ruleSet text found other) :
    mask other (scan ruleSet allowed other) = mask text (scan ruleSet allowed text) := by
  rw [differs.scan_eq]
  apply mask_scan_congr
  intro position uncovered
  by_cases inText : position < text.length
  · apply differs.sameOutside
    intro contains
    exact uncovered (covered position inText contains)
  · rw [List.getElem?_eq_none (Nat.le_of_not_lt inText), List.getElem?_eq_none]
    rw [differs.sameLength]
    exact Nat.le_of_not_lt inText

end Findings

/-! ## Masking secrets in full -/

/-- The scan covers every high-severity match exactly when the walk over the competing matches
leaves no gap in one; a match without a gap does not show through the mask. -/
theorem high_matches_masked_iff :
    ((∀ found, IsMatch ruleSet allowed text found → found.severity = .high →
        FullyCovered ruleSet allowed text found) ↔
      ∀ found, IsMatch ruleSet allowed text found → found.severity = .high →
        NoGap ruleSet allowed text found) ∧
    ∀ found, IsMatch ruleSet allowed text found → found.severity = .high →
      NoGap ruleSet allowed text found → ∀ other, DiffersInside ruleSet text found other →
        mask other (scan ruleSet allowed other) = mask text (scan ruleSet allowed text) := by
  refine ⟨?_, fun found _ _ noGap other differs => ?_⟩
  · simp only [fullyCovered_iff_noGap]
  · exact (fullyCovered_iff_noGap.mpr noGap).mask_eq differs

/-- The findings of a scan are matches, ordered and disjoint, each match overlaps one, the
passwords of URLs are among them, and the mask replaces them and nothing else. -/
theorem findings_disjoint_maximal :
    let findings := scan ruleSet allowed text
    let stops := findings.map fun finding => finding.span.stop
    (findings.Pairwise fun first second =>
      first.span.start ≤ second.span.start ∧ first.span.Precedes second.span) ∧
    (∀ found ∈ findings, IsMatch ruleSet allowed text found) ∧
    (∀ found, IsMatch ruleSet allowed text found → found.span.stop ≤ text.length →
      ∃ kept ∈ findings, kept.span.Overlaps found.span) ∧
    (isAllowed allowed .secret = true → ∀ span ∈ ruleSet.urlPasswords text,
      span.stop ≤ text.length → ⟨.secret, span, .high⟩ ∈ findings) ∧
    mask text findings = (zipWith (fun stop finding =>
      (Span.mk stop finding.span.start).slice text ++ redaction finding.category)
        (0 :: stops) findings).flatten ++ text.drop (stops.getLastD 0) := by
  intro findings stops
  refine ⟨?_, ?_, ?_, ?_, (mask_scan text).trans (splice_eq text 0 findings)⟩
  · refine pairwise_scan.imp_of_mem fun firstMem _ precedes => ⟨?_, precedes⟩
    exact (nonempty_of_mem_scan firstMem).le.trans precedes
  · intro found foundMem
    rcases mem_candidates_iff.mp (mem_candidates_of_mem_scan foundMem) with
      password | ⟨isMatch, _⟩
    · exact isMatch_iff.mpr (.inr password)
    · exact isMatch
  · intro found isMatch inText
    rw [show findings = _ from
      scan_eq_resolveOverlaps ruleSet allowed (isMatch.nonempty.trans_le inText)]
    exact isMatch.exists_overlaps
  · intro secret span spanMem inText
    have nonempty := ruleSet.passwordsNonempty text span spanMem
    rw [show findings = _ from scan_eq_resolveOverlaps ruleSet allowed (nonempty.trans_le inText)]
    apply mem_resolveOverlaps_of_password
    rw [passwordFindings, if_pos secret]
    exact mem_map_of_mem spanMem

/-- Rules where no text has a password in a URL. -/
def RuleSet.withoutPasswords (rules : List Rule) : RuleSet where
  rules
  urlPasswords := fun _ => []
  passwordsNonempty := fun _ => forall_mem_nil _
  passwordsOrdered := fun _ => List.Pairwise.nil

/-- An address whose domain runs into a key: the rule for addresses matches as far as
the first hyphen, the rule for keys from the start of the key to the end of the text. -/
def addressIntoKey : RuleSet :=
  .withoutPasswords
    [{ category := .apiKey, severity := .high,
       finditer := fun text => [(text.drop 5, ⟨5, 28⟩)] },
     { category := .email, severity := .low,
       finditer := fun text => [(text.take 11, ⟨0, 11⟩)] }]

/-- The address and the key without its last character. -/
def keyStart : List Char :=
  "me@x.GOCSPX-abcdefghijklmno".toList

/-- The text with the last character of the key open. -/
def keyText (last : Char) : List Char :=
  keyStart ++ [last]

theorem length_keyText (last : Char) : (keyText last).length = 28 := by
  have start : keyStart.length = 27 := by decide +kernel
  rw [keyText, length_append, start, length_singleton]

/-- The weaker match starts first and is kept; the key is dropped and all of it after
the first hyphen stays in the masked text. -/
theorem key_shows_through :
    let key : Finding := { category := .apiKey, span := ⟨5, 28⟩, severity := .high }
    IsMatch addressIntoKey none (keyText 'p') key ∧
      ¬ FullyCovered addressIntoKey none (keyText 'p') key ∧
      DiffersInside addressIntoKey (keyText 'p') key (keyText 'q') ∧
      mask (keyText 'p') (scan addressIntoKey none (keyText 'p')) =
        "«EMAIL»-abcdefghijklmnop".toList ∧
      mask (keyText 'q') (scan addressIntoKey none (keyText 'q')) =
        "«EMAIL»-abcdefghijklmnoq".toList := by
  intro key
  have found : scan addressIntoKey none (keyText 'p') =
      [{ category := .email, span := ⟨0, 11⟩, severity := .low }] := by decide +kernel
  refine ⟨isMatch_iff.mpr (.inl (by decide +kernel)), fun covered => ?_, ⟨?_, rfl, ?_, ?_⟩,
    by decide +kernel, by decide +kernel⟩
  · obtain ⟨finding, findingMem, contains⟩ :=
      covered 20 (by rw [length_keyText]; decide) (by decide)
    rw [found, mem_singleton] at findingMem
    rw [findingMem] at contains
    exact absurd contains (by decide)
  · intro rule ruleMem
    rcases mem_pair.mp ruleMem with rfl | rfl
    · rfl
    · rfl
  · rw [length_keyText, length_keyText]
  · intro position outside
    by_cases before : position < 28
    · have agree : ∀ position < 28, ¬ key.span.Contains position →
          (keyText 'q')[position]? = (keyText 'p')[position]? := by
        decide +kernel
      exact agree position before outside
    · rw [List.getElem?_eq_none, List.getElem?_eq_none] <;>
      · rw [length_keyText]
        exact Nat.le_of_not_lt before

end Caura.Governance
