import Caura.Ingest.TokenSplit

/-!
# Splitting a paragraph between its sentences

`_split_oversized_paragraph` cuts a paragraph at the sentence boundaries a segmenter reports, one
window of the text at a time, packs the sentences and splits what is still too long between its
tokens.

The segmenter is a parameter: for a window it gives the ends of its spans, or it raises.  The loop
over the windows is a `while` loop, so that its model runs on fuel and is `none` without it.
-/

namespace Caura.Ingest

open Caura.Value List Option

universe u

/-! ## The windows -/

/-- `_SEGMENT_WINDOW_CHARS`. -/
def segmentWindowChars : Nat := 2000

/-- `[span.end for span in seg.segment(window)]`, or `none` when the segmenter raises. -/
abbrev Segmenter := Text → Option (List Nat)

/-- `window.rfind(char)`. -/
def rfind (window : Text) (char : Char) : Int :=
  match window.reverse.idxOf? char with
  | some behind => (window.length : Int) - 1 - behind
  | none => -1

/-- A window that is not the last one ends on white space where it has any. -/
def cutWindow (window : Text) : Text :=
  let cut := max (rfind window ' ') (max (rfind window '\n') (rfind window '\t'))
  if 0 < cut then window.take (cut.toNat + 1) else window

/-- The boundaries at which a window is cut: the last sentence of a window that is not the last is
handed on to the next. -/
def windowEnds (final : Bool) (window : Text) (ends : List Nat) : List Nat :=
  if final then ends ++ [window.length]
  else if 1 < ends.length then ends.dropLast
  else [window.length]

/-- The loop `for end in ends`: the slices cut from the text, and how much of it was taken. -/
def cutAt (rest : Text) (taken : Nat) : List Nat → List Text × Nat
  | [] => ([], taken)
  | stop :: stops =>
    if taken < stop then
      let later := cutAt rest stop stops
      ((rest.drop taken).take (stop - taken) :: later.1, later.2)
    else cutAt rest taken stops

/-- The window `rest` begins with, and whether it is the last. -/
def windowOf (rest : Text) : Bool × Text :=
  let final := decide (rest.length ≤ segmentWindowChars)
  (final, if final then rest else cutWindow (rest.take segmentWindowChars))

/-- One round of the loop over the windows; an `error` is the segmenter's exception. -/
def cutSentences (segment : Segmenter) (rest : Text) : Except Unit (List Text × Nat) :=
  match segment (windowOf rest).2 with
  | none => .error ()
  | some ends => .ok (cutAt rest 0 (windowEnds (windowOf rest).1 (windowOf rest).2 ends))

/-- `_sentence_slices(text)`, from the point where `rest` is left. -/
def sentenceSlices (segment : Segmenter) : Nat → Text → Option (Except Unit (List Text))
  | _, [] => some (.ok [])
  | 0, _ :: _ => none
  | fuel + 1, char :: chars =>
    match cutSentences segment (char :: chars) with
    | .error raised => some (.error raised)
    | .ok (slices, taken) =>
      (sentenceSlices segment fuel ((char :: chars).drop taken)).map fun later =>
        later.map (slices ++ ·)

/-! ## The packing -/

/-- `re.split(r"(?<=\. )", text)`. -/
def naiveSentences : Text → List Text
  | [] => [[]]
  | '.' :: ' ' :: rest => ['.', ' '] :: naiveSentences rest
  | char :: rest =>
    match naiveSentences rest with
    | [] => [[char]]
    | sent :: sents => (char :: sent) :: sents

/-- What the loop over the sentences holds. -/
structure Packing where
  out : List Text := []
  current : Text := []
  currentTokens : Nat := 0

variable {Token : Type u} (tokenizer : Tokenizer Token)

/-- One round of the loop over the sentences. -/
def Packing.next (hardTokens : Nat) (packing : Packing) (sent : Text) : Packing :=
  let sentTokens := tokenizer.countTokens (strip isSpace sent)
  if hardTokens < packing.currentTokens + sentTokens ∧ strip isSpace packing.current ≠ [] then
    { out := packing.out ++ [strip isSpace packing.current]
      current := sent
      currentTokens := sentTokens }
  else
    { packing with
      current := packing.current ++ sent
      currentTokens := packing.currentTokens + sentTokens }

/-- The pieces the sentences are packed into. -/
def packSentences (hardTokens : Nat) (sents : List Text) : List Text :=
  let packing := sents.foldl (Packing.next tokenizer hardTokens) {}
  appendStripped isSpace packing.out packing.current

/-- The loop `for piece in out` that enforces the cap. -/
def enforceCap (hardTokens : Nat) (pieces : List Text) : List Text :=
  pieces.flatMap fun piece =>
    if hardTokens < tokenizer.countTokens piece then hardSplitOnTokens tokenizer piece hardTokens
    else [piece]

/-- `_split_oversized_paragraph(text, hard_tokens)`. -/
def splitOversizedParagraph (segment : Segmenter) (fuel : Nat) (text : Text) (hardTokens : Nat) :
    Option (List Text) :=
  (sentenceSlices segment fuel text).map fun
    | .ok sents => enforceCap tokenizer hardTokens (packSentences tokenizer hardTokens sents)
    | .error _ =>
      enforceCap tokenizer hardTokens
        (packSentences tokenizer hardTokens (naiveSentences text))

/-! ## The slices join to the text -/

/-- What the cuts take and what they leave is the text from where they began. -/
theorem cutAt_append_drop (rest : Text) (taken : Nat) (stops : List Nat) :
    (cutAt rest taken stops).1.flatten ++ rest.drop (cutAt rest taken stops).2 =
      rest.drop taken := by
  induction stops generalizing taken with
  | nil => rfl
  | cons stop stops ih =>
    rw [cutAt]
    split
    next advances =>
      have behind : rest.drop stop = (rest.drop taken).drop (stop - taken) := by
        rw [drop_drop, Nat.add_sub_cancel' (Nat.le_of_lt advances)]
      rw [flatten_cons, append_assoc, ih stop, behind, take_append_drop]
    · exact ih taken

variable {segment : Segmenter} {rest : Text}

theorem exists_ends_of_cutSentences {cuts : List Text × Nat}
    (isCut : cutSentences segment rest = .ok cuts) :
    ∃ ends, segment (windowOf rest).2 = some ends ∧
      cuts = cutAt rest 0 (windowEnds (windowOf rest).1 (windowOf rest).2 ends) := by
  rw [cutSentences] at isCut
  split at isCut
  · cases isCut
  next ends reported => exact ⟨ends, reported, (Except.ok.inj isCut).symm⟩

variable {fuel stop taken : Nat} {slices : List Text}

theorem flatten_sentenceSlices
    (returns : sentenceSlices segment fuel rest = some (.ok slices)) : slices.flatten = rest := by
  induction fuel generalizing rest slices with
  | zero =>
    cases rest with
    | nil => cases returns; rfl
    | cons char chars => cases returns
  | succ fuel ih =>
    cases rest with
    | nil => cases returns; rfl
    | cons char chars =>
      rw [sentenceSlices] at returns
      split at returns
      · cases returns
      next now taken isCut =>
        obtain ⟨ends, -, isCuts⟩ := exists_ends_of_cutSentences isCut
        have joins := cutAt_append_drop (char :: chars) 0
          (windowEnds (windowOf (char :: chars)).1 (windowOf (char :: chars)).2 ends)
        rw [← isCuts] at joins
        obtain ⟨later, goesOn, isOk⟩ := map_eq_some_iff.mp returns
        cases later with
        | error raised => cases isOk
        | ok later =>
          cases isOk
          rwa [flatten_append, ih goesOn]

theorem flatten_naiveSentences (text : Text) : (naiveSentences text).flatten = text := by
  fun_induction naiveSentences text with
  | case1 => rfl
  | case2 rest ih => rw [flatten_cons, ih]; rfl
  | case3 char rest _ isNil ih => rw [← ih, isNil]; rfl
  | case4 char rest _ sent sents isCons ih => rw [← ih, isCons]; rfl

/-! ## The loop over the windows ends -/

/-- Where the segmenter reports several spans, one before the last ends behind the beginning of
its window. -/
def Segmenter.Advances (segment : Segmenter) : Prop :=
  ∀ window ends, segment window = some ends → 1 < ends.length → ∃ stop ∈ ends.dropLast, 0 < stop

theorem le_cutAt (rest : Text) (taken : Nat) (stops : List Nat) :
    taken ≤ (cutAt rest taken stops).2 := by
  induction stops generalizing taken with
  | nil => exact Nat.le_refl _
  | cons stop stops ih =>
    rw [cutAt]
    split
    next advances => exact Nat.le_trans (Nat.le_of_lt advances) (ih stop)
    · exact ih taken

theorem le_cutAt_of_mem (rest : Text) (taken : Nat) {stops : List Nat} (isStop : stop ∈ stops) :
    stop ≤ (cutAt rest taken stops).2 := by
  induction stops generalizing taken with
  | nil => cases isStop
  | cons first stops ih =>
    rw [cutAt]
    rcases mem_cons.mp isStop with rfl | later
    · split
      · exact le_cutAt rest stop stops
      next behind => exact Nat.le_trans (Nat.not_lt.mp behind) (le_cutAt rest taken stops)
    · split
      · exact ih first later
      · exact ih taken later

variable {window text : Text}

theorem cutWindow_ne_nil (nonempty : window ≠ []) : cutWindow window ≠ [] := by
  unfold cutWindow
  dsimp only
  split
  · simpa only [ne_eq, take_eq_nil_iff, Nat.add_one_ne_zero, false_or] using nonempty
  · exact nonempty

theorem windowOf_ne_nil (nonempty : rest ≠ []) : (windowOf rest).2 ≠ [] := by
  unfold windowOf
  dsimp only
  split
  · exact nonempty
  · refine cutWindow_ne_nil ?_
    rw [ne_eq, take_eq_nil_iff, not_or]
    exact ⟨by decide, nonempty⟩

/-- A window is cut somewhere behind its beginning. -/
theorem exists_pos_windowEnds {final : Bool} {ends : List Nat} (nonempty : window ≠ [])
    (advances : 1 < ends.length → ∃ stop ∈ ends.dropLast, 0 < stop) :
    ∃ stop ∈ windowEnds final window ends, 0 < stop := by
  have whole : 0 < window.length := length_pos_iff.mpr nonempty
  unfold windowEnds
  split
  · exact ⟨_, mem_append_right _ (mem_singleton_self _), whole⟩
  · split
    next several => exact advances several
    · exact ⟨_, mem_singleton_self _, whole⟩

theorem cutSentences_pos (nonempty : rest ≠ [])
    (advances : ∀ ends, segment (windowOf rest).2 = some ends → 1 < ends.length →
      ∃ stop ∈ ends.dropLast, 0 < stop)
    (isCut : cutSentences segment rest = .ok (slices, taken)) : 0 < taken := by
  obtain ⟨ends, reported, isCuts⟩ := exists_ends_of_cutSentences isCut
  obtain ⟨stop, isStop, positive⟩ := exists_pos_windowEnds
    (windowOf_ne_nil nonempty) (advances ends reported)
  have reached := le_cutAt_of_mem rest 0 isStop
  rw [← isCuts] at reached
  exact Nat.lt_of_lt_of_le positive reached

/-- With fuel for every character, the loop over the windows returns or raises. -/
theorem sentenceSlices_isSome (advances : segment.Advances) (enough : rest.length ≤ fuel) :
    (sentenceSlices segment fuel rest).isSome := by
  induction fuel generalizing rest with
  | zero =>
    rw [length_eq_zero_iff.mp (Nat.le_zero.mp enough)]
    rfl
  | succ fuel ih =>
    cases rest with
    | nil => rfl
    | cons char chars =>
      rw [sentenceSlices]
      split
      · rfl
      next slices taken cuts =>
        have forward := cutSentences_pos (cons_ne_nil _ _) (advances _) cuts
        have shorter : ((char :: chars).drop taken).length ≤ fuel := by
          rw [length_drop]
          omega
        rw [isSome_map]
        exact ih shorter

/-- For a window that holds something, the spans end behind its beginning and inside it, in
increasing order. -/
def Segmenter.Reports (segment : Segmenter) : Prop :=
  ∀ window, window ≠ [] → ∃ ends, segment window = some ends ∧ ends.Pairwise (· < ·) ∧
    ∀ stop ∈ ends, 0 < stop ∧ stop ≤ window.length

/-- The loop over the windows ends after at most one round for each character, and its slices
join to the text. -/
theorem sentenceSlices_tile (reports : segment.Reports) (text : Text) :
    ∃ slices, (∀ fuel, text.length ≤ fuel → sentenceSlices segment fuel text = some (.ok slices)) ∧
      slices.flatten = text := by
  induction length : text.length using Nat.strongRecOn generalizing text with
  | _ length ih =>
    subst length
    cases text with
    | nil => exact ⟨[], fun fuel _ => by cases fuel <;> rfl, rfl⟩
    | cons char chars =>
      obtain ⟨ends, reported, -, within⟩ := reports _ (windowOf_ne_nil (cons_ne_nil char chars))
      obtain ⟨⟨now, taken⟩, isCut⟩ : ∃ cuts, cutSentences segment (char :: chars) = .ok cuts := by
        rw [cutSentences, reported]
        exact ⟨_, rfl⟩
      have forward := cutSentences_pos (cons_ne_nil _ _) (fun _ isReported => by
          cases reported.symm.trans isReported
          intro several
          have keeps : ends.dropLast ≠ [] := by
            rw [← length_pos_iff, length_dropLast]
            omega
          exact ⟨_, head_mem keeps, (within _ (dropLast_subset _ (head_mem keeps))).1⟩) isCut
      obtain ⟨later, returns, -⟩ := ih _ (by rw [length_drop, length_cons]; omega)
        ((char :: chars).drop taken) rfl
      have goesOn : ∀ fuel, (char :: chars).length ≤ fuel →
          sentenceSlices segment fuel (char :: chars) = some (.ok (now ++ later)) := by
        intro fuel enough
        obtain ⟨fuel, rfl⟩ := Nat.exists_eq_add_one.mpr (Nat.zero_lt_of_lt enough)
        rw [sentenceSlices, isCut]
        dsimp only
        rw [returns fuel (by rw [length_drop]; omega)]
        rfl
      exact ⟨now ++ later, goesOn, flatten_sentenceSlices (goesOn _ (Nat.le_refl _))⟩

/-- The segmenter that cuts every window in two. -/
def halves : Segmenter :=
  fun window => some (if 1 < window.length then [window.length / 2, window.length]
    else [window.length])

theorem halves_reports : halves.Reports := by
  intro window nonempty
  have positive := length_pos_iff.mpr nonempty
  refine ⟨_, rfl, ?_⟩
  split
  · exact ⟨pairwise_pair.mpr (by omega),
      forall_mem_cons.mpr ⟨by omega, forall_mem_singleton.mpr (by omega)⟩⟩
  · simp [positive]

/-- A text of several windows. -/
def longText : Text :=
  (List.replicate 500 "Ja. Und? ".toList).flatten

theorem sentenceSlices_tile_halves : segmentWindowChars < longText.length ∧
    ∃ slices, (∀ fuel, longText.length ≤ fuel →
      sentenceSlices halves fuel longText = some (.ok slices)) ∧ slices.flatten = longText :=
  ⟨by decide +kernel, sentenceSlices_tile halves_reports longText⟩

/-! ## Nothing is lost -/

theorem squeeze_next (hardTokens : Nat) (packing : Packing) (sent : Text) :
    squeeze isSpace ((packing.next tokenizer hardTokens sent).out.flatten ++
        (packing.next tokenizer hardTokens sent).current) =
      squeeze isSpace (packing.out.flatten ++ packing.current) ++ squeeze isSpace sent := by
  unfold Packing.next
  dsimp only
  split
  · simp [squeeze_append, squeeze_strip]
  · simp [squeeze_append]

theorem squeeze_foldl_next (hardTokens : Nat) (packing : Packing) (sents : List Text) :
    squeeze isSpace ((sents.foldl (Packing.next tokenizer hardTokens) packing).out.flatten ++
        (sents.foldl (Packing.next tokenizer hardTokens) packing).current) =
      squeeze isSpace (packing.out.flatten ++ packing.current) ++
        squeeze isSpace sents.flatten := by
  induction sents generalizing packing with
  | nil => exact (append_nil _).symm
  | cons sent sents ih =>
    rw [foldl_cons, ih, squeeze_next, flatten_cons, squeeze_append _ sent, append_assoc]

theorem squeeze_packSentences (hardTokens : Nat) (sents : List Text) :
    squeeze isSpace (packSentences tokenizer hardTokens sents).flatten =
      squeeze isSpace sents.flatten := by
  rw [packSentences, squeeze_flatten_appendStripped, ← squeeze_append, squeeze_foldl_next]
  rfl

theorem squeeze_enforceCap (hardTokens : Nat) (pieces : List Text) :
    squeeze isSpace (enforceCap tokenizer hardTokens pieces).flatten =
      squeeze isSpace pieces.flatten := by
  induction pieces with
  | nil => rfl
  | cons piece pieces ih =>
    rw [enforceCap, flatMap_cons, flatten_append, squeeze_append, flatten_cons, squeeze_append]
    congr 1
    split
    · exact squeeze_hardSplitOnTokens tokenizer piece hardTokens
    · rw [flatten_singleton]

/-- The pieces of an oversized paragraph hold its characters, in order. -/
theorem squeeze_splitOversizedParagraph {pieces : List Text} {hardTokens : Nat}
    (isSplit : splitOversizedParagraph tokenizer segment fuel text hardTokens = some pieces) :
    squeeze isSpace pieces.flatten = squeeze isSpace text := by
  obtain ⟨result, returns, rfl⟩ := map_eq_some_iff.mp isSplit
  cases result with
  | ok sents =>
    rw [squeeze_enforceCap, squeeze_packSentences, flatten_sentenceSlices returns]
  | error raised => rw [squeeze_enforceCap, squeeze_packSentences, flatten_naiveSentences]

theorem exists_splitOversizedParagraph (advances : segment.Advances) (enough : text.length ≤ fuel)
    (hardTokens : Nat) :
    ∃ pieces, splitOversizedParagraph tokenizer segment fuel text hardTokens = some pieces := by
  obtain ⟨result, returns⟩ := isSome_iff_exists.mp (sentenceSlices_isSome advances enough)
  rw [splitOversizedParagraph, returns]
  exact ⟨_, rfl⟩

end Caura.Ingest
