import Caura.Ingest.Sentences

/-!
# Chunking a document

`chunk_blocks` packs the blocks of a document into sections.  A heading of the first two levels
closes a section, a block that would exceed the soft limit opens a new one, and a block above the
hard limit stands alone: a list, a table or a code block whole, a paragraph in pieces.

The sections hold the characters of the blocks, in order and up to white space, whatever the
segmenter reports, as long as each of its spans ends behind the beginning of the window.  A span
that ends at the beginning can stop the loop over the windows from ever moving.
-/

namespace Caura.Ingest

open Caura.Value List

universe u

/-! ## Blocks and sections -/

/-- `BlockType`. -/
inductive BlockType
  | heading
  | paragraph
  | list
  | code
  | table
  | blockquote
  deriving DecidableEq, Repr

/-- `Block`. -/
structure Block where
  type : BlockType
  text : Text
  depth : Int := 0

/-- The line a block contributes: a heading is rendered with its `#`s. -/
def Block.rendered (block : Block) : Text :=
  if block.type = .heading then List.replicate block.depth.toNat '#' ++ ' ' :: block.text
  else block.text

/-- `Section`. -/
structure Section where
  text : Text
  breadcrumb : Text := []
  tokenCount : Nat := 0
  blockTypes : List BlockType := []

/-! ## The packer -/

/-- What the loop over the blocks holds.  The heading trail begins with its last heading. -/
structure Chunking where
  sections : List Section := []
  currentTextParts : List Text := []
  currentTokens : Nat := 0
  currentTypes : List BlockType := []
  breadcrumbStack : List (Int × Text) := []

namespace Chunking

/-- `_current_breadcrumb()`. -/
def currentBreadcrumb (state : Chunking) : Text :=
  " > ".toList.intercalate (state.breadcrumbStack.reverse.map Prod.snd)

/-- `_flush()`. -/
def flush (state : Chunking) : Chunking :=
  if state.currentTextParts.isEmpty then state
  else
    let joined := strip isSpace (['\n', '\n'].intercalate state.currentTextParts)
    { state with
      sections :=
        if joined.isEmpty then state.sections
        else state.sections ++
          [{ text := joined
             breadcrumb := state.currentBreadcrumb
             tokenCount := state.currentTokens
             blockTypes := state.currentTypes }]
      currentTextParts := []
      currentTokens := 0
      currentTypes := [] }

/-- The block joins the current section as a line of its own. -/
def addPart (state : Chunking) (block : Block) (blockTokens : Nat) : Chunking :=
  { state with
    currentTextParts := state.currentTextParts ++ [block.rendered]
    currentTokens := state.currentTokens + blockTokens
    currentTypes := state.currentTypes ++ [block.type] }

/-- The texts become sections of their own. -/
def addSections (state : Chunking) (sections : List Section) : Chunking :=
  { state with sections := state.sections ++ sections }

/-- The heading trail drops the headings that are as deep and takes up this one. -/
def pushHeading (state : Chunking) (block : Block) : Chunking :=
  { state with
    breadcrumbStack := (block.depth, block.text) ::
      state.breadcrumbStack.dropWhile fun heading => decide (block.depth ≤ heading.1) }

end Chunking

variable {Token : Type u} (tokenizer : Tokenizer Token) (segment : Segmenter)

/-- One round of the loop over the blocks. -/
def Chunking.next (fuel softTokens hardTokens : Nat) (state : Chunking) (block : Block) :
    Option Chunking :=
  let blockTokens := tokenizer.countTokens block.text
  if block.type = .heading then
    let closed := if block.depth ≤ 2 ∧ state.currentTextParts ≠ [] then state.flush else state
    some ((closed.pushHeading block).addPart block blockTokens)
  else if block.type ∈ [BlockType.list, .table, .code] ∧ hardTokens < blockTokens then
    let closed := state.flush
    some (closed.addSections
      [{ text := block.text
         breadcrumb := closed.currentBreadcrumb
         tokenCount := blockTokens
         blockTypes := [block.type] }])
  else if block.type = .paragraph ∧ hardTokens < blockTokens then
    let closed := state.flush
    (splitOversizedParagraph tokenizer segment fuel block.text hardTokens).map fun subs =>
      closed.addSections (subs.map fun sub =>
        { text := sub
          breadcrumb := closed.currentBreadcrumb
          tokenCount := tokenizer.countTokens sub
          blockTypes := [.paragraph] })
  else
    let closed :=
      if softTokens < state.currentTokens + blockTokens ∧ state.currentTextParts ≠ [] then
        state.flush
      else state
    some (closed.addPart block blockTokens)

/-- `chunk_blocks(blocks, soft_tokens, hard_tokens)`; `none` when the fuel of a loop over windows
has run out. -/
def chunkBlocks (fuel softTokens hardTokens : Nat) (blocks : List Block) :
    Option (List Section) :=
  (blocks.foldlM (Chunking.next tokenizer segment fuel softTokens hardTokens) {}).map fun state =>
    state.flush.sections

/-! ## Nothing is lost -/

/-- The text in the sections, and what has been collected for the next one. -/
def Chunking.content (state : Chunking) : Text :=
  (state.sections.map Section.text).flatten ++ state.currentTextParts.flatten

namespace Chunking

theorem currentTextParts_flush (state : Chunking) : state.flush.currentTextParts = [] := by
  unfold flush
  split
  next isEmpty => exact isEmpty_iff.mp isEmpty
  · rfl

/-- What was collected becomes a section, unless it is blank. -/
theorem sections_flush (state : Chunking) :
    ∃ added, state.flush.sections = state.sections ++ added ∧
      squeeze isSpace (added.map Section.text).flatten =
        squeeze isSpace state.currentTextParts.flatten ∧
      ∀ closed ∈ added, closed.breadcrumb = state.currentBreadcrumb ∧
        closed.tokenCount = state.currentTokens ∧ closed.blockTypes = state.currentTypes := by
  have joins : squeeze isSpace (strip isSpace (['\n', '\n'].intercalate state.currentTextParts)) =
      squeeze isSpace state.currentTextParts.flatten := by
    rw [squeeze_strip, squeeze_intercalate isSpace ['\n', '\n'] rfl]
  unfold flush
  split
  next isEmpty =>
    refine ⟨[], (append_nil _).symm, ?_, nofun⟩
    rw [isEmpty_iff.mp isEmpty]
    rfl
  · dsimp only
    split
    next isBlank =>
      refine ⟨[], (append_nil _).symm, ?_, nofun⟩
      rw [← joins, isEmpty_iff.mp isBlank]
      rfl
    · exact ⟨_, rfl, by rwa [map_singleton, flatten_singleton], by simp⟩

theorem squeeze_content_flush (state : Chunking) :
    squeeze isSpace state.flush.content = squeeze isSpace state.content := by
  obtain ⟨added, isAdded, sameText, -⟩ := state.sections_flush
  rw [content, content, currentTextParts_flush, isAdded, map_append, flatten_append,
    flatten_nil, append_nil, squeeze_append, sameText, squeeze_append]

theorem squeeze_content_addPart (state : Chunking) (block : Block) (blockTokens : Nat) :
    squeeze isSpace (state.addPart block blockTokens).content =
      squeeze isSpace state.content ++ squeeze isSpace block.rendered := by
  rw [content, content, addPart, flatten_append, flatten_singleton, ← append_assoc, squeeze_append]

/-- Sections are added where nothing waits for the next one. -/
theorem content_addSections {state : Chunking} (flushed : state.currentTextParts = [])
    (sections : List Section) :
    (state.addSections sections).content =
      state.content ++ (sections.map Section.text).flatten := by
  simp [content, addSections, flushed]

/-- One block adds its characters, and nothing else that is not white space. -/
theorem exists_next {segment : Segmenter} (advances : segment.Advances)
    {fuel : Nat} (softTokens hardTokens : Nat) (state : Chunking) {block : Block}
    (enough : block.text.length ≤ fuel) :
    ∃ after, state.next tokenizer segment fuel softTokens hardTokens block = some after ∧
      squeeze isSpace after.content =
        squeeze isSpace state.content ++ squeeze isSpace block.rendered := by
  unfold next
  dsimp only
  split
  · refine ⟨_, rfl, ?_⟩
    rw [squeeze_content_addPart]
    congr 1
    split
    · exact squeeze_content_flush state
    · rfl
  next noHeading =>
    have isText : block.rendered = block.text := if_neg noHeading
    split
    · refine ⟨_, rfl, ?_⟩
      rw [content_addSections state.currentTextParts_flush, squeeze_append,
        squeeze_content_flush, isText, map_singleton, flatten_singleton]
    · split
      · obtain ⟨subs, splits⟩ :=
          exists_splitOversizedParagraph tokenizer advances enough hardTokens
        rw [splits]
        refine ⟨_, rfl, ?_⟩
        rw [content_addSections state.currentTextParts_flush, squeeze_append,
          squeeze_content_flush, isText, map_map,
          ← squeeze_splitOversizedParagraph tokenizer splits]
        congr 3
        exact map_id subs
      · refine ⟨_, rfl, ?_⟩
        rw [squeeze_content_addPart]
        congr 1
        split
        · exact squeeze_content_flush state
        · rfl

theorem exists_foldlM {segment : Segmenter} (advances : segment.Advances)
    {fuel : Nat} (softTokens hardTokens : Nat) {blocks : List Block}
    (enough : ∀ block ∈ blocks, block.text.length ≤ fuel) (state : Chunking) :
    ∃ after, blocks.foldlM (Chunking.next tokenizer segment fuel softTokens hardTokens) state =
        some after ∧
      squeeze isSpace after.content =
        squeeze isSpace state.content ++ squeeze isSpace (blocks.map Block.rendered).flatten := by
  induction blocks generalizing state with
  | nil => exact ⟨state, rfl, (append_nil _).symm⟩
  | cons block blocks ih =>
    obtain ⟨now, isNow, addsBlock⟩ := exists_next tokenizer advances softTokens hardTokens state
      (enough block (.head _))
    obtain ⟨after, isAfter, addsBlocks⟩ :=
      ih (fun later isLater => enough later (.tail _ isLater)) now
    refine ⟨after, ?_, ?_⟩
    · rwa [foldlM_cons, isNow]
    · rw [addsBlocks, addsBlock, map_cons, flatten_cons, squeeze_append, append_assoc]

end Chunking

/-- Chunking loses nothing and keeps the order: with a segmenter whose spans end behind the
beginning of the window, and with fuel for every character of a block, the sections hold the
characters of the rendered blocks up to white space. -/
theorem sections_keep_text {segment : Segmenter} (advances : segment.Advances)
    (fuel softTokens hardTokens : Nat) (blocks : List Block)
    (enough : ∀ block ∈ blocks, block.text.length ≤ fuel) :
    ∃ sections, chunkBlocks tokenizer segment fuel softTokens hardTokens blocks = some sections ∧
      squeeze isSpace (sections.map Section.text).flatten =
        squeeze isSpace (blocks.map Block.rendered).flatten := by
  obtain ⟨after, returns, sameText⟩ :=
    Chunking.exists_foldlM tokenizer advances softTokens hardTokens enough {}
  refine ⟨after.flush.sections, by rw [chunkBlocks, returns]; rfl, ?_⟩
  rw [← after.squeeze_content_flush, Chunking.content, after.currentTextParts_flush] at sameText
  rwa [flatten_nil, append_nil] at sameText

/-! ## Two segmenters -/

theorem joinBytes_characters (text : Text) :
    joinBytes (fun char => (String.utf8EncodeChar char).toByteArray) text = text.utf8Encode := by
  induction text with
  | nil => rfl
  | cons char text ih =>
    rw [joinBytes, ih, ← utf8Encode_singleton, ← utf8Encode_append, singleton_append]

/-- The tokenizer whose tokens are the characters. -/
def characters : Tokenizer Char where
  encode text := text
  bytes char := (String.utf8EncodeChar char).toByteArray
  replaced _ := []
  joinBytes_encode := joinBytes_characters

/-- The segmenter that cuts every window behind its first and behind its third character. -/
def afterFirstAndThird : Segmenter :=
  fun _ => some [1, 3]

theorem afterFirstAndThird_advances : afterFirstAndThird.Advances := by
  intro window ends reported
  cases reported
  decide

/-- A heading, a paragraph above the hard limit and a list. -/
def shortDocument : List Block :=
  [{ type := .heading, text := "Größe".toList, depth := 2 },
    { type := .paragraph, text := "Ein Meter. Zwei Ellen. Ω".toList },
    { type := .list, text := "- a\n- b".toList }]

theorem sections_keep_text_shortDocument : ∃ sections,
      chunkBlocks characters afterFirstAndThird 24 8 6 shortDocument = some sections ∧
      squeeze isSpace (sections.map Section.text).flatten =
        "##GrößeEinMeter.ZweiEllen.Ω-a-b".toList := by
  obtain ⟨sections, returns, sameText⟩ := sections_keep_text characters
    afterFirstAndThird_advances 24 8 6 shortDocument (by decide)
  exact ⟨sections, returns, sameText.trans (by decide)⟩

/-- The ends of the spans lie in the window, in increasing order. -/
def Segmenter.Ordered (segment : Segmenter) : Prop :=
  ∀ window ends, segment window = some ends →
    ends.Pairwise (· < ·) ∧ ∀ stop ∈ ends, stop ≤ window.length

/-- The segmenter that reports an empty span before the whole window. -/
def emptySpanFirst : Segmenter :=
  fun window => some (if window.isEmpty then [] else [0, window.length])

theorem emptySpanFirst_ordered : emptySpanFirst.Ordered := by
  intro window ends reported
  cases reported
  cases window with
  | nil => exact ⟨List.Pairwise.nil, nofun⟩
  | cons char window => simp

/-- A window that is not the last hands on everything behind the empty span. -/
theorem cutSentences_emptySpanFirst {rest : Text} (long : segmentWindowChars < rest.length) :
    cutSentences emptySpanFirst rest = .ok ([], 0) := by
  have nonempty : (windowOf rest).2 ≠ [] :=
    windowOf_ne_nil (ne_nil_of_length_pos (Nat.zero_lt_of_lt long))
  have notLast : (windowOf rest).1 = false := decide_eq_false (Nat.not_le.mpr long)
  have reported : emptySpanFirst (windowOf rest).2 = some [0, (windowOf rest).2.length] := by
    rw [emptySpanFirst, if_neg (by rwa [List.isEmpty_iff])]
  rw [cutSentences, reported, notLast]
  rfl

theorem sentenceSlices_emptySpanFirst (fuel : Nat) {rest : Text}
    (long : segmentWindowChars < rest.length) :
    sentenceSlices emptySpanFirst fuel rest = none := by
  induction fuel with
  | zero =>
    cases rest with
    | nil => cases long
    | cons char chars => rfl
  | succ fuel ih =>
    cases rest with
    | nil => cases long
    | cons char chars =>
      rw [sentenceSlices, cutSentences_emptySpanFirst long]
      dsimp only
      rw [drop_zero, ih, Option.map_none]

/-- With ends that lie in the window in increasing order, the first of them at its beginning, the
chunker may not return. -/
theorem chunkBlocks_emptySpanFirst : emptySpanFirst.Ordered ∧
      ∃ blocks, ∀ fuel, chunkBlocks characters emptySpanFirst fuel 1 1 blocks = none := by
  let line : Text := List.replicate 2001 'a'
  refine ⟨emptySpanFirst_ordered, [{ type := .paragraph, text := line }], fun fuel => ?_⟩
  have long : segmentWindowChars < line.length := by
    rw [length_replicate]
    decide
  have oversized : 1 < characters.countTokens line := Nat.lt_trans (by decide) long
  simp [chunkBlocks, Chunking.next, splitOversizedParagraph, oversized,
    sentenceSlices_emptySpanFirst fuel long]

end Caura.Ingest
