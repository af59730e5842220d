import Caura.Value.Strip

/-!
# Splitting a text between its tokens

The last resort of the chunker cuts the encoding of a text into slices of tokens.  A cut may fall
inside a character, so that the bytes of a slice that are not yet a character are carried into the
next one.

A text is the list of its characters, and the tokenizer is a parameter: it encodes every text, and
the bytes of the tokens, in order, are the UTF-8 encoding of the text.
-/

namespace Caura.Ingest

open Caura.Value List ByteArray

universe u

/-- A Python string without lone surrogates. -/
abbrev Text := List Char

/-- `str.isspace` of one character: the white space of Unicode and the four separators
`\x1c` to `\x1f`. -/
def isSpace (char : Char) : Bool :=
  let code := char.toNat
  (0x09 ≤ code && code ≤ 0x0d) || (0x1c ≤ code && code ≤ 0x20) || code == 0x85 || code == 0xa0 ||
    code == 0x1680 || (0x2000 ≤ code && code ≤ 0x200a) || code == 0x2028 || code == 0x2029 ||
    code == 0x202f || code == 0x205f || code == 0x3000

/-! ## The tokenizer -/

/-- `decode_bytes` of a tokenizer whose tokens have the given bytes. -/
def joinBytes {Token : Type u} (bytes : Token → ByteArray) : List Token → ByteArray
  | [] => empty
  | id :: ids => bytes id ++ joinBytes bytes ids

/-- What `tiktoken` is to the chunker. -/
structure Tokenizer (Token : Type u) where
  encode : Text → List Token
  bytes : Token → ByteArray
  /-- What `decode("utf-8", "replace")` makes of bytes that are not UTF-8. -/
  replaced : ByteArray → Text
  joinBytes_encode : ∀ text, joinBytes bytes (encode text) = text.utf8Encode

variable {Token : Type u} (tokenizer : Tokenizer Token)

namespace Tokenizer

/-- `decode_bytes(ids)`. -/
def decodeBytes (ids : List Token) : ByteArray :=
  joinBytes tokenizer.bytes ids

/-- `_count_tokens(text)`. -/
def countTokens (text : Text) : Nat :=
  (tokenizer.encode text).length

/-- `carry.decode("utf-8", "replace")`. -/
def decodeReplacing (bytes : ByteArray) : Text :=
  match bytes.utf8Decode? with
  | some chars => chars.toList
  | none => tokenizer.replaced bytes

theorem decodeBytes_append (first second : List Token) : tokenizer.decodeBytes (first ++ second) =
      tokenizer.decodeBytes first ++ tokenizer.decodeBytes second := by
  induction first with
  | nil => exact empty_append.symm
  | cons id first ih =>
    rw [decodeBytes] at ih
    rw [cons_append, decodeBytes, joinBytes, ih, ← ByteArray.append_assoc]
    rfl

theorem decodeReplacing_utf8Encode (text : Text) :
    tokenizer.decodeReplacing text.utf8Encode = text := by
  rw [decodeReplacing, List.utf8Decode?_utf8Encode]

end Tokenizer

/-! ## The split -/

/-- The loop `while chunk: try: piece = chunk.decode("utf-8") …` from the point where `length`
bytes of the chunk are left: the text of the longest beginning that is valid, and the bytes behind
it, which are carried. -/
def peel (chunk : ByteArray) : Nat → Text × ByteArray
  | 0 => ([], chunk)
  | length + 1 =>
    match (chunk.extract 0 (length + 1)).utf8Decode? with
    | some piece => (piece.toList, chunk.extract (length + 1) chunk.size)
    | none => peel chunk length

/-- What the loop over the slices holds. -/
structure Slicing where
  out : List Text := []
  carry : ByteArray := empty

/-- One round of the loop over the slices. -/
def Slicing.next (state : Slicing) (ids : List Token) : Slicing :=
  let chunk := state.carry ++ tokenizer.decodeBytes ids
  let peeled := peel chunk chunk.size
  { out := appendStripped isSpace state.out peeled.1
    carry := peeled.2 }

/-- `if carry: …` behind the loop. -/
def Slicing.finish (state : Slicing) : List Text :=
  if state.carry.isEmpty then state.out
  else appendStripped isSpace state.out (tokenizer.decodeReplacing state.carry)

/-- `ids[start : start + step] for start in range(0, len(ids), step)`; the number bounds the
slices. -/
def tokenSlices (step : Nat) : Nat → List Token → List (List Token)
  | _, [] => []
  | 0, _ :: _ => []
  | count + 1, id :: ids =>
    (id :: ids).take step :: tokenSlices step count ((id :: ids).drop step)

/-- `_CARRY_TOKEN_HEADROOM`. -/
def carryTokenHeadroom : Nat := 4

/-- `_hard_split_on_tokens(text, hard_tokens)`. -/
def hardSplitOnTokens (text : Text) (hardTokens : Nat) : List Text :=
  let ids := tokenizer.encode text
  if ids.length ≤ hardTokens then [text]
  else
    let step := max 1 (hardTokens - carryTokenHeadroom)
    ((tokenSlices step ids.length ids).foldl (Slicing.next tokenizer) {}).finish tokenizer

/-! ## Nothing is lost -/

variable {bytes seen : ByteArray}

theorem utf8Encode_of_utf8Decode? {chars : Array Char} (decodes : bytes.utf8Decode? = some chars) :
    chars.toList.utf8Encode = bytes := by
  have encodes := utf8Encode_get_utf8Decode? (b := bytes) (h := by rw [decodes]; rfl)
  simpa only [decodes, Option.get_some] using encodes

/-- Peeling moves bytes from the piece to the carry and changes none. -/
theorem utf8Encode_peel (chunk : ByteArray) {length : Nat} (within : length ≤ chunk.size) :
    (peel chunk length).1.utf8Encode ++ (peel chunk length).2 = chunk := by
  induction length with
  | zero => rw [peel, utf8Encode_nil, empty_append]
  | succ length ih =>
    rw [peel]
    split
    next piece decodes =>
      rw [utf8Encode_of_utf8Decode? decodes,
        ← extract_eq_extract_append_extract (length + 1) (Nat.zero_le _) within,
        extract_zero_size]
    · exact ih (by omega)

theorem flatten_tokenSlices {step : Nat} (positive : 0 < step) {count : Nat} {ids : List Token}
    (enough : ids.length ≤ count) : (tokenSlices step count ids).flatten = ids := by
  induction count generalizing ids with
  | zero =>
    rw [length_eq_zero_iff.mp (Nat.le_zero.mp enough)]
    rfl
  | succ count ih =>
    cases ids with
    | nil => rfl
    | cons id ids =>
      have shorter : ((id :: ids).drop step).length ≤ count := by
        rw [length_drop]
        omega
      rw [tokenSlices, flatten_cons, ih shorter, take_append_drop]

/-- The text `done` has been put out, up to its spaces, and the bytes of the tokens seen are those
of `done` and of the carry. -/
structure Slicing.Covers (state : Slicing) (seen : ByteArray) (done : Text) : Prop where
  out : squeeze isSpace state.out.flatten = squeeze isSpace done
  bytes : done.utf8Encode ++ state.carry = seen

variable {state : Slicing} {done text : Text}

namespace Slicing.Covers

theorem next (covers : state.Covers seen done) (ids : List Token) :
    ∃ more, (state.next tokenizer ids).Covers (seen ++ tokenizer.decodeBytes ids) more := by
  let chunk := state.carry ++ tokenizer.decodeBytes ids
  refine ⟨done ++ (peel chunk chunk.size).1, ?_, ?_⟩
  · rw [Slicing.next, squeeze_flatten_appendStripped, squeeze_append, covers.out]
  · calc
      (done ++ (peel chunk chunk.size).1).utf8Encode ++ (peel chunk chunk.size).2
          = done.utf8Encode ++
              ((peel chunk chunk.size).1.utf8Encode ++ (peel chunk chunk.size).2) := by
            rw [utf8Encode_append, ByteArray.append_assoc]
      _ = done.utf8Encode ++ chunk := by rw [utf8Encode_peel chunk (Nat.le_refl _)]
      _ = seen ++ tokenizer.decodeBytes ids := by rw [← ByteArray.append_assoc, covers.bytes]

theorem foldl (covers : state.Covers seen done) (slices : List (List Token)) :
    ∃ more, (slices.foldl (Slicing.next tokenizer) state).Covers
      (seen ++ tokenizer.decodeBytes slices.flatten) more := by
  induction slices generalizing state seen done with
  | nil => exact ⟨done, covers.out, covers.bytes.trans append_empty.symm⟩
  | cons ids slices ih =>
    obtain ⟨now, coversNow⟩ := covers.next tokenizer ids
    obtain ⟨more, coversMore⟩ := ih coversNow
    refine ⟨more, ?_⟩
    rwa [flatten_cons, tokenizer.decodeBytes_append, ← ByteArray.append_assoc]

/-- When all bytes of a text were seen, the carry is the encoding of what is left of the text: a
cut inside a character never reaches the end. -/
theorem exists_rest (covers : state.Covers text.utf8Encode done) :
    ∃ rest : Text, text = done ++ rest ∧ state.carry = rest.utf8Encode := by
  obtain ⟨rest, rfl⟩ := isPrefix_of_utf8Encode_append_eq_utf8Encode _ covers.bytes
  refine ⟨rest, rfl, ?_⟩
  have bytes := covers.bytes
  rw [utf8Encode_append] at bytes
  exact (ByteArray.append_right_inj _).mp bytes

theorem squeeze_finish (covers : state.Covers text.utf8Encode done) :
    squeeze isSpace (state.finish tokenizer).flatten = squeeze isSpace text := by
  obtain ⟨rest, rfl, isCarry⟩ := covers.exists_rest
  rw [squeeze_append, ← covers.out, Slicing.finish]
  split
  next noCarry =>
    have noBytes : rest.utf8Encode = empty :=
      isCarry ▸ size_eq_zero_iff.mp (beq_iff_eq.mp noCarry)
    rw [utf8Encode_eq_empty.mp noBytes]
    exact (append_nil _).symm
  · rw [squeeze_flatten_appendStripped, isCarry, tokenizer.decodeReplacing_utf8Encode]

end Slicing.Covers

/-- The pieces of `_hard_split_on_tokens` hold the characters of the text, in order. -/
theorem squeeze_hardSplitOnTokens (text : Text) (hardTokens : Nat) :
    squeeze isSpace (hardSplitOnTokens tokenizer text hardTokens).flatten =
      squeeze isSpace text := by
  unfold hardSplitOnTokens
  dsimp only
  split
  · rw [flatten_singleton]
  · have starts : Slicing.Covers {} empty [] :=
      ⟨rfl, by rw [utf8Encode_nil, empty_append]⟩
    obtain ⟨done, covers⟩ := starts.foldl tokenizer
      (tokenSlices (max 1 (hardTokens - carryTokenHeadroom)) (tokenizer.encode text).length
        (tokenizer.encode text))
    rw [flatten_tokenSlices (by omega) (Nat.le_refl _),
      Tokenizer.decodeBytes, tokenizer.joinBytes_encode] at covers
    exact covers.squeeze_finish tokenizer

end Caura.Ingest
