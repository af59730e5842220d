import Caura.Value.Pattern
import Caura.Value.Strip
import Mathlib.Data.Finset.Basic

/-!
# What sets two names apart

A name may carry identifiers, tokens that start with a digit, and qualifiers in brackets.
Two names may denote one entity when they carry the same identifiers and do not both
carry qualifiers that differ.  A name without a qualifier is compatible with any
qualifier, so compatibility is not transitive.

Upper and lower case, the digits, the word characters and the white space of Unicode are
parameters.
-/

namespace Caura.EntityGraph

open Caura.Value

/-- What the naming rules take from the text type. -/
structure TextRules extends CharClasses where
  isSpace : Char → Bool
  lower : List Char → List Char

namespace TextRules

/-- The rules restricted to ASCII. -/
def ascii : TextRules where
  toCharClasses := CharClasses.ascii
  isSpace char := char.isWhitespace
  lower text := text.map Char.toLower

variable (text : TextRules)

/-- `str.split`. -/
def split (chars : List Char) : List (List Char) :=
  (chars.splitOnP text.isSpace).filter fun word => !word.isEmpty

/-- `[)\]]`. -/
def isClosing (char : Char) : Bool :=
  char == ')' || char == ']'

/-- `QUALIFIER_RE` at the start of a text.  The characters between the brackets are no
closing ones, so a match takes all of them. -/
def matchQualifier : List Char → Option (List Char × Nat)
  | [] => none
  | char :: chars =>
    let inner := chars.takeWhile fun char => !isClosing char
    if (char == '(' || char == '[') && 1 ≤ inner.length && inner.length ≤ 64 &&
        (chars.drop inner.length).head?.any isClosing then
      some (inner, inner.length + 2)
    else
      none

/-- `qualifier_signature`. -/
def qualifierSignature (name : String) : Finset (List Char) :=
  (((findAll matchQualifier 0 name.toList).filter fun inner =>
    !(strip text.isSpace inner).isEmpty).map fun inner =>
      [' '].intercalate (text.split (text.lower (strip text.isSpace inner)))).toFinset

/-- `\d[\w.\-]*` at the start of a text. -/
def matchIdentifier : List Char → Option (List Char × Nat)
  | [] => none
  | char :: chars =>
    if text.isDigit char then
      let token := char :: chars.takeWhile fun char =>
        text.isWord char || char == '.' || char == '-'
      some (token, token.length)
    else
      none

/-- `identifier_tokens`. -/
def identifierTokens (name : String) : Finset (List Char) :=
  (findAll text.matchIdentifier 0 (text.lower name.toList)).toFinset

/-- `same_identifier_signature`. -/
def sameIdentifierSignature (first second : String) : Bool :=
  if text.identifierTokens first ≠ text.identifierTokens second then
    false
  else
    text.qualifierSignature first = ∅ || text.qualifierSignature second = ∅ ||
      text.qualifierSignature first = text.qualifierSignature second

/-- `has_identifier_or_qualifier`. -/
def hasIdentifierOrQualifier (name : String) : Bool :=
  name.toList.any text.isDigit || text.qualifierSignature name ≠ ∅

/-! ## Compatible names -/

variable {first second : String}

theorem sameIdentifierSignature_iff : text.sameIdentifierSignature first second = true ↔
      text.identifierTokens first = text.identifierTokens second ∧
        (text.qualifierSignature first = ∅ ∨ text.qualifierSignature second = ∅ ∨
          text.qualifierSignature first = text.qualifierSignature second) := by
  unfold sameIdentifierSignature
  split
  next differ => simp [differ]
  next same =>
    rw [not_not] at same
    simp [same, or_assoc]

theorem sameIdentifierSignature_symm
    (compatible : text.sameIdentifierSignature first second = true) :
    text.sameIdentifierSignature second first = true := by
  rw [sameIdentifierSignature_iff] at compatible ⊢
  obtain ⟨identifiers, bare | bare | same⟩ := compatible
  · exact ⟨identifiers.symm, .inr (.inl bare)⟩
  · exact ⟨identifiers.symm, .inl bare⟩
  · exact ⟨identifiers.symm, .inr (.inr same.symm)⟩

theorem sameIdentifierSignature_self (name : String) :
    text.sameIdentifierSignature name name = true :=
  text.sameIdentifierSignature_iff.mpr ⟨rfl, .inr (.inr rfl)⟩

end TextRules

end Caura.EntityGraph
