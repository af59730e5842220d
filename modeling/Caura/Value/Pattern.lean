import Mathlib.Tactic.Common

/-!
# Fixed-width patterns between word boundaries

Regular expressions of the form `\b…\b` whose middle is a sequence of character
classes.  `search` and `sub` scan a text from left to right as `re.search` and
`re.sub` do: a match is replaced whole, and the scan goes on behind it.  The
boundaries are those of the original text.  `findAll` is the same scan for matches whose
length depends on the text.
-/

namespace Caura.Value

/-- The classes `\d` and `\w` of Unicode patterns. -/
structure CharClasses where
  isDigit : Char → Bool
  isWord : Char → Bool

namespace CharClasses

/-- The classes restricted to ASCII. -/
def ascii : CharClasses where
  isDigit := Char.isDigit
  isWord char := char.isAlphanum || char == '_'

variable (classes : CharClasses)

/-- `\b` between two characters, where the ends of the text count as no word. -/
def boundary (before after : Option Char) : Bool :=
  before.any classes.isWord != after.any classes.isWord

end CharClasses

/-- One class for each character of a match. -/
abbrev Pattern := List (Char → Bool)

namespace Pattern

/-- The text starts with a character of each class. -/
def fits : Pattern → List Char → Bool
  | [], _ => true
  | _ :: _, [] => false
  | isMember :: pattern, char :: text => isMember char && fits pattern text

variable (classes : CharClasses) (pattern : Pattern)

/-- The pattern matches at the start of `text`, which `before` precedes. -/
def matchesAt (before : Option Char) (text : List Char) : Bool :=
  classes.boundary before text.head? && pattern.fits text &&
    classes.boundary (text.take pattern.length).getLast?
      (text.drop pattern.length).head?

/-- `re.search`, from a position on. -/
def search (before : Option Char) : List Char → Bool
  | [] => pattern.matchesAt classes before []
  | char :: text => pattern.matchesAt classes before (char :: text) || search (some char) text

/-- `re.sub`, from a position on, where `skip` characters still belong to the
last match. -/
def sub (placeholder : List Char) (skip : Nat) (before : Option Char) : List Char → List Char
  | [] => []
  | char :: text =>
    match skip with
    | skip + 1 => sub placeholder skip (some char) text
    | 0 =>
      if pattern.matchesAt classes before (char :: text) then
        placeholder ++ sub placeholder (pattern.length - 1) (some char) text
      else char :: sub placeholder 0 (some char) text

end Pattern

/-- `re.findall`, where `skip` characters still belong to the last match: `matchAt`
gives what a match at the start of a text captures, and its length. -/
def findAll (matchAt : List Char → Option (List Char × Nat)) (skip : Nat) :
    List Char → List (List Char)
  | [] => []
  | char :: text =>
    match skip with
    | skip + 1 => findAll matchAt skip text
    | 0 =>
      match matchAt (char :: text) with
      | some (captured, length) => captured :: findAll matchAt (length - 1) text
      | none => findAll matchAt 0 text

end Caura.Value
