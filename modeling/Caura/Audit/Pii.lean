import Caura.Value.Json
import Caura.Value.Pattern

/-!
# Scrubbing audit details

Before a detail is hashed, every span of its texts that looks like a card or a
social security number is replaced, and the detail is marked.  A text that is a
hash token is left alone.  `assertPiiSafe` is the check made on the result.
-/

namespace Caura.Audit

open Caura.Value

/-! ## Shapes -/

variable (classes : CharClasses)

/-- A blank or a hyphen. -/
def cardSeparator (char : Char) : Bool :=
  char == ' ' || char == '-'

/-- `_CARD_SHAPE`. -/
def cardShape : Pattern :=
  let group := List.replicate 4 classes.isDigit
  group ++ cardSeparator :: group ++ cardSeparator :: group ++ cardSeparator :: group

/-- `_SSN_SHAPE`. -/
def ssnShape : Pattern :=
  let hyphen := fun char => char == '-'
  List.replicate 3 classes.isDigit ++ hyphen ::
    List.replicate 2 classes.isDigit ++ hyphen :: List.replicate 4 classes.isDigit

/-- A hexadecimal digit. -/
def isHexDigit (char : Char) : Bool :=
  char.isDigit || ('a' ≤ char && char ≤ 'f') || ('A' ≤ char && char ≤ 'F')

/-- A lower-case letter or a digit. -/
def isLowerAlnum (char : Char) : Bool :=
  char.isDigit || ('a' ≤ char && char ≤ 'z')

/-- At least 32 hexadecimal digits and nothing else. -/
def hexRun (text : List Char) : Bool :=
  32 ≤ text.length && text.all isHexDigit

/-- `_HASH_TOKEN`: a run of hexadecimal digits, after the name of an algorithm
or not. -/
def hashToken (text : List Char) : Bool :=
  hexRun text ||
    match text.dropWhile isLowerAlnum with
    | '-' :: rest =>
      match rest.dropWhile isLowerAlnum with
      | ':' :: digits =>
        !(text.takeWhile isLowerAlnum).isEmpty &&
          !(rest.takeWhile isLowerAlnum).isEmpty && hexRun digits
      | _ => false
    | _ => false

/-! ## Scrubbing -/

/-- `CARD_PLACEHOLDER`. -/
def cardPlaceholder : String :=
  "[redacted:card]"

/-- `SSN_PLACEHOLDER`. -/
def ssnPlaceholder : String :=
  "[redacted:ssn]"

/-- `SCRUBBED_MARKER_KEY`. -/
def scrubbedMarkerKey : String :=
  "_pii_scrubbed"

/-- A text without its card and social security numbers. -/
def scrubText (text : String) : String :=
  if hashToken text.toList then text
  else
    let cards := (cardShape classes).sub classes cardPlaceholder.toList 0 none
      text.toList
    String.ofList ((ssnShape classes).sub classes ssnPlaceholder.toList 0 none cards)

mutual

/-- `_scrub`: every text of a document scrubbed, keys left alone. -/
def scrub : Json → Json
  | .str text => .str (scrubText classes text)
  | .arr items => .arr (scrubItems items)
  | .obj entries => .obj (scrubEntries entries)
  | document => document

/-- The same of items. -/
def scrubItems : List Json → List Json
  | [] => []
  | item :: items => scrub item :: scrubItems items

/-- The same of values. -/
def scrubEntries : List (String × Json) → List (String × Json)
  | [] => []
  | (key, item) :: entries => (key, scrub item) :: scrubEntries entries

end

mutual

/-- `_iter_str_leaves`: the texts of a document. -/
def strLeaves : Json → List String
  | .str text => [text]
  | .arr items => itemLeaves items
  | .obj entries => entryLeaves entries
  | _ => []

/-- The same of items. -/
def itemLeaves : List Json → List String
  | [] => []
  | item :: items => strLeaves item ++ itemLeaves items

/-- The same of values. -/
def entryLeaves : List (String × Json) → List String
  | [] => []
  | (_, item) :: entries => strLeaves item ++ entryLeaves entries

end

/-- A dictionary with one key set. -/
def setKey (entries : List (String × Json)) (key : String) (item : Json) : List (String × Json) :=
  if entries.any fun entry => entry.1 == key then
    entries.map fun entry => if entry.1 == key then (key, item) else entry
  else
    entries ++ [(key, item)]

/-- `scrub_pii`: the detail itself when nothing matched, else the scrubbed
detail with its marker.  `none` is a failed assertion: a scrubbed detail that is
not a dictionary. -/
def scrubPii (detail : Json) : Option Json :=
  if detail.falsy ||
      (strLeaves detail).all fun text => scrubText classes text == text then
    some detail
  else
    match scrub classes detail with
    | .obj entries => some (.obj (setKey entries scrubbedMarkerKey (.bool true)))
    | _ => none

/-- `assert_pii_safe`, as a test. -/
def assertPiiSafe (detail : Json) : Bool :=
  detail.falsy || (strLeaves detail).all fun text =>
    hashToken text.toList ||
      !((cardShape classes).search classes none text.toList ||
        (ssnShape classes).search classes none text.toList)

example : scrubText .ascii "card 4111-1111 1111-1111, ssn 078-05-1120" =
    "card [redacted:card], ssn [redacted:ssn]" := by
  decide

end Caura.Audit
