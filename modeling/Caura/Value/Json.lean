import Mathlib.Data.List.Sort
import Mathlib.Data.Rat.Defs
import Mathlib.Data.String.Basic

/-!
# JSON values and their sorted text

`Json` is what Python holds after reading a JSON document: integers and floats
are different, and an object is a dictionary with an order of its keys.  `dumps`
is `json.dumps` with sorted keys, compact separators and no ASCII escapes.

`JsonValue` is the value itself: a number is a rational, whatever its type, and
the keys of an object are in order.  Once integral floats are integers, the
sorted text of a document depends on its value alone.
-/

namespace Caura.Value

/-- A JSON document as Python holds it.  A float is finite, hence a rational. -/
inductive Json where
  | null
  | bool (value : Bool)
  | int (value : Int)
  | float (value : Rat)
  | str (text : String)
  | arr (items : List Json)
  | obj (entries : List (String × Json))

/-- A JSON value. -/
inductive JsonValue where
  | null
  | bool (value : Bool)
  | num (value : Rat)
  | str (text : String)
  | arr (items : List JsonValue)
  | obj (entries : List (String × JsonValue))

universe u v

/-- Entries in the order of their keys. -/
def sortKeys {β : Type u} (entries : List (String × β)) : List (String × β) :=
  entries.insertionSort fun first second => first.1 ≤ second.1

theorem map_sortKeys {β : Type u} {γ : Type v} (change : β → γ) (entries : List (String × β)) :
    (sortKeys entries).map (fun entry => (entry.1, change entry.2)) =
      sortKeys (entries.map fun entry => (entry.1, change entry.2)) :=
  List.map_insertionSort _ _ _ _ fun _ _ _ _ => .rfl

/-! ## Texts -/

/-- A code below 32 as `\\u00xx`, and the characters JSON escapes by name. -/
def escapeChar (char : Char) : List Char :=
  let backslash := Char.ofNat 92
  match char.toNat with
  | 34 | 92 => [backslash, char]
  | 8 => [backslash, 'b']
  | 12 => [backslash, 'f']
  | 10 => [backslash, 'n']
  | 13 => [backslash, 'r']
  | 9 => [backslash, 't']
  | code =>
    if code < 32 then
      [backslash, 'u', '0', '0', Nat.digitChar (code / 16), Nat.digitChar (code % 16)]
    else
      [char]

/-- A string in quotation marks. -/
def quote (text : String) : List Char :=
  Char.ofNat 34 :: text.toList.flatMap escapeChar ++ [Char.ofNat 34]

/-- Texts separated by commas. -/
def commas (texts : List (List Char)) : List Char :=
  [','].intercalate texts

/-- The text of an object from the texts of its values. -/
def objectText (entries : List (String × List Char)) : List Char :=
  '{' :: commas (entries.map fun entry => quote entry.1 ++ ':' :: entry.2) ++ ['}']

/-- The text of an array from the texts of its items. -/
def arrayText (items : List (List Char)) : List Char :=
  '[' :: commas items ++ [']']

/-- The text of an integer. -/
def intText (value : Int) : List Char :=
  (toString value).toList

/-- The text of a truth value. -/
def boolText (value : Bool) : List Char :=
  if value then ['t', 'r', 'u', 'e'] else ['f', 'a', 'l', 's', 'e']

/-- The text of a missing value. -/
def nullText : List Char :=
  ['n', 'u', 'l', 'l']

variable (floatText : Rat → List Char)

mutual

/-- `json.dumps` with `sort_keys`, compact separators and without
`ensure_ascii`.  `floatText` is `float.__repr__`. -/
def Json.dumps : Json → List Char
  | .null => nullText
  | .bool value => boolText value
  | .int value => intText value
  | .float value => floatText value
  | .str text => quote text
  | .arr items => arrayText (dumpsItems items)
  | .obj entries => objectText (sortKeys (dumpsEntries entries))

/-- The texts of items. -/
def Json.dumpsItems : List Json → List (List Char)
  | [] => []
  | item :: items => item.dumps :: dumpsItems items

/-- The texts of values. -/
def Json.dumpsEntries : List (String × Json) → List (String × List Char)
  | [] => []
  | (key, item) :: entries => (key, item.dumps) :: dumpsEntries entries

end

mutual

/-- The text of a value: an integral number is printed as an integer. -/
def JsonValue.print : JsonValue → List Char
  | .null => nullText
  | .bool value => boolText value
  | .num value =>
    if value.den = 1 then intText value.num else floatText value
  | .str text => quote text
  | .arr items => arrayText (printItems items)
  | .obj entries => objectText (printEntries entries)

/-- The texts of items. -/
def JsonValue.printItems : List JsonValue → List (List Char)
  | [] => []
  | item :: items => item.print :: printItems items

/-- The texts of values. -/
def JsonValue.printEntries : List (String × JsonValue) → List (String × List Char)
  | [] => []
  | (key, item) :: entries => (key, item.print) :: printEntries entries

end

theorem JsonValue.printEntries_eq_map (entries : List (String × JsonValue)) :
    printEntries floatText entries =
      entries.map fun entry => (entry.1, entry.2.print floatText) := by
  induction entries with
  | nil => rfl
  | cons entry entries ih =>
    rw [printEntries, ih]
    rfl

theorem JsonValue.printEntries_sortKeys (entries : List (String × JsonValue)) :
    printEntries floatText (sortKeys entries) = sortKeys (printEntries floatText entries) := by
  rw [printEntries_eq_map, printEntries_eq_map, map_sortKeys]

/-! ## Values -/

mutual

/-- The value of a document. -/
def Json.value : Json → JsonValue
  | .null => .null
  | .bool value => .bool value
  | .int value => .num value
  | .float value => .num value
  | .str text => .str text
  | .arr items => .arr (valueItems items)
  | .obj entries => .obj (sortKeys (valueEntries entries))

/-- The values of items. -/
def Json.valueItems : List Json → List JsonValue
  | [] => []
  | item :: items => item.value :: valueItems items

/-- The values under keys. -/
def Json.valueEntries : List (String × Json) → List (String × JsonValue)
  | [] => []
  | (key, item) :: entries => (key, item.value) :: valueEntries entries

end

/-- What Python counts as false. -/
def Json.falsy : Json → Bool
  | .null | .bool false | .arr [] | .obj [] => true
  | .int value => value == 0
  | .float value => value == 0
  | .str text => text == ""
  | _ => false

/-- The number that a value compares as; the truth values are one and zero. -/
def Json.number : Json → Option Rat
  | .bool value => some (if value then 1 else 0)
  | .int value => some value
  | .float value => some value
  | _ => none

mutual

/-- Python's `==`. -/
def Json.equals : Json → Json → Bool
  | .null, .null => true
  | .str first, .str second => first == second
  | .arr first, .arr second => equalsItems first second
  | .obj first, .obj second => first.length == second.length && equalsEntries first second
  | first, second =>
    match first.number, second.number with
    | some value, some other => value == other
    | _, _ => false

/-- Equality of lists. -/
def Json.equalsItems : List Json → List Json → Bool
  | [], [] => true
  | first :: items, second :: others => first.equals second && equalsItems items others
  | _, _ => false

/-- Each entry has an equal one among the others. -/
def Json.equalsEntries : List (String × Json) → List (String × Json) → Bool
  | [], _ => true
  | (key, first) :: entries, others =>
    (match others.lookup key with
    | some second => first.equals second
    | none => false) && equalsEntries entries others

end

/-- Only a text equals a text. -/
theorem Json.equals_str_iff {value : Json} {text : String} :
    value.equals (.str text) = true ↔ value = .str text := by
  cases value <;> simp [Json.equals, Json.number]

mutual

/-- `_normalise_numbers`: integral floats as integers, at every depth. -/
def Json.normaliseNumbers : Json → Json
  | .null => .null
  | .bool value => .bool value
  | .int value => .int value
  | .float value =>
    if value.den = 1 then .int value.num else .float value
  | .str text => .str text
  | .arr items => .arr (normaliseItems items)
  | .obj entries => .obj (normaliseEntries entries)

/-- The same of items. -/
def Json.normaliseItems : List Json → List Json
  | [] => []
  | item :: items => item.normaliseNumbers :: normaliseItems items

/-- The same of values. -/
def Json.normaliseEntries : List (String × Json) → List (String × Json)
  | [] => []
  | (key, item) :: entries => (key, item.normaliseNumbers) :: normaliseEntries entries

end

mutual

/-- With integral floats as integers, the text of a document is the text of its
value. -/
theorem Json.dumps_normaliseNumbers :
    ∀ document : Json, document.normaliseNumbers.dumps floatText = document.value.print floatText
  | .null | .bool _ | .str _ => rfl
  | .int value => by
      simp [Json.normaliseNumbers, Json.dumps, Json.value, JsonValue.print]
  | .float value => by
      by_cases isIntegral : value.den = 1 <;>
        simp [Json.normaliseNumbers, Json.dumps, Json.value, JsonValue.print, isIntegral]
  | .arr items => by
      rw [Json.normaliseNumbers, Json.dumps, Json.value, JsonValue.print,
        Json.dumpsItems_normaliseItems items]
  | .obj entries => by
      rw [Json.normaliseNumbers, Json.dumps, Json.value, JsonValue.print,
        Json.dumpsEntries_normaliseEntries entries, JsonValue.printEntries_sortKeys]

theorem Json.dumpsItems_normaliseItems :
    ∀ items : List Json, Json.dumpsItems floatText (Json.normaliseItems items) =
      JsonValue.printItems floatText (Json.valueItems items)
  | [] => rfl
  | item :: items => by
      rw [Json.normaliseItems, Json.dumpsItems, Json.valueItems,
        JsonValue.printItems, Json.dumps_normaliseNumbers item,
        Json.dumpsItems_normaliseItems items]

theorem Json.dumpsEntries_normaliseEntries : ∀ entries : List (String × Json),
      Json.dumpsEntries floatText (Json.normaliseEntries entries) =
        JsonValue.printEntries floatText (Json.valueEntries entries)
  | [] => rfl
  | (key, item) :: entries => by
      rw [Json.normaliseEntries, Json.dumpsEntries, Json.valueEntries,
        JsonValue.printEntries, Json.dumps_normaliseNumbers item,
        Json.dumpsEntries_normaliseEntries entries]

end

end Caura.Value
