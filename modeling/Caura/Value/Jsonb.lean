import Caura.Value.Dict
import Caura.Value.Json

/-!
# Operators on `jsonb`

The operators of the database on JSON documents.  Two objects are concatenated key by key;
anything else is concatenated as arrays, so a document stays an object only if both sides are.
-/

namespace Caura.Value.Jsonb

/-- `||`. -/
def concat : Json → Json → Json
  | .obj entries, .obj changes => .obj (Dict.union entries changes)
  | .arr items, .arr others => .arr (items ++ others)
  | .arr items, other => .arr (items ++ [other])
  | item, .arr others => .arr (item :: others)
  | item, other => .arr [item, other]

/-- `->` with a key. -/
def arrow : Json → String → Option Json
  | .obj entries, key => Dict.get entries key
  | _, _ => none

/-- `jsonb_set` with the path of one key, which fails on what is not an object. -/
def set : Json → String → Json → Option Json
  | .obj entries, key, value => some (.obj (Dict.set entries key value))
  | _, _, _ => none

/-- Only the concatenation of two objects is one. -/
theorem isObj_of_concat {first second : Json} {entries : Dict Json}
    (isObj : concat first second = .obj entries) :
    ∃ left right, first = .obj left ∧ second = .obj right := by
  cases first with
  | obj left =>
    cases second with
    | obj right => exact ⟨left, right, rfl, rfl⟩
    | null | bool _ | int _ | float _ | str _ | arr _ => simp [concat] at isObj
  | null | bool _ | int _ | float _ | str _ | arr _ => cases second <;> simp [concat] at isObj

end Caura.Value.Jsonb
