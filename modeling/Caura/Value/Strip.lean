import Mathlib.Data.List.Basic

/-!
# Texts without their spaces

`strip` removes the spaces at both ends of a text, and `squeeze` all of them.  What is done to a
text by cutting it, stripping the pieces and leaving out those that are empty does not show once
it is squeezed.
-/

namespace Caura.Value

open List

universe u

variable {α : Type u} (isSpace : α → Bool)

/-- `text.strip()`. -/
def strip (text : List α) : List α :=
  ((text.dropWhile isSpace).reverse.dropWhile isSpace).reverse

/-- The text without its spaces. -/
def squeeze (text : List α) : List α :=
  text.filter fun char => !isSpace char

/-- `if piece.strip(): out.append(piece.strip())`. -/
def appendStripped (out : List (List α)) (piece : List α) : List (List α) :=
  if (strip isSpace piece).isEmpty then out else out ++ [strip isSpace piece]

theorem squeeze_append (first second : List α) :
    squeeze isSpace (first ++ second) = squeeze isSpace first ++ squeeze isSpace second :=
  filter_append ..

theorem squeeze_reverse (text : List α) :
    squeeze isSpace text.reverse = (squeeze isSpace text).reverse :=
  filter_reverse ..

theorem squeeze_dropWhile (text : List α) :
    squeeze isSpace (text.dropWhile isSpace) = squeeze isSpace text := by
  induction text with
  | nil => rfl
  | cons char text ih =>
    cases space : isSpace char with
    | true =>
      rw [dropWhile_cons_of_pos space, ih, squeeze, squeeze, filter_cons_of_neg (by simp [space])]
    | false => rw [dropWhile_cons_of_neg (by simp [space])]

theorem squeeze_strip (text : List α) :
    squeeze isSpace (strip isSpace text) = squeeze isSpace text := by
  rw [strip, squeeze_reverse, squeeze_dropWhile, squeeze_reverse, squeeze_dropWhile,
    reverse_reverse]

theorem squeeze_flatten_appendStripped (out : List (List α)) (piece : List α) :
    squeeze isSpace (appendStripped isSpace out piece).flatten =
      squeeze isSpace out.flatten ++ squeeze isSpace piece := by
  unfold appendStripped
  split
  next isEmpty =>
    rw [← squeeze_strip isSpace piece, isEmpty_iff.mp isEmpty]
    exact (append_nil _).symm
  · rw [flatten_append, squeeze_append, flatten_singleton, squeeze_strip]

theorem squeeze_intercalate (separator : List α) (blank : squeeze isSpace separator = [])
    (parts : List (List α)) :
    squeeze isSpace (separator.intercalate parts) = squeeze isSpace parts.flatten := by
  induction parts with
  | nil => rfl
  | cons part parts ih =>
    cases parts with
    | nil => rw [intercalate_singleton, flatten_singleton]
    | cons next parts =>
      rw [intercalate_cons_cons, squeeze_append, squeeze_append, ih, blank,
        append_nil, ← squeeze_append]
      rfl

end Caura.Value
