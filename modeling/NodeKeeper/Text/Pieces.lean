/-
# Pieces of a text

Cuts a text at separating characters.
-/
import NodeKeeper.Text.Blank

namespace NodeKeeper.Text

/-- The pieces between the characters that satisfy `p`; there is always one
more piece than there are such characters. -/
def pieces (p : Char → Bool) : List Char → List (List Char)
  | [] => [[]]
  | c :: cs =>
    if p c then [] :: pieces p cs
    else
      match pieces p cs with
      | piece :: rest => (c :: piece) :: rest
      | [] => [[c]]

/-- The lines of a text. -/
def lines (s : String) : List String := (pieces (· == '\n') s.toList).map String.ofList

theorem length_pieces (p : Char → Bool) (cs : List Char) :
    (pieces p cs).length = cs.countP p + 1 := by
  induction cs with
  | nil => rfl
  | cons c cs ih =>
    unfold pieces
    by_cases h : p c
    · simp [h, ih]
    · simp only [h, Bool.false_eq_true, if_false]
      cases hp : pieces p cs with
      | nil => simp [hp] at ih
      | cons piece rest => simp_all

end NodeKeeper.Text
