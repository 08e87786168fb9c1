/-
DoubleEntry/Text/Ranges.lean

Sets of code points written as the list of their boundaries: the set starts
at the first boundary, stops before the second, starts again at the third,
and so on.
-/

namespace DoubleEntry.Text

/-- Whether `n` lies in the set with the ascending boundaries `bounds`. -/
def inRanges : List Nat → Nat → Bool
  | first :: stop :: rest, n =>
      if n < first then false
      else if n < stop then true
      else inRanges rest n
  | _, _ => false

end DoubleEntry.Text
