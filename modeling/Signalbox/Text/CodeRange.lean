/-! Sets of characters as ascending lists of closed ranges of code points. -/
namespace Signalbox.Text

abbrev CodeRange := Nat × Nat

/-- Whether a code point lies in one of the ranges. They ascend, so the search ends at the
first range that starts above the code point. -/
def inRanges : List CodeRange → Nat → Bool
  | [], _ => false
  | (first, last) :: rest, n =>
    if n < first then false else decide (n ≤ last) || inRanges rest n

theorem inRanges_cons (first last n : Nat) (rest : List CodeRange) :
    inRanges ((first, last) :: rest) n =
      (decide (first ≤ n) && (decide (n ≤ last) || inRanges rest n)) := by
  by_cases h : n < first
  · have h' : ¬ first ≤ n := by omega
    simp [inRanges, h, h']
  · have h' : first ≤ n := by omega
    simp [inRanges, h, h']

end Signalbox.Text
