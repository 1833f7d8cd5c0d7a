/-!
# EnumCodec.Text.Ranges

**A class of characters given by ranges of code points.** The tables of this library list the first
and the last code point of each range.
-/

namespace EnumCodec.Text

/-- Does one of the closed ranges hold the code point? -/
def inRanges (ranges : List (Nat × Nat)) (code : Nat) : Bool :=
  ranges.any fun (first, last) => first ≤ code && code ≤ last

/-- Membership in a list of ranges, said with a range. -/
theorem inRanges_eq_true_iff {ranges : List (Nat × Nat)} {code : Nat} :
    inRanges ranges code = true ↔
      ∃ range ∈ ranges, range.1 ≤ code ∧ code ≤ range.2 := by
  simp [inRanges, List.any_eq_true]

end EnumCodec.Text
