/-!
# Sets of characters as ranges

The Unicode properties the checker needs are given as tables of ranges of code points, first and
last one included, in ascending order.
-/

namespace StructTags

namespace Unicode

/-- Whether a code point lies in one of the ranges. -/
def inRanges (ranges : List (Nat × Nat)) (n : Nat) : Bool :=
  ranges.any fun (first, last) => first ≤ n && n ≤ last

end Unicode

end StructTags
