/-!
# Ranges of code points

A property of characters is kept as closed ranges of code points, ascending and apart. The tables
are those of Unicode 17.0.
-/

namespace TrackSelection.Text

/-- Closed ranges of code points. -/
abbrev CodeRanges := List (Nat × Nat)

namespace CodeRanges

def contains (ranges : CodeRanges) (c : Char) : Bool :=
  ranges.any fun (first, last) => first ≤ c.toNat && c.toNat ≤ last

/-- Whether every range is sound, and ends before the next begins. -/
def areApart : CodeRanges → Bool
  | [] => true
  | [(first, last)] => first ≤ last
  | (first, last) :: (next, nextLast) :: rest =>
    first ≤ last && last + 1 < next && areApart ((next, nextLast) :: rest)

def count (ranges : CodeRanges) : Nat :=
  ranges.foldl (fun total (first, last) => total + (last + 1 - first)) 0

end CodeRanges

end TrackSelection.Text
