/-!
# The best of a list

Elements are taken in order; one replaces the best so far only when it is better, so that the first
of equals stays. Nothing is assumed of the relation: it need not even be transitive.
-/

namespace TrackSelection

/-- The better of the best so far and a challenger; the challenger has to be better. -/
def keepBetter (better : α → α → Bool) (holder : Option α) (challenger : α) : Option α :=
  match holder with
  | none => some challenger
  | some best => if better challenger best then some challenger else some best

/-- The element that is left when each one may replace the best before it. -/
def best? (better : α → α → Bool) (items : List α) : Option α :=
  items.foldl (keepBetter better) none

end TrackSelection
