/-!
# Search by halving

A list is halved until one element is left, and only that element is compared for equality. On a
sorted list this finds what is there; on any other it may miss it.
-/

namespace TrackSelection

/-- Search a sorted list for an element, given how each element stands to what is looked for. Of
several that are equal to it the last one is found. -/
def search? (standing : α → Ordering) (items : List α) : Option α :=
  if h : items.length < 2 then items.head?.filter fun item => standing item = .eq
  else
    let half := items.length / 2
    if standing items[half] = .gt then search? standing (items.take (items.length - half))
    else search? standing (items.drop half)
termination_by items.length
decreasing_by
  · simp only [List.length_take]
    omega
  · simp only [List.length_drop]
    omega

end TrackSelection
