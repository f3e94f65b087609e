/-!
# Finite maps

A finite map is the list of its entries, the one that was set last at the end. No key stands twice,
and two maps are the same when they have the same entries in any order.
-/

namespace TrackSelection

/-- A finite map, as the list of its entries. -/
structure FiniteMap (κ β : Type) where
  entries : List (κ × β)
  nodup : (entries.map Prod.fst).Nodup

namespace FiniteMap

variable {κ β : Type}

def empty : FiniteMap κ β := ⟨[], .nil⟩

def isEmpty (map : FiniteMap κ β) : Bool :=
  map.entries.isEmpty

def size (map : FiniteMap κ β) : Nat :=
  map.entries.length

variable [DecidableEq κ]

def get? (map : FiniteMap κ β) (key : κ) : Option β :=
  map.entries.lookup key

def erase (map : FiniteMap κ β) (key : κ) : FiniteMap κ β where
  entries := map.entries.filter fun entry => entry.1 ≠ key
  nodup := by
    refine map.nodup.sublist (List.Sublist.map _ ?_)
    exact List.filter_sublist

def insert (map : FiniteMap κ β) (key : κ) (value : β) : FiniteMap κ β where
  entries := (map.erase key).entries ++ [(key, value)]
  nodup := by
    rw [List.map_append, List.nodup_append]
    refine ⟨(map.erase key).nodup, by simp, ?_⟩
    simp only [erase, List.mem_map, List.mem_filter, List.map_cons, List.map_nil,
      List.mem_singleton]
    rintro k ⟨entry, ⟨_, other⟩, rfl⟩ _ rfl
    simpa using other

/-- Whether two maps have the same keys, with values that are alike. -/
def same (alike : β → β → Bool) (a b : FiniteMap κ β) : Bool :=
  a.size = b.size && a.entries.all fun (key, value) => (b.get? key).any (alike value)

end FiniteMap

end TrackSelection
