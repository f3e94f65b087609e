/-!
# Sets of indices

A finite set of natural numbers is its ascending list, so that equal sets are equal lists.
-/

namespace TrackSelection

/-- A finite set of natural numbers, as its ascending list. -/
structure IndexSet where
  toList : List Nat
  ascending : toList.Pairwise (· < ·)
deriving DecidableEq

namespace IndexSet

def empty : IndexSet := ⟨[], .nil⟩

/-- Put a number into an ascending list, unless it is there. -/
def insertInto (i : Nat) : List Nat → List Nat
  | [] => [i]
  | j :: rest =>
    if i < j then i :: j :: rest else if i = j then j :: rest else j :: insertInto i rest

theorem mem_insertInto {i k : Nat} {list : List Nat} :
    k ∈ insertInto i list ↔ k = i ∨ k ∈ list := by
  induction list with
  | nil => simp [insertInto]
  | cons j rest ih =>
    unfold insertInto
    split
    · simp
    · split
      · rename_i h
        simp [h]
      · simp only [List.mem_cons, ih]
        exact or_left_comm

theorem pairwise_insertInto {i : Nat} {list : List Nat} (h : list.Pairwise (· < ·)) :
    (insertInto i list).Pairwise (· < ·) := by
  induction list with
  | nil => simp [insertInto]
  | cons j rest ih =>
    obtain ⟨hj, hrest⟩ := List.pairwise_cons.mp h
    unfold insertInto
    split
    · rename_i hlt
      refine List.pairwise_cons.mpr ⟨?_, h⟩
      intro k hk
      rcases List.mem_cons.mp hk with rfl | hk
      · exact hlt
      · exact Nat.lt_trans hlt (hj k hk)
    · split
      · exact h
      · refine List.pairwise_cons.mpr ⟨?_, ih hrest⟩
        intro k hk
        rcases mem_insertInto.mp hk with rfl | hk
        · omega
        · exact hj k hk

def insert (set : IndexSet) (i : Nat) : IndexSet :=
  ⟨insertInto i set.toList, pairwise_insertInto set.ascending⟩

def erase (set : IndexSet) (i : Nat) : IndexSet :=
  ⟨set.toList.filter (· ≠ i), set.ascending.filter _⟩

def contains (set : IndexSet) (i : Nat) : Bool :=
  set.toList.contains i

end IndexSet

end TrackSelection
