import TrackSelection.Proofs.DistinctTracks
import TrackSelection.Proofs.SortedSearch

/-!
# Overrides built from tracks

An override that is built from a list of tracks keeps them in ascending order. Both the check for
repeated tracks, which compares neighbours, and the search for a track, which halves the list, are
only right of such lists. The main statement is that of overrides so built they are: the check
accepts exactly the lists of tracks of the group without repetition, and the search finds exactly
the tracks of the list, in whatever order it was given.
-/

namespace TrackSelection.Override

/-! ## Tracks in ascending order -/

section Ascending

variable {tracks : List Nat}

theorem isSome_search?_tracks_iff (ascending : tracks.Pairwise (· ≤ ·)) (track : Nat) :
    (search? (compare · track) tracks).isSome = true ↔ track ∈ tracks := by
  have rising : Rising (compare · track) tracks :=
    rising_of_ascending id (ascending.imp fun le => Nat.isLE_compare.mpr le) track
  rw [rising.isSome_search?_iff]
  simp only [Nat.compare_eq_eq, exists_eq_right]

theorem repeated?_eq_none_iff_nodup (ascending : tracks.Pairwise (· ≤ ·)) :
    repeated? tracks = none ↔ tracks.Nodup := by
  constructor
  · intro distinct
    exact (pairwise_lt_of_repeated?_eq_none ascending distinct).imp Nat.ne_of_lt
  · intro distinct
    clear ascending
    fun_induction repeated? tracks with
    | case1 first rest => simp at distinct
    | case2 first second rest different ih => exact ih (List.nodup_cons.mp distinct).2
    | case3 tracks few => rfl

end Ascending

/-! ## Overrides as they are built -/

theorem perm_ofTracks (groupIndex : Nat) (tracks : List Nat) :
    (ofTracks groupIndex tracks).tracks.Perm tracks :=
  List.mergeSort_perm tracks _

/-- An override built from tracks in any order is accepted exactly if its group exists, there are
tracks, all of them are tracks of the group, and none is repeated. It contains exactly these
tracks. -/
theorem ofTracks_checked_exactly (groupIndex : Nat) (tracks : List Nat) (renderer : Nat)
    (groups : List TrackGroup) :
    ((ofTracks groupIndex tracks).fault? renderer groups = none ↔
      ∃ group, groups[groupIndex]? = some group ∧ tracks ≠ [] ∧
        (∀ track ∈ tracks, track < group.size) ∧ tracks.Nodup) ∧
    ∀ track, (ofTracks groupIndex tracks).contains track = true ↔ track ∈ tracks := by
  have ascending := pairwise_le_ofTracks groupIndex tracks
  have perm := perm_ofTracks groupIndex tracks
  have nonempty : (ofTracks groupIndex tracks).tracks ≠ [] ↔ tracks ≠ [] := by
    rw [← List.length_pos_iff, ← List.length_pos_iff, perm.length_eq]
  constructor
  · rw [fault?_eq_none_iff]
    refine exists_congr fun group => and_congr_right fun _ => ?_
    rw [repeated?_eq_none_iff_nodup ascending, perm.nodup_iff, nonempty]
    simp only [perm.mem_iff]
  · intro track
    rw [contains, isSome_search?_tracks_iff ascending, perm.mem_iff]

end TrackSelection.Override
