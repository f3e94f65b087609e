import Mathlib.Data.List.Perm.Subperm
import TrackSelection.Parameters.FiniteMap

/-!
# Finite maps by their look-ups

A map is what can be looked up in it. Each operation is described by the look-ups it changes, and
two maps are the same exactly if they agree at every key.
-/

namespace TrackSelection.FiniteMap

variable {κ β : Type} [DecidableEq κ] {map a b : FiniteMap κ β} {key : κ} {value : β}

/-- No key stands twice, so that the value found for a key is the one that was entered. -/
theorem get?_eq_some_iff : map.get? key = some value ↔ (key, value) ∈ map.entries := by
  rw [get?, List.lookup_eq_some_iff]
  constructor
  · rintro ⟨before, after, same, _⟩
    rw [same]
    exact List.mem_append_right before List.mem_cons_self
  · intro entered
    obtain ⟨before, after, same⟩ := List.append_of_mem entered
    refine ⟨before, after, same, ?_⟩
    intro other mem
    have distinct := map.nodup
    rw [same, List.map_append, List.map_cons, List.nodup_append] at distinct
    have different := distinct.2.2 other.1 (List.mem_map_of_mem mem) key List.mem_cons_self
    simpa using different.symm

theorem mem_keys_iff : key ∈ map.entries.map Prod.fst ↔ ∃ value, map.get? key = some value := by
  simp only [get?_eq_some_iff, List.mem_map, Prod.exists, exists_and_right, exists_eq_right]

@[simp] theorem get?_empty (key : κ) : (empty : FiniteMap κ β).get? key = none := rfl

/-- Removing a key changes what is found there, and nothing else. -/
theorem get?_erase (map : FiniteMap κ β) (key other : κ) :
    (map.erase key).get? other = if other = key then none else map.get? other := by
  ext value
  rw [get?_eq_some_iff, erase, List.mem_filter, ← get?_eq_some_iff]
  by_cases same : other = key
  · simp [same]
  · simp [same]

/-- Setting a key changes what is found there, and nothing else. -/
theorem get?_insert (map : FiniteMap κ β) (key other : κ) (value : β) :
    (map.insert key value).get? other = if other = key then some value else map.get? other := by
  ext found
  rw [get?_eq_some_iff, insert, List.mem_append, ← get?_eq_some_iff, get?_erase]
  by_cases same : other = key
  · simp [same, eq_comm]
  · simp [same]

theorem isEmpty_eq_false_iff : map.isEmpty = false ↔ ∃ key value, map.get? key = some value := by
  simp only [isEmpty, List.isEmpty_eq_false_iff_exists_mem, Prod.exists, get?_eq_some_iff]

/-! ## Maps that are the same -/

/-- What two maps hold at a key is alike, or both hold nothing there. -/
def AgreeAt (alike : β → β → Bool) (a b : FiniteMap κ β) (key : κ) : Prop :=
  Option.Rel (fun x y => alike x y = true) (a.get? key) (b.get? key)

variable {alike : β → β → Bool}

theorem agreeAt_iff :
    AgreeAt alike a b key ↔
      (∀ x, a.get? key = some x → ∃ y, b.get? key = some y ∧ alike x y = true) ∧
        (a.get? key = none → b.get? key = none) := by
  unfold AgreeAt
  cases a.get? key with
  | none => cases b.get? key <;> simp
  | some x => cases b.get? key <;> simp

/-- Comparing maps entry by entry, in one direction and with their sizes, says whether they agree
at every key. -/
theorem same_iff : same alike a b = true ↔ ∀ key, AgreeAt alike a b key := by
  simp only [same, Bool.and_eq_true, decide_eq_true_eq, List.all_eq_true, Prod.forall,
    Option.any_eq_true, ← get?_eq_some_iff, agreeAt_iff]
  constructor
  · rintro ⟨size, covered⟩ key
    refine ⟨covered key, ?_⟩
    -- all keys of the first are keys of the second, which has no room for others
    have subset : a.entries.map Prod.fst ⊆ b.entries.map Prod.fst := by
      intro key listed
      obtain ⟨x, found⟩ := mem_keys_iff.mp listed
      obtain ⟨y, there, _⟩ := covered key x found
      exact mem_keys_iff.mpr ⟨y, there⟩
    have keys : (a.entries.map Prod.fst).Perm (b.entries.map Prod.fst) := by
      apply (a.nodup.subperm subset).perm_of_length_le
      rw [List.length_map, List.length_map]
      exact Nat.le_of_eq size.symm
    intro absent
    rw [Option.eq_none_iff_forall_ne_some] at absent ⊢
    intro y found
    obtain ⟨x, there⟩ := mem_keys_iff.mp (keys.mem_iff.mpr (mem_keys_iff.mpr ⟨y, found⟩))
    exact absent x there
  · intro agree
    refine ⟨?_, fun key => (agree key).1⟩
    have keys : (a.entries.map Prod.fst).Perm (b.entries.map Prod.fst) := by
      rw [List.perm_ext_iff_of_nodup a.nodup b.nodup]
      intro key
      rw [mem_keys_iff, mem_keys_iff]
      constructor
      · rintro ⟨x, found⟩
        obtain ⟨y, there, _⟩ := (agree key).1 x found
        exact ⟨y, there⟩
      · rintro ⟨y, found⟩
        apply Option.ne_none_iff_exists'.mp
        intro absent
        rw [(agree key).2 absent] at found
        cases found
    have length := keys.length_eq
    rwa [List.length_map, List.length_map] at length

end TrackSelection.FiniteMap
