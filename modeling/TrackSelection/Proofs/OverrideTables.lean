import Mathlib.Data.List.Nodup
import Mathlib.Data.Prod.Basic
import TrackSelection.Parameters.OverrideTable
import TrackSelection.Proofs.FiniteMaps

/-!
# The table of overrides as a flat map

The table keeps a map for each renderer. Seen from outside it is one map from a renderer and its
groups to an entry: every operation is described by the look-ups it changes. Tables are compared as
they are stored, renderer by renderer, and this is the same as comparing their look-ups as long as
no renderer is kept without overrides. Every operation sees to that.
-/

namespace TrackSelection.OverrideTable

variable {table a b : OverrideTable} {key : OverrideKey} {entry : Option Override}

/-! ## Looking up overrides -/

/-- What is found for a key is the entry that is registered. -/
theorem get?_eq_some_iff : table.get? key = some entry ↔ (key, entry) ∈ table.entries := by
  obtain ⟨i, groups⟩ := key
  simp only [get?, entries, Option.bind_eq_some_iff, FiniteMap.get?_eq_some_iff, List.mem_flatMap,
    List.mem_map, Prod.exists, Prod.mk.injEq]
  constructor
  · rintro ⟨overrides, listed, registered⟩
    exact ⟨i, overrides, listed, groups, entry, registered, ⟨rfl, rfl⟩, rfl⟩
  · rintro ⟨_, overrides, listed, _, _, registered, ⟨rfl, rfl⟩, rfl⟩
    exact ⟨overrides, listed, registered⟩

theorem get?_eq_none_iff : table.get? key = none ↔ ∀ entry, (key, entry) ∉ table.entries := by
  rw [Option.eq_none_iff_forall_ne_some]
  exact forall_congr' fun entry => not_congr get?_eq_some_iff

@[simp] theorem get?_empty (key : OverrideKey) : empty.get? key = none := rfl

theorem get?_of_renderer {i : Nat} {overrides : RendererOverrides}
    (here : table.renderers.get? i = some overrides) (groups : List TrackGroup) :
    table.get? (i, groups) = overrides.get? groups := by
  rw [get?, here, Option.bind_some]

theorem get?_of_no_renderer {i : Nat} (absent : table.renderers.get? i = none)
    (groups : List TrackGroup) : table.get? (i, groups) = none := by
  rw [get?, absent, Option.bind_none]

/-- Storing a map for a renderer changes what is found for that renderer alone. -/
theorem get?_insert_renderer (table : OverrideTable) (i : Nat) (overrides : RendererOverrides)
    (key : OverrideKey) :
    (OverrideTable.mk (table.renderers.insert i overrides)).get? key =
      if key.1 = i then overrides.get? key.2 else table.get? key := by
  rw [get?, FiniteMap.get?_insert]
  split
  · rfl
  · rfl

theorem get?_eraseRenderer (table : OverrideTable) (i : Nat) (key : OverrideKey) :
    (table.eraseRenderer i).get? key = if key.1 = i then none else table.get? key := by
  rw [eraseRenderer, get?, FiniteMap.get?_erase]
  split
  · rfl
  · rfl

theorem get?_insert (table : OverrideTable) (key other : OverrideKey) (entry : Option Override) :
    (table.insert key entry).get? other = if other = key then some entry else table.get? other := by
  obtain ⟨i, groups⟩ := key
  obtain ⟨j, others⟩ := other
  rw [insert, get?_insert_renderer]
  by_cases same : j = i
  · subst same
    have before : ((table.renderers.get? j).getD .empty).get? others = table.get? (j, others) := by
      cases here : table.renderers.get? j with
      | none => rw [get?_of_no_renderer here, Option.getD_none, FiniteMap.get?_empty]
      | some overrides => rw [get?_of_renderer here, Option.getD_some]
    rw [if_pos rfl, FiniteMap.get?_insert, before]
    simp
  · rw [if_neg same, if_neg (by simp [same])]

/-- Removing an entry leaves its renderer with the rest of its map, which may be nothing. -/
theorem get?_erase_renderer {i : Nat} {overrides : RendererOverrides}
    (here : table.renderers.get? i = some overrides) (groups : List TrackGroup)
    (key : OverrideKey) :
    (table.erase (i, groups)).get? key =
      if key.1 = i then (overrides.erase groups).get? key.2 else table.get? key := by
  simp only [erase, here]
  split
  · rename_i empty
    have nothing : (overrides.erase groups).get? key.2 = none := by
      rw [Option.eq_none_iff_forall_ne_some]
      intro entry found
      rw [FiniteMap.isEmpty_eq_false_iff.mpr ⟨_, _, found⟩] at empty
      cases empty
    rw [nothing]
    exact get?_eraseRenderer table i key
  · exact get?_insert_renderer table i _ key

theorem get?_erase (table : OverrideTable) (key other : OverrideKey) :
    (table.erase key).get? other = if other = key then none else table.get? other := by
  obtain ⟨i, groups⟩ := key
  obtain ⟨j, others⟩ := other
  cases here : table.renderers.get? i with
  | none =>
      simp only [erase, here]
      split
      · rename_i same
        rw [same, get?_of_no_renderer here]
      · rfl
  | some overrides =>
      rw [get?_erase_renderer here]
      by_cases same : j = i
      · subst same
        rw [if_pos rfl, FiniteMap.get?_erase, get?_of_renderer here]
        simp
      · rw [if_neg same, if_neg (by simp [same])]

/-! ## Counting overrides -/

theorem size_eq (table : OverrideTable) : table.size = table.entries.length := by
  have total (renderers : List (Nat × RendererOverrides)) (start : Nat) :
      renderers.foldl (fun total entry => total + entry.2.size) start =
        start + (renderers.flatMap fun entry =>
          entry.2.entries.map fun override => ((entry.1, override.1), override.2)).length := by
    induction renderers generalizing start with
    | nil => rfl
    | cons first rest ih =>
        rw [List.foldl_cons, ih, List.flatMap_cons, List.length_append, List.length_map,
          FiniteMap.size, Nat.add_assoc]
  exact (total table.renderers.entries 0).trans (Nat.zero_add _)

theorem keys_eq (table : OverrideTable) :
    table.entries.map Prod.fst =
      table.renderers.entries.flatMap fun entry =>
        (entry.2.entries.map Prod.fst).map (Prod.mk entry.1) := by
  rw [entries, List.map_flatMap]
  congr 1
  funext entry
  rw [List.map_map, List.map_map]
  rfl

/-- No key is registered twice: neither for one renderer, nor for two. -/
theorem nodup_keys (table : OverrideTable) : (table.entries.map Prod.fst).Nodup := by
  rw [keys_eq, List.nodup_flatMap]
  constructor
  · intro entry _
    exact entry.2.nodup.map (Prod.mk_right_injective entry.1)
  · refine (List.pairwise_map.mp table.renderers.nodup).imp ?_
    intro first second different key inFirst inSecond
    obtain ⟨_, _, rfl⟩ := List.mem_map.mp inFirst
    obtain ⟨_, _, same⟩ := List.mem_map.mp inSecond
    exact different (congrArg Prod.fst same).symm

theorem mem_keys_iff :
    key ∈ table.entries.map Prod.fst ↔ ∃ entry, table.get? key = some entry := by
  simp only [get?_eq_some_iff, List.mem_map, Prod.exists, exists_and_right, exists_eq_right]

/-! ## Tables that are the same -/

/-- No renderer is kept without overrides. -/
def IsTidy (table : OverrideTable) : Prop :=
  ∀ i overrides, table.renderers.get? i = some overrides → overrides.isEmpty = false

theorem isTidy_empty : empty.IsTidy := by
  intro i overrides here
  cases here

theorem IsTidy.eraseRenderer (tidy : table.IsTidy) (i : Nat) :
    (table.eraseRenderer i).IsTidy := by
  intro j overrides here
  rw [OverrideTable.eraseRenderer, FiniteMap.get?_erase] at here
  split at here
  · cases here
  · exact tidy j overrides here

/-- A map that is stored for a renderer must not be empty. -/
theorem IsTidy.insert_renderer (tidy : table.IsTidy) (i : Nat) {overrides : RendererOverrides}
    (nonempty : overrides.isEmpty = false) :
    (OverrideTable.mk (table.renderers.insert i overrides)).IsTidy := by
  intro j others here
  rw [FiniteMap.get?_insert] at here
  split at here
  · cases here
    exact nonempty
  · exact tidy j others here

theorem IsTidy.insert (tidy : table.IsTidy) (key : OverrideKey) (entry : Option Override) :
    (table.insert key entry).IsTidy := by
  apply tidy.insert_renderer
  apply FiniteMap.isEmpty_eq_false_iff.mpr
  refine ⟨key.2, entry, ?_⟩
  rw [FiniteMap.get?_insert, if_pos rfl]

theorem IsTidy.erase (tidy : table.IsTidy) (key : OverrideKey) : (table.erase key).IsTidy := by
  unfold OverrideTable.erase
  split
  · exact tidy
  · dsimp only
    split
    · exact tidy.eraseRenderer key.1
    · rename_i nonempty
      exact tidy.insert_renderer key.1 (Bool.not_eq_true _ ▸ nonempty)

/-- The entries of two tables at a key are alike, or there is none in either. -/
def AgreeAt (a b : OverrideTable) (key : OverrideKey) : Prop :=
  Option.Rel (fun x y => alike x y = true) (a.get? key) (b.get? key)

/-- Tables that agree at all keys of a renderer have the same map for it. -/
theorem agreeAt_iff_of_renderer {i : Nat} {x y : RendererOverrides}
    (left : a.renderers.get? i = some x) (right : b.renderers.get? i = some y) :
    FiniteMap.same alike x y = true ↔ ∀ groups, AgreeAt a b (i, groups) := by
  rw [FiniteMap.same_iff]
  refine forall_congr' fun groups => ?_
  rw [FiniteMap.AgreeAt, AgreeAt, get?_of_renderer left, get?_of_renderer right]

theorem AgreeAt.exists_get?_iff (agree : AgreeAt a b key) :
    (∃ entry, a.get? key = some entry) ↔ ∃ entry, b.get? key = some entry := by
  unfold AgreeAt at agree
  cases left : a.get? key with
  | none => cases right : b.get? key <;> simp_all
  | some entry => cases right : b.get? key <;> simp_all

/-- Without empty maps, a renderer is stored exactly if something is found for it. -/
theorem exists_renderer_iff {i : Nat} (tidy : table.IsTidy) :
    (∃ overrides, table.renderers.get? i = some overrides) ↔
      ∃ groups entry, table.get? (i, groups) = some entry := by
  constructor
  · rintro ⟨overrides, here⟩
    obtain ⟨groups, entry, found⟩ := FiniteMap.isEmpty_eq_false_iff.mp (tidy i overrides here)
    exact ⟨groups, entry, (get?_of_renderer here groups).trans found⟩
  · rintro ⟨groups, entry, found⟩
    obtain ⟨overrides, here, _⟩ := Option.bind_eq_some_iff.mp found
    exact ⟨overrides, here⟩

/-- Comparing tables as they are stored says whether they agree at every key. -/
theorem same_iff (tidy : a.IsTidy) (tidyToo : b.IsTidy) :
    a.same b = true ↔ ∀ key, AgreeAt a b key := by
  rw [same, FiniteMap.same_iff]
  constructor
  · rintro agree ⟨i, groups⟩
    obtain ⟨present, absent⟩ := FiniteMap.agreeAt_iff.mp (agree i)
    cases left : a.renderers.get? i with
    | none =>
        rw [AgreeAt, get?_of_no_renderer left, get?_of_no_renderer (absent left)]
        exact .none
    | some x =>
        obtain ⟨y, right, same⟩ := present x left
        exact (agreeAt_iff_of_renderer left right).mp same groups
  · intro agree i
    -- an empty map would be stored on one side only, and no look-up would show it
    have stored : (∃ x, a.renderers.get? i = some x) ↔ ∃ y, b.renderers.get? i = some y := by
      rw [exists_renderer_iff tidy, exists_renderer_iff tidyToo]
      exact exists_congr fun groups => (agree (i, groups)).exists_get?_iff
    rw [FiniteMap.agreeAt_iff]
    constructor
    · intro x left
      obtain ⟨y, right⟩ := stored.mp ⟨x, left⟩
      exact ⟨y, right, (agreeAt_iff_of_renderer left right).mpr fun groups => agree (i, groups)⟩
    · intro absent
      rw [Option.eq_none_iff_forall_ne_some]
      intro y right
      obtain ⟨x, left⟩ := stored.mpr ⟨y, right⟩
      rw [absent] at left
      cases left

-- nothing is found in a table that keeps a renderer without overrides, yet it is not the empty one
example : same ⟨FiniteMap.empty.insert 0 .empty⟩ .empty = false := by decide

end TrackSelection.OverrideTable
