import Mathlib.Data.List.Nodup
import TrackSelection.Media.Language

/-!
# Searching sorted lists

Halving a list looks at few of its elements and drops the others unseen, so what it finds is there,
but what is there need not be found. It is found if the elements rise along the list: those below
what is looked for come first, then those equal to it, and then those above. The table of aliases is
in ascending order, and the search finds exactly what the table lists.
-/

namespace TrackSelection

section Searches

variable {α : Type} {standing : α → Ordering} {items : List α} {item : α}

/-- Along a list the elements rise past what is looked for: after an element above it all are above
it, and before an element below it all are below it. -/
def Rising (standing : α → Ordering) (items : List α) : Prop :=
  items.Pairwise fun a b =>
    (standing a = .gt → standing b = .gt) ∧ (standing b = .lt → standing a = .lt)

/-- A list that is sorted by a key rises past every value of the key. -/
theorem rising_of_ascending {κ : Type} [Ord κ] [Std.TransOrd κ] (key : α → κ)
    (ascending : items.Pairwise fun a b => (compare (key a) (key b)).isLE) (value : κ) :
    Rising (fun item => compare (key item) value) items := by
  refine ascending.imp ?_
  intro a b le
  constructor
  · intro above
    rw [Std.OrientedCmp.gt_iff_lt] at above ⊢
    exact Std.TransCmp.lt_of_lt_of_isLE above le
  · intro below
    exact Std.TransCmp.lt_of_isLE_of_lt le below

/-- What is found is in the list, sorted or not. -/
theorem mem_of_search?_eq_some (found : search? standing items = some item) :
    item ∈ items ∧ standing item = .eq := by
  fun_induction search? standing items with
  | case1 items few =>
      obtain ⟨first, equal⟩ := Option.filter_eq_some_iff.mp found
      exact ⟨List.mem_of_head? first, of_decide_eq_true equal⟩
  | case2 items several half above ih =>
      exact ⟨List.mem_of_mem_take (ih found).1, (ih found).2⟩
  | case3 items several half reached ih =>
      exact ⟨List.mem_of_mem_drop (ih found).1, (ih found).2⟩

/-- Before an element above what is looked for stands all that is equal to it. -/
theorem Rising.mem_take (rising : Rising standing items) (mem : item ∈ items)
    (equal : standing item = .eq) {position count : Nat} (bound : position < items.length)
    (above : standing items[position] = .gt) (enough : position ≤ count) :
    item ∈ items.take count := by
  obtain ⟨i, inside, rfl⟩ := List.mem_iff_getElem.mp mem
  have before : i < position := by
    apply Nat.lt_of_not_le
    intro le
    rcases Nat.lt_or_eq_of_le le with behind | rfl
    · have aboveToo := (List.pairwise_iff_getElem.mp rising _ _ bound inside behind).1 above
      rw [equal] at aboveToo
      cases aboveToo
    · rw [equal] at above
      cases above
  exact List.mem_take_iff_getElem.mpr ⟨i, by omega, rfl⟩

/-- From an element on that is not above what is looked for, something is equal to it if anything
is: if that stands before, the element at the position is equal as well. -/
theorem Rising.exists_mem_drop (rising : Rising standing items) (mem : item ∈ items)
    (equal : standing item = .eq) {position : Nat} (bound : position < items.length)
    (reached : standing items[position] ≠ .gt) :
    ∃ other ∈ items.drop position, standing other = .eq := by
  obtain ⟨i, inside, rfl⟩ := List.mem_iff_getElem.mp mem
  rcases Nat.lt_or_ge i position with before | behind
  · refine ⟨items[position], List.mem_drop_iff_getElem.mpr ⟨0, by omega, by simp⟩, ?_⟩
    cases stands : standing items[position] with
    | eq => rfl
    | gt => exact absurd stands reached
    | lt =>
        have belowToo := (List.pairwise_iff_getElem.mp rising _ _ inside bound before).2 stands
        rw [equal] at belowToo
        cases belowToo
  · refine ⟨items[i], List.mem_drop_iff_getElem.mpr ⟨i - position, by omega, ?_⟩, equal⟩
    simp only [Nat.add_sub_cancel' behind]

/-- In a list that rises past it, something equal to what is looked for is found if there is any. -/
theorem Rising.isSome_search?_iff (rising : Rising standing items) :
    (search? standing items).isSome = true ↔ ∃ item ∈ items, standing item = .eq := by
  constructor
  · intro isSome
    obtain ⟨item, found⟩ := Option.isSome_iff_exists.mp isSome
    exact ⟨item, mem_of_search?_eq_some found⟩
  · rintro ⟨item, mem, equal⟩
    fun_induction search? standing items generalizing item with
    | case1 items few =>
        match items, few with
        | [only], _ =>
            obtain rfl := List.mem_singleton.mp mem
            simp [equal]
    | case2 items several half above ih =>
        -- at least half of the list is kept, so all that stands before the middle
        exact ih (rising.sublist (List.take_sublist _ _)) item
          (rising.mem_take mem equal (by omega) above (by omega)) equal
    | case3 items several half reached ih =>
        obtain ⟨other, kept, equalToo⟩ := rising.exists_mem_drop mem equal (by omega) reached
        exact ih (rising.sublist (List.drop_sublist _ _)) other kept equalToo

end Searches

/-! ## The table of aliases -/

namespace Language

theorem ascending_aliases : aliases.Pairwise fun a b => compare a.1 b.1 = .lt := by
  decide +kernel

/-- No subtag is listed with two codes. -/
theorem nodup_map_fst_aliases : (aliases.map Prod.fst).Nodup := by
  rw [List.Nodup, List.pairwise_map]
  refine ascending_aliases.imp ?_
  intro a b before same
  have equal : compare b.1 b.1 = .eq := Std.ReflCmp.compare_self
  rw [same, equal] at before
  cases before

/-- The search finds a code for a word exactly if the table lists the word with that code. -/
theorem alias?_eq_some_iff {word code : String} :
    alias? word = some code ↔ (word, code) ∈ aliases := by
  have rising := rising_of_ascending Prod.fst
    (ascending_aliases.imp fun before => Ordering.isLE_of_eq_lt before) word
  rw [alias?, Option.map_eq_some_iff]
  constructor
  · rintro ⟨⟨listed, _⟩, found, rfl⟩
    obtain ⟨mem, equal⟩ := mem_of_search?_eq_some found
    obtain rfl : listed = word := Std.LawfulEqCmp.eq_of_compare equal
    exact mem
  · intro listed
    obtain ⟨entry, found⟩ := Option.isSome_iff_exists.mp
      (rising.isSome_search?_iff.mpr ⟨_, listed, Std.ReflCmp.compare_self⟩)
    obtain ⟨mem, equal⟩ := mem_of_search?_eq_some found
    have same := List.inj_on_of_nodup_map nodup_map_fst_aliases mem listed
      (Std.LawfulEqCmp.eq_of_compare equal)
    exact ⟨entry, found, by rw [same]⟩

theorem alias?_eq_none_iff {word : String} :
    alias? word = none ↔ ∀ code, (word, code) ∉ aliases := by
  simp only [Option.eq_none_iff_forall_ne_some, ne_eq, alias?_eq_some_iff]

end Language

end TrackSelection
