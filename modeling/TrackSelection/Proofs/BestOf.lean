import TrackSelection.Choice.Best

/-!
# What is left by a search for the best

The search keeps one of the elements it was given, and keeps one as soon as there is any. When being
better is a strict order nothing beats what is kept. Totality is not needed: elements of which
neither is better may have a third one between them and one of the two, so that nothing more can be
said of two searches whose results are compared once again. When not being better is transitive too,
the first of the best is kept, and a search may be made in parts.
-/

namespace TrackSelection

variable {α : Type} {better : α → α → Bool}

@[simp] theorem best?_nil : best? better [] = none := rfl

theorem best?_cons (first : α) (rest : List α) :
    best? better (first :: rest) = rest.foldl (keepBetter better) (some first) := rfl

/-- Once something is held something stays held: the holder itself, or a later element. -/
theorem foldl_keepBetter_mem (better : α → α → Bool) (items : List α) (holder : α) :
    ∃ best, items.foldl (keepBetter better) (some holder) = some best ∧ best ∈ holder :: items := by
  induction items generalizing holder with
  | nil => exact ⟨holder, rfl, List.mem_singleton.mpr rfl⟩
  | cons item rest ih =>
      rw [List.foldl_cons, keepBetter]
      split
      · obtain ⟨best, held, mem⟩ := ih item
        exact ⟨best, held, List.mem_cons_of_mem holder mem⟩
      · obtain ⟨best, held, mem⟩ := ih holder
        refine ⟨best, held, ?_⟩
        rcases List.mem_cons.mp mem with rfl | later
        · exact List.mem_cons_self
        · exact List.mem_cons_of_mem holder (List.mem_cons_of_mem item later)

theorem best?_eq_none_iff {items : List α} : best? better items = none ↔ items = [] := by
  cases items with
  | nil => simp
  | cons first rest =>
      obtain ⟨best, held, _⟩ := foldl_keepBetter_mem better rest first
      simp [best?_cons, held]

theorem mem_of_best?_eq_some {items : List α} {best : α} (found : best? better items = some best) :
    best ∈ items := by
  cases items with
  | nil => simp at found
  | cons first rest =>
      obtain ⟨held, same, mem⟩ := foldl_keepBetter_mem better rest first
      rw [best?_cons, same, Option.some.injEq] at found
      exact found ▸ mem

/-- A search among images is the image of the search, if the images compare alike. -/
theorem best?_map {β : Type} {view : α → β} {other : β → β → Bool}
    (alike : ∀ a b, other (view a) (view b) = better a b) (items : List α) :
    best? other (items.map view) = (best? better items).map view := by
  have loop : ∀ holder : Option α, (items.map view).foldl (keepBetter other) (holder.map view) =
      (items.foldl (keepBetter better) holder).map view := by
    induction items with
    | nil => intro holder; rfl
    | cons item rest ih =>
        intro holder
        have step : keepBetter other (holder.map view) (view item) =
            (keepBetter better holder item).map view := by
          cases holder with
          | none => rfl
          | some best =>
              simp only [Option.map_some, keepBetter, alike]
              split <;> rfl
        rw [List.map_cons, List.foldl_cons, List.foldl_cons, step, ih]
  exact loop none

/-- What a relation needs to be for the search to end with an element that nothing beats. -/
structure StrictOn (better : α → α → Bool) (items : List α) : Prop where
  irrefl : ∀ a ∈ items, better a a = false
  trans : ∀ a ∈ items, ∀ b ∈ items, ∀ c ∈ items,
    better a b = true → better b c = true → better a c = true

theorem StrictOn.mono {items more : List α} (strict : StrictOn better more)
    (sub : ∀ a ∈ items, a ∈ more) : StrictOn better items where
  irrefl a ha := strict.irrefl a (sub a ha)
  trans a ha b hb c hc := strict.trans a (sub a ha) b (sub b hb) c (sub c hc)

/-- The invariant of the search: nothing seen so far beats the holder. -/
theorem foldl_keepBetter_unbeaten {items : List α} (seen : List α) {holder best : α}
    (strict : StrictOn better (holder :: seen ++ items))
    (unbeaten : ∀ a ∈ seen, better a holder = false)
    (found : items.foldl (keepBetter better) (some holder) = some best) :
    ∀ a ∈ holder :: seen ++ items, better a best = false := by
  induction items generalizing holder seen with
  | nil =>
      rw [List.foldl_nil, Option.some.injEq] at found
      subst found
      intro a ha
      rw [List.append_nil] at ha
      rcases List.mem_cons.mp ha with rfl | ha
      · exact strict.irrefl a (by simp)
      · exact unbeaten a ha
  | cons item rest ih =>
      rw [List.foldl_cons, keepBetter] at found
      split at found
      · rename_i beats
        -- the old holder joins those that were seen; none of them beats the new one, for it
        -- would beat the old one too
        have kept : ∀ a ∈ holder :: seen, better a item = false := by
          intro a ha
          cases higher : better a item with
          | false => rfl
          | true =>
              have higherToo := strict.trans a (List.mem_append_left _ ha) item (by simp)
                holder (by simp) higher beats
              rcases List.mem_cons.mp ha with rfl | ha
              · rw [strict.irrefl a (by simp)] at higherToo
                exact absurd higherToo (by simp)
              · rw [unbeaten a ha] at higherToo
                exact absurd higherToo (by simp)
        have all := ih _ (strict.mono (by grind)) kept found
        intro a ha
        exact all a (by grind)
      · rename_i stays
        have kept : ∀ a ∈ item :: seen, better a holder = false := by
          intro a ha
          rcases List.mem_cons.mp ha with rfl | ha
          · simpa using stays
          · exact unbeaten a ha
        have all := ih _ (strict.mono (by grind)) kept found
        intro a ha
        exact all a (by grind)

/-- Nothing beats the best, when being better is a strict order on the elements. -/
theorem not_better_of_best?_eq_some {items : List α} {best : α} (strict : StrictOn better items)
    (found : best? better items = some best) : ∀ a ∈ items, better a best = false := by
  cases items with
  | nil => simp at found
  | cons first rest =>
      intro a ha
      exact foldl_keepBetter_unbeaten [] strict (by simp) found a ha

/-- Nothing has a higher number than the best, when more is better. -/
theorem le_of_best?_eq_some {items : List α} {best : α} (number : α → Nat)
    (found : best? (fun a b => number b < number a) items = some best) :
    ∀ a ∈ items, number a ≤ number best := by
  have strict : StrictOn (fun a b => number b < number a) items := by
    refine ⟨fun a _ => decide_eq_false (Nat.lt_irrefl (number a)), ?_⟩
    intro a _ b _ c _ first second
    rw [decide_eq_true_eq] at first second ⊢
    exact Nat.lt_trans second first
  intro a mem
  exact Nat.not_lt.mp (of_decide_eq_false (not_better_of_best?_eq_some strict found a mem))

/-! ## The first of the best -/

/-- What a relation needs to be for the search to end with the first of the best: being better is
transitive, and so is not being better. -/
structure WeakOrder (better : α → α → Bool) : Prop where
  trans : ∀ a b c, better a b = true → better b c = true → better a c = true
  cotrans : ∀ a b c, better a c = true → better a b = true ∨ better b c = true

theorem weakOrder_of_number (number : α → Nat) : WeakOrder fun a b => number b < number a where
  trans a b c first second := by
    rw [decide_eq_true_eq] at first second ⊢
    exact Nat.lt_trans second first
  cotrans a b c more := by
    simp only [decide_eq_true_eq] at more ⊢
    omega

/-- Ranks are lists of numbers that are compared from the front. -/
theorem weakOrder_of_rank {rank : α → List Int}
    (higher : ∀ a b, better a b = true ↔ rank b < rank a) : WeakOrder better where
  trans a b c first second := by
    rw [higher] at first second ⊢
    exact List.lt_trans second first
  cotrans a b c more := by
    rw [higher] at more
    rw [higher, higher]
    by_cases below : rank c < rank b
    · exact .inr below
    · exact .inl (List.lt_of_le_of_lt (List.not_lt.mp below) more)

/-- Scores whose comparison is a preorder, such as that of their ranks. -/
theorem weakOrder_of_transCmp {β : Type} (order : β → β → Ordering) [Std.TransCmp order]
    (score : α → β) : WeakOrder fun a b => order (score a) (score b) = .gt where
  trans a b c first second := by
    rw [decide_eq_true_eq] at first second ⊢
    exact Std.TransCmp.gt_trans first second
  cotrans a b c more := by
    simp only [decide_eq_true_eq] at more ⊢
    by_cases above : order (score a) (score b) = .gt
    · exact .inl above
    · right
      apply Decidable.byContradiction
      intro notAbove
      have atMost := Std.TransCmp.isLE_trans (Ordering.isLE_iff_ne_gt.mpr above)
        (Ordering.isLE_iff_ne_gt.mpr notAbove)
      rw [more] at atMost
      cases atMost

/-- The invariant of the search: the holder beats all that came before it, and nothing that came
after it beats the holder. -/
theorem foldl_keepBetter_split (weak : WeakOrder better) {items : List α} (before after : List α)
    {holder best : α} (beats : ∀ a ∈ before, better holder a = true)
    (unbeaten : ∀ a ∈ after, better a holder = false)
    (found : items.foldl (keepBetter better) (some holder) = some best) :
    ∃ front back, before ++ holder :: after ++ items = front ++ best :: back ∧
      (∀ a ∈ front, better best a = true) ∧ ∀ a ∈ back, better a best = false := by
  induction items generalizing before holder after with
  | nil =>
      rw [List.foldl_nil, Option.some.injEq] at found
      subst found
      exact ⟨before, after, List.append_nil _, beats, unbeaten⟩
  | cons item rest ih =>
      rw [List.foldl_cons, keepBetter] at found
      split at found
      · rename_i higher
        -- all that was seen comes before the new holder, which beats it through the old one
        have beatsAll : ∀ a ∈ before ++ holder :: after, better item a = true := by
          intro a ha
          rcases List.mem_append.mp ha with ha | ha
          · exact weak.trans item holder a higher (beats a ha)
          · rcases List.mem_cons.mp ha with rfl | ha
            · exact higher
            · rcases weak.cotrans item a holder higher with beaten | above
              · exact beaten
              · rw [unbeaten a ha] at above
                cases above
        obtain ⟨front, back, same, split⟩ := ih _ [] beatsAll (by simp) found
        refine ⟨front, back, ?_, split⟩
        rw [← same, List.append_assoc _ [item]]
        rfl
      · rename_i stays
        have unbeatenAll : ∀ a ∈ after ++ [item], better a holder = false := by
          intro a ha
          rcases List.mem_append.mp ha with ha | ha
          · exact unbeaten a ha
          · obtain rfl := List.mem_singleton.mp ha
            simpa using stays
        obtain ⟨front, back, same, split⟩ := ih before _ beats unbeatenAll found
        refine ⟨front, back, ?_, split⟩
        rw [← same]
        simp

/-- The best beats all elements before it, and none after it beats the best. -/
theorem exists_split_of_best?_eq_some {items : List α} {best : α} (weak : WeakOrder better)
    (found : best? better items = some best) :
    ∃ front back, items = front ++ best :: back ∧
      (∀ a ∈ front, better best a = true) ∧ ∀ a ∈ back, better a best = false := by
  cases items with
  | nil => simp at found
  | cons first rest =>
      exact foldl_keepBetter_split weak [] [] (by simp) (by simp) found

/-- Nothing is better than the best, and nothing as good as the best stands before it. -/
theorem first_of_best?_eq_some {items : List α} {best other : α} (weak : WeakOrder better)
    (irrefl : ∀ a, better a a = false) {before : α → α → Prop} (inOrder : items.Pairwise before)
    (asymm : ∀ a b, before a b → ¬ before b a)
    (found : best? better items = some best) (mem : other ∈ items) :
    better other best = false ∧ (better best other = false → ¬ before other best) := by
  obtain ⟨front, back, rfl, beaten, unbeaten⟩ := exists_split_of_best?_eq_some weak found
  rcases List.mem_append.mp mem with earlier | later
  · have beats := beaten other earlier
    refine ⟨?_, fun asGood => by rw [beats] at asGood; cases asGood⟩
    cases above : better other best with
    | false => rfl
    | true =>
        have itself := weak.trans best other best beats above
        rw [irrefl best] at itself
        cases itself
  · rcases List.mem_cons.mp later with rfl | after
    · exact ⟨irrefl other, fun _ itself => asymm other other itself itself⟩
    · refine ⟨unbeaten other after, fun _ => asymm best other ?_⟩
      exact (List.pairwise_cons.mp (List.pairwise_append.mp inOrder).2.1).1 other after

/-- The best is the one element that nothing beats and that no other such element stands before. -/
theorem best?_eq_some_iff_first {items : List α} {best : α} (weak : WeakOrder better)
    (irrefl : ∀ a, better a a = false) {before : α → α → Prop} (inOrder : items.Pairwise before)
    (asymm : ∀ a b, before a b → ¬ before b a) :
    best? better items = some best ↔
      best ∈ items ∧ (∀ other ∈ items, better other best = false) ∧
        ∀ other ∈ items, (∀ third ∈ items, better third other = false) → ¬ before other best := by
  have firstOf {winner other : α} (found : best? better items = some winner)
      (mem : other ∈ items) := first_of_best?_eq_some weak irrefl inOrder asymm found mem
  constructor
  · intro found
    refine ⟨mem_of_best?_eq_some found, fun other mem => (firstOf found mem).1, ?_⟩
    intro other mem unbeaten
    exact (firstOf found mem).2 (unbeaten best (mem_of_best?_eq_some found))
  · rintro ⟨mem, unbeaten, first⟩
    cases found : best? better items with
    | none =>
        rw [best?_eq_none_iff.mp found] at mem
        cases mem
    | some winner =>
        have notBefore := first winner (mem_of_best?_eq_some found) fun other listed =>
          (firstOf found listed).1
        have notAfter := (firstOf found mem).2 (unbeaten winner (mem_of_best?_eq_some found))
        obtain ⟨front, back, same, _⟩ := exists_split_of_best?_eq_some weak found
        rw [same] at mem inOrder
        obtain ⟨_, later, earlier⟩ := List.pairwise_append.mp inOrder
        -- neither of the two stands before the other
        obtain inFront | inBack := List.mem_append.mp mem
        · exact absurd (earlier best inFront winner List.mem_cons_self) notAfter
        · obtain rfl | behind := List.mem_cons.mp inBack
          · rfl
          · exact absurd ((List.pairwise_cons.mp later).1 best behind) notBefore

/-! ## Searches in parts -/

/-- A holder that meets two challengers one after the other may as well meet the better of them. -/
theorem keepBetter_keepBetter (weak : WeakOrder better) (holder : Option α) (first second : α) :
    keepBetter better (keepBetter better holder first) second =
      (keepBetter better (some first) second).elim holder (keepBetter better holder) := by
  cases holder with
  | none =>
      simp only [keepBetter]
      split <;> rfl
  | some best =>
      by_cases improves : better second first = true
      · by_cases beaten : better first best = true
        · have above := weak.trans second first best improves beaten
          simp [keepBetter, improves, beaten, above]
        · simp [keepBetter, improves, beaten]
      · by_cases beaten : better first best = true
        · simp [keepBetter, improves, beaten]
        · have below : better second best ≠ true := fun above =>
            (weak.cotrans second first best above).elim improves beaten
          simp [keepBetter, improves, beaten, below]

/-- Against a holder, the elements of a list count for as much as the best of them. -/
theorem foldl_keepBetter_eq (weak : WeakOrder better) (items : List α) (holder : Option α) :
    items.foldl (keepBetter better) holder =
      (best? better items).elim holder (keepBetter better holder) := by
  induction items generalizing holder with
  | nil => rfl
  | cons item rest ih =>
      rw [List.foldl_cons, best?_cons, ih, ih]
      cases best? better rest with
      | none => rfl
      | some best => exact keepBetter_keepBetter weak holder item best

/-- The best of several lists is the best of their bests. -/
theorem best?_flatMap {β : Type} (weak : WeakOrder better) (part : β → List α) (items : List β) :
    best? better (items.flatMap part) =
      best? better (items.filterMap fun item => best? better (part item)) := by
  have loop : ∀ holder : Option α, (items.flatMap part).foldl (keepBetter better) holder =
      (items.filterMap fun item => best? better (part item)).foldl (keepBetter better) holder := by
    induction items with
    | nil => intro holder; rfl
    | cons item rest ih =>
        intro holder
        rw [List.flatMap_cons, List.foldl_append, ih, foldl_keepBetter_eq weak (part item)]
        cases found : best? better (part item) with
        | none => simp only [List.filterMap_cons, found, Option.elim_none]
        | some best => simp only [List.filterMap_cons, found, Option.elim_some, List.foldl_cons]
  exact loop none

/-! ## Searches by number that leave something out -/

variable {number : α → Nat}

/-- Elements that do not exceed the holder may be left out. -/
theorem foldl_keepBetter_filter {items : List α} {holder : α} {keep : α → Bool}
    (low : ∀ item ∈ items, keep item = false → number item ≤ number holder) :
    (items.filter keep).foldl (keepBetter fun a b => number b < number a) (some holder) =
      items.foldl (keepBetter fun a b => number b < number a) (some holder) := by
  induction items generalizing holder with
  | nil => rfl
  | cons item rest ih =>
      have lowRest : ∀ other ∈ rest, keep other = false → number other ≤ number holder :=
        fun other mem => low other (List.mem_cons_of_mem item mem)
      rw [List.foldl_cons, keepBetter]
      cases kept : keep item with
      | false =>
          have stays := low item List.mem_cons_self kept
          rw [List.filter_cons_of_neg (by simp [kept]), ih lowRest,
            if_neg (by simpa using stays)]
      | true =>
          rw [List.filter_cons_of_pos kept, List.foldl_cons, keepBetter]
          split
          · -- the new holder is higher still
            rename_i higher
            rw [decide_eq_true_eq] at higher
            exact ih fun other mem dropped =>
              Nat.le_trans (lowRest other mem dropped) (Nat.le_of_lt higher)
          · exact ih lowRest

/-- A search may skip elements like an earlier one, if alike elements have the same number. -/
theorem best?_eraseDupsBy (number : α → Nat) {same : α → α → Bool}
    (alike : ∀ a b, same a b = true → number a = number b) (items : List α) :
    best? (fun a b => number b < number a) (items.eraseDupsBy same) =
      best? (fun a b => number b < number a) items := by
  match items with
  | [] => rw [List.eraseDupsBy_nil]
  | first :: rest =>
      have inner := best?_eraseDupsBy number alike
        (rest.filter fun other => same other first = false)
      rw [List.eraseDupsBy_cons, best?_cons, best?_cons,
        foldl_keepBetter_eq (weakOrder_of_number number), inner,
        ← foldl_keepBetter_eq (weakOrder_of_number number)]
      refine foldl_keepBetter_filter fun other _ dropped => Nat.le_of_eq (alike other first ?_)
      simpa using dropped
termination_by items.length
decreasing_by exact Nat.lt_succ_of_le (List.length_filter_le _ _)

/-- A search among the elements with a positive number ends like the search among all, if that ends
with a positive number. -/
theorem best?_filter_pos (number : α → Nat) (items : List α) :
    best? (fun a b => number b < number a) (items.filter fun item => 0 < number item) =
      (best? (fun a b => number b < number a) items).filter fun item => 0 < number item := by
  induction items with
  | nil => rfl
  | cons first rest ih =>
      by_cases positive : 0 < number first
      · have kept : (first :: rest).filter (fun item => 0 < number item) =
            first :: rest.filter fun item => 0 < number item :=
          List.filter_cons_of_pos (by simpa using positive)
        have same : best? (fun a b => number b < number a)
              (first :: rest.filter fun item => 0 < number item) =
            best? (fun a b => number b < number a) (first :: rest) := by
          refine foldl_keepBetter_filter fun item _ zero => ?_
          rw [decide_eq_false_iff_not] at zero
          omega
        rw [kept, same]
        -- the best is no lower than the first
        cases found : best? (fun a b => number b < number a) (first :: rest) with
        | none => cases best?_eq_none_iff.mp found
        | some best =>
            have atLeast := le_of_best?_eq_some number found first List.mem_cons_self
            have higher : 0 < number best := Nat.lt_of_lt_of_le positive atLeast
            simp [Option.filter_some, higher]
      · rw [List.filter_cons_of_neg (by simpa using positive), ih, best?_cons,
          foldl_keepBetter_eq (weakOrder_of_number number)]
        cases best? (fun a b => number b < number a) rest with
        | none => simp [Option.filter_some, positive]
        | some best =>
            by_cases more : 0 < number best
            · have beats : number first < number best := by omega
              simp [keepBetter, beats]
            · have stays : ¬ number first < number best := by omega
              simp [keepBetter, Option.filter_some, stays, more, positive]

end TrackSelection
