import TrackSelection.Proofs.Placements

/-!
# Who gets a group

A group goes to a renderer that supports it as well as any other does, and to the first of these;
but a metadata group goes to the first of these that has no group yet, as long as there is one. A
group stays unmapped when its type is unsupported everywhere. The rule is stated by what renderers
report for the formats of the group and by the places of earlier groups. The search that decides
adds one to twice the rank of an offer when that settles a tie, so that the first of the heaviest
offers wins.
-/

namespace TrackSelection

/-! ## Levels of support -/

namespace FormatSupport

theorem rank_injective {a b : FormatSupport} : a.rank = b.rank → a = b := by
  cases a <;> cases b <;> decide

instance : Std.IsLinearOrder FormatSupport where
  le_refl a := Nat.le_refl a.rank
  le_trans _ _ _ := Nat.le_trans
  le_antisymm _ _ above below := rank_injective (Nat.le_antisymm above below)
  le_total a b := Nat.le_total a.rank b.rank

theorem max_eq (a b : FormatSupport) : max a b = if a ≤ b then b else a := rfl

instance : Std.LawfulOrderMax FormatSupport where
  max_eq_or a b := by
    rw [max_eq]
    split
    · exact .inr rfl
    · exact .inl rfl
  max_le_iff a b c := by
    rw [max_eq]
    split
    · rename_i below
      exact ⟨fun le => ⟨Std.le_trans below le, le⟩, fun both => both.2⟩
    · rename_i above
      have below : b ≤ a := Std.le_total.resolve_left above
      exact ⟨fun le => ⟨le, Std.le_trans below le⟩, fun both => both.1⟩

theorem rank_eq_zero_iff {level : FormatSupport} : level.rank = 0 ↔ level = .unsupportedType := by
  cases level <;> decide

theorem unsupportedType_le (level : FormatSupport) : .unsupportedType ≤ level :=
  Nat.zero_le level.rank

end FormatSupport

/-- A level is the highest that a renderer reports for a track of a group. -/
structure Renderer.Supports (renderer : Renderer) (group : TrackGroup) (level : FormatSupport) :
    Prop where
  reported : ∃ format ∈ group.formats, ∃ answer,
    renderer.capabilities format = .ok answer ∧ answer.format = level
  highest : ∀ format ∈ group.formats, ∃ answer,
    renderer.capabilities format = .ok answer ∧ answer.format ≤ level

theorem Renderer.Supports.le {renderer : Renderer} {group : TrackGroup}
    {level other : FormatSupport} (supports : renderer.Supports group level)
    (alike : renderer.Supports group other) : level ≤ other := by
  obtain ⟨format, mem, answer, said, rfl⟩ := supports.reported
  obtain ⟨_, saidToo, below⟩ := alike.highest format mem
  obtain rfl := Except.ok.inj (said.symm.trans saidToo)
  exact below

theorem Renderer.Supports.unique {renderer : Renderer} {group : TrackGroup}
    {level other : FormatSupport} (supports : renderer.Supports group level)
    (alike : renderer.Supports group other) : level = other :=
  Std.le_antisymm (supports.le alike) (alike.le supports)

namespace MappedGroup

/-- The support is the highest level among the tracks. -/
theorem support_mem (mapped : MappedGroup) :
    mapped.support ∈ mapped.capabilities.map Capabilities.format ∧
      ∀ level ∈ mapped.capabilities.map Capabilities.format, level ≤ mapped.support := by
  have found : (FormatSupport.unsupportedType ::
      mapped.capabilities.map Capabilities.format).max? = some mapped.support := List.max?_cons'
  obtain ⟨mem, highest⟩ := List.max?_eq_some_iff.mp found
  have among : ∀ level ∈ mapped.capabilities.map Capabilities.format, level ≤ mapped.support :=
    fun level listed => highest level (List.mem_cons_of_mem _ listed)
  refine ⟨?_, among⟩
  rcases List.mem_cons.mp mem with least | listed
  · -- the level that the search starts from is reported if nothing is above it
    have some : mapped.capabilities.map Capabilities.format ≠ [] := by
      intro empty
      have none : mapped.capabilities.length = 0 := by simpa using congrArg List.length empty
      rw [mapped.covers] at none
      exact absurd none (Nat.ne_of_gt mapped.group.size_pos)
    obtain ⟨level, listed⟩ := List.exists_mem_of_ne_nil _ some
    have below := among level listed
    rw [least] at below ⊢
    rwa [Std.le_antisymm below (FormatSupport.unsupportedType_le level)] at listed
  · exact listed

theorem supports_of_query {renderer : Renderer} {group : TrackGroup} {mapped : MappedGroup}
    (asked : query renderer group = .ok mapped) : renderer.Supports group mapped.support := by
  obtain ⟨rfl, answered⟩ := query_eq_ok_iff.mp asked
  obtain ⟨mem, highest⟩ := mapped.support_mem
  constructor
  · obtain ⟨answer, listed, level⟩ := List.mem_map.mp mem
    obtain ⟨format, asked, said⟩ := exists_item_mem_of_map_eq_ok answered listed
    exact ⟨format, asked, answer, said, level⟩
  · intro format asked
    obtain ⟨answer, listed, said⟩ := exists_result_mem_of_map_eq_ok answered asked
    exact ⟨answer, said, highest _ (List.mem_map_of_mem listed)⟩

end MappedGroup

/-! ## The rule -/

/-- A number is the lowest one with a property. -/
def IsFirst (p : Nat → Prop) (i : Nat) : Prop :=
  p i ∧ ∀ j < i, ¬ p j

/-- The renderer at a position supports a group as well as any renderer does. -/
def BestFor (renderers : List Renderer) (group : TrackGroup) (i : Nat) : Prop :=
  ∃ renderer level, renderers[i]? = some renderer ∧ renderer.Supports group level ∧
    ∀ other ∈ renderers, ∃ lower, other.Supports group lower ∧ lower ≤ level

/-- Where a group belongs, given the places of the groups before it. -/
structure Placement.Follows (renderers : List Renderer) (earlier : List (Option Nat))
    (group : TrackGroup) (place : Option Nat) : Prop where
  unmapped_iff : place = none ↔
    ∀ renderer ∈ renderers, renderer.Supports group .unsupportedType
  ordinary : ∀ i, place = some i → group.trackType ≠ .metadata →
    IsFirst (BestFor renderers group) i
  metadata_unused : ∀ i, place = some i → group.trackType = .metadata →
    (∃ k, BestFor renderers group k ∧ some k ∉ earlier) →
      IsFirst (fun k => BestFor renderers group k ∧ some k ∉ earlier) i
  metadata_used : ∀ i, place = some i → group.trackType = .metadata →
    (∀ k, BestFor renderers group k → some k ∈ earlier) → IsFirst (BestFor renderers group) i

/-! ## The heaviest offer -/

namespace Offer

variable {metadata : Bool} {offers : List Offer} {best : Offer}

/-- What the search compares: the level of support, and below that whether the renderer of a
metadata group has no group yet. -/
def weight (metadata : Bool) (offer : Offer) : Nat :=
  2 * offer.mapped.support.rank + if metadata && offer.unused then 1 else 0

theorem isBetter_eq (metadata : Bool) :
    isBetter metadata = fun a b => decide (b.weight metadata < a.weight metadata) := by
  funext a b
  have lt_iff : b.mapped.support < a.mapped.support ↔
      b.mapped.support.rank < a.mapped.support.rank := Iff.rfl
  have eq_iff : a.mapped.support = b.mapped.support ↔
      a.mapped.support.rank = b.mapped.support.rank :=
    ⟨congrArg FormatSupport.rank, FormatSupport.rank_injective⟩
  rw [Bool.eq_iff_iff]
  simp only [isBetter, weight, lt_iff, eq_iff, Bool.or_eq_true, Bool.and_eq_true,
    decide_eq_true_eq, Bool.not_eq_true']
  cases metadata <;> cases a.unused <;> cases b.unused <;> simp <;> omega

theorem choose?_eq_none_iff :
    choose? metadata offers = none ↔ ∀ offer ∈ offers, offer.mapped.support = .unsupportedType := by
  rw [choose?, best?_eq_none_iff, List.filter_eq_nil_iff]
  simp

/-- The offer that gets the group is the first of the heaviest. -/
theorem weight_le_of_choose?
    (ascending : offers.Pairwise fun earlier later => earlier.renderer < later.renderer)
    (chosen : choose? metadata offers = some best) {offer : Offer} (mem : offer ∈ offers) :
    offer.weight metadata ≤ best.weight metadata ∧
      (offer.renderer < best.renderer → offer.weight metadata < best.weight metadata) := by
  rw [choose?, isBetter_eq] at chosen
  by_cases supported : offer.mapped.support = .unsupportedType
  · -- such an offer is left out of the search, and lighter than any that is not
    obtain ⟨_, wanted⟩ := List.mem_filter.mp (mem_of_best?_eq_some chosen)
    have positive : best.mapped.support.rank ≠ 0 := by
      simpa [FormatSupport.rank_eq_zero_iff] using wanted
    have lighter : offer.weight metadata < best.weight metadata := by
      rw [weight, weight, supported, FormatSupport.rank]
      split <;> omega
    exact ⟨Nat.le_of_lt lighter, fun _ => lighter⟩
  · have listed : offer ∈ offers.filter fun offer => offer.mapped.support ≠ .unsupportedType :=
      List.mem_filter.mpr ⟨mem, by simpa using supported⟩
    have sorted := ascending.filter fun offer => decide (offer.mapped.support ≠ .unsupportedType)
    obtain ⟨front, back, same, beaten, unbeaten⟩ :=
      exists_split_of_best?_eq_some (weakOrder_of_number (weight metadata)) chosen
    rw [same] at listed sorted
    rcases List.mem_append.mp listed with before | after
    · have lighter : offer.weight metadata < best.weight metadata := by
        simpa using beaten offer before
      exact ⟨Nat.le_of_lt lighter, fun _ => lighter⟩
    · rcases List.mem_cons.mp after with rfl | after
      · exact ⟨Nat.le_refl _, fun lower => absurd lower (Nat.lt_irrefl _)⟩
      · have later : best.renderer < offer.renderer :=
          (List.pairwise_cons.mp (List.pairwise_append.mp sorted).2.1).1 offer after
        refine ⟨by simpa using unbeaten offer after, fun lower => ?_⟩
        exact absurd lower (Nat.lt_asymm later)

theorem pairwise_all (used : List Nat) (answers : List MappedGroup) :
    (all used answers).Pairwise fun earlier later => earlier.renderer < later.renderer := by
  exact List.pairwise_map.mpr (pairwise_zipIdx answers)

theorem weight_of_mem_all {used : List Nat} {answers : List MappedGroup} {offer : Offer}
    (mem : offer ∈ all used answers) :
    offer.weight metadata =
      2 * offer.mapped.support.rank + if metadata = true ∧ offer.renderer ∉ used then 1 else 0 := by
  rw [weight, (mem_all.mp mem).2]
  simp

end Offer

/-! ## One group -/

section Asked

variable {renderers : List Renderer} {group : TrackGroup} {answers : List MappedGroup}
variable {used : List Nat} {best : Offer} {k : Nat}

/-- The best renderers for a group are those with the best offers. -/
theorem bestFor_iff (used : List Nat) (asked : Answered renderers group answers) :
    BestFor renderers group k ↔
      ∃ offer ∈ Offer.all used answers, offer.renderer = k ∧
        ∀ other ∈ Offer.all used answers, other.mapped.support ≤ offer.mapped.support := by
  constructor
  · rintro ⟨renderer, level, listed, supports, highest⟩
    obtain ⟨mapped, here, answer⟩ := exists_result_of_map_eq_ok asked listed
    obtain rfl := supports.unique (MappedGroup.supports_of_query answer)
    refine ⟨⟨k, !used.contains k, mapped⟩, Offer.mem_all.mpr ⟨here, rfl⟩, rfl, ?_⟩
    intro other mem
    obtain ⟨second, alsoListed, answered⟩ :=
      exists_item_of_map_eq_ok asked (Offer.mem_all.mp mem).1
    obtain ⟨lower, supportsToo, below⟩ := highest second (List.mem_of_getElem? alsoListed)
    rwa [supportsToo.unique (MappedGroup.supports_of_query answered)] at below
  · rintro ⟨offer, mem, rfl, highest⟩
    obtain ⟨renderer, listed, answer⟩ := exists_item_of_map_eq_ok asked (Offer.mem_all.mp mem).1
    refine ⟨renderer, offer.mapped.support, listed, MappedGroup.supports_of_query answer, ?_⟩
    intro second alsoListed
    obtain ⟨j, there⟩ := List.getElem?_of_mem alsoListed
    obtain ⟨other, here, answered⟩ := exists_result_of_map_eq_ok asked there
    exact ⟨other.support, MappedGroup.supports_of_query answered,
      highest ⟨j, !used.contains j, other⟩ (Offer.mem_all.mpr ⟨here, rfl⟩)⟩

theorem unsupported_iff (used : List Nat) (asked : Answered renderers group answers) :
    (∀ renderer ∈ renderers, renderer.Supports group .unsupportedType) ↔
      ∀ offer ∈ Offer.all used answers, offer.mapped.support = .unsupportedType := by
  constructor
  · intro unsupported offer mem
    obtain ⟨renderer, listed, answer⟩ := exists_item_of_map_eq_ok asked (Offer.mem_all.mp mem).1
    exact (MappedGroup.supports_of_query answer).unique
      (unsupported renderer (List.mem_of_getElem? listed))
  · intro unsupported renderer listed
    obtain ⟨j, there⟩ := List.getElem?_of_mem listed
    obtain ⟨mapped, here, answer⟩ := exists_result_of_map_eq_ok asked there
    have none := unsupported ⟨j, !used.contains j, mapped⟩ (Offer.mem_all.mpr ⟨here, rfl⟩)
    exact none ▸ MappedGroup.supports_of_query answer

theorem mem_all_of_choose? {metadata : Bool}
    (chosen : Offer.choose? metadata (Offer.all used answers) = some best) :
    best ∈ Offer.all used answers :=
  (List.mem_filter.mp (mem_of_best?_eq_some chosen)).1

theorem bestFor_of_choose? {metadata : Bool} (asked : Answered renderers group answers)
    (chosen : Offer.choose? metadata (Offer.all used answers) = some best) :
    BestFor renderers group best.renderer := by
  refine (bestFor_iff used asked).mpr ⟨best, mem_all_of_choose? chosen, rfl, ?_⟩
  intro other mem
  have lighter := (Offer.weight_le_of_choose? (Offer.pairwise_all used answers) chosen mem).1
  rw [Offer.weight, Offer.weight] at lighter
  show other.mapped.support.rank ≤ best.mapped.support.rank
  split at lighter <;> split at lighter <;> omega

/-- A best renderer before the one that gets the group has lost a tie: it was used, and the other
was not. Such a tie is never lost by a renderer that was not used. -/
theorem tie_of_choose? {metadata : Bool} (asked : Answered renderers group answers)
    (chosen : Offer.choose? metadata (Offer.all used answers) = some best)
    (equal : BestFor renderers group k) :
    (k < best.renderer → metadata = true ∧ best.renderer ∉ used ∧ k ∈ used) ∧
      (metadata = true → k ∉ used → best.renderer ∉ used) := by
  obtain ⟨offer, mem, rfl, highest⟩ := (bestFor_iff used asked).mp equal
  have bestMem := mem_all_of_choose? chosen
  have level : best.mapped.support.rank ≤ offer.mapped.support.rank := highest best bestMem
  obtain ⟨atMost, less⟩ :=
    Offer.weight_le_of_choose? (Offer.pairwise_all used answers) chosen mem
  rw [Offer.weight_of_mem_all mem, Offer.weight_of_mem_all bestMem] at atMost less
  grind

theorem follows_of_choose? {earlier : List (Option Nat)} (asked : Answered renderers group answers)
    (history : ∀ k, k ∈ used ↔ some k ∈ earlier)
    (chosen : Offer.choose? (group.trackType = .metadata) (Offer.all used answers) = some best) :
    Placement.Follows renderers earlier group (some best.renderer) := by
  have bestIsBest := bestFor_of_choose? asked chosen
  have tie {k : Nat} (equal : BestFor renderers group k) := tie_of_choose? asked chosen equal
  simp only [decide_eq_true_eq, history] at tie
  constructor
  · rw [unsupported_iff used asked, ← Offer.choose?_eq_none_iff, chosen]
    simp
  · rintro _ ⟨⟩ ordinary
    refine ⟨bestIsBest, ?_⟩
    intro k before equal
    exact ordinary ((tie equal).1 before).1
  · rintro _ ⟨⟩ metadata ⟨k, equal, unused⟩
    refine ⟨⟨bestIsBest, (tie equal).2 metadata unused⟩, ?_⟩
    rintro k before ⟨equal, unused⟩
    exact unused ((tie equal).1 before).2.2
  · rintro _ ⟨⟩ metadata allUsed
    refine ⟨bestIsBest, ?_⟩
    intro k before equal
    exact ((tie equal).1 before).2.1 (allUsed _ bestIsBest)

/-- One step: a group is placed by the rule when `used` holds the renderers of the places before. -/
theorem follows_ofEntry {entry : TrackGroup × List MappedGroup} {earlier : List (Option Nat)}
    (asked : Answered renderers entry.1 entry.2) (history : ∀ k, k ∈ used ↔ some k ∈ earlier) :
    Placement.Follows renderers earlier entry.1 (Placement.ofEntry used entry).renderer? := by
  unfold Placement.ofEntry
  split
  · rename_i none
    have unsupported := (unsupported_iff used asked).mpr (Offer.choose?_eq_none_iff.mp none)
    exact ⟨⟨fun _ => unsupported, fun _ => rfl⟩, by simp, by simp, by simp⟩
  · rename_i best chosen
    exact follows_of_choose? asked history chosen

end Asked

/-! ## All groups -/

theorem Placement.mem_used_iff {placements : List Placement} {k : Nat} :
    k ∈ (placements.filterMap renderer?).reverse ++ [] ↔ some k ∈ placements.map renderer? := by
  simp

/-- The run: every group is placed by the rule. -/
theorem Placement.follows_ofAnswers {renderers : List Renderer}
    {answered : List (TrackGroup × List MappedGroup)} (asked : Asked renderers answered) {j : Nat}
    {group : TrackGroup} {place : Option Nat} (here : (answered.map Prod.fst)[j]? = some group)
    (placed : ((ofAnswers [] answered).map renderer?)[j]? = some place) :
    Follows renderers (((ofAnswers [] answered).map renderer?).take j) group place := by
  rw [List.getElem?_map, Option.map_eq_some_iff] at here
  obtain ⟨entry, listed, rfl⟩ := here
  rw [List.getElem?_map, getElem?_ofAnswers, listed, Option.map_some, Option.map_some,
    Option.some.injEq] at placed
  subst placed
  refine follows_ofEntry (asked entry (List.mem_of_getElem? listed)) ?_
  intro k
  rw [mem_used_iff, List.map_take]

namespace Mapping

variable {renderers : List Renderer} {groups : List TrackGroup} {mapping : Mapping}

/-- A group without a place is one whose type no renderer supports. Any other goes to the first of
the renderers that support it best; a metadata group to the first of these without an earlier group,
unless all of them have one. -/
theorem follows_of_assign (assigned : assign renderers groups = .ok mapping) :
    ∃ places, mapping.Splits groups places ∧
      ∀ (j : Nat) (group : TrackGroup) (place : Option Nat),
        groups[j]? = some group → places[j]? = some place →
          Placement.Follows renderers (places.take j) group place := by
  obtain ⟨mixed, answered, mixedFound, rfl, asked, rfl⟩ := exists_of_assign_eq_ok assigned
  refine ⟨_, splits_ofAnswers asked mixedFound, ?_⟩
  intro j group place here placed
  exact Placement.follows_ofAnswers asked here placed

namespace Sample

def readers : List Renderer :=
  [playing .metadata "application/id3", playing .metadata "application/id3"]

def tag (id : GroupId) : TrackGroup :=
  single id "application/id3"

end Sample

/-- The second group avoids the first renderer, and the third has nowhere else to go. -/
theorem follows_of_assign_tags :
    ∃ mapping,
      assign Sample.readers [Sample.tag ⟨0⟩, Sample.tag ⟨1⟩, Sample.tag ⟨2⟩] = .ok mapping ∧
      mapping.renderers.map MappedRenderer.trackGroups =
        [[Sample.tag ⟨0⟩, Sample.tag ⟨2⟩], [Sample.tag ⟨1⟩]] ∧
      ∃ places,
        mapping.Splits [Sample.tag ⟨0⟩, Sample.tag ⟨1⟩, Sample.tag ⟨2⟩] places ∧
        ∀ place, places[1]? = some place →
          Placement.Follows Sample.readers (places.take 1) (Sample.tag ⟨1⟩) place := by
  obtain ⟨places, splits, follows⟩ := @follows_of_assign Sample.readers
    [Sample.tag ⟨0⟩, Sample.tag ⟨1⟩, Sample.tag ⟨2⟩] _ rfl
  exact ⟨_, rfl, by decide, places, splits, fun place => follows 1 _ place rfl⟩

end Mapping

end TrackSelection
