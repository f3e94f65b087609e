import TrackSelection.Choice.AudioScore
import TrackSelection.Proofs.BestOf

/-!
# The order of audio scores by rank

All comparisons between audio scores but the last one compare a list of numbers, the rank, from the
front. The signs of the later numbers depend on whether the track is handled and within the limits,
which earlier numbers have settled by then. The last comparison is between bitrates and is made only
for tracks of the same language. So one score is better than another if its rank is higher, or if
ranks and languages are equal and its bitrate is better. This is a strict order, but scores of which
neither is better do not fall into classes: tracks of two languages with the same rank tie whatever
their bitrates are.
-/

namespace TrackSelection

/-! ## Comparisons of integers -/

theorem compare_natCast (m n : Nat) : compare (m : Int) (n : Int) = compare m n := by
  simp only [compare, compareOfLessAndEq, Int.ofNat_lt, Int.ofNat_inj]

theorem compare_neg (x y : Int) : compare (-x) (-y) = compare y x := by
  simp only [compare, compareOfLessAndEq]
  grind

theorem compare_toInt (p q : Bool) : compare p.toInt q.toInt = compare p q := by
  cases p <;> cases q <;> rfl

theorem toInt_inj {p q : Bool} : p.toInt = q.toInt ↔ p = q := by
  cases p <;> cases q <;> decide

/-- A number as an integer, with unknown as the lowest. -/
def knownCount : Option Nat → Int
  | none => 0
  | some count => count + 1

/-- Values that are compared like their numbers are so too when they may be unknown. -/
theorem compareKnown_eq_of_number [Ord α] {number : α → Nat}
    (alike : ∀ x y, compare x y = compare (number x) (number y)) (a b : Option α) :
    compareKnown a b = compare (knownCount (a.map number)) (knownCount (b.map number)) := by
  cases a with
  | none =>
      cases b with
      | none => rfl
      | some value =>
          exact (Int.compare_eq_lt.mpr (by simp only [Option.map, knownCount]; omega)).symm
  | some value =>
      cases b with
      | none =>
          exact (Int.compare_eq_gt.mpr (by simp only [Option.map, knownCount]; omega)).symm
      | some other =>
          simp only [compareKnown, alike, Option.map_some, knownCount, compare, compareOfLessAndEq]
          grind

def knownValue : Option UInt32 → Int
  | none => 0
  | some value => value.toNat + 1

theorem knownValue_eq (value : Option UInt32) :
    knownValue value = knownCount (value.map UInt32.toNat) := by
  cases value <;> rfl

theorem compareKnown_eq_compare (a b : Option UInt32) :
    compareKnown a b = compare (knownValue a) (knownValue b) := by
  rw [knownValue_eq, knownValue_eq]
  refine compareKnown_eq_of_number (fun x y => ?_) a b
  simp only [compare, compareOfLessAndEq, UInt32.lt_iff_toNat_lt, ← UInt32.toNat_inj]

/-- Comparisons after a first one need to agree only where the first one does not decide. -/
theorem then_congr_of_eq {first second other : Ordering} (h : first = .eq → second = other) :
    first.then second = first.then other := by
  cases first with
  | lt => rfl
  | gt => rfl
  | eq => exact h rfl

namespace AudioScore

/-! ## The rank -/

/-- A quality as an integer: more is better for a track that is handled and within the limits, and
worse for any other. -/
def weigh (score : AudioScore) (value : Option UInt32) : Int :=
  if score.withinLimits && score.withinCapabilities then knownValue value else -knownValue value

/-- What scores are compared by before it comes to bitrates within a language. -/
def rank (score : AudioScore) : List Int :=
  [score.withinCapabilities.toInt,
    score.languageScore,
    score.withinLimits.toInt,
    if score.forceLowestBitrate then -knownValue score.bitrate else 0,
    score.isDefault.toInt,
    score.localeIndex.isSome.toInt,
    -(score.localeIndex.getD 0 : Int),
    score.localeScore,
    score.weigh score.channelCount,
    score.weigh score.sampleRate]

/-- The better bitrate, for scores that are equal otherwise. -/
def bitrateWeight (score : AudioScore) : Int :=
  score.weigh score.bitrate

variable {a b c : AudioScore}

theorem localeOrder_eq (i j : Option Nat) :
    localeOrder i j = (compare i.isSome.toInt j.isSome.toInt).then
      (compare (-(i.getD 0 : Int)) (-(j.getD 0 : Int))) := by
  cases i with
  | none => cases j <;> rfl
  | some i =>
      cases j with
      | none => rfl
      | some j =>
          rw [compare_neg]
          exact (compare_natCast j i).symm

/-- Qualities of two tracks are compared by weight, if both are handled and within the limits or
neither is. -/
theorem towards_compareKnown (capabilities : a.withinCapabilities = b.withinCapabilities)
    (limits : a.withinLimits = b.withinLimits) (x y : Option UInt32) :
    a.towards (compareKnown x y) = compare (a.weigh x) (b.weigh y) := by
  unfold towards weigh
  rw [← capabilities, ← limits, compareKnown_eq_compare]
  split
  · rfl
  · rw [compare_neg]
    exact Std.OrientedOrd.eq_swap.symm

/-- The order of scores compares ranks, and then bitrates within a language. -/
theorem order_eq (forced : a.forceLowestBitrate = b.forceLowestBitrate) :
    a.order b = (compare a.rank b.rank).then
      (if a.language = b.language then compare a.bitrateWeight b.bitrateWeight else .eq) := by
  have bitrates : (if a.forceLowestBitrate then compareKnown b.bitrate a.bitrate else .eq) =
      compare (if a.forceLowestBitrate then -knownValue a.bitrate else 0)
        (if b.forceLowestBitrate then -knownValue b.bitrate else 0) := by
    rw [← forced, compareKnown_eq_compare]
    split
    · exact (compare_neg _ _).symm
    · rfl
  simp only [order, rank, List.compare_cons_cons, Ordering.then_assoc, compare_toInt,
    compare_natCast, ← bitrates, localeOrder_eq]
  -- the weights have the same sign once both flags are known to be equal
  refine then_congr_of_eq fun sameCapabilities => then_congr_of_eq fun _ =>
    then_congr_of_eq fun sameLimits => ?_
  have capabilities := Std.LawfulEqOrd.eq_of_compare sameCapabilities
  have limits := Std.LawfulEqOrd.eq_of_compare sameLimits
  simp only [towards_compareKnown capabilities limits]
  rfl

/-! ## Better scores -/

/-- A score is better if its rank is higher, or if its bitrate is better within one rank and
language. -/
theorem order_eq_gt_iff (forced : a.forceLowestBitrate = b.forceLowestBitrate) :
    a.order b = .gt ↔
      compare a.rank b.rank = .gt ∨
        a.rank = b.rank ∧ a.language = b.language ∧ b.bitrateWeight < a.bitrateWeight := by
  rw [order_eq forced, Ordering.then_eq_gt, Std.LawfulEqOrd.compare_eq_iff_eq]
  refine or_congr_right (and_congr_right fun _ => ?_)
  split
  · rename_i same
    rw [Int.compare_eq_gt]
    exact ⟨fun better => ⟨same, better⟩, And.right⟩
  · rename_i different
    exact iff_of_false (by simp) fun better => different better.1

theorem order_self_ne_gt (a : AudioScore) : a.order a ≠ .gt := by
  intro better
  rcases (order_eq_gt_iff rfl).mp better with higher | ⟨_, _, more⟩
  · rw [Std.ReflOrd.compare_self] at higher
    cases higher
  · exact Int.lt_irrefl _ more

theorem order_gt_trans (forced : a.forceLowestBitrate = b.forceLowestBitrate)
    (forced' : b.forceLowestBitrate = c.forceLowestBitrate) (first : a.order b = .gt)
    (second : b.order c = .gt) : a.order c = .gt := by
  rw [order_eq_gt_iff forced] at first
  rw [order_eq_gt_iff forced'] at second
  rw [order_eq_gt_iff (forced.trans forced')]
  rcases first with first | ⟨sameRank, sameLanguage, more⟩
  · left
    rcases second with second | ⟨sameRank', _, _⟩
    · exact Std.TransCmp.gt_trans first second
    · rw [← sameRank']
      exact first
  · rw [sameRank, sameLanguage]
    rcases second with second | ⟨sameRank', sameLanguage', more'⟩
    · exact .inl second
    · exact .inr ⟨sameRank', sameLanguage', Int.lt_trans more' more⟩

/-- Nothing has a better score than the best, among things whose scores were made alike. -/
theorem order_ne_gt_of_best? {α : Type} {items : List α} {best : α} (score : α → AudioScore)
    {force : Bool} (alike : ∀ item ∈ items, (score item).forceLowestBitrate = force)
    (found : best? (fun x y => (score x).order (score y) = .gt) items = some best) :
    ∀ item ∈ items, (score item).order (score best) ≠ .gt := by
  have strict : StrictOn (fun x y => (score x).order (score y) = .gt) items := by
    refine ⟨fun x _ => decide_eq_false (order_self_ne_gt (score x)), ?_⟩
    intro x hx y hy z hz first second
    rw [decide_eq_true_eq] at first second ⊢
    have forced := (alike x hx).trans (alike y hy).symm
    exact order_gt_trans forced ((alike y hy).trans (alike z hz).symm) first second
  intro item mem
  exact of_decide_eq_false (not_better_of_best?_eq_some strict found item mem)

theorem compare_rank_isLE (forced : a.forceLowestBitrate = b.forceLowestBitrate)
    (unbeaten : a.order b ≠ .gt) : (compare a.rank b.rank).isLE := by
  rw [Ordering.isLE_iff_ne_gt]
  intro higher
  exact unbeaten ((order_eq_gt_iff forced).mpr (.inl higher))

/-- A score that does not beat the best of some scores, which in turn does not beat a winner, beats
the winner only if the best is of another language than the two. -/
theorem order_eq_gt_iff_of_between {track best winner : AudioScore}
    (forced : track.forceLowestBitrate = best.forceLowestBitrate)
    (forced' : best.forceLowestBitrate = winner.forceLowestBitrate)
    (belowBest : track.order best ≠ .gt) (belowWinner : best.order winner ≠ .gt) :
    track.order winner = .gt ↔
      best.language ≠ winner.language ∧ track.rank = winner.rank ∧
        track.language = winner.language ∧ winner.bitrateWeight < track.bitrateWeight := by
  have lower := compare_rank_isLE forced belowBest
  have upper := compare_rank_isLE forced' belowWinner
  rw [order_eq_gt_iff (forced.trans forced')]
  constructor
  · rintro (higher | ⟨sameRank, sameLanguage, more⟩)
    · have notHigher := Std.TransCmp.isLE_trans lower upper
      rw [higher] at notHigher
      cases notHigher
    · refine ⟨fun bestLanguage => ?_, sameRank, sameLanguage, more⟩
      -- the best has the rank and the language of both, so its bitrate is between theirs
      rw [sameRank] at lower
      have bestRank : winner.rank = best.rank :=
        Std.LawfulEqOrd.eq_of_compare (Std.OrientedCmp.isLE_antisymm lower upper)
      have atMostBest : ¬ best.bitrateWeight < track.bitrateWeight := fun better =>
        belowBest ((order_eq_gt_iff forced).mpr
          (.inr ⟨sameRank.trans bestRank, sameLanguage.trans bestLanguage.symm, better⟩))
      have atMostWinner : ¬ winner.bitrateWeight < best.bitrateWeight := fun better =>
        belowWinner ((order_eq_gt_iff forced').mpr (.inr ⟨bestRank.symm, bestLanguage, better⟩))
      omega
  · rintro ⟨_, sameRank, sameLanguage, more⟩
    exact .inr ⟨sameRank, sameLanguage, more⟩

end AudioScore

end TrackSelection
