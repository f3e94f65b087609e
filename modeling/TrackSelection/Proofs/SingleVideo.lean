import TrackSelection.Proofs.AudioRank
import TrackSelection.Proofs.Tracks

/-!
# The single video track that is selected

Single tracks are compared by their rank, a list of numbers compared from the front: handled tracks
first, then those within the constraints, then lower bitrates if these are asked for, then size and
bitrate. Size and bitrate count upwards for a track that is handled and within the constraints, and
downwards for any other; between two tracks they are consulted only when the two agree on that, so
the direction is the same for both. The search keeps a track until a later one has a higher rank.
What is selected is therefore the first of the eligible tracks with the highest rank, in the order
of groups and of tracks in a group, and nothing is selected only if no track is eligible.
-/

namespace TrackSelection

/-! ## Candidates in their order -/

namespace Candidate

/-- Where a track stands: its group, and the track in the group. -/
def position (candidate : Candidate) : List Nat :=
  [candidate.groupIndex, candidate.track]

theorem position_lt_iff {a b : Candidate} :
    a.position < b.position ↔
      a.groupIndex < b.groupIndex ∨ a.groupIndex = b.groupIndex ∧ a.track < b.track := by
  simp [position, List.cons_lt_cons_iff]

/-- A track is known by its position. -/
theorem eq_of_position_eq {groups : List MappedGroup} {a b : Candidate} (mem : a ∈ all groups)
    (memToo : b ∈ all groups) (same : a.position = b.position) : a = b := by
  obtain ⟨group, track⟩ := mem_all.mp mem
  obtain ⟨groupToo, trackToo⟩ := mem_all.mp memToo
  obtain ⟨i, mapped, t, format, capabilities⟩ := a
  obtain ⟨j, mappedToo, s, formatToo, capabilitiesToo⟩ := b
  simp only [position, List.cons.injEq, and_true] at same
  obtain ⟨rfl, rfl⟩ := same
  obtain rfl := Option.some.inj (group.symm.trans groupToo)
  obtain ⟨rfl, rfl⟩ := Prod.mk.inj (Option.some.inj (track.symm.trans trackToo))
  rfl

theorem pairwise_position_all (groups : List MappedGroup) :
    (all groups).Pairwise fun a b => a.position < b.position := by
  rw [all, List.pairwise_flatMap]
  constructor
  · -- in one group by track
    rintro ⟨mapped, i⟩ _
    refine List.pairwise_map.mpr ((pairwise_zipIdx mapped.tracks).imp ?_)
    rintro ⟨_, t⟩ ⟨_, s⟩ before
    exact position_lt_iff.mpr (.inr ⟨rfl, before⟩)
  · refine (pairwise_zipIdx groups).imp ?_
    rintro ⟨first, i⟩ ⟨second, j⟩ before a memFirst b memSecond
    obtain ⟨_, _, rfl⟩ := List.mem_map.mp memFirst
    obtain ⟨_, _, rfl⟩ := List.mem_map.mp memSecond
    exact position_lt_iff.mpr (.inl before)

end Candidate

namespace VideoTrack

/-! ## The rank of a track -/

/-- Whether a track is handled and within the constraints. -/
def fits (parameters : Parameters) (candidate : Candidate) : Bool :=
  candidate.capabilities.isHandled && isWithinConstraints parameters.video candidate

/-- A quality that counts upwards for a track that fits, and downwards for any other. -/
def weigh (fits : Bool) (quality : Int) : Int :=
  if fits then quality else -quality

/-- What decides between tracks of which both are handled or neither is, and both are within the
constraints or neither is. -/
def quality (force fits : Bool) (format : Format) : List Int :=
  [if force then -knownValue format.bitrate else 0,
    weigh fits (knownCount format.pixelCount),
    weigh fits (knownValue format.bitrate)]

def rank (parameters : Parameters) (candidate : Candidate) : List Int :=
  candidate.capabilities.isHandled.toInt ::
    (isWithinConstraints parameters.video candidate).toInt ::
      quality parameters.playback.forceLowestBitrate (fits parameters candidate) candidate.format

variable {parameters : Parameters} {a b : Candidate}

/-- Scores agree if both flags do, and are compared by the first flag that differs. -/
theorem score_lt_iff :
    score parameters.video b < score parameters.video a ↔
      b.capabilities.isHandled.toInt < a.capabilities.isHandled.toInt ∨
        b.capabilities.isHandled = a.capabilities.isHandled ∧
          (isWithinConstraints parameters.video b).toInt <
            (isWithinConstraints parameters.video a).toInt := by
  unfold score
  cases a.capabilities.isHandled <;> cases b.capabilities.isHandled <;>
    cases isWithinConstraints parameters.video a <;>
    cases isWithinConstraints parameters.video b <;> decide

theorem score_eq_iff :
    score parameters.video a = score parameters.video b ↔
      a.capabilities.isHandled = b.capabilities.isHandled ∧
        isWithinConstraints parameters.video a = isWithinConstraints parameters.video b := by
  unfold score
  cases a.capabilities.isHandled <;> cases b.capabilities.isHandled <;>
    cases isWithinConstraints parameters.video a <;>
    cases isWithinConstraints parameters.video b <;> decide

theorem compareKnown_pixels (x y : Option Nat) :
    compareKnown x y = compare (knownCount x) (knownCount y) := by
  have alike : ∀ m n : Nat, compare m n = compare (id m) (id n) := fun _ _ => rfl
  simpa using compareKnown_eq_of_number alike x y

theorem knownCount_inj {x y : Option Nat} : knownCount x = knownCount y ↔ x = y := by
  cases x <;> cases y <;> grind [knownCount]

theorem weigh_lt_iff {fits : Bool} {x y : Int} :
    weigh fits y < weigh fits x ↔ compare x y = if fits then .gt else .lt := by
  cases fits with
  | true => exact Int.compare_eq_gt.symm
  | false =>
      rw [if_neg Bool.false_ne_true, Int.compare_eq_lt]
      exact Int.neg_lt_neg_iff

theorem weigh_inj {fits : Bool} {x y : Int} : weigh fits x = weigh fits y ↔ x = y := by
  cases fits with
  | true => exact Iff.rfl
  | false => exact Int.neg_inj

/-- Of tracks that agree on both flags, the better one is the one of higher quality. -/
theorem quality_lt_iff {force fits : Bool} {x y : Format} :
    quality force fits y < quality force fits x ↔
      if force ∧ compareKnown x.bitrate y.bitrate ≠ .eq then
        compareKnown x.bitrate y.bitrate = .lt
      else
        (if x.pixelCount ≠ y.pixelCount then compareKnown x.pixelCount y.pixelCount
          else compareKnown x.bitrate y.bitrate) = if fits then .gt else .lt := by
  rw [compareKnown_eq_compare, compareKnown_pixels, quality, quality, List.cons_lt_cons_iff]
  by_cases forced : force = true ∧ compare (knownValue x.bitrate) (knownValue y.bitrate) ≠ .eq
  · -- bitrates differ and decide
    rw [if_pos forced, forced.1, if_pos rfl, if_pos rfl, Int.compare_eq_lt]
    have differ := mt Int.compare_eq_eq.mpr forced.2
    omega
  · rw [if_neg forced]
    have same : (if force then -knownValue y.bitrate else 0) =
        if force then -knownValue x.bitrate else 0 := by
      cases force with
      | false => rfl
      | true =>
          have equal : compare (knownValue x.bitrate) (knownValue y.bitrate) = .eq := by
            simpa using forced
          rw [Int.compare_eq_eq.mp equal]
    rw [same]
    simp only [Int.lt_irrefl, true_and, false_or, List.cons_lt_cons_iff, List.not_lt_nil, and_false,
      or_false]
    by_cases pixels : x.pixelCount = y.pixelCount
    · rw [if_neg (not_not_intro pixels), pixels, ← weigh_lt_iff]
      simp
    · have differ : weigh fits (knownCount y.pixelCount) ≠ weigh fits (knownCount x.pixelCount) :=
        fun equal => pixels (knownCount_inj.mp (weigh_inj.mp equal)).symm
      rw [if_pos pixels, ← weigh_lt_iff]
      simp [differ]

/-- A track is preferred to an earlier one exactly if its rank is higher. -/
theorem isBetter_iff_rank_lt :
    isBetter parameters a b = true ↔ rank parameters b < rank parameters a := by
  rw [rank, rank, List.cons_lt_cons_iff, List.cons_lt_cons_iff, toInt_inj, toInt_inj]
  by_cases same : score parameters.video a = score parameters.video b
  · obtain ⟨handled, within⟩ := score_eq_iff.mp same
    have fitsToo : fits parameters b = fits parameters a := by rw [fits, fits, handled, within]
    rw [handled, within, fitsToo, quality_lt_iff]
    simp only [isBetter, same, ne_eq, not_true_eq_false, if_false, Int.lt_irrefl, true_and,
      false_or]
    by_cases forced : parameters.playback.forceLowestBitrate = true ∧
        ¬ compareKnown a.format.bitrate b.format.bitrate = .eq
    · rw [if_pos forced, if_pos forced, decide_eq_true_eq]
    · rw [if_neg forced, if_neg forced, decide_eq_true_eq, fits]
  · have decided : isBetter parameters a b =
        decide (score parameters.video b < score parameters.video a) := if_pos same
    rw [decided, decide_eq_true_eq, score_lt_iff]
    refine or_congr_right (and_congr_right fun handled => ?_)
    rw [or_iff_left]
    rintro ⟨within, _⟩
    exact same (score_eq_iff.mpr ⟨handled.symm, within.symm⟩)

/-- A track is eligible, no eligible track has a higher rank, and none of the same rank stands
before it. -/
structure IsFirstBest (parameters : Parameters) (groups : List MappedGroup) (best : Candidate) :
    Prop where
  mem : best ∈ Candidate.all groups
  eligible : isEligible parameters best = true
  highest : ∀ other ∈ Candidate.all groups, isEligible parameters other = true →
    ¬ rank parameters best < rank parameters other
  first : ∀ other ∈ Candidate.all groups, isEligible parameters other = true →
    rank parameters other = rank parameters best → ¬ other.position < best.position

variable {groups : List MappedGroup} {best : Candidate}

theorem IsFirstBest.unique (isBest : IsFirstBest parameters groups a)
    (alike : IsFirstBest parameters groups b) : a = b := by
  have rankToo : rank parameters a = rank parameters b :=
    List.le_antisymm (List.not_lt.mp (alike.highest a isBest.mem isBest.eligible))
      (List.not_lt.mp (isBest.highest b alike.mem alike.eligible))
  have notBefore := alike.first a isBest.mem isBest.eligible rankToo
  have notAfter := isBest.first b alike.mem alike.eligible rankToo.symm
  refine Candidate.eq_of_position_eq isBest.mem alike.mem ?_
  exact List.le_antisymm (List.not_lt.mp notAfter) (List.not_lt.mp notBefore)

theorem isFirstBest_of_best? (found : best? (isBetter parameters)
    ((Candidate.all groups).filter (isEligible parameters)) = some best) :
    IsFirstBest parameters groups best := by
  obtain ⟨mem, eligible⟩ := List.mem_filter.mp (mem_of_best?_eq_some found)
  have irrefl (candidate : Candidate) : isBetter parameters candidate candidate = false := by
    rw [← Bool.not_eq_true, isBetter_iff_rank_lt]
    exact List.lt_irrefl _
  have weak : WeakOrder (isBetter parameters) := weakOrder_of_rank fun _ _ => isBetter_iff_rank_lt
  have inOrder := (Candidate.pairwise_position_all groups).filter (isEligible parameters)
  have asymm (a b : Candidate) (before : a.position < b.position) : ¬ b.position < a.position :=
    List.lt_asymm before
  refine ⟨mem, eligible, ?_, ?_⟩
  · intro other listed allowed
    have kept := List.mem_filter.mpr ⟨listed, allowed⟩
    rw [← isBetter_iff_rank_lt, (first_of_best?_eq_some weak irrefl inOrder asymm found kept).1]
    exact Bool.false_ne_true
  · intro other listed allowed same
    have kept := List.mem_filter.mpr ⟨listed, allowed⟩
    apply (first_of_best?_eq_some weak irrefl inOrder asymm found kept).2
    rw [← Bool.not_eq_true, isBetter_iff_rank_lt, same]
    exact List.lt_irrefl _

/-- The single track that is selected is the first of the eligible tracks with the highest rank.
Nothing is selected exactly if no track is eligible. -/
theorem selectFixed?_first_best (parameters : Parameters) (groups : List MappedGroup) :
    (selectFixed? parameters groups = none ↔
        ∀ candidate ∈ Candidate.all groups, isEligible parameters candidate = false) ∧
      ∀ selection, selectFixed? parameters groups = some selection ↔
        ∃ best, IsFirstBest parameters groups best ∧ selection = best.selection := by
  have none_iff : selectFixed? parameters groups = none ↔
      ∀ candidate ∈ Candidate.all groups, isEligible parameters candidate = false := by
    rw [selectFixed?, Option.map_eq_none_iff, best?_eq_none_iff, List.filter_eq_nil_iff]
    simp
  refine ⟨none_iff, fun selection => ⟨?_, ?_⟩⟩
  · intro found
    obtain ⟨best, isBest, rfl⟩ := Option.map_eq_some_iff.mp found
    exact ⟨best, isFirstBest_of_best? isBest, rfl⟩
  · rintro ⟨best, isBest, rfl⟩
    cases found : best? (isBetter parameters)
        ((Candidate.all groups).filter (isEligible parameters)) with
    | none =>
        have nothing := none_iff.mp (by rw [selectFixed?, found]; rfl) best isBest.mem
        cases isBest.eligible.symm.trans nothing
    | some chosen =>
        rw [selectFixed?, found, isBest.unique (isFirstBest_of_best? found)]
        rfl

end VideoTrack

end TrackSelection
