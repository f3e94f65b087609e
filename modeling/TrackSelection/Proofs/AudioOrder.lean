import TrackSelection.Proofs.AudioRank
import TrackSelection.Proofs.LanguageMatches

/-!
# The order of audio tracks and its laws

The audio tracks of a pass are scored under the same parameters and the same languages of the
system. Two tracks compared the other way round give the opposite answer, and being better is
transitive. Being at most as good is not: bitrates are compared within one language only, so that a
track ties with tracks of another language whatever their bitrates are, and two of these need not
tie. The main statement says which three tracks break the law, and that there are such tracks
exactly if the lowest bitrate is not asked for.
-/

namespace TrackSelection.AudioScore

variable {a b : AudioScore}

theorem order_eq_swap (forced : a.forceLowestBitrate = b.forceLowestBitrate) :
    a.order b = (b.order a).swap := by
  have bitrates : (if a.language = b.language then compare a.bitrateWeight b.bitrateWeight
      else .eq) = (if b.language = a.language then compare b.bitrateWeight a.bitrateWeight
      else .eq).swap := by
    by_cases same : a.language = b.language
    · rw [if_pos same, if_pos same.symm]
      exact Std.OrientedOrd.eq_swap
    · rw [if_neg same, if_neg (Ne.symm same)]
      rfl
  have ranks : compare a.rank b.rank = (compare b.rank a.rank).swap := Std.OrientedOrd.eq_swap
  rw [order_eq forced, order_eq forced.symm, Ordering.swap_then, ranks, bitrates]

theorem order_eq_eq_of_language_ne (forced : a.forceLowestBitrate = b.forceLowestBitrate)
    (ranks : a.rank = b.rank) (languages : a.language ≠ b.language) : a.order b = .eq := by
  rw [order_eq forced, ranks, Std.ReflOrd.compare_self, if_neg languages]
  rfl

/-! ## Lowest bitrates -/

/-- If the lowest bitrate is asked for, tracks of one rank have the same bitrate. -/
theorem bitrateWeight_eq_of_rank_eq (forced : a.forceLowestBitrate = true)
    (forcedToo : b.forceLowestBitrate = true) (same : a.rank = b.rank) :
    a.bitrateWeight = b.bitrateWeight := by
  simp only [rank, forced, forcedToo, if_true, List.cons.injEq, toInt_inj, Int.neg_inj] at same
  obtain ⟨capabilities, _, limits, bitrates, _⟩ := same
  rw [bitrateWeight, bitrateWeight, weigh, weigh, capabilities, limits, bitrates]

/-- If the lowest bitrate is asked for, nothing is left to compare within a language. -/
theorem order_eq_compare_rank (forced : a.forceLowestBitrate = true)
    (forcedToo : b.forceLowestBitrate = true) : a.order b = compare a.rank b.rank := by
  rw [order_eq (forced.trans forcedToo.symm)]
  have nothing : (compare a.rank b.rank).then (if a.language = b.language then
      compare a.bitrateWeight b.bitrateWeight else .eq) = (compare a.rank b.rank).then .eq := by
    refine then_congr_of_eq fun same => ?_
    rw [bitrateWeight_eq_of_rank_eq forced forcedToo (Std.LawfulEqOrd.eq_of_compare same),
      Std.ReflOrd.compare_self, ite_self]
  rw [nothing, Ordering.then_eq]

/-! ## Tracks under the same parameters -/

def trackScore (parameters : Parameters) (systemLanguages : List String)
    (track : Format × Capabilities) : AudioScore :=
  ofTrack parameters systemLanguages track.1 track.2

def trackOrder (parameters : Parameters) (systemLanguages : List String)
    (x y : Format × Capabilities) : Ordering :=
  (trackScore parameters systemLanguages x).order (trackScore parameters systemLanguages y)

variable {parameters : Parameters} {systemLanguages : List String}

theorem forceLowestBitrate_trackScore_eq (x y : Format × Capabilities) :
    (trackScore parameters systemLanguages x).forceLowestBitrate =
      (trackScore parameters systemLanguages y).forceLowestBitrate := rfl

theorem orientedCmp_trackOrder : Std.OrientedCmp (trackOrder parameters systemLanguages) where
  eq_swap := order_eq_swap (forceLowestBitrate_trackScore_eq _ _)

theorem transCmp_trackOrder (forced : parameters.playback.forceLowestBitrate = true) :
    Std.TransCmp (trackOrder parameters systemLanguages) := by
  have byRank (x y : Format × Capabilities) : trackOrder parameters systemLanguages x y =
      compare (trackScore parameters systemLanguages x).rank
        (trackScore parameters systemLanguages y).rank :=
    order_eq_compare_rank forced forced
  refine @Std.TransCmp.mk _ _ orientedCmp_trackOrder fun {x y z} first second => ?_
  rw [byRank] at first second ⊢
  exact Std.TransCmp.isLE_trans first second

/-- The order is no preorder if some track ties with two that do not tie. -/
theorem not_transCmp_of_tie {x y z : Format × Capabilities}
    (first : trackOrder parameters systemLanguages x y = .eq)
    (second : trackOrder parameters systemLanguages y z = .eq)
    (better : trackOrder parameters systemLanguages x z = .gt) :
    ¬ Std.TransCmp (trackOrder parameters systemLanguages) := by
  intro lawful
  have atMost := lawful.isLE_trans (Ordering.isLE_of_eq_eq first) (Ordering.isLE_of_eq_eq second)
  rw [better] at atMost
  cases atMost

/-! ## Two languages that are asked for alike -/

def longTag (others : List String) (last : Char) : String :=
  String.ofList
    (List.replicate (others.flatMap String.toList).length 'x' ++ "xxxx".toList ++ [last])

/-- A handled track of which only the language and the bitrate are known. -/
def spoken (tag : String) (bitrate : Option UInt32) : Format × Capabilities :=
  ({ language := some tag, bitrate := bitrate }, { format := .handled })

theorem matchScore_longTag_eq {others : List String} {query : Option String}
    (listed : ∀ asked ∈ query, asked ∈ others) (first second : Char) :
    Language.matchScore (some (longTag others first)) query false =
      Language.matchScore (some (longTag others second)) query false := by
  apply Language.matchScore_append_eq
  · simp
  · simp
  · intro asked mem
    have part : asked.toList.length ≤ (others.flatMap String.toList).length :=
      (List.sublist_flatten_of_mem (List.mem_map_of_mem (listed asked mem))).length_le
    simp only [List.length_append, List.length_replicate]
    exact Nat.lt_of_le_of_lt part (Nat.lt_add_of_pos_right (by decide))

/-- Only the scores of the languages of the system count. -/
theorem localeMatch_eq (language : Option String) (systemLanguages : List String) :
    localeMatch language systemLanguages =
      (systemLanguages.map fun locale =>
        Language.matchScore language (some locale) false).zipIdx.findSome? fun entry =>
          if 0 < entry.1 then some (entry.2, entry.1) else none := by
  rw [List.zipIdx_map, List.findSome?_map]
  rfl

theorem localeMatch_longTag_eq {others : List String}
    (listed : ∀ locale ∈ systemLanguages, locale ∈ others) (first second : Char) :
    localeMatch (some (longTag others first)) systemLanguages =
      localeMatch (some (longTag others second)) systemLanguages := by
  have alike : ∀ locale ∈ systemLanguages,
      Language.matchScore (some (longTag others first)) (some locale) false =
        Language.matchScore (some (longTag others second)) (some locale) false := by
    intro locale mem
    apply matchScore_longTag_eq
    intro asked same
    obtain rfl := Option.mem_some.mp same
    exact listed _ mem
  rw [localeMatch_eq, localeMatch_eq, List.map_congr_left alike]

/-- Two such languages get the same rank, if bitrates do not count for it. -/
theorem rank_spoken_longTag_eq (unforced : parameters.playback.forceLowestBitrate = false)
    {others : List String} (listed : ∀ asked ∈ parameters.audio.language, asked ∈ others)
    (listedToo : ∀ locale ∈ systemLanguages, locale ∈ others) (first second : Char)
    {x y : Option UInt32} (within : isWithin x parameters.audio.maxBitrate = true)
    (withinToo : isWithin y parameters.audio.maxBitrate = true) :
    (trackScore parameters systemLanguages (spoken (longTag others first) x)).rank =
      (trackScore parameters systemLanguages (spoken (longTag others second) y)).rank := by
  simp only [trackScore, spoken, ofTrack, rank, weigh, unforced, within, withinToo,
    matchScore_longTag_eq listed first second, localeMatch_longTag_eq listedToo first second]
  simp

theorem language_spoken_longTag (others : List String) (last : Char) (bitrate : Option UInt32) :
    (trackScore parameters systemLanguages (spoken (longTag others last) bitrate)).language =
      some (longTag others last) := by
  apply Language.determined?_some
  apply Language.isDetermined_of_long
  simp [longTag]

theorem longTag_ne {first second : Char} (different : first ≠ second) (others : List String) :
    longTag others first ≠ longTag others second := by
  intro same
  have tails := List.append_cancel_left (String.ofList_inj.mp same)
  exact different (List.head_eq_of_cons_eq tails)

theorem bitrateWeight_spoken {bitrate : Option UInt32}
    (within : isWithin bitrate parameters.audio.maxBitrate = true) (tag : String) :
    (trackScore parameters systemLanguages (spoken tag bitrate)).bitrateWeight =
      knownValue bitrate := by
  have fits : (trackScore parameters systemLanguages (spoken tag bitrate)).withinLimits = true :=
    Bool.and_eq_true_iff.mpr ⟨within, rfl⟩
  rw [bitrateWeight, weigh, fits]
  rfl

/-- Unless the lowest bitrate is asked for, some track ties with two tracks of which one is better
than the other. -/
theorem exists_tie_between (unforced : parameters.playback.forceLowestBitrate = false)
    (systemLanguages : List String) :
    ∃ x y z, trackOrder parameters systemLanguages x y = .eq ∧
      trackOrder parameters systemLanguages y z = .eq ∧
      trackOrder parameters systemLanguages x z = .gt := by
  -- no query tells two tags apart that start with a word longer than all queries
  obtain ⟨others, listed, listedToo⟩ : ∃ others : List String,
      (∀ asked ∈ parameters.audio.language, asked ∈ others) ∧
        ∀ locale ∈ systemLanguages, locale ∈ others :=
    ⟨parameters.audio.language.toList ++ systemLanguages,
      fun _ mem => List.mem_append_left _ (Option.mem_toList.mpr mem),
      fun _ mem => List.mem_append_right _ mem⟩
  have unknown : isWithin none parameters.audio.maxBitrate = true := rfl
  have lowest : isWithin (some 0) parameters.audio.maxBitrate = true := by simp [isWithin]
  have ranks := rank_spoken_longTag_eq unforced listed listedToo 'a' 'b' lowest unknown
  have ranksToo := rank_spoken_longTag_eq unforced listed listedToo 'b' 'a' unknown unknown
  have tags : some (longTag others 'a') ≠ some (longTag others 'b') := fun same =>
    longTag_ne (by decide) others (Option.some.inj same)
  refine ⟨spoken (longTag others 'a') (some 0), spoken (longTag others 'b') none,
    spoken (longTag others 'a') none, ?_, ?_, ?_⟩
  · apply order_eq_eq_of_language_ne (forceLowestBitrate_trackScore_eq _ _) ranks
    rwa [language_spoken_longTag, language_spoken_longTag]
  · apply order_eq_eq_of_language_ne (forceLowestBitrate_trackScore_eq _ _) ranksToo
    rw [language_spoken_longTag, language_spoken_longTag]
    exact tags.symm
  · apply (order_eq_gt_iff (forceLowestBitrate_trackScore_eq _ _)).mpr
    refine .inr ⟨ranks.trans ranksToo, rfl, ?_⟩
    rw [bitrateWeight_spoken unknown, bitrateWeight_spoken lowest]
    decide

/-- Compared the other way round, two tracks give the opposite answer, and being better is
transitive. Of three tracks each of which is at most as good as the next, the first is better than
the last exactly if the two are of one rank and one language, the first has the better bitrate, and
the track between them is of another language. There are such tracks, so that the order is no
preorder, exactly if the lowest bitrate is not asked for. -/
theorem transCmp_trackOrder_iff (parameters : Parameters) (systemLanguages : List String) :
    Std.OrientedCmp (trackOrder parameters systemLanguages) ∧
      (∀ x y z, trackOrder parameters systemLanguages x y = .gt →
        trackOrder parameters systemLanguages y z = .gt →
          trackOrder parameters systemLanguages x z = .gt) ∧
      (∀ x y z, (trackOrder parameters systemLanguages x y).isLE →
        (trackOrder parameters systemLanguages y z).isLE →
          let a := trackScore parameters systemLanguages x
          let b := trackScore parameters systemLanguages y
          let c := trackScore parameters systemLanguages z
          (trackOrder parameters systemLanguages x z = .gt ↔
            b.language ≠ c.language ∧ a.rank = c.rank ∧ a.language = c.language ∧
              c.bitrateWeight < a.bitrateWeight)) ∧
      (Std.TransCmp (trackOrder parameters systemLanguages) ↔
        parameters.playback.forceLowestBitrate = true) := by
  refine ⟨orientedCmp_trackOrder, ?_, ?_, ?_⟩
  · intro x y z first second
    exact order_gt_trans (forceLowestBitrate_trackScore_eq x y)
      (forceLowestBitrate_trackScore_eq y z) first second
  · intro x y z first second
    exact order_eq_gt_iff_of_between (forceLowestBitrate_trackScore_eq x y)
      (forceLowestBitrate_trackScore_eq y z) (Ordering.isLE_iff_ne_gt.mp first)
      (Ordering.isLE_iff_ne_gt.mp second)
  · refine ⟨fun lawful => ?_, transCmp_trackOrder⟩
    rw [← Bool.not_eq_false]
    intro unforced
    obtain ⟨x, y, z, first, second, better⟩ := exists_tie_between unforced systemLanguages
    exact not_transCmp_of_tie first second better lawful

/-- English at two bitrates and Spanish: the English tracks tie with the Spanish one, and not with
each other. -/
theorem not_transCmp_trackOrder :
    trackOrder {} [] (spoken "en" (some 200)) (spoken "es" (some 50)) = .eq ∧
      trackOrder {} [] (spoken "es" (some 50)) (spoken "en" (some 100)) = .eq ∧
      trackOrder {} [] (spoken "en" (some 200)) (spoken "en" (some 100)) = .gt ∧
      ¬ Std.TransCmp (trackOrder {} []) := by
  have first : trackOrder {} [] (spoken "en" (some 200)) (spoken "es" (some 50)) = .eq := by decide
  have second : trackOrder {} [] (spoken "es" (some 50)) (spoken "en" (some 100)) = .eq := by decide
  have better : trackOrder {} [] (spoken "en" (some 200)) (spoken "en" (some 100)) = .gt := by
    decide
  exact ⟨first, second, better, not_transCmp_of_tie first second better⟩

end TrackSelection.AudioScore
