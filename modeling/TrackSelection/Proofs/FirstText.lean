import TrackSelection.Proofs.SingleVideo
import TrackSelection.Proofs.Winners

/-!
# The text track that is shown

Scores of text tracks are compared by a rank. The last number of it, for captions, is consulted only
without a preferred role, and whether there is one was compared before; so the comparison is a total
preorder on all scores. Text is searched for twice, among the tracks of each text renderer and among
the tracks these searches left. Under a total preorder that is the same as one search among the
tracks of all text renderers in line. The track that is shown is therefore the first of those that
no other eligible track beats, in the order of renderers, of groups and of tracks in a group.
-/

namespace TrackSelection

/-! ## The order of scores -/

namespace TextScore

/-- What scores are compared by, from the front. -/
def rank (score : TextScore) : List Int :=
  [score.withinCapabilities.toInt,
    score.languageScore,
    score.roleScore,
    score.isDefault.toInt,
    score.isForcedAsPreferred.toInt,
    score.audioLanguageScore,
    if score.roleScore = 0 then -score.hasCaptions.toInt else 0]

theorem order_eq_compare_rank (a b : TextScore) : a.order b = compare a.rank b.rank := by
  simp only [order, rank, List.compare_cons_cons, List.compare_nil_nil, Ordering.then_eq,
    compare_toInt, compare_natCast]
  -- captions are compared only for tracks with the same number of roles
  refine then_congr_of_eq fun _ => then_congr_of_eq fun _ => then_congr_of_eq fun sameRoles =>
    then_congr_of_eq fun _ => then_congr_of_eq fun _ => then_congr_of_eq fun _ => ?_
  rw [← Nat.compare_eq_eq.mp sameRoles]
  split
  · rw [compare_neg, compare_toInt]
  · rfl

instance transCmp_order : Std.TransCmp order := by
  have byRank : order = compareOn rank := by
    funext a b
    exact order_eq_compare_rank a b
  rw [byRank]
  infer_instance

end TextScore

/-! ## One search among all text tracks -/

def TextTrack.scoreOf (parameters : Parameters) (language : Option String)
    (candidate : Candidate) : TextScore :=
  TextScore.ofTrack parameters language candidate.format candidate.capabilities

/-- Tracks may be sorted out before their scores are put beside them. -/
theorem TextTrack.eligible_eq (parameters : Parameters) (language : Option String)
    (groups : List MappedGroup) :
    eligible parameters language groups =
      ((Candidate.all groups).filter fun candidate =>
        isEligible parameters (candidate, scoreOf parameters language candidate)).map
        fun candidate => (candidate, scoreOf parameters language candidate) :=
  List.filter_map

namespace Pass

/-- A text renderer has the track, which is supported and which there is a reason to show. -/
structure EligibleText (mapping : Mapping) (parameters : Parameters) (language : Option String)
    (i : Nat) (candidate : Candidate) : Prop where
  offered : ∃ renderer, mapping.renderers[i]? = some renderer ∧ renderer.trackType = .text ∧
    candidate ∈ Candidate.all renderer.groups
  supported : candidate.capabilities.isSupported parameters.playback.mayExceedCapabilities = true
  wanted : (TextTrack.scoreOf parameters language candidate).withinConstraints = true

def textOffers (parameters : Parameters) (language : Option String)
    (entry : MappedRenderer × Nat) : List (Nat × Candidate) :=
  if entry.1.trackType = .text then
    ((Candidate.all entry.1.groups).filter fun candidate =>
      TextTrack.isEligible parameters
        (candidate, TextTrack.scoreOf parameters language candidate)).map (entry.2, ·)
  else []

/-- The eligible tracks of all text renderers in line. -/
def textLine (mapping : Mapping) (parameters : Parameters) (language : Option String) :
    List (Nat × Candidate) :=
  mapping.renderers.zipIdx.flatMap (textOffers parameters language)

def beatsText (parameters : Parameters) (language : Option String) (a b : Nat × Candidate) : Bool :=
  (TextTrack.scoreOf parameters language a.2).order (TextTrack.scoreOf parameters language b.2) =
    .gt

/-- Where a track stands: its renderer, its group, and the track in the group. -/
def place (i : Nat) (candidate : Candidate) : List Nat :=
  i :: candidate.position

variable {mapping : Mapping} {parameters : Parameters} {language : Option String}
variable {i : Nat} {candidate : Candidate}

theorem mem_textOffers {entry : MappedRenderer × Nat} :
    (i, candidate) ∈ textOffers parameters language entry ↔
      entry.2 = i ∧ entry.1.trackType = .text ∧ candidate ∈ Candidate.all entry.1.groups ∧
        TextTrack.isEligible parameters
          (candidate, TextTrack.scoreOf parameters language candidate) = true := by
  unfold textOffers
  split
  · rename_i text
    simp only [List.mem_map, List.mem_filter, Prod.mk.injEq]
    constructor
    · rintro ⟨_, ⟨mem, eligible⟩, same, rfl⟩
      exact ⟨same, text, mem, eligible⟩
    · rintro ⟨same, _, mem, eligible⟩
      exact ⟨candidate, ⟨mem, eligible⟩, same, rfl⟩
  · rename_i other
    exact iff_of_false List.not_mem_nil fun offered => other offered.2.1

theorem mem_textLine :
    (i, candidate) ∈ textLine mapping parameters language ↔
      EligibleText mapping parameters language i candidate := by
  rw [textLine, List.mem_flatMap]
  constructor
  · rintro ⟨⟨renderer, j⟩, listed, mem⟩
    obtain ⟨rfl, text, offered, eligible⟩ := mem_textOffers.mp mem
    obtain ⟨supported, wanted⟩ := Bool.and_eq_true_iff.mp eligible
    have here := List.mem_zipIdx_iff_getElem?.mp listed
    exact ⟨⟨renderer, here, text, offered⟩, supported, wanted⟩
  · rintro ⟨⟨renderer, here, text, offered⟩, supported, wanted⟩
    refine ⟨(renderer, i), List.mem_zipIdx_iff_getElem?.mpr here, mem_textOffers.mpr ?_⟩
    exact ⟨rfl, text, offered, Bool.and_eq_true_iff.mpr ⟨supported, wanted⟩⟩

/-- The tracks are in line. -/
theorem pairwise_textLine (mapping : Mapping) (parameters : Parameters)
    (language : Option String) :
    (textLine mapping parameters language).Pairwise fun a b => place a.1 a.2 < place b.1 b.2 := by
  refine List.pairwise_flatMap.mpr ⟨?_, ?_⟩
  · intro entry _
    unfold textOffers
    split
    · refine List.pairwise_map.mpr (((Candidate.pairwise_position_all _).filter _).imp ?_)
      intro a b before
      exact List.cons_lt_cons_iff.mpr (.inr ⟨rfl, before⟩)
    · exact List.Pairwise.nil
  · refine (pairwise_zipIdx mapping.renderers).imp ?_
    rintro first second before ⟨j, a⟩ mem ⟨k, b⟩ memToo
    obtain ⟨rfl, _⟩ := mem_textOffers.mp mem
    obtain ⟨rfl, _⟩ := mem_textOffers.mp memToo
    exact List.cons_lt_cons_iff.mpr (.inl before)

theorem weakOrder_beatsText (parameters : Parameters) (language : Option String) :
    WeakOrder (beatsText parameters language) :=
  weakOrder_of_transCmp TextScore.order fun entry : Nat × Candidate =>
    TextTrack.scoreOf parameters language entry.2

/-- What a text renderer selects on its own is the best of its eligible tracks. -/
theorem map_select?_eq_best?_textOffers (parameters : Parameters) (language : Option String)
    (entry : MappedRenderer × Nat) :
    (if entry.1.trackType = .text then
        (TextTrack.select? parameters language entry.1.groups).map (entry.2, ·) else none) =
      (best? (beatsText parameters language) (textOffers parameters language entry)).map
        fun found => (found.1, found.2.selection,
          TextTrack.scoreOf parameters language found.2) := by
  unfold textOffers
  split
  · -- tracks compare alike with their scores beside them, and with the renderer beside them
    have alike (a b : Candidate) : beatsText parameters language (entry.2, a) (entry.2, b) =
        decide ((TextTrack.scoreOf parameters language a).order
          (TextTrack.scoreOf parameters language b) = .gt) := rfl
    rw [TextTrack.select?, TextTrack.eligible_eq, best?_map alike, best?_map fun _ _ => rfl,
      Option.map_map, Option.map_map, Option.map_map]
    rfl
  · rfl

/-- The two searches for text are one search among the tracks of all text renderers. -/
theorem textChoice?_eq_best?_textLine (mapping : Mapping) (parameters : Parameters)
    (language : Option String) :
    textChoice? mapping parameters language =
      (best? (beatsText parameters language) (textLine mapping parameters language)).map
        fun found => (found.1, found.2.selection,
          TextTrack.scoreOf parameters language found.2) := by
  have own : choices mapping .text (fun renderer =>
        TextTrack.select? parameters language renderer.groups) =
      (mapping.renderers.zipIdx.filterMap fun entry =>
        best? (beatsText parameters language) (textOffers parameters language entry)).map
        fun found => (found.1, found.2.selection,
          TextTrack.scoreOf parameters language found.2) := by
    rw [choices, List.map_filterMap]
    congr 1
    funext entry
    exact map_select?_eq_best?_textOffers parameters language entry
  rw [textChoice?, own, textLine, best?_flatMap (weakOrder_beatsText parameters language)]
  exact best?_map (fun _ _ => rfl) _

/-! ## The first of the best -/

/-- No eligible track has a better score than the track. -/
def UnbeatenText (mapping : Mapping) (parameters : Parameters) (language : Option String)
    (candidate : Candidate) : Prop :=
  ∀ j other, EligibleText mapping parameters language j other →
    (TextTrack.scoreOf parameters language other).order
      (TextTrack.scoreOf parameters language candidate) ≠ .gt

/-- The track is eligible and unbeaten, and no other such track stands before it. -/
structure IsFirstText (mapping : Mapping) (parameters : Parameters) (language : Option String)
    (i : Nat) (best : Candidate) : Prop where
  eligible : EligibleText mapping parameters language i best
  unbeaten : UnbeatenText mapping parameters language best
  first : ∀ j other, EligibleText mapping parameters language j other →
    UnbeatenText mapping parameters language other → ¬ place j other < place i best

theorem unbeatenText_iff :
    UnbeatenText mapping parameters language candidate ↔
      ∀ other ∈ textLine mapping parameters language,
        beatsText parameters language other (i, candidate) = false := by
  constructor
  · rintro unbeaten ⟨j, other⟩ mem
    exact decide_eq_false (unbeaten j other (mem_textLine.mp mem))
  · intro unbeaten j other eligible
    exact of_decide_eq_false (unbeaten (j, other) (mem_textLine.mpr eligible))

theorem best?_textLine_eq_some_iff :
    best? (beatsText parameters language) (textLine mapping parameters language) =
        some (i, candidate) ↔
      IsFirstText mapping parameters language i candidate := by
  have irrefl (entry : Nat × Candidate) : beatsText parameters language entry entry = false := by
    have same : (TextTrack.scoreOf parameters language entry.2).order
        (TextTrack.scoreOf parameters language entry.2) = .eq := Std.ReflCmp.compare_self
    rw [beatsText, same]
    rfl
  rw [best?_eq_some_iff_first (weakOrder_beatsText parameters language) irrefl
    (pairwise_textLine mapping parameters language) fun _ _ before => List.lt_asymm before]
  constructor
  · rintro ⟨mem, unbeaten, first⟩
    refine ⟨mem_textLine.mp mem, unbeatenText_iff.mpr unbeaten, fun j other eligible best => ?_⟩
    exact first (j, other) (mem_textLine.mpr eligible) (unbeatenText_iff.mp best)
  · rintro ⟨eligible, unbeaten, first⟩
    refine ⟨mem_textLine.mpr eligible, unbeatenText_iff.mp unbeaten, ?_⟩
    rintro ⟨j, other⟩ mem best
    exact first j other (mem_textLine.mp mem) (unbeatenText_iff.mpr best)

theorem exists_isFirstText (eligible : EligibleText mapping parameters language i candidate) :
    ∃ j best, IsFirstText mapping parameters language j best := by
  have mem := mem_textLine.mpr eligible
  cases found : best? (beatsText parameters language) (textLine mapping parameters language) with
  | none =>
      rw [best?_eq_none_iff.mp found] at mem
      cases mem
  | some best => exact ⟨best.1, best.2, best?_textLine_eq_some_iff.mp found⟩

theorem given_text_iff {systemLanguages : List String} {selection : Selection} :
    Given mapping parameters systemLanguages .text i selection ↔
      ∃ best, IsFirstText mapping parameters (audioLanguage mapping parameters systemLanguages)
        i best ∧ selection = best.selection := by
  rw [given_iff_winner? (.inr (.inr rfl)), winner?, textChoice?_eq_best?_textLine, Option.map_map,
    Option.map_eq_some_iff]
  constructor
  · rintro ⟨⟨j, best⟩, found, same⟩
    obtain ⟨rfl, rfl⟩ := Prod.mk.inj same
    exact ⟨best, best?_textLine_eq_some_iff.mp found, rfl⟩
  · rintro ⟨best, isFirst, rfl⟩
    exact ⟨(i, best), best?_textLine_eq_some_iff.mpr isFirst, rfl⟩

/-- Scores of text are totally preordered. Beside the audio that was selected, text is given to a
renderer exactly if some text renderer has an eligible track, and what is given is the first of the
eligible tracks that none of them beats. -/
theorem given_text_first_best (mapping : Mapping) (parameters : Parameters)
    (systemLanguages : List String) :
    Std.TransCmp TextScore.order ∧
      ((∃ i selection, Given mapping parameters systemLanguages .text i selection) ↔
        ∃ i candidate, EligibleText mapping parameters
          (audioLanguage mapping parameters systemLanguages) i candidate) ∧
      ∀ i selection, Given mapping parameters systemLanguages .text i selection ↔
        ∃ best, IsFirstText mapping parameters (audioLanguage mapping parameters systemLanguages)
          i best ∧ selection = best.selection := by
  refine ⟨inferInstance, ⟨?_, ?_⟩, fun i selection => given_text_iff⟩
  · rintro ⟨i, selection, given⟩
    obtain ⟨best, isFirst, _⟩ := given_text_iff.mp given
    exact ⟨i, best, isFirst.eligible⟩
  · rintro ⟨i, candidate, eligible⟩
    obtain ⟨j, best, isFirst⟩ := exists_isFirstText eligible
    exact ⟨j, best.selection, given_text_iff.mpr ⟨best, isFirst, rfl⟩⟩

end Pass

end TrackSelection
