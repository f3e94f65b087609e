import TrackSelection.Proofs.AudioRank
import TrackSelection.Proofs.PassResults

/-!
# The best audio of a pass

Every audio renderer looks for its best track, and then the renderers are compared by these tracks.
Within a renderer no track beats the best. Across renderers no track has a higher rank than the one
that wins, but one may beat it all the same: a track with a better bitrate in the language of the
winner that its own renderer passed over for an earlier track of another language. The main
statement says that this is the only way.
-/

namespace TrackSelection

namespace AudioTrack

variable {parameters : Parameters} {systemLanguages : List String}
variable {groups : List MappedGroup} {best scored : Scored}

theorem forceLowestBitrate_of_mem_eligible
    (mem : scored ∈ eligible parameters systemLanguages groups) :
    scored.2.forceLowestBitrate = parameters.playback.forceLowestBitrate := by
  rw [(mem_eligible.mp mem).2.2]
  rfl

/-- No track of a renderer beats its best track. -/
theorem order_ne_gt_of_bestTrack?
    (found : bestTrack? parameters systemLanguages groups = some best)
    (mem : scored ∈ eligible parameters systemLanguages groups) : scored.2.order best.2 ≠ .gt := by
  have alike : ∀ item ∈ eligible parameters systemLanguages groups,
      item.2.forceLowestBitrate = parameters.playback.forceLowestBitrate :=
    fun _ => forceLowestBitrate_of_mem_eligible
  exact AudioScore.order_ne_gt_of_best? Prod.snd alike found scored mem

theorem exists_bestTrack?_of_mem (mem : scored ∈ eligible parameters systemLanguages groups) :
    ∃ best, bestTrack? parameters systemLanguages groups = some best := by
  cases found : bestTrack? parameters systemLanguages groups with
  | some best => exact ⟨best, rfl⟩
  | none =>
      rw [best?_eq_none_iff.mp found] at mem
      cases mem

/-- A renderer with a best track makes a selection, with the score of that track. -/
theorem exists_select?_of_bestTrack? (allowAdaptive : Bool)
    (found : bestTrack? parameters systemLanguages groups = some best) :
    ∃ selection,
      select? parameters systemLanguages allowAdaptive groups = some (selection, best.2) := by
  simp only [select?, found, Option.map_some, Option.some.injEq]
  by_cases several : 1 < (if !parameters.forcesBitrate && allowAdaptive
      then adaptiveTracks parameters.audio best.1.mapped else []).length
  · exact ⟨_, if_pos several⟩
  · exact ⟨_, if_neg several⟩

end AudioTrack

namespace Pass

variable {mapping : Mapping} {parameters : Parameters} {systemLanguages : List String}
variable {i : Nat} {renderer other : MappedRenderer} {selection : Selection} {winner : AudioScore}

/-- The selections of all audio renderers with their scores, of which the best one wins. -/
def audioChoices (mapping : Mapping) (parameters : Parameters) (systemLanguages : List String) :
    List (Nat × Selection × AudioScore) :=
  choices mapping .audio fun renderer =>
    AudioTrack.select? parameters systemLanguages (allowsAdaptiveAudio mapping parameters)
      renderer.groups

theorem audioChoice?_eq :
    audioChoice? mapping parameters systemLanguages =
      best? (fun a b => a.2.2.order b.2.2 = .gt)
        (audioChoices mapping parameters systemLanguages) := rfl

theorem mem_audioChoices :
    (i, selection, winner) ∈ audioChoices mapping parameters systemLanguages ↔
      ∃ renderer, mapping.renderers[i]? = some renderer ∧ renderer.trackType = .audio ∧
        AudioTrack.select? parameters systemLanguages (allowsAdaptiveAudio mapping parameters)
          renderer.groups = some (selection, winner) :=
  mem_choices

theorem forceLowestBitrate_of_mem_audioChoices {choice : Nat × Selection × AudioScore}
    (mem : choice ∈ audioChoices mapping parameters systemLanguages) :
    choice.2.2.forceLowestBitrate = parameters.playback.forceLowestBitrate := by
  obtain ⟨_, _, _, selected⟩ := mem_audioChoices.mp mem
  obtain ⟨_, best, _⟩ := AudioTrack.select?_cases selected
  exact AudioTrack.forceLowestBitrate_of_mem_eligible (AudioTrack.bestTrack?_mem best)

/-- The best track of an audio renderer does not beat the track that wins. -/
theorem order_ne_gt_of_audioChoice? {best : AudioTrack.Scored}
    (chosen : audioChoice? mapping parameters systemLanguages = some (i, selection, winner))
    (mem : other ∈ mapping.renderers) (audio : other.trackType = .audio)
    (found : AudioTrack.bestTrack? parameters systemLanguages other.groups = some best) :
    best.2.order winner ≠ .gt := by
  obtain ⟨j, there⟩ := List.getElem?_of_mem mem
  obtain ⟨second, selected⟩ :=
    AudioTrack.exists_select?_of_bestTrack? (allowsAdaptiveAudio mapping parameters) found
  have alike : ∀ choice ∈ audioChoices mapping parameters systemLanguages,
      choice.2.2.forceLowestBitrate = parameters.playback.forceLowestBitrate :=
    fun _ => forceLowestBitrate_of_mem_audioChoices
  rw [audioChoice?_eq] at chosen
  exact AudioScore.order_ne_gt_of_best? _ alike chosen (j, second, best.2)
    (mem_audioChoices.mpr ⟨other, there, audio, selected⟩)

/-- A track of an audio renderer beats the winner only from behind a track of another language. -/
theorem order_eq_gt_iff_of_audioChoice? {best scored : AudioTrack.Scored}
    (chosen : audioChoice? mapping parameters systemLanguages = some (i, selection, winner))
    (mem : other ∈ mapping.renderers) (audio : other.trackType = .audio)
    (found : AudioTrack.bestTrack? parameters systemLanguages other.groups = some best)
    (track : scored ∈ AudioTrack.eligible parameters systemLanguages other.groups) :
    scored.2.order winner = .gt ↔
      best.2.language ≠ winner.language ∧ scored.2.rank = winner.rank ∧
        scored.2.language = winner.language ∧
        winner.bitrateWeight < scored.2.bitrateWeight := by
  have forced := AudioTrack.forceLowestBitrate_of_mem_eligible track
  have forcedBest :=
    AudioTrack.forceLowestBitrate_of_mem_eligible (AudioTrack.bestTrack?_mem found)
  have forcedWinner := forceLowestBitrate_of_mem_audioChoices (mem_of_best?_eq_some chosen)
  apply AudioScore.order_eq_gt_iff_of_between
  · exact forced.trans forcedBest.symm
  · exact forcedBest.trans forcedWinner.symm
  · exact AudioTrack.order_ne_gt_of_bestTrack? found track
  · exact order_ne_gt_of_audioChoice? chosen mem audio found

/-- No track of an audio renderer has a higher rank than the winner. -/
theorem compare_rank_isLE_of_audioChoice? {scored : AudioTrack.Scored}
    (chosen : audioChoice? mapping parameters systemLanguages = some (i, selection, winner))
    (mem : other ∈ mapping.renderers) (audio : other.trackType = .audio)
    (track : scored ∈ AudioTrack.eligible parameters systemLanguages other.groups) :
    (compare scored.2.rank winner.rank).isLE := by
  obtain ⟨best, found⟩ := AudioTrack.exists_bestTrack?_of_mem track
  rw [Ordering.isLE_iff_ne_gt]
  intro higher
  have forced := AudioTrack.forceLowestBitrate_of_mem_eligible track
  have forcedWinner := forceLowestBitrate_of_mem_audioChoices (mem_of_best?_eq_some chosen)
  have beats := (AudioScore.order_eq_gt_iff (forced.trans forcedWinner.symm)).mpr (.inl higher)
  obtain ⟨_, same, _⟩ := (order_eq_gt_iff_of_audioChoice? chosen mem audio found track).mp beats
  rw [same, Std.ReflOrd.compare_self] at higher
  cases higher

/-- The selection of an audio renderer is the choice that won. -/
theorem audioChoice?_of_computed (here : mapping.renderers[i]? = some renderer)
    (audio : renderer.trackType = .audio)
    (found : (computed mapping parameters systemLanguages)[i]? = some (some selection)) :
    ∃ winner, audioChoice? mapping parameters systemLanguages = some (i, selection, winner) ∧
      AudioTrack.select? parameters systemLanguages (allowsAdaptiveAudio mapping parameters)
        renderer.groups = some (selection, winner) := by
  obtain ⟨_, there, chosen⟩ := computed_cases found
  obtain rfl := Option.some.inj (here.symm.trans there)
  rw [audio] at chosen
  rcases chosen with ⟨isVideo, _⟩ | ⟨_, winner, won⟩ | ⟨isText, _⟩ | ⟨_, notAudio, _⟩
  · cases isVideo
  · obtain ⟨_, there, _, selected⟩ := mem_audioChoices.mp (mem_of_best?_eq_some won)
    obtain rfl := Option.some.inj (here.symm.trans there)
    exact ⟨winner, won, selected⟩
  · cases isText
  · exact absurd rfl notAudio

/-- No audio track of any renderer has a higher rank than the one that wins. None beats it at all
exactly if no renderer whose best track is of another language has a track of the winner's rank and
language with a better bitrate. -/
theorem audio_unbeaten_iff_of_computed (here : mapping.renderers[i]? = some renderer)
    (audio : renderer.trackType = .audio)
    (found : (computed mapping parameters systemLanguages)[i]? = some (some selection)) :
    ∃ winner,
      AudioTrack.select? parameters systemLanguages (allowsAdaptiveAudio mapping parameters)
        renderer.groups = some (selection, winner) ∧
      (∀ other ∈ mapping.renderers, other.trackType = .audio →
        ∀ scored ∈ AudioTrack.eligible parameters systemLanguages other.groups,
          (compare scored.2.rank winner.rank).isLE) ∧
      ((∀ other ∈ mapping.renderers, other.trackType = .audio →
          ∀ scored ∈ AudioTrack.eligible parameters systemLanguages other.groups,
            scored.2.order winner ≠ .gt) ↔
        ∀ other ∈ mapping.renderers, other.trackType = .audio →
          ∀ best, AudioTrack.bestTrack? parameters systemLanguages other.groups = some best →
            best.2.language ≠ winner.language →
            ∀ scored ∈ AudioTrack.eligible parameters systemLanguages other.groups,
              scored.2.rank = winner.rank → scored.2.language = winner.language →
                scored.2.bitrateWeight ≤ winner.bitrateWeight) := by
  obtain ⟨winner, won, selected⟩ := audioChoice?_of_computed here audio found
  refine ⟨winner, selected, ?_, ?_⟩
  · intro other mem isAudio scored track
    exact compare_rank_isLE_of_audioChoice? won mem isAudio track
  · constructor
    · intro unbeaten other mem isAudio best first different scored track sameRank sameLanguage
      have beats := order_eq_gt_iff_of_audioChoice? won mem isAudio first track
      apply Int.not_lt.mp
      intro more
      exact unbeaten other mem isAudio scored track
        (beats.mpr ⟨different, sameRank, sameLanguage, more⟩)
    · intro nothing other mem isAudio scored track beaten
      obtain ⟨best, first⟩ := AudioTrack.exists_bestTrack?_of_mem track
      obtain ⟨different, sameRank, sameLanguage, more⟩ :=
        (order_eq_gt_iff_of_audioChoice? won mem isAudio first track).mp beaten
      have atMost := nothing other mem isAudio best first different scored track sameRank
        sameLanguage
      omega

namespace Sample

/-- A track of a language and a bitrate, in a group of its own, on a renderer that handles it. -/
def track (language : String) (bitrate : UInt32) : MappedGroup where
  group := ⟨⟨0⟩, [{ language := some language, bitrate := some bitrate }], List.cons_ne_nil _ _⟩
  capabilities := [{ format := .handled }]
  covers := rfl

def first (mapped : MappedGroup) : Selection where
  groupIndex := 0
  group := mapped.group
  tracks := [0]

def audio (renderers : List (List MappedGroup)) : Mapping where
  renderers := renderers.map fun groups =>
    { name := "audio", trackType := .audio, mixedMimeTypes := .notSupported, groups := groups }
  unmapped := []

/-- The second renderer has the better track in front. -/
def shown : Mapping :=
  audio [[track "en" 100], [track "en" 200, track "es" 50]]

/-- The second renderer has the better track behind one of another language. -/
def hidden : Mapping :=
  audio [[track "en" 100], [track "es" 50, track "en" 200]]

end Sample

theorem audio_unbeaten_iff_of_computed_shown :
    ∃ renderer winner,
      Sample.shown.renderers[1]? = some renderer ∧
      (computed Sample.shown {} [])[1]? = some (some (Sample.first (Sample.track "en" 200))) ∧
      AudioTrack.select? {} [] (allowsAdaptiveAudio Sample.shown {}) renderer.groups =
        some (Sample.first (Sample.track "en" 200), winner) ∧
      (∀ other ∈ Sample.shown.renderers, other.trackType = .audio →
        ∀ scored ∈ AudioTrack.eligible {} [] other.groups,
          (compare scored.2.rank winner.rank).isLE) ∧
      ((∀ other ∈ Sample.shown.renderers, other.trackType = .audio →
          ∀ scored ∈ AudioTrack.eligible {} [] other.groups, scored.2.order winner ≠ .gt) ↔
        ∀ other ∈ Sample.shown.renderers, other.trackType = .audio →
          ∀ best, AudioTrack.bestTrack? {} [] other.groups = some best →
            best.2.language ≠ winner.language →
            ∀ scored ∈ AudioTrack.eligible {} [] other.groups,
              scored.2.rank = winner.rank → scored.2.language = winner.language →
                scored.2.bitrateWeight ≤ winner.bitrateWeight) := by
  have found : (computed Sample.shown {} [])[1]? =
      some (some (Sample.first (Sample.track "en" 200))) := by decide
  obtain ⟨winner, unbeaten⟩ := audio_unbeaten_iff_of_computed rfl rfl found
  exact ⟨_, winner, rfl, found, unbeaten⟩

/-- The first renderer wins although the second one has a track that beats its best. -/
theorem computed_hidden :
    computed Sample.hidden {} [] = [some (Sample.first (Sample.track "en" 100)), none] ∧
      ∃ winner ∈ AudioTrack.eligible {} [] [Sample.track "en" 100],
        AudioTrack.select? {} [] (allowsAdaptiveAudio Sample.hidden {}) [Sample.track "en" 100] =
          some (Sample.first (Sample.track "en" 100), winner.2) ∧
        ∃ scored ∈ AudioTrack.eligible {} [] [Sample.track "es" 50, Sample.track "en" 200],
          scored.2.order winner.2 = .gt := by
  decide

end Pass

end TrackSelection
