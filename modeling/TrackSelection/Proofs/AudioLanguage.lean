import TrackSelection.Proofs.AudioOptimum

/-!
# The language that text follows

A subtitle may be shown only because it is in the language of the audio. The audio that counts is
the first track of the selection. As long as one track is selected this is the track that won. An
adaptive selection, however, is made of all tracks that share the most common configuration, and
starts with the first of them, whatever language it is in; the winner may be another one, or not
even be selected. The main statement says that text follows the first track, and so the winner
exactly if both lead to the same text.
-/

namespace TrackSelection

theorem Candidate.primaryFormat?_selection {groups : List MappedGroup} {candidate : Candidate}
    (mem : candidate ∈ Candidate.all groups) :
    candidate.selection.primaryFormat? = some candidate.format :=
  (MappedGroup.getElem?_tracks.mp (mem_all.mp mem).2).1

namespace AudioTrack

variable {audio : AudioParameters} {mapped : MappedGroup} {reference : Format}

/-- The tracks to move between start with the first one that shares the configuration. -/
theorem head?_adaptiveTracks (common : commonFormat? audio mapped = some reference)
    (enough : 2 ≤ sharers audio mapped reference) :
    ∃ track entry, (adaptiveTracks audio mapped).head? = some track ∧
      mapped.tracks[track]? = some entry ∧
      mapped.tracks.find? (sharesConfiguration audio reference) = some entry := by
  have listed : adaptiveTracks audio mapped =
      (mapped.tracks.zipIdx.filter fun entry => sharesConfiguration audio reference entry.1).map
        Prod.snd := by
    simp only [adaptiveTracks, common, Nat.not_lt_of_le enough, if_false]
  have length := length_adaptiveTracks common enough
  rw [listed, List.length_map] at length
  obtain ⟨first, rest, same⟩ : ∃ first rest, mapped.tracks.zipIdx.filter
      (fun entry => sharesConfiguration audio reference entry.1) = first :: rest := by
    apply List.exists_cons_of_length_pos
    omega
  have found : mapped.tracks.zipIdx.find?
      (fun entry => sharesConfiguration audio reference entry.1) = some first := by
    rw [← List.head?_filter, same, List.head?_cons]
  refine ⟨first.2, first.1, ?_, ?_, ?_⟩
  · rw [listed, same]
    rfl
  · exact List.mem_zipIdx_iff_getElem?.mp (List.mem_of_find?_eq_some found)
  · calc mapped.tracks.find? (sharesConfiguration audio reference)
        = (mapped.tracks.zipIdx.map Prod.fst).find? (sharesConfiguration audio reference) := by
          rw [List.zipIdx_map_fst]
      _ = (mapped.tracks.zipIdx.find?
            fun entry => sharesConfiguration audio reference entry.1).map Prod.fst :=
          List.find?_map
      _ = some first.1 := by rw [found, Option.map_some]

variable {parameters : Parameters} {systemLanguages : List String} {allowAdaptive : Bool}
variable {groups : List MappedGroup} {selection : Selection} {score : AudioScore}

/-- Which track a selection starts with: the best one if it is selected alone, and else the first
track of its group that shares the most common configuration. -/
theorem exists_primaryFormat?_of_select?
    (found : select? parameters systemLanguages allowAdaptive groups = some (selection, score)) :
    ∃ best first, bestTrack? parameters systemLanguages groups = some (best, score) ∧
      selection.primaryFormat? = some first ∧
      (selection.isAdaptive = false → first = best.format) ∧
      (selection.isAdaptive = true → ∃ reference capabilities,
        commonFormat? parameters.audio best.mapped = some reference ∧
        best.mapped.tracks.find? (sharesConfiguration parameters.audio reference) =
          some (first, capabilities)) := by
  obtain ⟨best, chosen, ⟨_, rfl⟩ | ⟨expands, rfl⟩⟩ := select?_cases found
  · have mem := (mem_eligible.mp (bestTrack?_mem chosen)).1
    exact ⟨best, best.format, chosen, Candidate.primaryFormat?_selection mem, fun _ => rfl, nofun⟩
  · obtain ⟨_, _, several⟩ := expands
    obtain ⟨track, mem⟩ := List.exists_mem_of_length_pos (Nat.zero_lt_of_lt several)
    obtain ⟨reference, common, enough, _⟩ := mem_adaptiveTracks.mp mem
    obtain ⟨track, ⟨first, capabilities⟩, head, here, shares⟩ := head?_adaptiveTracks common enough
    refine ⟨best, first, chosen, ?_, ?_, fun _ => ⟨reference, capabilities, common, shares⟩⟩
    · rw [Selection.primaryFormat?, head]
      exact (MappedGroup.getElem?_tracks.mp here).1
    · intro single
      exact absurd several (of_decide_eq_false single)

end AudioTrack

namespace Pass

variable {mapping : Mapping} {parameters : Parameters} {systemLanguages : List String}
variable {i : Nat} {renderer : MappedRenderer} {selection : Selection}

/-- What the text renderer at a position is given beside audio of some language. -/
def textBeside (mapping : Mapping) (parameters : Parameters) (language : Option String) (i : Nat) :
    Option Selection :=
  selectionAt i ((textChoice? mapping parameters language).map fun choice => (choice.1, choice.2.1))

/-- Every text renderer is given what it would be given beside audio of some language. -/
def TextFollows (mapping : Mapping) (parameters : Parameters) (systemLanguages : List String)
    (language : Option String) : Prop :=
  ∀ j text, mapping.renderers[j]? = some text → text.trackType = .text →
    (computed mapping parameters systemLanguages)[j]? =
      some (textBeside mapping parameters language j)

theorem textFollows_audioLanguage :
    TextFollows mapping parameters systemLanguages
      (audioLanguage mapping parameters systemLanguages) := by
  intro j text here isText
  simp only [computed, List.getElem?_map, List.getElem?_zipIdx, here, Option.map_some,
    Nat.zero_add, isText]
  rfl

/-- Text goes by the first selected track of audio, which is the best one unless the selection is
adaptive. It follows the best track exactly if both languages lead to the same text. -/
theorem textFollows_best_iff (here : mapping.renderers[i]? = some renderer)
    (audio : renderer.trackType = .audio)
    (found : (computed mapping parameters systemLanguages)[i]? = some (some selection)) :
    ∃ best score first,
      audioChoice? mapping parameters systemLanguages = some (i, selection, score) ∧
      AudioTrack.bestTrack? parameters systemLanguages renderer.groups = some (best, score) ∧
      selection.primaryFormat? = some first ∧
      TextFollows mapping parameters systemLanguages first.language ∧
      (selection.isAdaptive = false → first = best.format) ∧
      (selection.isAdaptive = true → ∃ reference capabilities,
        AudioTrack.commonFormat? parameters.audio best.mapped = some reference ∧
        best.mapped.tracks.find? (AudioTrack.sharesConfiguration parameters.audio reference) =
          some (first, capabilities)) ∧
      (TextFollows mapping parameters systemLanguages best.format.language ↔
        ∀ j text, mapping.renderers[j]? = some text → text.trackType = .text →
          textBeside mapping parameters best.format.language j =
            textBeside mapping parameters first.language j) := by
  obtain ⟨score, won, selected⟩ := audioChoice?_of_computed here audio found
  obtain ⟨best, first, chosen, starts, single, adaptive⟩ :=
    AudioTrack.exists_primaryFormat?_of_select? selected
  have language : audioLanguage mapping parameters systemLanguages = first.language := by
    rw [audioLanguage, won]
    change selection.primaryFormat?.bind Format.language = first.language
    rw [starts, Option.bind_some]
  have follows : TextFollows mapping parameters systemLanguages first.language :=
    language ▸ textFollows_audioLanguage
  refine ⟨best, score, first, won, chosen, starts, follows, single, adaptive, ?_⟩
  constructor
  · intro followsBest j text there isText
    have both := (followsBest j text there isText).symm.trans (follows j text there isText)
    exact Option.some.inj both
  · intro same j text there isText
    rw [same j text there isText]
    exact follows j text there isText

namespace Sample

/-- One audio group with a track in each of two languages, of one configuration. -/
def bilingual : MappedGroup where
  group := ⟨⟨0⟩, ["en", "fr"].map fun language =>
    { sampleMimeType := some "audio/mp4a-latm", channelCount := some 2, sampleRate := some 48000,
      language := some language }, by decide⟩
  capabilities := List.replicate 2 { format := .handled }
  covers := rfl

/-- A subtitle that is shown only beside audio of its language. -/
def forced (language : String) : MappedGroup where
  group := ⟨⟨1⟩, [{ language := some language, selectionFlags := { bits := 2 } }],
    List.cons_ne_nil _ _⟩
  capabilities := List.replicate 1 { format := .handled }
  covers := rfl

/-- The two languages for one audio renderer, and subtitles in both. -/
def duet : Mapping where
  renderers :=
    [(TrackType.audio, [bilingual]), (.text, [forced "en", forced "fr"])].map fun entry =>
      { name := "renderer", trackType := entry.1, mixedMimeTypes := .notSupported,
        groups := entry.2 }
  unmapped := []

def preferringFrench : Parameters where
  audio := { language := some "fr" }

def bothLanguages : Selection where
  groupIndex := 0
  group := bilingual.group
  tracks := [0, 1]

def subtitle (position : Nat) (language : String) : Selection where
  groupIndex := position
  group := (forced language).group
  tracks := [0]

end Sample

theorem textFollows_best_iff_duet :
    computed Sample.duet {} [] = [some Sample.bothLanguages, some (Sample.subtitle 0 "en")] ∧
      ∃ best score first,
        audioChoice? Sample.duet {} [] = some (0, Sample.bothLanguages, score) ∧
        AudioTrack.bestTrack? {} [] [Sample.bilingual] = some (best, score) ∧
        Sample.bothLanguages.primaryFormat? = some first ∧
        TextFollows Sample.duet {} [] first.language ∧
        (TextFollows Sample.duet {} [] best.format.language ↔
          ∀ j text, Sample.duet.renderers[j]? = some text → text.trackType = .text →
            textBeside Sample.duet {} best.format.language j =
              textBeside Sample.duet {} first.language j) := by
  have all : computed Sample.duet {} [] =
      [some Sample.bothLanguages, some (Sample.subtitle 0 "en")] := by decide
  obtain ⟨best, score, first, won, chosen, starts, follows, _, _, followsBest⟩ :=
    textFollows_best_iff rfl rfl (congrArg (·[0]?) all)
  exact ⟨all, best, score, first, won, chosen, starts, follows, followsBest⟩

/-- French audio wins, but English stands first: the subtitle is the English one. -/
theorem not_textFollows_best_duet :
    (AudioTrack.bestTrack? Sample.preferringFrench [] [Sample.bilingual]).map
        (fun best => best.1.format.language) = some (some "fr") ∧
      computed Sample.duet Sample.preferringFrench [] =
        [some Sample.bothLanguages, some (Sample.subtitle 0 "en")] ∧
      textBeside Sample.duet Sample.preferringFrench (some "fr") 1 =
        some (Sample.subtitle 1 "fr") ∧
      ¬ TextFollows Sample.duet Sample.preferringFrench [] (some "fr") := by
  have text : textBeside Sample.duet Sample.preferringFrench (some "fr") 1 =
      some (Sample.subtitle 1 "fr") := by decide
  refine ⟨by decide, by decide, text, ?_⟩
  intro follows
  have shown := follows 1 _ rfl rfl
  rw [text] at shown
  exact absurd shown (by decide)

end Pass

end TrackSelection
