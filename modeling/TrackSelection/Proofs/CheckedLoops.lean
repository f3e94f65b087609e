import Mathlib.Logic.Function.Basic
import TrackSelection.Proofs.CheckedChoice
import TrackSelection.Proofs.PassResults

/-!
# Selections that are written in turn

Loops over the renderers share one list with a place for each of them. The first loop writes what
video renderers select until one selects anything. The next two are races, for audio and for text:
whoever takes the lead writes its selection and erases that of the leader before it. A last loop
writes what the other renderers select. Renderers are read and places are written by position, and
an outer `none` is a position that is out of range. What each loop leaves depends on who holds each
type of track, and every step of a loop changes only the holder of its own type. The main statement
is that no read and no write fails, and that the list left in the end has the computed selections.
-/

namespace TrackSelection

/-- The capabilities of a renderer by group and track, apart from the groups. -/
def MappedRenderer.matrix (renderer : MappedRenderer) : CapabilityMatrix :=
  renderer.groups.map MappedGroup.capabilities

namespace Checked

/-- The renderers one after the other, each read by its position. -/
def eachRenderer? (mapping : Mapping) (act : Nat → MappedRenderer → Option α) :
    Option (List α) :=
  (List.range mapping.renderers.length).mapM fun i => do
    let renderer ← mapping.renderers[i]?
    act i renderer

/-- Write to a place of a list, if there is such a place. -/
def write? (places : List α) (i : Nat) (value : α) : Option (List α) :=
  if i < places.length then some (places.set i value) else none

/-! ## The loops -/

structure VideoLoop where
  selections : List (Option Selection)
  /-- A renderer has selected something. -/
  selected : Bool
  /-- A renderer was given groups, whether it was asked or not. -/
  mapped : Bool

def VideoLoop.turn? (mapping : Mapping) (parameters : Parameters) (loop : VideoLoop) (i : Nat) :
    Option VideoLoop := do
  let renderer ← mapping.renderers[i]?
  if renderer.trackType = .video then
    let mapped := loop.mapped || !renderer.trackGroups.isEmpty
    if loop.selected then return { loop with mapped }
    else
      let selection ←
        video? parameters renderer.mixedMimeTypes true renderer.trackGroups renderer.matrix
      let selections ← write? loop.selections i selection
      return { selections, selected := selection.isSome, mapped }
  else return loop

/-- A race among the renderers of a type, by their scores `σ`. Of a leader `κ` is remembered. -/
structure RaceRules (σ κ : Type) where
  type : TrackType
  choose : MappedRenderer → Option (Option (Selection × σ))
  remember : Selection × σ → Option κ
  beats : σ → κ → Bool

structure Race (κ : Type) where
  selections : List (Option Selection)
  leader : Option (Nat × κ)

/-- The selections with that of the leader erased. -/
def Race.cleared? (race : Race κ) : Option (List (Option Selection)) :=
  match race.leader with
  | none => some race.selections
  | some (previous, _) => write? race.selections previous none

def Race.overtake? (rules : RaceRules σ κ) (race : Race κ) (i : Nat) (choice : Selection × σ) :
    Option (Race κ) := do
  let cleared ← race.cleared?
  let known ← rules.remember choice
  let selections ← write? cleared i (some choice.1)
  return { selections, leader := some (i, known) }

def Race.turn? (mapping : Mapping) (rules : RaceRules σ κ) (race : Race κ) (i : Nat) :
    Option (Race κ) := do
  let renderer ← mapping.renderers[i]?
  if renderer.trackType = rules.type then
    match ← rules.choose renderer with
    | none => return race
    | some choice =>
      if race.leader.all fun leader => rules.beats choice.2 leader.2 then
        race.overtake? rules i choice
      else return race
  else return race

/-- The race for audio, in which the language of the first selected format is remembered. -/
def audioRules (parameters : Parameters) (systemLanguages : List String) (allowAdaptive : Bool) :
    RaceRules AudioScore (AudioScore × Option String) where
  type := .audio
  choose renderer :=
    audio? parameters systemLanguages allowAdaptive renderer.trackGroups renderer.matrix
  remember choice := do
    let format ← choice.1.primaryFormat?
    return (choice.2, format.language)
  beats score leader := score.order leader.1 = .gt

def textRules (parameters : Parameters) (audioLanguage : Option String) :
    RaceRules TextScore TextScore where
  type := .text
  choose renderer := text? parameters audioLanguage renderer.trackGroups renderer.matrix
  remember choice := some choice.2
  beats score leader := score.order leader = .gt

/-- The selections of all renderers, before overrides and switches. -/
def computed? (mapping : Mapping) (parameters : Parameters) (systemLanguages : List String) :
    Option (List (Option Selection)) := do
  let turns := List.range mapping.renderers.length
  let empty := List.replicate mapping.renderers.length none
  let video ← turns.foldlM (VideoLoop.turn? mapping parameters) ⟨empty, false, false⟩
  let allowAdaptive := parameters.playback.multipleAdaptive || !video.mapped
  let audio ← turns.foldlM
    (Race.turn? mapping (audioRules parameters systemLanguages allowAdaptive))
    ⟨video.selections, none⟩
  let language := audio.leader.bind fun leader => leader.2.2
  let text ← turns.foldlM (Race.turn? mapping (textRules parameters language))
    ⟨audio.selections, none⟩
  eachRenderer? mapping fun i renderer => do
    let selection ← text.selections[i]?
    match renderer.trackType with
    | .video | .audio | .text => return selection
    | _ => other? parameters renderer.trackGroups renderer.matrix

/-! ## Places and their holders -/

section Places

variable {mapping : Mapping}

/-- The selections of all renderers, where at most one renderer of each type holds a selection. -/
def places (mapping : Mapping) (held : TrackType → Option (Nat × Selection)) :
    List (Option Selection) :=
  mapping.renderers.zipIdx.map fun entry => Pass.selectionAt entry.2 (held entry.1.trackType)

/-- The holders of video, audio and text, where no other type has a holder. -/
def holders (video audio text : Option (Nat × Selection)) :
    TrackType → Option (Nat × Selection)
  | .video => video
  | .audio => audio
  | .text => text
  | _ => none

theorem update_holders_video (video audio text choice : Option (Nat × Selection)) :
    Function.update (holders video audio text) .video choice = holders choice audio text := by
  funext type
  cases type <;> rfl

theorem update_holders_audio (video audio text choice : Option (Nat × Selection)) :
    Function.update (holders video audio text) .audio choice = holders video choice text := by
  funext type
  cases type <;> rfl

theorem update_holders_text (video audio text choice : Option (Nat × Selection)) :
    Function.update (holders video audio text) .text choice = holders video audio choice := by
  funext type
  cases type <;> rfl

theorem getElem?_places (mapping : Mapping) (held : TrackType → Option (Nat × Selection))
    (i : Nat) : (places mapping held)[i]? =
      mapping.renderers[i]?.map fun renderer => Pass.selectionAt i (held renderer.trackType) := by
  rw [places, List.getElem?_map, List.getElem?_zipIdx, Option.map_map, Nat.zero_add]
  rfl

theorem replicate_eq_places (mapping : Mapping) :
    List.replicate mapping.renderers.length none = places mapping (holders none none none) := by
  rw [eq_comm, List.eq_replicate_iff]
  refine ⟨by simp [places], ?_⟩
  intro selection mem
  obtain ⟨⟨renderer, _⟩, _, rfl⟩ := List.mem_map.mp mem
  cases renderer.trackType <;> rfl

theorem selectionAt_of_ne {i j : Nat} (apart : i ≠ j) {choice : Option (Nat × Selection)}
    (at_i : ∀ held ∈ choice, held.1 = i) : Pass.selectionAt j choice = none := by
  cases choice with
  | none => rfl
  | some held => simp [Pass.selectionAt, at_i held rfl, apart]

/-- Writing to the place of a renderer makes it the holder of its type, or leaves the type without a
holder, unless another renderer holds it. -/
theorem write?_places (held : TrackType → Option (Nat × Selection)) {i : Nat}
    {renderer : MappedRenderer} (here : mapping.renderers[i]? = some renderer)
    (free : ∀ choice ∈ held renderer.trackType, choice.1 = i) (selection : Option Selection) :
    write? (places mapping held) i selection =
      some (places mapping
        (Function.update held renderer.trackType (selection.map (i, ·)))) := by
  have inside : i < (places mapping held).length := by
    simpa [places] using (List.getElem?_eq_some_iff.mp here).1
  rw [write?, if_pos inside, Option.some.injEq]
  apply List.ext_getElem?
  intro j
  rw [getElem?_places]
  by_cases same : i = j
  · subst same
    rw [List.getElem?_set_self inside, here, Option.map_some, Function.update_self]
    cases selection <;> simp [Pass.selectionAt]
  · rw [List.getElem?_set_ne same, getElem?_places]
    refine Option.map_congr ?_
    intro other _
    by_cases type : other.trackType = renderer.trackType
    · -- neither the holder before nor the one afterwards is this renderer
      rw [type, Function.update_self, selectionAt_of_ne same free, selectionAt_of_ne same]
      intro choice mem
      obtain ⟨_, _, rfl⟩ := Option.map_eq_some_iff.mp mem
      rfl
    · rw [Function.update_of_ne type]

end Places

/-! ## What the loops leave -/

/-- A loop that keeps its state in the view of a simpler one takes the turns of the simpler one. -/
theorem foldlM_eq_some_foldl {α β γ : Type} {step : β → α → Option β} {view : γ → β}
    {next : γ → α → γ} {items : List α} (Good : γ → Prop)
    (turn : ∀ state, Good state → ∀ item ∈ items,
      step (view state) item = some (view (next state item)) ∧ Good (next state item))
    {start : γ} (good : Good start) :
    items.foldlM step (view start) = some (view (items.foldl next start)) := by
  induction items generalizing start with
  | nil => rfl
  | cons item rest ih =>
      obtain ⟨taken, kept⟩ := turn start good item List.mem_cons_self
      rw [List.foldlM_cons, taken, List.foldl_cons]
      exact ih (fun state good other mem => turn state good other (List.mem_cons_of_mem item mem))
        kept

variable {mapping : Mapping} {parameters : Parameters} {i : Nat} {renderer : MappedRenderer}

theorem range_eq_map_zipIdx (mapping : Mapping) :
    List.range mapping.renderers.length = mapping.renderers.zipIdx.map Prod.snd := by
  rw [List.zipIdx_map_snd, List.range_eq_range']

theorem foldlM_range_renderers (step : β → Nat → Option β) (start : β) :
    (List.range mapping.renderers.length).foldlM step start =
      mapping.renderers.zipIdx.foldlM (fun state entry => step state entry.2) start := by
  rw [range_eq_map_zipIdx, List.foldlM_map]

namespace VideoLoop

/-- The loop when a renderer holds video, or none does. -/
def heldBy (mapping : Mapping) (state : Option (Nat × Selection) × Bool) : VideoLoop where
  selections := places mapping (holders state.1 none none)
  selected := state.1.isSome
  mapped := state.2

/-- The first renderer that selects anything holds video. -/
def next (parameters : Parameters) (state : Option (Nat × Selection) × Bool)
    (entry : MappedRenderer × Nat) : Option (Nat × Selection) × Bool :=
  if entry.1.trackType = .video then
    (state.1.or ((VideoTrack.select? parameters entry.1.mixedMimeTypes true entry.1.groups).map
      (entry.2, ·)), state.2 || !entry.1.groups.isEmpty)
  else state

theorem turn?_heldBy (here : mapping.renderers[i]? = some renderer)
    (state : Option (Nat × Selection) × Bool) :
    (heldBy mapping state).turn? mapping parameters i =
      some (heldBy mapping (next parameters state (renderer, i))) := by
  obtain ⟨holder, mapped⟩ := state
  have groups : renderer.trackGroups.isEmpty = renderer.groups.isEmpty := by
    simp [MappedRenderer.trackGroups]
  have chosen := video?_eq parameters renderer.groups renderer.mixedMimeTypes true
  rw [turn?, here, Option.bind_eq_bind, Option.bind_some, next]
  by_cases video : renderer.trackType = .video
  · rw [if_pos video, if_pos video]
    cases holder with
    | some held => simp [heldBy, groups]
    | none =>
        have written := write?_places (holders none none none) here (by rw [video]; nofun)
          (VideoTrack.select? parameters renderer.mixedMimeTypes true renderer.groups)
        rw [video, update_holders_video] at written
        simp [heldBy, MappedRenderer.matrix, MappedRenderer.trackGroups, chosen, written]
  · rw [if_neg video, if_neg video]
    rfl

/-- In the end the first renderer that selects anything holds video. -/
theorem foldl_next (entries : List (MappedRenderer × Nat))
    (state : Option (Nat × Selection) × Bool) :
    entries.foldl (next parameters) state =
      (state.1.or (entries.filterMap fun entry =>
        if entry.1.trackType = .video then
          (VideoTrack.select? parameters entry.1.mixedMimeTypes true entry.1.groups).map
            (entry.2, ·)
        else none).head?,
      state.2 || entries.any fun entry =>
        entry.1.trackType = .video && !entry.1.groups.isEmpty) := by
  induction entries generalizing state with
  | nil => simp
  | cons entry rest ih =>
      rw [List.foldl_cons, ih, next]
      by_cases video : entry.1.trackType = .video
      · simp only [video, if_true, List.filterMap_cons, List.any_cons]
        cases VideoTrack.select? parameters entry.1.mixedMimeTypes true entry.1.groups with
        | none => simp [Bool.or_assoc]
        | some selection => simp [Bool.or_assoc]
      · simp [video]

theorem foldlM_turn? (mapping : Mapping) (parameters : Parameters) :
    (List.range mapping.renderers.length).foldlM (turn? mapping parameters)
        ⟨List.replicate mapping.renderers.length none, false, false⟩ =
      some (heldBy mapping (Pass.videoChoice? mapping parameters, Pass.hasVideo mapping)) := by
  have start : VideoLoop.mk (List.replicate mapping.renderers.length none) false false =
      heldBy mapping (none, false) := by
    rw [replicate_eq_places]
    rfl
  have turns : mapping.renderers.zipIdx.foldlM
      (fun loop entry => turn? mapping parameters loop entry.2) (heldBy mapping (none, false)) =
        some (heldBy mapping (mapping.renderers.zipIdx.foldl (next parameters) (none, false))) :=
    foldlM_eq_some_foldl (fun _ => True) (fun state _ entry mem =>
      ⟨turn?_heldBy (List.mem_zipIdx_iff_getElem?.mp mem) state, trivial⟩) trivial
  have given : (mapping.renderers.zipIdx.any fun entry =>
      entry.1.trackType = .video && !entry.1.groups.isEmpty) = Pass.hasVideo mapping := by
    have renderers := List.any_map (f := Prod.fst) (l := mapping.renderers.zipIdx)
      (p := fun given : MappedRenderer => given.trackType = .video && !given.groups.isEmpty)
    rw [List.zipIdx_map_fst] at renderers
    exact renderers.symm
  rw [foldlM_range_renderers, start, turns, foldl_next, given]
  rfl

end VideoLoop

/-! ### Races -/

/-- What the rules of a race come to on a mapping, where no read fails. -/
structure RaceRules.Follow (rules : RaceRules σ κ)
    (chosen : MappedRenderer → Option (Selection × σ)) (memory : Selection × σ → κ)
    (better : Nat × Selection × σ → Nat × Selection × σ → Bool) : Prop where
  choose : ∀ renderer, rules.choose renderer = some (chosen renderer)
  remember : ∀ renderer, ∀ choice ∈ chosen renderer, rules.remember choice = some (memory choice)
  beats : ∀ a b, rules.beats a.2.2 (memory b.2) = better a b

namespace Race

variable {rules : RaceRules σ κ} {chosen : MappedRenderer → Option (Selection × σ)}
  {memory : Selection × σ → κ} {better : Nat × Selection × σ → Nat × Selection × σ → Bool}
  {held : TrackType → Option (Nat × Selection)} {type : TrackType}
  {leader : Option (Nat × Selection × σ)}

/-- A race with a leader, or none. -/
def ledBy (mapping : Mapping) (type : TrackType) (memory : Selection × σ → κ)
    (held : TrackType → Option (Nat × Selection)) (leader : Option (Nat × Selection × σ)) :
    Race κ where
  selections := places mapping
    (Function.update held type (leader.map fun choice => (choice.1, choice.2.1)))
  leader := leader.map fun choice => (choice.1, memory choice.2)

/-- A leader is a renderer of the type that the race is for. -/
def Leads (mapping : Mapping) (type : TrackType) (leader : Option (Nat × Selection × σ)) : Prop :=
  ∀ choice ∈ leader, ∃ renderer, mapping.renderers[choice.1]? = some renderer ∧
    renderer.trackType = type

theorem cleared?_ledBy (leads : Leads mapping type leader) :
    (ledBy mapping type memory held leader).cleared? =
      some (places mapping (Function.update held type none)) := by
  cases leader with
  | none => rfl
  | some first =>
      obtain ⟨previous, there, same⟩ := leads first rfl
      have erased := write?_places (Function.update held type (some (first.1, first.2.1))) there
        (by simp [same]) none
      rw [same, Function.update_idem] at erased
      exact erased

theorem overtake?_ledBy (leads : Leads mapping rules.type leader)
    (here : mapping.renderers[i]? = some renderer) (same : renderer.trackType = rules.type)
    {choice : Selection × σ} (remembered : rules.remember choice = some (memory choice)) :
    (ledBy mapping rules.type memory held leader).overtake? rules i choice =
      some (ledBy mapping rules.type memory held (some (i, choice))) := by
  have written := write?_places (Function.update held rules.type none) here (by simp [same])
    (some choice.1)
  rw [same, Function.update_idem] at written
  rw [overtake?, cleared?_ledBy leads, remembered]
  simp [written, ledBy]

/-- What a renderer chooses, if it is of the type that the race is for. -/
def offer (type : TrackType) (chosen : MappedRenderer → Option (Selection × σ))
    (entry : MappedRenderer × Nat) : Option (Nat × Selection × σ) :=
  if entry.1.trackType = type then (chosen entry.1).map (entry.2, ·) else none

/-- One turn of a race is one turn of the search for the best. -/
theorem turn?_ledBy (follow : rules.Follow chosen memory better)
    (leads : Leads mapping rules.type leader) (here : mapping.renderers[i]? = some renderer) :
    (ledBy mapping rules.type memory held leader).turn? mapping rules i =
      some (ledBy mapping rules.type memory held
        ((offer rules.type chosen (renderer, i)).elim leader (keepBetter better leader))) := by
  rw [turn?, here, Option.bind_eq_bind, Option.bind_some, offer]
  by_cases same : renderer.trackType = rules.type
  · rw [if_pos same, if_pos same, follow.choose, Option.bind_eq_bind, Option.bind_some]
    cases found : chosen renderer with
    | none => rfl
    | some choice =>
        have taken : (ledBy mapping rules.type memory held leader).overtake? rules i choice =
            some (ledBy mapping rules.type memory held (some (i, choice))) :=
          overtake?_ledBy leads here same (follow.remember renderer choice found)
        cases leader with
        | none => exact taken
        | some first =>
            have beaten : ((ledBy mapping rules.type memory held (some first)).leader.all
                fun leader => rules.beats choice.2 leader.2) = better (i, choice) first :=
              follow.beats (i, choice) first
            simp only [beaten, Option.map_some, Option.elim_some, keepBetter]
            split
            · exact taken
            · rfl
  · rw [if_neg same, if_neg same]
    rfl

theorem leads_elim_keepBetter (leads : Leads mapping type leader)
    (here : mapping.renderers[i]? = some renderer) :
    Leads mapping type
      ((offer type chosen (renderer, i)).elim leader (keepBetter better leader)) := by
  rw [offer]
  by_cases same : renderer.trackType = type
  · rw [if_pos same]
    cases chosen renderer with
    | none => exact leads
    | some choice =>
        have new : Leads mapping type (some (i, choice)) := by
          rintro _ ⟨⟩
          exact ⟨renderer, here, same⟩
        cases leader with
        | none => exact new
        | some first =>
            simp only [Option.map_some, Option.elim_some, keepBetter]
            split
            · exact new
            · exact leads
  · rw [if_neg same]
    exact leads

/-- A race is the search for the best of what the renderers of its type choose. -/
theorem foldlM_turn? (mapping : Mapping) (follow : rules.Follow chosen memory better)
    (held : TrackType → Option (Nat × Selection)) (vacant : held rules.type = none) :
    (List.range mapping.renderers.length).foldlM (turn? mapping rules)
        ⟨places mapping held, none⟩ =
      some (ledBy mapping rules.type memory held
        (best? better (Pass.choices mapping rules.type chosen))) := by
  have start : Race.mk (places mapping held) none =
      ledBy mapping rules.type memory held none := by
    rw [ledBy, Option.map_none, Option.map_none, Function.update_eq_self_iff.mpr vacant.symm]
  have turns : mapping.renderers.zipIdx.foldlM (fun race entry => turn? mapping rules race entry.2)
      (ledBy mapping rules.type memory held none) =
        some (ledBy mapping rules.type memory held (mapping.renderers.zipIdx.foldl
          (fun leader entry =>
            (offer rules.type chosen entry).elim leader (keepBetter better leader)) none)) :=
    foldlM_eq_some_foldl (Leads mapping rules.type) (fun leader leads entry mem =>
      have here := List.mem_zipIdx_iff_getElem?.mp mem
      ⟨turn?_ledBy follow leads here, leads_elim_keepBetter leads here⟩) nofun
  have choices : Pass.choices mapping rules.type chosen =
      mapping.renderers.zipIdx.filterMap (offer rules.type chosen) := rfl
  rw [foldlM_range_renderers, start, turns, best?, choices, List.foldl_filterMap]
  congr 3
  funext leader entry
  cases offer rules.type chosen entry <;> rfl

end Race

/-- The first format of a selection can be read. -/
theorem exists_primaryFormat? {selection : Selection} {groups : List TrackGroup}
    (drawn : selection.DrawnFrom groups) : ∃ format, selection.primaryFormat? = some format := by
  unfold Selection.primaryFormat?
  cases first : selection.tracks.head? with
  | none => exact absurd (List.head?_eq_none_iff.mp first) drawn.nonempty
  | some track =>
      have inside := drawn.fitsIn.inside track (List.mem_of_head? first)
      exact ⟨_, List.getElem?_eq_getElem inside⟩

theorem follow_audioRules (parameters : Parameters) (systemLanguages : List String)
    (allowAdaptive : Bool) :
    (audioRules parameters systemLanguages allowAdaptive).Follow
      (fun renderer =>
        AudioTrack.select? parameters systemLanguages allowAdaptive renderer.groups)
      (fun choice => (choice.2, choice.1.primaryFormat?.bind Format.language))
      (fun a b => a.2.2.order b.2.2 = .gt) where
  choose renderer := audio?_eq parameters renderer.groups systemLanguages allowAdaptive
  remember renderer choice found := by
    obtain ⟨format, first⟩ := exists_primaryFormat? (AudioTrack.select?_drawnFrom found)
    simp [audioRules, first]
  beats _ _ := rfl

theorem follow_textRules (parameters : Parameters) (audioLanguage : Option String) :
    (textRules parameters audioLanguage).Follow
      (fun renderer => TextTrack.select? parameters audioLanguage renderer.groups)
      Prod.snd (fun a b => a.2.2.order b.2.2 = .gt) where
  choose renderer := text?_eq parameters renderer.groups audioLanguage
  remember _ _ _ := rfl
  beats _ _ := rfl

theorem eachRenderer?_eq {act : Nat → MappedRenderer → Option α} {result : MappedRenderer × Nat → α}
    (h : ∀ i renderer, mapping.renderers[i]? = some renderer →
      act i renderer = some (result (renderer, i))) :
    eachRenderer? mapping act = some (mapping.renderers.zipIdx.map result) := by
  rw [eachRenderer?, range_eq_map_zipIdx, List.mapM_map]
  refine mapM_eq_some_map ?_
  rintro ⟨renderer, i⟩ mem
  have here := List.mem_zipIdx_iff_getElem?.mp mem
  simp [here, h i renderer here]

section Computed

variable (mapping : Mapping) (parameters : Parameters) (systemLanguages : List String)

/-- The race for audio leaves the audio choice in its place. -/
theorem foldlM_audioRules (video : Option (Nat × Selection)) :
    (List.range mapping.renderers.length).foldlM (Race.turn? mapping
        (audioRules parameters systemLanguages (Pass.allowsAdaptiveAudio mapping parameters)))
        ⟨places mapping (holders video none none), none⟩ =
      let choice := Pass.audioChoice? mapping parameters systemLanguages
      some {
        selections := places mapping
          (holders video (choice.map fun audio => (audio.1, audio.2.1)) none)
        leader := choice.map fun audio =>
          (audio.1, audio.2.2, audio.2.1.primaryFormat?.bind Format.language) } := by
  rw [Race.foldlM_turn? mapping (follow_audioRules parameters systemLanguages _)
    (holders video none none) rfl, Race.ledBy]
  exact congrArg (fun held => some (Race.mk (places mapping held) _)) (update_holders_audio ..)

/-- The race for text leaves the text choice in its place. -/
theorem foldlM_textRules (video audio : Option (Nat × Selection)) (language : Option String) :
    (List.range mapping.renderers.length).foldlM
        (Race.turn? mapping (textRules parameters language))
        ⟨places mapping (holders video audio none), none⟩ =
      let choice := Pass.textChoice? mapping parameters language
      some {
        selections := places mapping
          (holders video audio (choice.map fun text => (text.1, text.2.1)))
        leader := choice.map fun text => (text.1, text.2.2) } := by
  rw [Race.foldlM_turn? mapping (follow_textRules parameters language)
    (holders video audio none) rfl, Race.ledBy]
  exact congrArg (fun held => some (Race.mk (places mapping held) _)) (update_holders_text ..)

/-- The loops leave the computed selections, and no position is out of range. -/
theorem computed?_eq :
    computed? mapping parameters systemLanguages =
      some (Pass.computed mapping parameters systemLanguages) := by
  have audio := foldlM_audioRules mapping parameters systemLanguages
    (Pass.videoChoice? mapping parameters)
  have language : ((Pass.audioChoice? mapping parameters systemLanguages).map fun audio =>
      (audio.1, audio.2.2, audio.2.1.primaryFormat?.bind Format.language)).bind
        (fun leader => leader.2.2) = Pass.audioLanguage mapping parameters systemLanguages := by
    rw [Option.bind_map]
    rfl
  rw [computed?, VideoLoop.foldlM_turn?]
  simp only [Option.bind_eq_bind, Option.bind_some]
  show ((List.range mapping.renderers.length).foldlM (Race.turn? mapping
    (audioRules parameters systemLanguages (Pass.allowsAdaptiveAudio mapping parameters)))
    ⟨places mapping (holders (Pass.videoChoice? mapping parameters) none none), none⟩).bind _ = _
  rw [audio, Option.bind_some, language, foldlM_textRules, Option.bind_some]
  refine eachRenderer?_eq ?_
  intro i renderer here
  rw [getElem?_places, here, Option.map_some, Option.bind_some]
  dsimp only
  cases renderer.trackType with
  | video | audio | text => rfl
  | none | unknown | metadata | cameraMotion => exact other?_eq parameters renderer.groups

end Computed

end Checked

end TrackSelection
