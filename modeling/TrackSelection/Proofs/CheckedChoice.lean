import TrackSelection.Proofs.Tracks

/-!
# Choices that read by position

The choices of the library take groups that come with the capabilities of each of their tracks. Here
groups and capabilities are separate lists again and everything is read by position: a group by its
index, a format and a capability by the index of the track, and a quotient only if its divisor is
not zero. An outer `none` is a read that failed. On lists that come from mapped groups no read
fails, and the choices are those of the library.
-/

namespace TrackSelection

/-! ## Computations that never fail -/

section Succeeding

variable {α β γ : Type}

theorem mapM_eq_some_map {f : α → Option β} {g : α → β} {items : List α}
    (h : ∀ item ∈ items, f item = some (g item)) : items.mapM f = some (items.map g) := by
  induction items with
  | nil => rfl
  | cons item rest ih =>
      have first := h item List.mem_cons_self
      have others := ih fun other mem => h other (List.mem_cons_of_mem item mem)
      simp [List.mapM_cons, first, others]

theorem filterM_eq_some_filter {p : α → Option Bool} {q : α → Bool} {items : List α}
    (h : ∀ item ∈ items, p item = some (q item)) : items.filterM p = some (items.filter q) := by
  have loop : ∀ kept, items.filterAuxM p kept = some ((items.filter q).reverse ++ kept) := by
    induction items with
    | nil => intro kept; rfl
    | cons item rest ih =>
        intro kept
        have first := h item List.mem_cons_self
        have others := ih fun other mem => h other (List.mem_cons_of_mem item mem)
        cases keep : q item <;> simp [List.filterAuxM, first, others, keep]
  simp [List.filterM, loop]

theorem findSomeM?_map_eq_some {view : α → γ} {f : γ → Option (Option β)} {g : α → Option β}
    {items : List α} (h : ∀ item ∈ items, f (view item) = some (g item)) :
    (items.map view).findSomeM? f = some (items.findSome? g) := by
  induction items with
  | nil => rfl
  | cons item rest ih =>
      have first := h item List.mem_cons_self
      have others := ih fun other mem => h other (List.mem_cons_of_mem item mem)
      cases found : g item <;> simp [List.findSomeM?, List.findSome?, first, others, found]

/-- Reading a list at the positions of some of its elements gives these elements. -/
theorem mapM_filter_range_getElem? (p : α → Bool) (items : List α) :
    ((List.range items.length).filter fun i => items[i]?.any p).mapM (items[·]?) =
      some (items.filter p) := by
  induction items with
  | nil => rfl
  | cons first rest ih =>
      have later : ((fun i => (first :: rest)[i]?) ∘ Nat.succ) = (rest[·]?) := by
        funext i
        simp
      have kept : ((fun i => (first :: rest)[i]?.any p) ∘ Nat.succ) = fun i => rest[i]?.any p := by
        funext i
        simp
      rw [List.length_cons, List.range_succ_eq_map, List.filter_cons, List.filter_map, kept]
      by_cases here : p first = true
      · simp [here, List.mapM_cons, List.mapM_map, later, ih]
      · simp [here, List.mapM_map, later, ih]

theorem mapM_range_getElem? (items : List α) :
    (List.range items.length).mapM (items[·]?) = some items := by
  have all : (List.range items.length).filter (fun i => items[i]?.any fun _ => true) =
      List.range items.length := by
    rw [List.filter_eq_self]
    intro i mem
    simp [List.mem_range.mp mem]
  have read := mapM_filter_range_getElem? (fun _ => true) items
  rwa [all, List.filter_eq_self.mpr fun _ _ => rfl] at read

end Succeeding

namespace Checked

/-! ## The viewport -/

def ceilDiv? (num den : UInt64) : Option UInt64 :=
  if den = 0 then none else some (Size.ceilDiv num den)

def scale? (dimension num den : UInt32) : Option UInt64 :=
  ceilDiv? (Size.product dimension num) den.toUInt64

def fitOn? (video surface : Size) : Option Size :=
  if Size.product video.height surface.width ≤ Size.product video.width surface.height then
    (scale? surface.width video.height video.width).map fun height =>
      ⟨surface.width, Size.clamp height⟩
  else
    (scale? surface.height video.width video.height).map fun width =>
      ⟨Size.clamp width, surface.height⟩

/-- The pixels of a format that fills the viewport. A format without area is passed over before
anything is divided by its dimensions. -/
def filling? (viewport : Viewport) (format : Format) : Option (Option Nat) :=
  match format.size? with
  | none => some none
  | some video =>
    if video.width = 0 ∨ video.height = 0 then some none
    else do
      let space ← fitOn? video (viewport.surfaceFor video)
      return if video.fills space then some video.pixels else none

def worthShowing? (viewport : Viewport) (group : TrackGroup) : Option (List Nat) :=
  let tracks := List.range group.size
  if !viewport.isSet then some tracks
  else do
    let filling ← group.formats.mapM (filling? viewport)
    match (filling.filterMap id).min? with
    | none => return tracks
    | some budget => tracks.filterM fun track => do
      let format ← group.formats[track]?
      return format.pixelCount.any (· ≤ budget)

theorem scale?_eq {den : UInt32} (dimension num : UInt32) (nonzero : den ≠ 0) :
    scale? dimension num den = some (Size.scale dimension num den) := by
  have divisor : den.toUInt64 ≠ 0 := by
    intro zero
    have same := congrArg UInt64.toNat zero
    rw [UInt32.toNat_toUInt64] at same
    exact nonzero (UInt32.toNat_inj.mp same)
  rw [scale?, ceilDiv?, if_neg divisor, Size.scale]

theorem fitOn?_eq {video : Size} (surface : Size) (area : ¬(video.width = 0 ∨ video.height = 0)) :
    fitOn? video surface = video.fitOn? surface := by
  obtain ⟨width, height⟩ := not_or.mp area
  rw [fitOn?, Size.fitOn?, if_neg area, scale?_eq _ _ width, scale?_eq _ _ height,
    Option.map_some, Option.map_some]

theorem filling?_eq (viewport : Viewport) (format : Format) :
    filling? viewport format = some (format.size?.bind viewport.filling?) := by
  unfold filling?
  cases format.size? with
  | none => rfl
  | some video =>
      by_cases area : video.width = 0 ∨ video.height = 0
      · simp [Viewport.filling?, Size.fitOn?_eq_none_iff.mpr area, area]
      · obtain ⟨space, fit⟩ : ∃ space, video.fitOn? (viewport.surfaceFor video) = some space :=
          Option.ne_none_iff_exists'.mp fun none => area (Size.fitOn?_eq_none_iff.mp none)
        simp [fitOn?_eq _ area, Viewport.filling?, area, fit]

/-- Filtering by the viewport reads and divides safely, for every group and every viewport. -/
theorem worthShowing?_eq (viewport : Viewport) (group : TrackGroup) :
    worthShowing? viewport group = some (viewport.worthShowing group) := by
  unfold worthShowing? Viewport.worthShowing
  dsimp only
  split
  · rfl
  · have filling := mapM_eq_some_map fun format (_ : format ∈ group.formats) =>
      filling?_eq viewport format
    have budget : (group.formats.map fun format => format.size?.bind viewport.filling?).filterMap id
        = group.formats.filterMap fun format => format.size?.bind viewport.filling? := by
      simp [List.filterMap_map]
    rw [filling]
    simp only [Option.bind_eq_bind, Option.bind_some, budget, Viewport.budget?]
    cases (group.formats.filterMap fun format => format.size?.bind viewport.filling?).min? with
    | none => rfl
    | some budget =>
        refine filterM_eq_some_filter ?_
        intro track mem
        have here := List.getElem?_eq_getElem (l := group.formats) (List.mem_range.mp mem)
        simp [here]

/-! ## Video -/

def qualifiesAt? (required : AdaptiveSupport) (video : VideoParameters) (group : TrackGroup)
    (row : List Capabilities) (mimeType : Option String) (track : Nat) : Option Bool := do
  let format ← group.formats[track]?
  let capabilities ← row[track]?
  return VideoTrack.qualifies required video mimeType (format, capabilities)

def commonMimeType? (required : AdaptiveSupport) (video : VideoParameters) (group : TrackGroup)
    (row : List Capabilities) (tracks : List Nat) : Option (Option String) := do
  let types ← tracks.mapM fun track => group.formats[track]?.map Format.sampleMimeType
  let counted ← types.eraseDups.mapM fun type => do
    let qualifying ← tracks.filterM (qualifiesAt? required video group row type)
    return (type, qualifying.length)
  return ((best? (fun a b => b.2 < a.2) (counted.filter fun entry => 0 < entry.2)).map
    Prod.fst).join

def adaptiveTracks? (required : AdaptiveSupport) (video : VideoParameters) (mix : Bool)
    (group : TrackGroup) (row : List Capabilities) : Option (List Nat) := do
  let visible := VideoTrack.atLeastTwo (← worthShowing? video.viewport group)
  let mimeType ← if mix then some none else commonMimeType? required video group row visible
  return VideoTrack.atLeastTwo (← visible.filterM (qualifiesAt? required video group row mimeType))

def selectAdaptive? (parameters : Parameters) (mixed : AdaptiveSupport) (groups : List TrackGroup)
    (matrix : CapabilityMatrix) : Option (Option Selection) :=
  let required := VideoTrack.requiredSupport parameters.video
  let mix := VideoTrack.mayMix parameters.video mixed
  groups.zipIdx.findSomeM? fun (group, groupIndex) => do
    let row ← matrix[groupIndex]?
    let tracks ← adaptiveTracks? required parameters.video mix group row
    return if tracks.isEmpty then none else some { groupIndex, group, tracks }

theorem qualifiesAt?_eq (required : AdaptiveSupport) (video : VideoParameters)
    {mapped : MappedGroup} (mimeType : Option String) {track : Nat}
    (inside : track < mapped.group.size) :
    qualifiesAt? required video mapped.group mapped.capabilities mimeType track =
      some (VideoTrack.qualifiesAt required video mapped mimeType track) := by
  obtain ⟨format, capabilities, here⟩ := MappedGroup.exists_tracks_of_lt inside
  obtain ⟨formatHere, capabilitiesHere⟩ := MappedGroup.getElem?_tracks.mp here
  simp [qualifiesAt?, VideoTrack.qualifiesAt, here, formatHere, capabilitiesHere]

theorem commonMimeType?_eq (required : AdaptiveSupport) (video : VideoParameters)
    {mapped : MappedGroup} {tracks : List Nat}
    (inside : ∀ track ∈ tracks, track < mapped.group.size) :
    commonMimeType? required video mapped.group mapped.capabilities tracks =
      some (VideoTrack.commonMimeType required video mapped tracks) := by
  have types : (tracks.mapM fun track => mapped.group.formats[track]?.map Format.sampleMimeType) =
      some (tracks.map fun track => mapped.group.formats[track]?.bind Format.sampleMimeType) := by
    refine mapM_eq_some_map ?_
    intro track mem
    have here := List.getElem?_eq_getElem (l := mapped.group.formats) (inside track mem)
    simp [here]
  have counted (types : List (Option String)) :
      (types.mapM fun type => do
        let qualifying ← tracks.filterM
          (qualifiesAt? required video mapped.group mapped.capabilities type)
        return (type, qualifying.length)) =
      some (types.map fun type =>
        (type, tracks.countP (VideoTrack.qualifiesAt required video mapped type))) := by
    refine mapM_eq_some_map ?_
    intro type _
    rw [filterM_eq_some_filter fun track mem =>
        qualifiesAt?_eq required video type (inside track mem),
      List.countP_eq_length_filter]
    rfl
  rw [commonMimeType?, types, Option.bind_eq_bind, Option.bind_some, counted]
  rfl

theorem adaptiveTracks?_eq (required : AdaptiveSupport) (video : VideoParameters) (mix : Bool)
    (mapped : MappedGroup) :
    adaptiveTracks? required video mix mapped.group mapped.capabilities =
      some (VideoTrack.adaptiveTracks required video mix mapped) := by
  have inside : ∀ track ∈ VideoTrack.atLeastTwo (video.viewport.worthShowing mapped.group),
      track < mapped.group.size := by
    intro track mem
    have shown := (VideoTrack.atLeastTwo_sublist _).subset mem
    exact List.mem_range.mp ((video.viewport.worthShowing_sublist mapped.group).subset shown)
  have qualifying (mimeType : Option String) :=
    filterM_eq_some_filter fun track mem =>
      qualifiesAt?_eq required video mimeType (inside track mem)
  cases mix with
  | true =>
      simp [adaptiveTracks?, worthShowing?_eq, VideoTrack.adaptiveTracks, qualifying]
  | false =>
      simp [adaptiveTracks?, worthShowing?_eq, VideoTrack.adaptiveTracks, qualifying,
        commonMimeType?_eq required video inside]

theorem selectAdaptive?_eq (parameters : Parameters) (mixed : AdaptiveSupport)
    (groups : List MappedGroup) :
    selectAdaptive? parameters mixed (groups.map MappedGroup.group)
        (groups.map MappedGroup.capabilities) =
      some (VideoTrack.selectAdaptive? parameters mixed groups) := by
  unfold selectAdaptive? VideoTrack.selectAdaptive?
  rw [List.zipIdx_map]
  refine findSomeM?_map_eq_some ?_
  rintro ⟨mapped, groupIndex⟩ mem
  have here := List.mem_zipIdx_iff_getElem?.mp mem
  simp [here, adaptiveTracks?_eq, VideoTrack.adaptiveSelection?]

/-! ## Single tracks -/

/-- The groups with their rows, every entry read by the positions of its group and its track. -/
def mappedGroups? (groups : List TrackGroup) (matrix : CapabilityMatrix) :
    Option (List MappedGroup) :=
  groups.zipIdx.mapM fun (group, groupIndex) => do
    let row ← matrix[groupIndex]?
    let capabilities ← (List.range group.size).mapM (row[·]?)
    return .padded group capabilities

/-- The selection of a track alone, with its group read by position. -/
def selection? (groups : List TrackGroup) (candidate : Candidate) : Option Selection := do
  let group ← groups[candidate.groupIndex]?
  return { groupIndex := candidate.groupIndex, group, tracks := [candidate.track] }

/-- The best single video track. Which tracks are worth showing is found out for every group. -/
def selectFixed? (parameters : Parameters) (groups : List TrackGroup) (matrix : CapabilityMatrix) :
    Option (Option Selection) := do
  let _ ← groups.mapM (worthShowing? parameters.video.viewport)
  let mapped ← mappedGroups? groups matrix
  (best? (VideoTrack.isBetter parameters)
    ((Candidate.all mapped).filter (VideoTrack.isEligible parameters))).mapM (selection? groups)

def video? (parameters : Parameters) (mixed : AdaptiveSupport) (allowAdaptive : Bool)
    (groups : List TrackGroup) (matrix : CapabilityMatrix) : Option (Option Selection) := do
  let adaptive ← if !parameters.forcesBitrate && allowAdaptive
    then selectAdaptive? parameters mixed groups matrix else some none
  match adaptive with
  | some selection => return some selection
  | none => selectFixed? parameters groups matrix

def audio? (parameters : Parameters) (systemLanguages : List String) (allowAdaptive : Bool)
    (groups : List TrackGroup) (matrix : CapabilityMatrix) :
    Option (Option (Selection × AudioScore)) := do
  let mapped ← mappedGroups? groups matrix
  (AudioTrack.bestTrack? parameters systemLanguages mapped).mapM fun (candidate, score) => do
    let group ← groups[candidate.groupIndex]?
    let row ← matrix[candidate.groupIndex]?
    let single ← selection? groups candidate
    let tracks := if !parameters.forcesBitrate && allowAdaptive
      then AudioTrack.adaptiveTracks parameters.audio (.padded group row) else []
    return (if 1 < tracks.length then { single with tracks := tracks } else single, score)

def text? (parameters : Parameters) (audioLanguage : Option String) (groups : List TrackGroup)
    (matrix : CapabilityMatrix) : Option (Option (Selection × TextScore)) := do
  let mapped ← mappedGroups? groups matrix
  (best? (fun a b => a.2.order b.2 = .gt)
    (TextTrack.eligible parameters audioLanguage mapped)).mapM fun (candidate, score) => do
      return (← selection? groups candidate, score)

def other? (parameters : Parameters) (groups : List TrackGroup) (matrix : CapabilityMatrix) :
    Option (Option Selection) := do
  let mapped ← mappedGroups? groups matrix
  (best? (fun a b => OtherTrack.score b < OtherTrack.score a)
    ((Candidate.all mapped).filter (OtherTrack.isEligible parameters))).mapM (selection? groups)

variable (parameters : Parameters) (groups : List MappedGroup)

theorem padded_eq (mapped : MappedGroup) :
    MappedGroup.padded mapped.group mapped.capabilities = mapped := by
  obtain ⟨group, capabilities, covers⟩ := mapped
  simp [MappedGroup.padded, ← covers]

theorem mappedGroups?_eq :
    mappedGroups? (groups.map MappedGroup.group) (groups.map MappedGroup.capabilities) =
      some groups := by
  have each : ∀ entry ∈ groups.zipIdx, ((fun (group, groupIndex) => do
      let row ← (groups.map MappedGroup.capabilities)[groupIndex]?
      let capabilities ← (List.range group.size).mapM (row[·]?)
      return MappedGroup.padded group capabilities) ∘ Prod.map MappedGroup.group id) entry =
        some entry.1 := by
    rintro ⟨mapped, groupIndex⟩ mem
    have here := List.mem_zipIdx_iff_getElem?.mp mem
    simp [here, ← mapped.covers, mapM_range_getElem?, padded_eq]
  unfold mappedGroups?
  rw [List.zipIdx_map, List.mapM_map, mapM_eq_some_map each, List.zipIdx_map_fst]

theorem selection?_eq {candidate : Candidate} (mem : candidate ∈ Candidate.all groups) :
    selection? (groups.map MappedGroup.group) candidate = some candidate.selection := by
  simp [selection?, (Candidate.mem_all.mp mem).1, Candidate.selection]

theorem selectFixed?_eq :
    selectFixed? parameters (groups.map MappedGroup.group) (groups.map MappedGroup.capabilities) =
      some (VideoTrack.selectFixed? parameters groups) := by
  have shown := mapM_eq_some_map fun group (_ : group ∈ groups.map MappedGroup.group) =>
    worthShowing?_eq parameters.video.viewport group
  simp only [selectFixed?, VideoTrack.selectFixed?, shown, mappedGroups?_eq, Option.bind_eq_bind,
    Option.bind_some]
  cases found : best? (VideoTrack.isBetter parameters)
      ((Candidate.all groups).filter (VideoTrack.isEligible parameters)) with
  | none => rfl
  | some candidate =>
      have mem := (List.mem_filter.mp (mem_of_best?_eq_some found)).1
      simp [Option.mapM_some, selection?_eq groups mem]

theorem video?_eq (mixed : AdaptiveSupport) (allowAdaptive : Bool) :
    video? parameters mixed allowAdaptive (groups.map MappedGroup.group)
        (groups.map MappedGroup.capabilities) =
      some (VideoTrack.select? parameters mixed allowAdaptive groups) := by
  simp only [video?, VideoTrack.select?, selectAdaptive?_eq, selectFixed?_eq]
  by_cases allowed : !parameters.forcesBitrate && allowAdaptive
  · simp only [allowed, if_true, Option.bind_eq_bind, Option.bind_some]
    cases VideoTrack.selectAdaptive? parameters mixed groups <;> rfl
  · simp [allowed]

theorem audio?_eq (systemLanguages : List String) (allowAdaptive : Bool) :
    audio? parameters systemLanguages allowAdaptive (groups.map MappedGroup.group)
        (groups.map MappedGroup.capabilities) =
      some (AudioTrack.select? parameters systemLanguages allowAdaptive groups) := by
  simp only [audio?, AudioTrack.select?, mappedGroups?_eq, Option.bind_eq_bind, Option.bind_some]
  cases found : AudioTrack.bestTrack? parameters systemLanguages groups with
  | none => rfl
  | some scored =>
      obtain ⟨candidate, score⟩ := scored
      have mem := (AudioTrack.mem_eligible.mp (AudioTrack.bestTrack?_mem found)).1
      have here := (Candidate.mem_all.mp mem).1
      simp only [Option.mapM_some, List.getElem?_map, here, selection?_eq groups mem, padded_eq,
        Option.map_some, Option.bind_some]
      generalize (if !parameters.forcesBitrate && allowAdaptive
        then AudioTrack.adaptiveTracks parameters.audio candidate.mapped else []) = tracks
      by_cases several : 1 < tracks.length <;> simp [several]

theorem text?_eq (audioLanguage : Option String) :
    text? parameters audioLanguage (groups.map MappedGroup.group)
        (groups.map MappedGroup.capabilities) =
      some (TextTrack.select? parameters audioLanguage groups) := by
  simp only [text?, TextTrack.select?, mappedGroups?_eq, Option.bind_eq_bind, Option.bind_some]
  cases found : best? (fun a b => a.2.order b.2 = .gt)
      (TextTrack.eligible parameters audioLanguage groups) with
  | none => rfl
  | some scored =>
      obtain ⟨candidate, score⟩ := scored
      have mem := TextTrack.candidate_mem_of_mem_eligible (mem_of_best?_eq_some found)
      simp [Option.mapM_some, selection?_eq groups mem]

theorem other?_eq :
    other? parameters (groups.map MappedGroup.group) (groups.map MappedGroup.capabilities) =
      some (OtherTrack.select? parameters groups) := by
  simp only [other?, OtherTrack.select?, mappedGroups?_eq, Option.bind_eq_bind, Option.bind_some]
  cases found : best? (fun a b => OtherTrack.score b < OtherTrack.score a)
      ((Candidate.all groups).filter (OtherTrack.isEligible parameters)) with
  | none => rfl
  | some candidate =>
      have mem := (List.mem_filter.mp (mem_of_best?_eq_some found)).1
      simp [Option.mapM_some, selection?_eq groups mem]

end Checked

end TrackSelection
