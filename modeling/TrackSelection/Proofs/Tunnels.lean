import TrackSelection.Proofs.PassResults

/-!
# Tunnels

A renderer of audio or video qualifies for a tunnel when it selected something and supports
tunneling for every track of it. The search for the two renderers of a tunnel keeps one of each type
and gives up at the second. The list of all that qualify says the same without a search: there is a
tunnel exactly if it holds one audio and one video renderer. The main statement says what this means
for the configurations of a pass: a tunnel changes the configurations of these two, which are
enabled without it, and no others.
-/

namespace TrackSelection

namespace Tunneling

def IsOnly (p : Nat → Prop) (i : Nat) : Prop :=
  ∀ j, p j ↔ j = i

/-- The renderer at a position is of a type, and reports that it supports tunneling for every track
that it selected. -/
def Qualifies (mapping : Mapping) (selections : List (Option Selection)) (type : TrackType)
    (i : Nat) : Prop :=
  ∃ renderer selection, mapping.renderers[i]? = some renderer ∧ renderer.trackType = type ∧
    selections[i]? = some (some selection) ∧
    ∀ track ∈ selection.tracks, ∃ capabilities,
      mapping.capabilities? i selection.groupIndex track = some capabilities ∧
        capabilities.supportsTunneling = true

def supportsAt (mapping : Mapping) (i group track : Nat) : Bool :=
  (mapping.capabilities? i group track).any Capabilities.supportsTunneling

def qualifies (mapping : Mapping) (type : TrackType) (i : Nat) (selection : Option Selection) :
    Bool :=
  mapping.renderers[i]?.any (fun renderer => renderer.trackType = type) &&
    selection.any fun selection => selection.tracks.all (supportsAt mapping i selection.groupIndex)

/-- The renderers of a type that qualify, with the selections of those from a position on. -/
def qualifying (mapping : Mapping) (type : TrackType) (start : Nat)
    (selections : List (Option Selection)) : List Nat :=
  ((selections.zipIdx start).filter fun entry => qualifies mapping type entry.2 entry.1).map
    Prod.snd

/-- The only elements of two lists. -/
def onlyPair? : List Nat → List Nat → Option (Nat × Nat)
  | [a], [v] => some (a, v)
  | _, _ => none

variable {mapping : Mapping} {type : TrackType} {selections : List (Option Selection)} {i : Nat}

/-! ## Renderers that qualify -/

theorem qualifies_iff {selection : Option Selection}
    (here : selections[i]? = some selection) :
    qualifies mapping type i selection = true ↔ Qualifies mapping selections type i := by
  simp only [qualifies, supportsAt, Bool.and_eq_true, Option.any_eq_true, decide_eq_true_eq,
    List.all_eq_true]
  constructor
  · rintro ⟨⟨renderer, listed, same⟩, chosen, rfl, supported⟩
    exact ⟨renderer, chosen, listed, same, here, supported⟩
  · rintro ⟨renderer, chosen, listed, same, there, supported⟩
    obtain rfl := Option.some.inj (here.symm.trans there)
    exact ⟨⟨renderer, listed, same⟩, chosen, rfl, supported⟩

theorem mem_qualifying :
    i ∈ qualifying mapping type 0 selections ↔ Qualifies mapping selections type i := by
  simp only [qualifying, List.mem_map, List.mem_filter, Prod.exists, List.mem_zipIdx_iff_getElem?]
  constructor
  · rintro ⟨selection, _, ⟨here, qualified⟩, rfl⟩
    exact (qualifies_iff here).mp qualified
  · rintro ⟨renderer, selection, listed, same, here, supported⟩
    have qualified := (qualifies_iff here).mpr ⟨renderer, selection, listed, same, here, supported⟩
    exact ⟨some selection, i, ⟨here, qualified⟩, rfl⟩

theorem nodup_qualifying (start : Nat) : (qualifying mapping type start selections).Nodup := by
  have positions : ((selections.zipIdx start).map Prod.snd).Nodup := by
    rw [List.zipIdx_map_snd]
    exact List.nodup_range'
  exact positions.sublist (List.filter_sublist.map Prod.snd)

theorem qualifying_eq_singleton_iff :
    qualifying mapping type 0 selections = [i] ↔ IsOnly (Qualifies mapping selections type) i := by
  rw [← List.perm_singleton,
    List.perm_ext_iff_of_nodup (nodup_qualifying 0) (List.pairwise_singleton _ i)]
  simp only [mem_qualifying, List.mem_singleton]
  rfl

/-! ## The search for a pair -/

theorem onlyPair?_eq_some_iff {audio video : List Nat} {a v : Nat} :
    onlyPair? audio video = some (a, v) ↔ audio = [a] ∧ video = [v] := by
  unfold onlyPair?
  split
  · simp
  · rename_i other
    simp only [reduceCtorEq, false_iff]
    rintro ⟨rfl, rfl⟩
    exact other a v rfl rfl

theorem exists_capabilities? {renderer : MappedRenderer} {selection : Selection}
    (here : mapping.renderers[i]? = some renderer)
    (fits : selection.FitsIn renderer.trackGroups) :
    ∀ track ∈ selection.tracks,
      ∃ capabilities, mapping.capabilities? i selection.groupIndex track = some capabilities := by
  intro track mem
  obtain ⟨mapped, there, same⟩ := Option.map_eq_some_iff.mp
    ((List.getElem?_map ..).symm.trans fits.group)
  have inside : track < mapped.capabilities.length := by
    rw [mapped.covers, same]
    exact fits.inside track mem
  refine ⟨mapped.capabilities.get ⟨track, inside⟩, ?_⟩
  simp only [Mapping.capabilities?, Mapping.group?, here, there, Option.bind_some]
  exact List.getElem?_eq_getElem inside

/-- Asking track by track until one is not supported says whether all are. -/
theorem supports?_eq {group : Nat} {tracks : List Nat}
    (inside : ∀ track ∈ tracks,
      ∃ capabilities, mapping.capabilities? i group track = some capabilities) :
    supports? mapping i group tracks = some (tracks.all (supportsAt mapping i group)) := by
  induction tracks with
  | nil => rfl
  | cons track rest ih =>
      obtain ⟨capabilities, here⟩ := inside track List.mem_cons_self
      have others := ih fun other mem => inside other (List.mem_cons_of_mem track mem)
      simp only [supports?, here, List.all_cons, supportsAt, Option.any_some]
      cases supported : capabilities.supportsTunneling with
      | false => simp
      | true => simpa using others

theorem qualifying_cons (selection : Option Selection) (rest : List (Option Selection)) :
    qualifying mapping type i (selection :: rest) =
      if qualifies mapping type i selection then i :: qualifying mapping type (i + 1) rest
      else qualifying mapping type (i + 1) rest := by
  rw [qualifying, List.zipIdx_cons, List.filter_cons]
  dsimp only
  split <;> rfl

theorem qualifies_none : qualifies mapping type i none = false := by
  rw [qualifies, Option.any_none, Bool.and_false]

theorem qualifies_some {renderer : MappedRenderer} (here : mapping.renderers[i]? = some renderer)
    (selection : Selection) :
    qualifies mapping type i (some selection) =
      (decide (renderer.trackType = type) &&
        selection.tracks.all (supportsAt mapping i selection.groupIndex)) := by
  rw [qualifies, here, Option.any_some, Option.any_some]

theorem qualifies_video_of_audio {selection : Option Selection}
    (audio : qualifies mapping .audio i selection = true) :
    qualifies mapping .video i selection = false := by
  rw [qualifies, Bool.and_eq_true, Option.any_eq_true] at audio
  obtain ⟨⟨renderer, here, same⟩, _⟩ := audio
  rw [qualifies, here, Option.any_some, of_decide_eq_true same]
  rfl

/-- One step of the search: a renderer that qualifies is kept, unless one of its type was kept
before. -/
theorem pairFrom?_cons {renderer : MappedRenderer} {audio video : Option Nat}
    {selection : Option Selection} (here : mapping.renderers[i]? = some renderer)
    (fits : ∀ chosen, selection = some chosen → chosen.FitsIn renderer.trackGroups)
    (rest : List (Option Selection)) :
    pairFrom? mapping i audio video (selection :: rest) =
      if qualifies mapping .audio i selection then
        if audio.isSome then some none else pairFrom? mapping (i + 1) (some i) video rest
      else if qualifies mapping .video i selection then
        if video.isSome then some none else pairFrom? mapping (i + 1) audio (some i) rest
      else pairFrom? mapping (i + 1) audio video rest := by
  cases selection with
  | none => simp only [pairFrom?, here, qualifies_none, Bool.false_eq_true, if_false]
  | some chosen =>
      have asked := supports?_eq (exists_capabilities? here (fits chosen rfl))
      simp only [pairFrom?, here, asked, qualifies_some here]
      by_cases isAudio : renderer.trackType = .audio
      · cases chosen.tracks.all (supportsAt mapping i chosen.groupIndex) with
        | false => simp [isAudio]
        | true => simp [isAudio]
      · by_cases isVideo : renderer.trackType = .video
        · cases chosen.tracks.all (supportsAt mapping i chosen.groupIndex) with
          | false => simp [isVideo]
          | true => simp [isVideo]
        · simp [isAudio, isVideo]

theorem onlyPair?_cons_cons_right (audio : List Nat) (first second : Nat) (rest : List Nat) :
    onlyPair? audio (first :: second :: rest) = none := by
  unfold onlyPair?
  split
  · rename_i same
    cases same
  · rfl

/-- The search finds the only renderer of each type among the one that was kept and those that are
still to come. -/
theorem pairFrom?_eq {audio video : Option Nat}
    (length : i + selections.length = mapping.renderers.length)
    (fits : ∀ j renderer selection, mapping.renderers[i + j]? = some renderer →
      selections[j]? = some (some selection) → selection.FitsIn renderer.trackGroups) :
    pairFrom? mapping i audio video selections =
      some (onlyPair? (audio.toList ++ qualifying mapping .audio i selections)
        (video.toList ++ qualifying mapping .video i selections)) := by
  -- what was kept moves along with the position: a renderer that is kept leaves the second part of
  -- its list for the first
  induction selections generalizing i audio video with
  | nil => cases audio <;> cases video <;> rfl
  | cons selection rest ih =>
      rw [List.length_cons] at length
      obtain ⟨renderer, here⟩ : ∃ renderer, mapping.renderers[i]? = some renderer :=
        ⟨_, List.getElem?_eq_getElem (by omega)⟩
      have fitsHere : ∀ chosen, selection = some chosen →
          chosen.FitsIn renderer.trackGroups := by
        rintro chosen rfl
        exact fits 0 renderer chosen here rfl
      have next (audio video : Option Nat) : pairFrom? mapping (i + 1) audio video rest =
          some (onlyPair? (audio.toList ++ qualifying mapping .audio (i + 1) rest)
            (video.toList ++ qualifying mapping .video (i + 1) rest)) := by
        apply ih (by omega)
        intro j renderer selection there chosen
        rw [Nat.add_right_comm] at there
        exact fits (j + 1) renderer selection there chosen
      rw [pairFrom?_cons here fitsHere, qualifying_cons, qualifying_cons, next, next, next]
      cases isAudio : qualifies mapping .audio i selection with
      | true =>
          rw [qualifies_video_of_audio isAudio]
          cases audio with
          | none => rfl
          | some kept => rfl -- a second one of audio: the list has at least two
      | false =>
          cases isVideo : qualifies mapping .video i selection with
          | false => rfl
          | true =>
              cases video with
              | none => rfl
              | some kept =>
                  simp [onlyPair?_cons_cons_right]

theorem pair?_eq (length : selections.length = mapping.renderers.length)
    (fits : ∀ (i : Nat) (renderer : MappedRenderer) (selection : Selection),
      mapping.renderers[i]? = some renderer → selections[i]? = some (some selection) →
        selection.FitsIn renderer.trackGroups) :
    pair? mapping selections = some (onlyPair? (qualifying mapping .audio 0 selections)
      (qualifying mapping .video 0 selections)) := by
  apply pairFrom?_eq (by omega)
  intro j renderer selection here chosen
  rw [Nat.zero_add] at here
  exact fits j renderer selection here chosen

/-- There is a tunnel exactly if one renderer of each type qualifies. -/
theorem onlyPair?_qualifying_eq_some_iff {a v : Nat} :
    onlyPair? (qualifying mapping .audio 0 selections) (qualifying mapping .video 0 selections) =
        some (a, v) ↔
      IsOnly (Qualifies mapping selections .audio) a ∧
        IsOnly (Qualifies mapping selections .video) v := by
  rw [onlyPair?_eq_some_iff, qualifying_eq_singleton_iff, qualifying_eq_singleton_iff]

theorem IsOnly.unique {p : Nat → Prop} {j : Nat} (only : IsOnly p i) (alsoOnly : IsOnly p j) :
    i = j :=
  (alsoOnly i).mp ((only i).mpr rfl)

/-- A session joins two renderers in a tunnel: a session is given, and they are the only renderers
of audio and of video that qualify. -/
structure Joined (mapping : Mapping) (parameters : Parameters)
    (selections : List (Option Selection)) (session : UInt32) (a v : Nat) : Prop where
  session : parameters.playback.tunnelingSession = some session
  audio : IsOnly (Qualifies mapping selections .audio) a
  video : IsOnly (Qualifies mapping selections .video) v

theorem getElem?_configure (session : UInt32) (a v : Nat)
    (configurations : List (Option RendererConfiguration)) :
    (configure session (a, v) configurations)[i]? =
      if i = a ∨ i = v then
        configurations[i]?.map fun _ => some { tunnelingSession := some session }
      else configurations[i]? := by
  simp only [configure, List.getElem?_set', eq_comm (b := i)]
  cases configurations[i]? with
  | none => simp
  | some configuration =>
      by_cases second : i = v
      · rw [if_pos second, if_pos (Or.inr second : i = a ∨ i = v)]
        split <;> rfl
      · by_cases first : i = a
        · rw [if_neg second, if_pos first, if_pos (Or.inl first : i = a ∨ i = v)]
          rfl
        · rw [if_neg second, if_neg first, if_neg (not_or.mpr ⟨first, second⟩)]

end Tunneling

/-- The session that the renderer at a position tunnels with. -/
def Outcome.session? (outcome : Outcome) (i : Nat) : Option UInt32 :=
  outcome.configurations[i]?.join.bind RendererConfiguration.tunnelingSession

namespace Pass

open Tunneling

variable {mapping : Mapping} {parameters : Parameters} {systemLanguages : List String}
variable {selections : List (Option Selection)} {i : Nat} {renderer : MappedRenderer}

def enabled (mapping : Mapping) (parameters : Parameters) (selections : List (Option Selection)) :
    List (Option RendererConfiguration) :=
  (mapping.renderers.zip selections).zipIdx.map fun entry =>
    enable parameters entry.2 entry.1.1 entry.1.2

theorem run_configurations :
    (run mapping parameters systemLanguages).configurations =
      tunnel mapping parameters (run mapping parameters systemLanguages).selections
        (enabled mapping parameters (run mapping parameters systemLanguages).selections) := rfl

theorem getElem?_enabled {selection : Option Selection}
    (here : mapping.renderers[i]? = some renderer) (chosen : selections[i]? = some selection) :
    (enabled mapping parameters selections)[i]? =
      some (enable parameters i renderer selection) := by
  have both := List.getElem?_zip_eq_some (z := (_, _)).mpr ⟨here, chosen⟩
  simp only [enabled, List.getElem?_map, List.getElem?_zipIdx, both, Option.map_some, Nat.zero_add]

theorem enable_eq_some_iff {selection : Option Selection} {configuration : RendererConfiguration} :
    enable parameters i renderer selection = some configuration ↔
      configuration = {} ∧ parameters.disabledRenderers.contains i = false ∧
        (renderer.trackType = .none ∨ selection.isSome = true) := by
  unfold enable
  split
  · rename_i enabled
    simp only [Bool.and_eq_true, Bool.not_eq_true', Bool.or_eq_true, decide_eq_true_eq] at enabled
    rw [Option.some.injEq]
    exact ⟨fun same => ⟨same.symm, enabled⟩, fun made => made.1.symm⟩
  · rename_i off
    simp only [Bool.and_eq_true, Bool.not_eq_true', Bool.or_eq_true, decide_eq_true_eq] at off
    simp only [reduceCtorEq, false_iff]
    exact fun made => off made.2

/-- Without a tunnel no configuration has a session. -/
theorem tunnelingSession_of_enabled {configuration : RendererConfiguration}
    (here : (enabled mapping parameters selections)[i]? = some (some configuration)) :
    configuration.tunnelingSession = none := by
  simp only [enabled, List.getElem?_map, Option.map_eq_some_iff] at here
  obtain ⟨_, _, made⟩ := here
  rw [(enable_eq_some_iff.mp made).1]

/-! ## Setting up a tunnel -/

theorem tunnel_eq_of_joined {session : UInt32} {a v : Nat}
    {configurations : List (Option RendererConfiguration)}
    (found : pair? mapping selections = some (onlyPair? (qualifying mapping .audio 0 selections)
      (qualifying mapping .video 0 selections)))
    (joined : Joined mapping parameters selections session a v) :
    tunnel mapping parameters selections configurations =
      configure session (a, v) configurations := by
  have pair := onlyPair?_qualifying_eq_some_iff.mpr ⟨joined.audio, joined.video⟩
  rw [tunnel, joined.session, found, pair]

theorem tunnel_eq_of_not_joined {configurations : List (Option RendererConfiguration)}
    (found : pair? mapping selections = some (onlyPair? (qualifying mapping .audio 0 selections)
      (qualifying mapping .video 0 selections)))
    (apart : ∀ session a v, ¬ Joined mapping parameters selections session a v) :
    tunnel mapping parameters selections configurations = configurations := by
  unfold tunnel
  split
  · rename_i session pair given chosen
    rw [found, Option.some.injEq] at chosen
    obtain ⟨audio, video⟩ := onlyPair?_qualifying_eq_some_iff.mp chosen
    exact absurd ⟨given, audio, video⟩ (apart session pair.1 pair.2)
  · rfl

theorem pair?_run :
    pair? mapping (run mapping parameters systemLanguages).selections =
      some (onlyPair?
        (qualifying mapping .audio 0 (run mapping parameters systemLanguages).selections)
        (qualifying mapping .video 0 (run mapping parameters systemLanguages).selections)) :=
  pair?_eq length_selections fun _ _ _ here chosen => selections_fitsIn here chosen

theorem run_configurations_of_joined {session : UInt32} {a v : Nat}
    (joined : Joined mapping parameters (run mapping parameters systemLanguages).selections
      session a v) :
    (run mapping parameters systemLanguages).configurations =
      configure session (a, v)
        (enabled mapping parameters (run mapping parameters systemLanguages).selections) :=
  tunnel_eq_of_joined pair?_run joined

theorem run_configurations_of_not_joined
    (apart : ∀ session a v, ¬ Joined mapping parameters
      (run mapping parameters systemLanguages).selections session a v) :
    (run mapping parameters systemLanguages).configurations =
      enabled mapping parameters (run mapping parameters systemLanguages).selections :=
  tunnel_eq_of_not_joined pair?_run apart

/-- A renderer that is switched off has no selection, whatever was computed or asked for. -/
theorem contains_eq_false_of_selections {selection : Selection}
    (here : mapping.renderers[i]? = some renderer)
    (found : (run mapping parameters systemLanguages).selections[i]? = some (some selection)) :
    parameters.disabledRenderers.contains i = false := by
  obtain ⟨computed, _, settled⟩ :=
    @getElem?_selections mapping parameters systemLanguages i renderer here
  have same := Option.some.inj (found.symm.trans settled)
  cases off : parameters.disabledRenderers.contains i with
  | false => rfl
  | true =>
      rw [settle, if_pos off] at same
      cases same

/-- The renderers of a tunnel are enabled without it. -/
theorem enabled_of_qualifies {type : TrackType}
    (qualified : Qualifies mapping (run mapping parameters systemLanguages).selections type i) :
    (enabled mapping parameters (run mapping parameters systemLanguages).selections)[i]? =
      some (some {}) := by
  obtain ⟨renderer, selection, here, _, chosen, _⟩ := qualified
  rw [getElem?_enabled here chosen]
  have on := contains_eq_false_of_selections here chosen
  exact congrArg some (enable_eq_some_iff.mpr ⟨rfl, on, .inr rfl⟩)

theorem enabled_of_joined {session : UInt32} {a v : Nat}
    (joined : Joined mapping parameters (run mapping parameters systemLanguages).selections
      session a v) (inTunnel : i = a ∨ i = v) :
    (enabled mapping parameters (run mapping parameters systemLanguages).selections)[i]? =
      some (some {}) := by
  rcases inTunnel with rfl | rfl
  · exact enabled_of_qualifies ((joined.audio i).mpr rfl)
  · exact enabled_of_qualifies ((joined.video i).mpr rfl)

/-! ## The configurations of a pass -/

/-- The configuration of a renderer is that of the tunnel, if it is in one, and else the one without
a tunnel. -/
theorem getElem?_run_configurations (mapping : Mapping) (parameters : Parameters)
    (systemLanguages : List String) (i : Nat) :
    (∃ session a v, Joined mapping parameters (run mapping parameters systemLanguages).selections
        session a v ∧ (i = a ∨ i = v) ∧
        (run mapping parameters systemLanguages).configurations[i]? =
          some (some { tunnelingSession := some session })) ∨
      (∀ session a v, Joined mapping parameters
        (run mapping parameters systemLanguages).selections session a v → ¬ (i = a ∨ i = v)) ∧
        (run mapping parameters systemLanguages).configurations[i]? =
          (enabled mapping parameters (run mapping parameters systemLanguages).selections)[i]? := by
  by_cases tunneled : ∃ session a v, Joined mapping parameters
      (run mapping parameters systemLanguages).selections session a v
  · obtain ⟨session, a, v, joined⟩ := tunneled
    rw [run_configurations_of_joined joined, getElem?_configure]
    by_cases inTunnel : i = a ∨ i = v
    · left
      -- the place to write to is there, since the renderer is enabled without the tunnel
      rw [if_pos inTunnel, enabled_of_joined joined inTunnel]
      exact ⟨session, a, v, joined, inTunnel, rfl⟩
    · right
      rw [if_neg inTunnel]
      refine ⟨?_, rfl⟩
      intro _ b w other
      rw [other.audio.unique joined.audio, other.video.unique joined.video]
      exact inTunnel
  · have apart : ∀ session a v, ¬ Joined mapping parameters
        (run mapping parameters systemLanguages).selections session a v :=
      fun session a v joined => tunneled ⟨session, a, v, joined⟩
    right
    rw [run_configurations_of_not_joined apart]
    exact ⟨fun session a v joined => absurd joined (apart session a v), rfl⟩

theorem session?_run_iff {session : UInt32} :
    (run mapping parameters systemLanguages).session? i = some session ↔
      ∃ a v, Joined mapping parameters (run mapping parameters systemLanguages).selections
        session a v ∧ (i = a ∨ i = v) := by
  rcases getElem?_run_configurations mapping parameters systemLanguages i with
    ⟨given, a, v, joined, inTunnel, here⟩ | ⟨outside, here⟩
  · rw [Outcome.session?, here]
    constructor
    · intro same
      obtain rfl : given = session := Option.some.inj same
      exact ⟨a, v, joined, inTunnel⟩
    · rintro ⟨_, _, other, _⟩
      exact joined.session.symm.trans other.session
  · rw [Outcome.session?, here]
    constructor
    · intro given
      obtain ⟨configuration, made, tunneling⟩ := Option.bind_eq_some_iff.mp given
      rw [tunnelingSession_of_enabled (Option.join_eq_some_iff.mp made)] at tunneling
      cases tunneling
    · rintro ⟨a, v, joined, inTunnel⟩
      exact absurd inTunnel (outside session a v joined)

/-- Either nothing tunnels, or one audio and one video renderer do. -/
theorem session?_run_eq_none_or :
    (∀ i, (run mapping parameters systemLanguages).session? i = none) ∨
      ∃ a v audio video,
        mapping.renderers[a]? = some audio ∧ audio.trackType = .audio ∧
        mapping.renderers[v]? = some video ∧ video.trackType = .video ∧
        ∀ i, ((run mapping parameters systemLanguages).session? i).isSome = true ↔
          i = a ∨ i = v := by
  by_cases tunneled : ∃ session a v, Joined mapping parameters
      (run mapping parameters systemLanguages).selections session a v
  · obtain ⟨session, a, v, joined⟩ := tunneled
    obtain ⟨audio, _, audioHere, isAudio, _⟩ := (joined.audio a).mpr rfl
    obtain ⟨video, _, videoHere, isVideo, _⟩ := (joined.video v).mpr rfl
    refine .inr ⟨a, v, audio, video, audioHere, isAudio, videoHere, isVideo, ?_⟩
    intro i
    rw [Option.isSome_iff_exists]
    constructor
    · rintro ⟨given, here⟩
      obtain ⟨b, w, other, inTunnel⟩ := session?_run_iff.mp here
      rwa [other.audio.unique joined.audio, other.video.unique joined.video] at inTunnel
    · intro inTunnel
      exact ⟨session, session?_run_iff.mpr ⟨a, v, joined, inTunnel⟩⟩
  · left
    intro i
    rw [Option.eq_none_iff_forall_ne_some]
    intro session here
    obtain ⟨a, v, joined, _⟩ := session?_run_iff.mp here
    exact tunneled ⟨session, a, v, joined⟩

/-- A tunnel enables no renderer, and switches none off. -/
theorem exists_configuration_run_iff (here : mapping.renderers[i]? = some renderer) :
    (∃ configuration,
        (run mapping parameters systemLanguages).configurations[i]? = some (some configuration)) ↔
      parameters.disabledRenderers.contains i = false ∧
        (renderer.trackType = .none ∨ ∃ selection,
          (run mapping parameters systemLanguages).selections[i]? = some (some selection)) := by
  obtain ⟨computed, _, settled⟩ :=
    @getElem?_selections mapping parameters systemLanguages i renderer here
  have plain : (∃ configuration, (enabled mapping parameters
        (run mapping parameters systemLanguages).selections)[i]? = some (some configuration)) ↔
      parameters.disabledRenderers.contains i = false ∧
        (renderer.trackType = .none ∨ ∃ selection,
          (run mapping parameters systemLanguages).selections[i]? = some (some selection)) := by
    have there : (run mapping parameters systemLanguages).selections[i]? = _ := settled
    rw [getElem?_enabled here there, there]
    simp only [Option.some.injEq, enable_eq_some_iff, exists_eq_left, Option.isSome_iff_exists]
  rw [← plain]
  rcases getElem?_run_configurations mapping parameters systemLanguages i with
    ⟨session, a, v, joined, inTunnel, tunneling⟩ | ⟨_, same⟩
  · rw [tunneling, enabled_of_joined joined inTunnel]
    exact iff_of_true ⟨_, rfl⟩ ⟨_, rfl⟩
  · rw [same]

theorem length_configurations :
    (run mapping parameters systemLanguages).configurations.length = mapping.renderers.length := by
  have plain : (enabled mapping parameters
      (run mapping parameters systemLanguages).selections).length = mapping.renderers.length := by
    simp [enabled, run]
  rw [run_configurations, tunnel]
  split
  · rw [configure, List.length_set, List.length_set, plain]
  · exact plain

/-- A tunnel is all or nothing. A renderer has a session exactly if one is given and it is the only
renderer of audio or the only one of video that qualifies, where both exist; so either nothing
tunnels, or one audio and one video renderer do. A configuration is there exactly for the renderers
that are not switched off and have something to play, or need nothing to play. -/
theorem run_tunnels (mapping : Mapping) (parameters : Parameters) (systemLanguages : List String) :
    (run mapping parameters systemLanguages).configurations.length = mapping.renderers.length ∧
      (∀ i session, (run mapping parameters systemLanguages).session? i = some session ↔
        ∃ a v, Joined mapping parameters (run mapping parameters systemLanguages).selections
          session a v ∧ (i = a ∨ i = v)) ∧
      ((∀ i, (run mapping parameters systemLanguages).session? i = none) ∨
        ∃ a v audio video,
          mapping.renderers[a]? = some audio ∧ audio.trackType = .audio ∧
          mapping.renderers[v]? = some video ∧ video.trackType = .video ∧
          ∀ i, ((run mapping parameters systemLanguages).session? i).isSome = true ↔
            i = a ∨ i = v) ∧
      ∀ i renderer, mapping.renderers[i]? = some renderer →
        ((∃ configuration, (run mapping parameters systemLanguages).configurations[i]? =
            some (some configuration)) ↔
          parameters.disabledRenderers.contains i = false ∧
            (renderer.trackType = .none ∨ ∃ selection,
              (run mapping parameters systemLanguages).selections[i]? =
                some (some selection))) := by
  refine ⟨length_configurations, ?_, session?_run_eq_none_or, ?_⟩
  · intro i session
    exact session?_run_iff
  · intro i renderer here
    exact exists_configuration_run_iff here

namespace Sample

/-- A renderer of a type that can tunnel the one track it was given, if any. -/
def tunneling (type : TrackType) (tracks : List Format) : MappedRenderer where
  name := "renderer"
  trackType := type
  mixedMimeTypes := .notSupported
  groups := tracks.map fun format =>
    ⟨⟨⟨0⟩, [format], List.cons_ne_nil _ _⟩, [{ format := .handled, tunneling := .supported }], rfl⟩

/-- Video and audio, metadata that cannot be part of a tunnel, and two renderers without tracks. -/
def theatre : Mapping where
  renderers := [tunneling .video [{}], tunneling .audio [{}], tunneling .metadata [{}],
    tunneling .none [], tunneling .none []]
  unmapped := []

/-- A session is given, and the last renderer of the theatre is switched off. -/
def evening : Parameters where
  playback := { tunnelingSession := some 7 }
  disabledRenderers := IndexSet.empty.insert 4

end Sample

theorem run_tunnels_theatre :
    (run Sample.theatre Sample.evening []).configurations =
        [some { tunnelingSession := some 7 }, some { tunnelingSession := some 7 }, some {},
          some {}, none] ∧
      (∃ a v, Joined Sample.theatre Sample.evening
        (run Sample.theatre Sample.evening []).selections 7 a v ∧ (0 = a ∨ 0 = v)) ∧
      (∃ configuration, (run Sample.theatre Sample.evening []).configurations[3]? =
        some (some configuration)) ∧
      ¬ ∃ configuration, (run Sample.theatre Sample.evening []).configurations[4]? =
        some (some configuration) := by
  have all : (run Sample.theatre Sample.evening []).configurations =
      [some { tunnelingSession := some 7 }, some { tunnelingSession := some 7 }, some {},
        some {}, none] := by decide
  obtain ⟨_, sessions, _, present⟩ := run_tunnels Sample.theatre Sample.evening []
  have tunneled : (run Sample.theatre Sample.evening []).session? 0 = some 7 := by
    rw [Outcome.session?, all]
    rfl
  refine ⟨all, (sessions 0 7).mp tunneled, ?_, ?_⟩
  · exact (present 3 _ rfl).mpr ⟨by decide, .inl rfl⟩
  · rw [present 4 _ rfl]
    exact fun on => absurd on.1 (by decide)

end Pass

end TrackSelection
