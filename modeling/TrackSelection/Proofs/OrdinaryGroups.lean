import Mathlib.Data.List.Basic
import TrackSelection.Proofs.FailedQuestions

/-!
# Groups that go the same way in every company

Groups are placed one after the other, and each placement is told which renderers have groups
already. Only metadata groups make use of that. Where any other group goes, and with which
capabilities, is known from the answers for it alone; it is where the group goes when there is no
other. Two runs over different groups therefore agree on each ordinary group that they share,
wherever it stands. From a mapping one can read off, without asking anybody again, the mapping of
some of its ordinary groups in any other order: each renderer has its entries in that order.
-/

namespace TrackSelection

/-! ## One group -/

namespace Offer

/-- An offer but for whether its renderer has a group. -/
def answer (offer : Offer) : Nat × MappedGroup :=
  (offer.renderer, offer.mapped)

theorem map_answer_all (used : List Nat) (answers : List MappedGroup) :
    (all used answers).map answer = answers.zipIdx.map Prod.swap := by
  rw [all, List.map_map]
  rfl

/-- The offer that gets a group without metadata is found by the answers. -/
theorem map_answer_choose? (offers : List Offer) :
    (choose? false offers).map answer =
      best? (fun a b => b.2.support < a.2.support)
        ((offers.map answer).filter fun entry => entry.2.support ≠ .unsupportedType) := by
  have alike (a b : Offer) :
      decide ((answer b).2.support < (answer a).2.support) = isBetter false a b := by
    rw [isBetter, Bool.false_and, Bool.false_and, Bool.false_and, Bool.or_false]
    rfl
  rw [choose?, List.filter_map, best?_map alike]
  rfl

end Offer

namespace Placement

variable {renderers : List Renderer} {group : TrackGroup}

theorem ofEntry_eq_elim (used : List Nat) (entry : TrackGroup × List MappedGroup) :
    ofEntry used entry =
      ((Offer.choose? (entry.1.trackType = .metadata) (Offer.all used entry.2)).map
        Offer.answer).elim (.unmapped entry.1) fun answer => .given answer.1 answer.2 := by
  rw [ofEntry]
  cases Offer.choose? (entry.1.trackType = .metadata) (Offer.all used entry.2) with
  | none => rfl
  | some offer => rfl

/-- One step: a group without metadata is placed regardless of the renderers that were used. -/
theorem ofEntry_eq_of_ordinary {entry : TrackGroup × List MappedGroup}
    (ordinary : entry.1.trackType ≠ .metadata) (used before : List Nat) :
    ofEntry used entry = ofEntry before entry := by
  have noMetadata : decide (entry.1.trackType = .metadata) = false := decide_eq_false ordinary
  rw [ofEntry_eq_elim, ofEntry_eq_elim, noMetadata, Offer.map_answer_choose?,
    Offer.map_answer_choose?, Offer.map_answer_all, Offer.map_answer_all]

/-- Where a group goes when there is no other; `none` if a renderer fails to answer. -/
def alone? (renderers : List Renderer) (group : TrackGroup) : Option Placement :=
  match renderers.mapM fun renderer => MappedGroup.query renderer group with
  | .ok answers => some (ofEntry [] (group, answers))
  | .error _ => none

theorem alone?_of_answered {answers : List MappedGroup}
    (answered : Answered renderers group answers) :
    alone? renderers group = some (ofEntry [] (group, answers)) := by
  rw [alone?, mapM_eq_ok_iff.mpr answered]

/-- Some groups have been placed one by one, and those without metadata where they go alone. -/
structure AsAlone (renderers : List Renderer) (groups : List TrackGroup)
    (placements : List Placement) : Prop where
  placed : placements.map Placement.group = groups
  ordinary : ∀ (j : Nat) (group : TrackGroup), groups[j]? = some group →
    group.trackType ≠ .metadata → placements[j]? = alone? renderers group

/-- The run: whatever came before it, a group without metadata is placed as if it were alone. -/
theorem asAlone_ofAnswers {answered : List (TrackGroup × List MappedGroup)}
    (asked : Asked renderers answered) :
    AsAlone renderers (answered.map Prod.fst) (ofAnswers [] answered) := by
  refine ⟨map_group_ofAnswers asked [], ?_⟩
  intro j group here ordinary
  rw [List.getElem?_map, Option.map_eq_some_iff] at here
  obtain ⟨entry, listed, rfl⟩ := here
  rw [getElem?_ofAnswers, listed, Option.map_some, ofEntry_eq_of_ordinary ordinary _ []]
  exact (alone?_of_answered (asked entry (List.mem_of_getElem? listed))).symm

namespace AsAlone

variable {groups : List TrackGroup} {placements : List Placement} {placement : Placement}

theorem alone?_of_mem (alone : AsAlone renderers groups placements) (mem : placement ∈ placements)
    (ordinary : placement.group.trackType ≠ .metadata) :
    alone? renderers placement.group = some placement := by
  obtain ⟨j, here⟩ := List.getElem?_of_mem mem
  have there : groups[j]? = some placement.group := by
    rw [← alone.placed, List.getElem?_map, here, Option.map_some]
  rw [← alone.ordinary j placement.group there ordinary]
  exact here

/-- Placements of one group are one placement. -/
theorem eq_of_group_eq {other : Placement} (alone : AsAlone renderers groups placements)
    (otherMem : other ∈ placements) (mem : placement ∈ placements)
    (same : other.group = placement.group) (ordinary : placement.group.trackType ≠ .metadata) :
    other = placement := by
  have known := alone.alone?_of_mem otherMem (same ▸ ordinary)
  rw [same, alone.alone?_of_mem mem ordinary] at known
  exact (Option.some.inj known).symm

theorem exists_mem (alone : AsAlone renderers groups placements) (listed : group ∈ groups) :
    ∃ placement ∈ placements, placement.group = group := by
  rw [← alone.placed] at listed
  exact List.mem_map.mp listed

/-- A renderer has the entry for a group exactly if it gets the group when that is alone. -/
theorem find?_givenTo? (alone : AsAlone renderers groups placements) (listed : group ∈ groups)
    (ordinary : group.trackType ≠ .metadata) (i : Nat) :
    (placements.filterMap (givenTo? i)).find? (fun entry => entry.group = group) =
      (alone? renderers group).bind (givenTo? i) := by
  obtain ⟨placement, mem, rfl⟩ := alone.exists_mem listed
  rw [alone.alone?_of_mem mem ordinary, Option.bind_some]
  cases found : (placements.filterMap (givenTo? i)).find?
      fun entry => entry.group = placement.group with
  | none =>
      rw [eq_comm, Option.eq_none_iff_forall_ne_some]
      intro entry given
      obtain rfl := givenTo?_eq_some_iff.mp given
      have entered := List.mem_filterMap.mpr ⟨_, mem, given⟩
      exact List.find?_eq_none.mp found entry entered (decide_eq_true rfl)
  | some entry =>
      have same : entry.group = placement.group := by simpa using List.find?_some found
      obtain ⟨other, otherMem, given⟩ :=
        List.mem_filterMap.mp (List.mem_of_find?_eq_some found)
      -- the entry comes from a placement of the same group, and so from this one
      obtain rfl := givenTo?_eq_some_iff.mp given
      rw [← alone.eq_of_group_eq otherMem mem same ordinary, given]

/-- A group is left unmapped exactly if it is when it is alone. -/
theorem alone?_bind_unmapped? (alone : AsAlone renderers groups placements)
    (listed : group ∈ groups) (ordinary : group.trackType ≠ .metadata) :
    (alone? renderers group).bind unmapped? =
      if group ∈ placements.filterMap unmapped? then some group else none := by
  obtain ⟨placement, mem, rfl⟩ := alone.exists_mem listed
  rw [alone.alone?_of_mem mem ordinary, Option.bind_some]
  split
  · rename_i left
    obtain ⟨other, otherMem, unmapped⟩ := List.mem_filterMap.mp left
    have same : other.group = placement.group := by
      rw [unmapped?_eq_some_iff.mp unmapped, group_unmapped]
    obtain rfl := alone.eq_of_group_eq otherMem mem same ordinary
    exact unmapped
  · rename_i notLeft
    rw [Option.eq_none_iff_forall_ne_some]
    intro group unmapped
    obtain rfl := unmapped?_eq_some_iff.mp unmapped
    exact notLeft (List.mem_filterMap.mpr ⟨_, mem, unmapped⟩)

/-- Without metadata all placements are known from their groups. -/
theorem filterMap_eq {β : Type} (alone : AsAlone renderers groups placements)
    (ordinary : ∀ group ∈ groups, group.trackType ≠ .metadata) (read : Placement → Option β) :
    placements.filterMap read =
      groups.filterMap fun group => (alone? renderers group).bind read := by
  have known : placements.map some = groups.map (alone? renderers) := by
    rw [← alone.placed, List.map_map]
    refine List.map_congr_left fun placement mem => ?_
    have listed : placement.group ∈ groups := by
      rw [← alone.placed]
      exact List.mem_map_of_mem mem
    exact (alone.alone?_of_mem mem (ordinary _ listed)).symm
  calc placements.filterMap read
    _ = (placements.map some).filterMap fun placement => placement.bind read := by
        rw [List.filterMap_map]
        rfl
    _ = groups.filterMap fun group => (alone? renderers group).bind read := by
        rw [known, List.filterMap_map]
        rfl

end AsAlone

end Placement

/-! ## Other orders -/

/-- The entries of a renderer, in the order of some groups. -/
def MappedRenderer.rearranged (renderer : MappedRenderer) (order : List TrackGroup) :
    MappedRenderer :=
  { renderer with
    groups := order.filterMap fun group => renderer.groups.find? fun entry => entry.group = group }

namespace Mapping

/-- A mapping of some groups, in their order, read off a mapping that has them all. -/
def rearranged (mapping : Mapping) (order : List TrackGroup) : Mapping where
  renderers := mapping.renderers.map fun renderer => renderer.rearranged order
  unmapped := order.filter fun group => group ∈ mapping.unmapped

/-- The placements say for each group, in order, where the mapping has it. -/
structure Records (mapping : Mapping) (groups : List TrackGroup) (placements : List Placement) :
    Prop where
  placed : placements.map Placement.group = groups
  bound : ∀ i entry, .given i entry ∈ placements → i < mapping.renderers.length
  given : ∀ i renderer, mapping.renderers[i]? = some renderer →
    renderer.groups = placements.filterMap (Placement.givenTo? i)
  unmapped : mapping.unmapped = placements.filterMap Placement.unmapped?

variable {renderers : List Renderer} {groups others : List TrackGroup} {mapping : Mapping}

theorem exists_records (assigned : assign renderers groups = .ok mapping) :
    ∃ placements, mapping.Records groups placements ∧
      Placement.AsAlone renderers groups placements := by
  have count := length_renderers_of_assign assigned
  obtain ⟨mixed, answered, _, rfl, asked, rfl⟩ := exists_of_assign_eq_ok assigned
  have alone := Placement.asAlone_ofAnswers asked
  refine ⟨_, ⟨alone.placed, ?_, ?_, rfl⟩, alone⟩
  · intro i entry mem
    obtain ⟨_, here, _⟩ := Placement.exists_query_of_mem_ofAnswers asked mem
    rw [count]
    exact (List.getElem?_eq_some_iff.mp here).1
  · intro i renderer here
    obtain ⟨_, _, _, rfl⟩ := getElem?_ofPlacements.mp here
    rfl

/-- Renderers that answered for some groups answer for any of them again. -/
theorem exists_assign_of_subset (assigned : assign renderers groups = .ok mapping)
    (subset : ∀ group ∈ others, group ∈ groups) :
    ∃ other, assign renderers others = .ok other := by
  cases found : assign renderers others with
  | ok other => exact ⟨other, rfl⟩
  | error error =>
      exfalso
      obtain ⟨question, first⟩ := exists_failsFirst_of_assign found
      cases first.fails with
      | mixedMimeTypes asked failed =>
          exact not_fails_of_assign assigned _ _ (.mixedMimeTypes asked failed)
      | capabilities about asked track failed =>
          obtain ⟨j, there⟩ := List.getElem?_of_mem (subset _ (List.mem_of_getElem? about))
          exact not_fails_of_assign assigned _ _ (.capabilities there asked track failed)

theorem ofPlacements_rearranged {pairs : List (Renderer × AdaptiveSupport)}
    {placements rest : List Placement} (alone : Placement.AsAlone renderers groups placements)
    (restAlone : Placement.AsAlone renderers others rest)
    (subset : ∀ group ∈ others, group ∈ groups ∧ group.trackType ≠ .metadata) :
    ofPlacements pairs rest = (ofPlacements pairs placements).rearranged others := by
  have ordinary : ∀ group ∈ others, group.trackType ≠ .metadata :=
    fun group mem => (subset group mem).2
  have given (i : Nat) : rest.filterMap (Placement.givenTo? i) =
      others.filterMap fun group =>
        (placements.filterMap (Placement.givenTo? i)).find? fun entry => entry.group = group := by
    rw [restAlone.filterMap_eq ordinary]
    refine List.filterMap_congr fun group mem => ?_
    exact (alone.find?_givenTo? (subset group mem).1 (ordinary group mem) i).symm
  have unmapped : rest.filterMap Placement.unmapped? =
      others.filter fun group => group ∈ placements.filterMap Placement.unmapped? := by
    rw [restAlone.filterMap_eq ordinary, ← List.filterMap_eq_filter]
    refine List.filterMap_congr fun group mem => ?_
    rw [alone.alone?_bind_unmapped? (subset group mem).1 (ordinary group mem), Option.guard]
    simp only [decide_eq_true_eq]
  simp only [ofPlacements, rearranged, MappedRenderer.rearranged, List.map_map, given, unmapped]
  rfl

theorem assign_eq_rearranged (assigned : assign renderers groups = .ok mapping)
    (subset : ∀ group ∈ others, group ∈ groups ∧ group.trackType ≠ .metadata) :
    assign renderers others = .ok (mapping.rearranged others) := by
  obtain ⟨other, assignedToo⟩ :=
    exists_assign_of_subset assigned fun group mem => (subset group mem).1
  rw [assignedToo]
  obtain ⟨mixed, answered, mixedFound, rfl, asked, rfl⟩ := exists_of_assign_eq_ok assigned
  obtain ⟨mixedToo, answeredToo, mixedFoundToo, rfl, askedToo, rfl⟩ :=
    exists_of_assign_eq_ok assignedToo
  -- the renderers say the same about MIME types in both runs
  have sameMixed : mixed = mixedToo :=
    List.map_injective_iff.mpr (fun _ _ same => Except.ok.inj same)
      (mixedFound.symm.trans mixedFoundToo)
  rw [← sameMixed, ofPlacements_rearranged (Placement.asAlone_ofAnswers asked)
    (Placement.asAlone_ofAnswers askedToo) subset]

/-- A mapping without metadata has the groups of each renderer in the order of the input. -/
theorem rearranged_eq_self (assigned : assign renderers groups = .ok mapping)
    (ordinary : ∀ group ∈ groups, group.trackType ≠ .metadata) :
    mapping.rearranged groups = mapping := by
  have again := assign_eq_rearranged assigned fun group mem => ⟨mem, ordinary group mem⟩
  exact Except.ok.inj (again.symm.trans assigned)

theorem perm_rearranged (assigned : assign renderers groups = .ok mapping)
    (ordinary : ∀ group ∈ groups, group.trackType ≠ .metadata) (perm : others.Perm groups) :
    (∀ renderer ∈ mapping.renderers, (renderer.rearranged others).groups.Perm renderer.groups) ∧
      (mapping.rearranged others).unmapped.Perm mapping.unmapped := by
  have self := rearranged_eq_self assigned ordinary
  constructor
  · have selves : mapping.renderers.map (fun renderer => renderer.rearranged groups) =
        mapping.renderers.map id := by
      rw [List.map_id]
      exact congrArg Mapping.renderers self
    intro renderer mem
    have entries : (renderer.rearranged groups).groups = renderer.groups :=
      congrArg MappedRenderer.groups (List.map_inj_left.mp selves renderer mem)
    rw [← entries]
    exact perm.filterMap _
  · have left : (mapping.rearranged groups).unmapped = mapping.unmapped :=
      congrArg Mapping.unmapped self
    rw [← left]
    exact perm.filter _

/-- Groups without metadata are placed regardless of all others. Two runs that succeed give each
such group to the same renderer with the same capabilities, or both leave it unmapped, wherever it
stands among the groups of the run. A run over some of the groups, in any order, succeeds and ends
with the entries of the first mapping, in that order; a run over all of them permutes the list of
each renderer. -/
theorem ordinary_placed_alike (assigned : assign renderers groups = .ok mapping) :
    (∃ placements, mapping.Records groups placements ∧
      ∀ others other, assign renderers others = .ok other →
        ∃ placements', other.Records others placements' ∧
          ∀ (j j' : Nat) (group : TrackGroup), groups[j]? = some group →
            others[j']? = some group → group.trackType ≠ .metadata →
              placements[j]? = placements'[j']?) ∧
    (∀ others, (∀ group ∈ others, group ∈ groups ∧ group.trackType ≠ .metadata) →
      assign renderers others = .ok (mapping.rearranged others)) ∧
    ∀ others, others.Perm groups → (∀ group ∈ groups, group.trackType ≠ .metadata) →
      assign renderers others = .ok (mapping.rearranged others) ∧
        (∀ renderer ∈ mapping.renderers,
          (renderer.rearranged others).groups.Perm renderer.groups) ∧
        (mapping.rearranged others).unmapped.Perm mapping.unmapped := by
  refine ⟨?_, fun others subset => assign_eq_rearranged assigned subset, ?_⟩
  · obtain ⟨placements, records, alone⟩ := exists_records assigned
    refine ⟨placements, records, ?_⟩
    intro others other assignedToo
    obtain ⟨placements', recordsToo, aloneToo⟩ := exists_records assignedToo
    refine ⟨placements', recordsToo, ?_⟩
    intro j j' group here there ordinary
    rw [alone.ordinary j group here ordinary, aloneToo.ordinary j' group there ordinary]
  · intro others perm ordinary
    refine ⟨assign_eq_rearranged assigned ?_, perm_rearranged assigned ordinary perm⟩
    intro group mem
    have listed := perm.mem_iff.mp mem
    exact ⟨listed, ordinary group listed⟩

namespace Sample

/-- Two renderers for the same metadata, and one for audio. -/
def company : List Renderer :=
  [playing .metadata "application/id3", playing .metadata "application/id3",
    playing .audio "audio/mp4a-latm"]

/-- Metadata before and after two groups of audio, and text that nobody plays. -/
def programme : List TrackGroup :=
  [single ⟨0⟩ "application/id3", single ⟨1⟩ "audio/mp4a-latm", single ⟨2⟩ "text/vtt",
    single ⟨3⟩ "audio/mp4a-latm", single ⟨4⟩ "application/id3"]

/-- The groups without metadata, in another order. -/
def excerpt : List TrackGroup :=
  [single ⟨3⟩ "audio/mp4a-latm", single ⟨2⟩ "text/vtt", single ⟨1⟩ "audio/mp4a-latm"]

end Sample

theorem ordinary_placed_alike_excerpt :
    (∀ group ∈ Sample.excerpt, group ∈ Sample.programme ∧ group.trackType ≠ .metadata) ∧
      ∃ mapping, assign Sample.company Sample.programme = .ok mapping ∧
        assign Sample.company Sample.excerpt = .ok (mapping.rearranged Sample.excerpt) ∧
        (mapping.rearranged Sample.excerpt).renderers.map MappedRenderer.trackGroups =
          [[], [], [Sample.single ⟨3⟩ "audio/mp4a-latm", Sample.single ⟨1⟩ "audio/mp4a-latm"]] ∧
        (mapping.rearranged Sample.excerpt).unmapped = [Sample.single ⟨2⟩ "text/vtt"] := by
  have subset : ∀ group ∈ Sample.excerpt,
      group ∈ Sample.programme ∧ group.trackType ≠ .metadata := by decide
  obtain ⟨_, some, _⟩ := @ordinary_placed_alike Sample.company Sample.programme _ rfl
  exact ⟨subset, _, rfl, some Sample.excerpt subset, by decide, by decide⟩

end Mapping

end TrackSelection
