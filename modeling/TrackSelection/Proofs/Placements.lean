import TrackSelection.Proofs.CheckedPass

/-!
# Where groups go

Every renderer is asked about every track, and then the groups are placed one after the other. The
lemmas here take both steps apart. A placement depends on the answers for its own group and on the
renderers that earlier placements used, and on nothing else; and what it hands on is the answer of
the renderer that it names. The main statement is that a mapping splits the groups of the input:
each of them has one place, the groups of a place stand in the order of the input, and the
capabilities beside them are those that the renderer of the place reported.
-/

namespace TrackSelection

theorem bind_eq_ok_iff {x : Except ε α} {f : α → Except ε β} {result : β} :
    (x >>= f) = .ok result ↔ ∃ a, x = .ok a ∧ f a = .ok result := by
  cases x with
  | error e => simp [bind, Except.bind]
  | ok a => simp [bind, Except.bind]

/-- A list of questions is answered when each of them is. -/
theorem mapM_eq_ok_iff {f : α → Except ε β} {items : List α} {results : List β} :
    items.mapM f = .ok results ↔ items.map f = results.map .ok := by
  induction items generalizing results with
  | nil =>
      rw [List.mapM_nil, List.map_nil, eq_comm (a := []), List.map_eq_nil_iff]
      exact ⟨fun same => (Except.ok.inj same).symm, fun same => same ▸ rfl⟩
  | cons item rest ih =>
      simp only [List.mapM_cons, bind_eq_ok_iff, ih, List.map_cons]
      constructor
      · rintro ⟨result, first, others, found, same⟩
        obtain rfl := Except.ok.inj same
        rw [List.map_cons, first, found]
      · intro same
        cases results with
        | nil => cases same
        | cons result others =>
            obtain ⟨first, found⟩ := List.cons.inj same
            exact ⟨result, first, others, found, rfl⟩

theorem exists_item_of_map_eq_ok {f : α → Except ε β} {items : List α} {results : List β}
    (answered : items.map f = results.map .ok) {i : Nat} {result : β}
    (here : results[i]? = some result) : ∃ item, items[i]? = some item ∧ f item = .ok result := by
  have same := congrArg (fun list => list[i]?) answered
  simpa [here] using same

theorem exists_result_of_map_eq_ok {f : α → Except ε β} {items : List α} {results : List β}
    (answered : items.map f = results.map .ok) {i : Nat} {item : α}
    (here : items[i]? = some item) : ∃ result, results[i]? = some result ∧ f item = .ok result := by
  have same := congrArg (fun list => list[i]?) answered
  rw [List.getElem?_map, List.getElem?_map, here, Option.map_some, eq_comm,
    Option.map_eq_some_iff] at same
  obtain ⟨result, there, answer⟩ := same
  exact ⟨result, there, answer.symm⟩

theorem exists_item_mem_of_map_eq_ok {f : α → Except ε β} {items : List α} {results : List β}
    (answered : items.map f = results.map .ok) {result : β} (mem : result ∈ results) :
    ∃ item ∈ items, f item = .ok result := by
  have listed : Except.ok result ∈ items.map f := answered ▸ List.mem_map_of_mem mem
  exact List.mem_map.mp listed

theorem exists_result_mem_of_map_eq_ok {f : α → Except ε β} {items : List α} {results : List β}
    (answered : items.map f = results.map .ok) {item : α} (mem : item ∈ items) :
    ∃ result ∈ results, f item = .ok result := by
  have listed : f item ∈ results.map .ok := answered ▸ List.mem_map_of_mem mem
  obtain ⟨result, found, same⟩ := List.mem_map.mp listed
  exact ⟨result, found, same.symm⟩

/-- Questions that can be read off their answers are known from the list of answers. -/
theorem map_eq_of_map_eq_ok {f : α → Except ε β} {question : β → α}
    (readable : ∀ item result, f item = .ok result → question result = item) {items : List α}
    {results : List β} (answered : items.map f = results.map .ok) :
    results.map question = items := by
  induction items generalizing results with
  | nil =>
      rw [List.map_nil, eq_comm, List.map_eq_nil_iff] at answered
      rw [answered, List.map_nil]
  | cons item rest ih =>
      cases results with
      | nil => cases answered
      | cons result others =>
          obtain ⟨first, found⟩ := List.cons.inj answered
          rw [List.map_cons, readable item result first, ih found]

/-- What a renderer was asked about a group, and what it answered. -/
theorem MappedGroup.query_eq_ok_iff {renderer : Renderer} {group : TrackGroup}
    {mapped : MappedGroup} :
    query renderer group = .ok mapped ↔
      mapped.group = group ∧
        group.formats.map renderer.capabilities = mapped.capabilities.map .ok := by
  rw [← mapM_eq_ok_iff]
  obtain ⟨other, capabilities, covers⟩ := mapped
  unfold query
  split
  · rename_i e failed
    simp [failed]
  · rename_i answered succeeded
    constructor
    · intro same
      cases same
      exact ⟨rfl, succeeded⟩
    · rintro ⟨rfl, same⟩
      obtain rfl := Except.ok.inj (succeeded.symm.trans same)
      rfl

/-- All renderers were asked about a group and gave these answers, in order. -/
def Answered (renderers : List Renderer) (group : TrackGroup) (answers : List MappedGroup) : Prop :=
  renderers.map (fun renderer => MappedGroup.query renderer group) = answers.map .ok

namespace Offer

/-- The offers of all renderers for a group. -/
def all (used : List Nat) (answers : List MappedGroup) : List Offer :=
  answers.zipIdx.map fun (mapped, i) => ⟨i, !used.contains i, mapped⟩

theorem mem_all {used : List Nat} {answers : List MappedGroup} {offer : Offer} :
    offer ∈ all used answers ↔
      answers[offer.renderer]? = some offer.mapped ∧
        offer.unused = !used.contains offer.renderer := by
  obtain ⟨renderer, unused, mapped⟩ := offer
  simp only [all, List.mem_map, Prod.exists, mk.injEq, List.mem_zipIdx_iff_getElem?]
  constructor
  · rintro ⟨_, _, here, rfl, rfl, rfl⟩
    exact ⟨here, rfl⟩
  · rintro ⟨here, rfl⟩
    exact ⟨mapped, renderer, here, rfl, rfl, rfl⟩

end Offer

namespace Placement

def renderer? : Placement → Option Nat
  | .given renderer _ => some renderer
  | .unmapped _ => none

def group : Placement → TrackGroup
  | .given _ mapped => mapped.group
  | .unmapped group => group

@[simp] theorem renderer?_given (i : Nat) (mapped : MappedGroup) :
    (given i mapped).renderer? = some i := rfl

@[simp] theorem renderer?_unmapped (group : TrackGroup) : (unmapped group).renderer? = none := rfl

@[simp] theorem group_given (i : Nat) (mapped : MappedGroup) :
    (given i mapped).group = mapped.group := rfl

@[simp] theorem group_unmapped (group : TrackGroup) : (unmapped group).group = group := rfl

theorem givenTo?_eq_some_iff {placement : Placement} {i : Nat} {mapped : MappedGroup} :
    placement.givenTo? i = some mapped ↔ placement = .given i mapped := by
  cases placement with
  | unmapped group => simp [givenTo?]
  | given j other =>
      by_cases same : j = i
      · simp [givenTo?, same]
      · simp [givenTo?, same]

theorem unmapped?_eq_some_iff {placement : Placement} {group : TrackGroup} :
    placement.unmapped? = some group ↔ placement = .unmapped group := by
  cases placement with
  | unmapped other => simp [unmapped?]
  | given j other => simp [unmapped?]

/-- The placement of one group, by the answers for it. -/
def ofEntry (used : List Nat) (entry : TrackGroup × List MappedGroup) : Placement :=
  match Offer.choose? (entry.1.trackType = .metadata) (Offer.all used entry.2) with
  | none => .unmapped entry.1
  | some offer => .given offer.renderer offer.mapped

theorem ofAnswers_cons (used : List Nat) (entry : TrackGroup × List MappedGroup)
    (rest : List (TrackGroup × List MappedGroup)) :
    ofAnswers used (entry :: rest) =
      ofEntry used entry :: ofAnswers ((ofEntry used entry).renderer?.toList ++ used) rest := by
  cases chosen : Offer.choose? (entry.1.trackType = .metadata) (Offer.all used entry.2) with
  | none =>
      simp only [ofEntry, chosen]
      rw [Offer.all] at chosen
      simp only [ofAnswers, chosen]
      rfl
  | some offer =>
      simp only [ofEntry, chosen]
      rw [Offer.all] at chosen
      simp only [ofAnswers, chosen]
      rfl

/-- A placement is decided by the answers for its group and by the renderers used before. -/
theorem getElem?_ofAnswers (used : List Nat) (answers : List (TrackGroup × List MappedGroup))
    (j : Nat) :
    (ofAnswers used answers)[j]? = answers[j]?.map
      (ofEntry ((((ofAnswers used answers).take j).filterMap renderer?).reverse ++ used)) := by
  induction answers generalizing used j with
  | nil => rfl
  | cons entry rest ih =>
      rw [ofAnswers_cons]
      cases j with
      | zero => rfl
      | succ j =>
          rw [List.getElem?_cons_succ, List.getElem?_cons_succ, ih, List.take_succ_cons]
          cases used' : (ofEntry used entry).renderer? with
          | none => simp [used']
          | some i => simp [used']

/-- The entries hold the answers of all renderers. -/
def Asked (renderers : List Renderer) (answered : List (TrackGroup × List MappedGroup)) : Prop :=
  ∀ entry ∈ answered, Answered renderers entry.1 entry.2

theorem ofEntry_cases (used : List Nat) (entry : TrackGroup × List MappedGroup) :
    ofEntry used entry = .unmapped entry.1 ∨
      ∃ i mapped, entry.2[i]? = some mapped ∧ ofEntry used entry = .given i mapped := by
  unfold ofEntry
  split
  · exact .inl rfl
  · rename_i offer chosen
    obtain ⟨offered, _⟩ := List.mem_filter.mp (mem_of_best?_eq_some chosen)
    exact .inr ⟨_, _, (Offer.mem_all.mp offered).1, rfl⟩

theorem exists_of_mem_ofAnswers {used : List Nat}
    {answered : List (TrackGroup × List MappedGroup)} {placement : Placement}
    (mem : placement ∈ ofAnswers used answered) :
    ∃ before, ∃ entry ∈ answered, placement = ofEntry before entry := by
  obtain ⟨j, here⟩ := List.getElem?_of_mem mem
  rw [getElem?_ofAnswers, Option.map_eq_some_iff] at here
  obtain ⟨entry, there, rfl⟩ := here
  exact ⟨_, entry, List.mem_of_getElem? there, rfl⟩

variable {renderers : List Renderer} {answered : List (TrackGroup × List MappedGroup)}

/-- A group is given away with the answer of the renderer that gets it. -/
theorem exists_query_of_mem_ofAnswers (asked : Asked renderers answered) {used : List Nat} {i : Nat}
    {mapped : MappedGroup} (mem : .given i mapped ∈ ofAnswers used answered) :
    ∃ renderer, renderers[i]? = some renderer ∧
      MappedGroup.query renderer mapped.group = .ok mapped := by
  obtain ⟨before, entry, listed, placed⟩ := exists_of_mem_ofAnswers mem
  rcases ofEntry_cases before entry with left | ⟨_, _, here, given⟩
  · rw [left] at placed
    cases placed
  · rw [given] at placed
    cases placed
    obtain ⟨renderer, there, answer⟩ := exists_item_of_map_eq_ok (asked entry listed) here
    refine ⟨renderer, there, ?_⟩
    rw [(MappedGroup.query_eq_ok_iff.mp answer).1]
    exact answer

/-- Groups are placed in the order of the input, and none is lost or added. -/
theorem map_group_ofAnswers (asked : Asked renderers answered) (used : List Nat) :
    (ofAnswers used answered).map group = answered.map Prod.fst := by
  apply List.ext_getElem?
  intro j
  rw [List.getElem?_map, List.getElem?_map, getElem?_ofAnswers, Option.map_map]
  cases there : answered[j]? with
  | none => rfl
  | some entry =>
      rw [Option.map_some, Option.map_some, Option.some.injEq, Function.comp]
      rcases ofEntry_cases _ entry with left | ⟨i, mapped, here, given⟩
      · rw [left]
        rfl
      · rw [given]
        obtain ⟨_, _, answer⟩ :=
          exists_item_of_map_eq_ok (asked entry (List.mem_of_getElem? there)) here
        exact (MappedGroup.query_eq_ok_iff.mp answer).1

end Placement

namespace Mapping

/-- The groups that went to a place, when `places` says for every group where it went. -/
def groupsAt (groups : List TrackGroup) (places : List (Option Nat)) (place : Option Nat) :
    List TrackGroup :=
  ((groups.zip places).filter fun entry => entry.2 = place).map Prod.fst

/-- A mapping splits some groups by their places, each a renderer or none: the renderer has the
groups of its place and no others, in order, and those without a renderer are unmapped. -/
structure Splits (mapping : Mapping) (groups : List TrackGroup) (places : List (Option Nat)) :
    Prop where
  length : places.length = groups.length
  bound : ∀ i, some i ∈ places → i < mapping.renderers.length
  given : ∀ i renderer, mapping.renderers[i]? = some renderer →
    renderer.trackGroups = groupsAt groups places (some i)
  unmapped : mapping.unmapped = groupsAt groups places none

theorem groupsAt_map (placements : List Placement) (place : Option Nat) :
    groupsAt (placements.map Placement.group) (placements.map Placement.renderer?) place =
      (placements.filter fun placement => placement.renderer? = place).map Placement.group := by
  rw [groupsAt, List.zip_map', List.filter_map, List.map_map]
  rfl

theorem map_group_filterMap_givenTo? (placements : List Placement) (i : Nat) :
    (placements.filterMap (Placement.givenTo? i)).map MappedGroup.group =
      (placements.filter fun placement => placement.renderer? = some i).map Placement.group := by
  induction placements with
  | nil => rfl
  | cons placement rest ih =>
      cases placement with
      | unmapped group => simpa [List.filterMap_cons, Placement.givenTo?] using ih
      | given j mapped =>
          by_cases same : j = i
          · simpa [List.filterMap_cons, Placement.givenTo?, same] using ih
          · simpa [List.filterMap_cons, Placement.givenTo?, same] using ih

theorem filterMap_unmapped? (placements : List Placement) :
    placements.filterMap Placement.unmapped? =
      (placements.filter fun placement => placement.renderer? = none).map Placement.group := by
  induction placements with
  | nil => rfl
  | cons placement rest ih =>
      cases placement with
      | unmapped group => simpa [List.filterMap_cons, Placement.unmapped?] using ih
      | given j mapped => simpa [List.filterMap_cons, Placement.unmapped?] using ih

section

variable {pairs : List (Renderer × AdaptiveSupport)} {placements : List Placement}

theorem getElem?_ofPlacements {i : Nat} {mapped : MappedRenderer} :
    (ofPlacements pairs placements).renderers[i]? = some mapped ↔
      ∃ renderer mixed, pairs[i]? = some (renderer, mixed) ∧
        mapped =
          { name := renderer.name
            trackType := renderer.trackType
            mixedMimeTypes := mixed
            groups := placements.filterMap (Placement.givenTo? i) } := by
  simp only [ofPlacements, List.getElem?_map, List.getElem?_zipIdx, Option.map_map, Nat.zero_add,
    Option.map_eq_some_iff, Function.comp, Prod.exists]
  constructor
  · rintro ⟨renderer, mixed, here, rfl⟩
    exact ⟨renderer, mixed, here, rfl⟩
  · rintro ⟨renderer, mixed, here, rfl⟩
    exact ⟨renderer, mixed, here, rfl⟩

theorem splits_ofPlacements
    (bound : ∀ i mapped, Placement.given i mapped ∈ placements → i < pairs.length) :
    (ofPlacements pairs placements).Splits (placements.map Placement.group)
      (placements.map Placement.renderer?) where
  length := by rw [List.length_map, List.length_map]
  bound i mem := by
    obtain ⟨placement, listed, same⟩ := List.mem_map.mp mem
    cases placement with
    | unmapped group => cases same
    | given j mapped =>
        cases same
        simpa [ofPlacements] using bound i mapped listed
  given i renderer here := by
    obtain ⟨_, _, _, rfl⟩ := getElem?_ofPlacements.mp here
    rw [groupsAt_map]
    exact map_group_filterMap_givenTo? placements i
  unmapped := by
    rw [groupsAt_map]
    exact filterMap_unmapped? placements

end

/-! ## Mappings of assigned groups -/

variable {renderers : List Renderer} {groups : List TrackGroup} {mapping : Mapping}

theorem asked_of_answers {answered : List (TrackGroup × List MappedGroup)}
    (found : answers renderers groups = .ok answered) :
    answered.map Prod.fst = groups ∧ Placement.Asked renderers answered := by
  rw [answers, mapM_eq_ok_iff] at found
  have entryOf {group : TrackGroup} {entry : TrackGroup × List MappedGroup}
      (asked : (do return (group, ← renderers.mapM fun renderer =>
        MappedGroup.query renderer group)) = Except.ok entry) :
      entry.1 = group ∧ Answered renderers group entry.2 := by
    obtain ⟨results, answered, same⟩ := bind_eq_ok_iff.mp asked
    obtain rfl := Except.ok.inj same
    exact ⟨rfl, mapM_eq_ok_iff.mp answered⟩
  refine ⟨map_eq_of_map_eq_ok (fun _ _ asked => (entryOf asked).1) found, ?_⟩
  intro entry mem
  obtain ⟨group, _, asked⟩ := exists_item_mem_of_map_eq_ok found mem
  obtain ⟨rfl, answered⟩ := entryOf asked
  exact answered

/-- A mapping comes from the answers of all renderers. -/
theorem exists_of_assign_eq_ok (assigned : assign renderers groups = .ok mapping) :
    ∃ mixed answered, renderers.map Renderer.mixedMimeTypes = mixed.map .ok ∧
      answered.map Prod.fst = groups ∧ Placement.Asked renderers answered ∧
      mapping = ofPlacements (renderers.zip mixed) (Placement.ofAnswers [] answered) := by
  obtain ⟨mixed, mixedFound, rest⟩ := bind_eq_ok_iff.mp assigned
  obtain ⟨answered, found, same⟩ := bind_eq_ok_iff.mp rest
  obtain ⟨groupsSame, asked⟩ := asked_of_answers found
  exact ⟨mixed, answered, mapM_eq_ok_iff.mp mixedFound, groupsSame, asked,
    (Except.ok.inj same).symm⟩

theorem splits_ofAnswers {answered : List (TrackGroup × List MappedGroup)}
    {mixed : List AdaptiveSupport} (asked : Placement.Asked renderers answered)
    (mixedFound : renderers.map Renderer.mixedMimeTypes = mixed.map .ok) :
    (ofPlacements (renderers.zip mixed) (Placement.ofAnswers [] answered)).Splits
      (answered.map Prod.fst) ((Placement.ofAnswers [] answered).map Placement.renderer?) := by
  have length : renderers.length = mixed.length := by
    simpa using congrArg List.length mixedFound
  rw [← Placement.map_group_ofAnswers asked []]
  apply splits_ofPlacements
  intro i mapped mem
  obtain ⟨_, here, _⟩ := Placement.exists_query_of_mem_ofAnswers asked mem
  obtain ⟨bound, _⟩ := List.getElem?_eq_some_iff.mp here
  rwa [List.length_zip, ← length, Nat.min_self]

end Mapping

/-- A mapped renderer stands for a renderer: with its name and type, with what it said about MIME
types, and for each of its groups with the answers that it gave for the formats of the group. -/
structure MappedRenderer.Describes (mapped : MappedRenderer) (renderer : Renderer) : Prop where
  name : mapped.name = renderer.name
  trackType : mapped.trackType = renderer.trackType
  mixedMimeTypes : renderer.mixedMimeTypes = .ok mapped.mixedMimeTypes
  matrix : mapped.matrix.map (List.map .ok) =
    mapped.trackGroups.map fun group => group.formats.map renderer.capabilities

theorem MappedRenderer.matrix_eq_iff {mapped : MappedRenderer} {renderer : Renderer} :
    mapped.matrix.map (List.map .ok) =
        mapped.trackGroups.map (fun group => group.formats.map renderer.capabilities) ↔
      ∀ entry ∈ mapped.groups,
        entry.capabilities.map .ok = entry.group.formats.map renderer.capabilities := by
  rw [matrix, trackGroups, List.map_map, List.map_map, List.map_inj_left]
  rfl

namespace Mapping

variable {renderers : List Renderer} {groups : List TrackGroup} {mapping : Mapping}
variable {i : Nat} {renderer : Renderer} {mapped : MappedRenderer}

theorem describes_ofAnswers {answered : List (TrackGroup × List MappedGroup)}
    {mixed : List AdaptiveSupport} (asked : Placement.Asked renderers answered)
    (mixedFound : renderers.map Renderer.mixedMimeTypes = mixed.map .ok)
    (listed : renderers[i]? = some renderer)
    (here : (ofPlacements (renderers.zip mixed)
      (Placement.ofAnswers [] answered)).renderers[i]? = some mapped) :
    mapped.Describes renderer := by
  obtain ⟨other, support, there, rfl⟩ := getElem?_ofPlacements.mp here
  obtain ⟨first, second⟩ := List.getElem?_zip_eq_some.mp there
  obtain rfl := Option.some.inj (listed.symm.trans first)
  obtain ⟨_, alsoListed, said⟩ := exists_item_of_map_eq_ok mixedFound second
  obtain rfl := Option.some.inj (listed.symm.trans alsoListed)
  refine ⟨rfl, rfl, said, ?_⟩
  rw [MappedRenderer.matrix_eq_iff]
  intro entry mem
  -- a group of the renderer was placed there, so the answers are its own
  obtain ⟨placement, placed, given⟩ := List.mem_filterMap.mp mem
  obtain rfl := Placement.givenTo?_eq_some_iff.mp given
  obtain ⟨_, alsoListed, answer⟩ := Placement.exists_query_of_mem_ofAnswers asked placed
  obtain rfl := Option.some.inj (listed.symm.trans alsoListed)
  exact (MappedGroup.query_eq_ok_iff.mp answer).2.symm

/-- What is stored for a track is what the renderer answered for its format, and nothing is stored
where there is no track. -/
theorem map_capabilities?_of_describes (here : mapping.renderers[i]? = some mapped)
    (describes : mapped.Describes renderer) (group track : Nat) :
    (mapping.capabilities? i group track).map .ok =
      (mapped.trackGroups[group]?.bind fun found => found.formats[track]?).map
        renderer.capabilities := by
  simp only [capabilities?, group?, here, Option.bind_some, MappedRenderer.trackGroups,
    List.getElem?_map]
  cases there : mapped.groups[group]? with
  | none => rfl
  | some entry =>
      have answered := MappedRenderer.matrix_eq_iff.mp describes.matrix entry
        (List.mem_of_getElem? there)
      show entry.capabilities[track]?.map .ok =
        entry.group.formats[track]?.map renderer.capabilities
      rw [← List.getElem?_map, ← List.getElem?_map, answered]

/-- Assigned groups are split among the renderers and the unmapped rest: every group of the input
has one place, each place has its groups in the order of the input, and each renderer has beside
every track what it reported for the format of the track. -/
theorem partition_of_assign (assigned : assign renderers groups = .ok mapping) :
    (∃ places, mapping.Splits groups places) ∧
      mapping.renderers.length = renderers.length ∧
      ∀ (i : Nat) (renderer : Renderer) (mapped : MappedRenderer),
        renderers[i]? = some renderer → mapping.renderers[i]? = some mapped →
          mapped.Describes renderer ∧
            ∀ group track, (mapping.capabilities? i group track).map .ok =
              (mapped.trackGroups[group]?.bind fun found => found.formats[track]?).map
                renderer.capabilities := by
  have count := length_renderers_of_assign assigned
  obtain ⟨mixed, answered, mixedFound, rfl, asked, rfl⟩ := exists_of_assign_eq_ok assigned
  refine ⟨⟨_, splits_ofAnswers asked mixedFound⟩, count, ?_⟩
  intro i renderer mapped listed here
  have describes := describes_ofAnswers asked mixedFound listed here
  exact ⟨describes, map_capabilities?_of_describes here describes⟩

namespace Sample

/-- A renderer that plays one MIME type. -/
def playing (type : TrackType) (mimeType : String) : Renderer where
  name := mimeType
  trackType := type
  capabilities format := .ok
    { format := if format.sampleMimeType = some mimeType then .handled else .unsupportedType }
  mixedMimeTypes := .ok .notSupported

def single (id : GroupId) (mimeType : String) : TrackGroup where
  id := id
  formats := [{ sampleMimeType := some mimeType }]
  nonempty := List.cons_ne_nil _ _

def players : List Renderer :=
  [playing .video "video/avc", playing .audio "audio/mp4a-latm"]

/-- Audio before and after video, and text that nobody plays. -/
def mixture : List TrackGroup :=
  [single ⟨0⟩ "audio/mp4a-latm", single ⟨1⟩ "text/vtt", single ⟨2⟩ "video/avc",
    single ⟨3⟩ "audio/mp4a-latm"]

end Sample

theorem partition_of_assign_mixture :
    ∃ mapping, assign Sample.players Sample.mixture = .ok mapping ∧
      mapping.renderers.map MappedRenderer.trackGroups =
        [[Sample.single ⟨2⟩ "video/avc"],
          [Sample.single ⟨0⟩ "audio/mp4a-latm", Sample.single ⟨3⟩ "audio/mp4a-latm"]] ∧
      mapping.unmapped = [Sample.single ⟨1⟩ "text/vtt"] ∧
      (∃ places, mapping.Splits Sample.mixture places) ∧
      ∃ mapped, mapping.renderers[1]? = some mapped ∧
        mapped.Describes (Sample.playing .audio "audio/mp4a-latm") := by
  obtain ⟨splits, _, describes⟩ :=
    @partition_of_assign Sample.players Sample.mixture _ rfl
  exact ⟨_, rfl, by decide, by decide, splits, _, rfl, (describes 1 _ _ rfl rfl).1⟩

end Mapping

end TrackSelection
