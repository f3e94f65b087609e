import TrackSelection.Proofs.Placements

/-!
# Questions that fail

Giving groups to renderers fails exactly if a renderer fails to answer one of its questions, and the
error is that of the first question that fails: questions about MIME types come first, by renderer,
and then those about tracks, by group, renderer and track. Where groups go has no part in this. To
say so, groups are also given away in turn: each renderer is asked about a group when its turn
comes, its offer is weighed before the next renderer is asked, and the group has its place before
anybody is asked about the next one. The result is the same, errors included, since no question
depends on what was decided before.
-/

namespace TrackSelection

/-! ## The first failure -/

theorem bind_eq_error_iff {x : Except ε α} {f : α → Except ε β} {error : ε} :
    (x >>= f) = .error error ↔ x = .error error ∨ ∃ a, x = .ok a ∧ f a = .error error := by
  cases x with
  | error e => simp [bind, Except.bind]
  | ok a => simp [bind, Except.bind]

/-- When a list of questions fails, it is because of the first of them that does. -/
theorem exists_first_of_mapM_eq_error {f : α → Except ε β} {items : List α} {error : ε}
    (failed : items.mapM f = .error error) :
    ∃ i item, items[i]? = some item ∧ f item = .error error ∧
      ∀ (j : Nat) (earlier : α), j < i → items[j]? = some earlier →
        ∃ result, f earlier = .ok result := by
  induction items with
  | nil => cases failed
  | cons item rest ih =>
      rw [List.mapM_cons, bind_eq_error_iff] at failed
      rcases failed with first | ⟨result, first, later⟩
      · exact ⟨0, item, rfl, first, fun j _ below => absurd below (Nat.not_lt_zero j)⟩
      · rcases bind_eq_error_iff.mp later with later | ⟨_, _, same⟩
        · obtain ⟨i, other, here, fails, answered⟩ := ih later
          refine ⟨i + 1, other, here, fails, ?_⟩
          intro j earlier below there
          cases j with
          | zero =>
              obtain rfl := Option.some.inj there
              exact ⟨result, first⟩
          | succ j => exact answered j earlier (Nat.lt_of_succ_lt_succ below) there
        · cases same

namespace MappedGroup

theorem query_eq_error_iff {renderer : Renderer} {group : TrackGroup} {error : Error} :
    query renderer group = .error error ↔
      group.formats.mapM renderer.capabilities = .error error := by
  unfold query
  split
  · rename_i e failed
    rw [failed, Except.error.injEq, Except.error.injEq]
  · rename_i answered succeeded
    refine iff_of_false nofun fun failed => ?_
    cases succeeded.symm.trans failed

theorem exists_capabilities_of_query {renderer : Renderer} {group : TrackGroup}
    {mapped : MappedGroup} (asked : query renderer group = .ok mapped) {track : Nat}
    {format : Format} (here : group.formats[track]? = some format) :
    ∃ answer, renderer.capabilities format = .ok answer := by
  obtain ⟨answer, _, said⟩ := exists_result_of_map_eq_ok (query_eq_ok_iff.mp asked).2 here
  exact ⟨answer, said⟩

end MappedGroup

/-! ## Questions in their order -/

/-- A question that renderers are asked, by position. -/
inductive Question where
  /-- How a renderer moves between MIME types. -/
  | mixedMimeTypes (renderer : Nat)
  /-- What a renderer can do with a track of a group. -/
  | capabilities (group renderer track : Nat)
deriving DecidableEq

namespace Question

/-- When a question is asked, as numbers that are compared from the front. -/
def turn : Question → List Nat
  | .mixedMimeTypes renderer => [0, renderer]
  | .capabilities group renderer track => [1, group, renderer, track]

/-- A question is asked and fails. -/
inductive Fails (renderers : List Renderer) (groups : List TrackGroup) : Question → Error → Prop
  | mixedMimeTypes {i : Nat} {renderer : Renderer} {error : Error}
      (asked : renderers[i]? = some renderer) (failed : renderer.mixedMimeTypes = .error error) :
      Fails renderers groups (.mixedMimeTypes i) error
  | capabilities {g i t : Nat} {group : TrackGroup} {renderer : Renderer} {format : Format}
      {error : Error} (about : groups[g]? = some group) (asked : renderers[i]? = some renderer)
      (track : group.formats[t]? = some format)
      (failed : renderer.capabilities format = .error error) :
      Fails renderers groups (.capabilities g i t) error

/-- A question fails, and none that is asked before it does. -/
structure FailsFirst (renderers : List Renderer) (groups : List TrackGroup) (question : Question)
    (error : Error) : Prop where
  fails : question.Fails renderers groups error
  first : ∀ (earlier : Question) (e : Error),
    earlier.Fails renderers groups e → ¬ earlier.turn < question.turn

theorem turn_injective {a b : Question} (same : a.turn = b.turn) : a = b := by
  cases a <;> cases b <;> simp_all [turn]

theorem mixedMimeTypes_turn_lt_iff {i j : Nat} :
    (mixedMimeTypes j).turn < (mixedMimeTypes i).turn ↔ j < i := by
  simp [turn, List.cons_lt_cons_iff]

theorem not_capabilities_turn_lt (g i t j : Nat) :
    ¬ (capabilities g i t).turn < (mixedMimeTypes j).turn := by
  simp [turn, List.cons_lt_cons_iff]

theorem capabilities_turn_lt_iff {g h i j s t : Nat} :
    (capabilities h j s).turn < (capabilities g i t).turn ↔
      h < g ∨ h = g ∧ (j < i ∨ j = i ∧ s < t) := by
  simp [turn, List.cons_lt_cons_iff]

variable {renderers : List Renderer} {groups : List TrackGroup} {question other : Question}
variable {error e : Error}

theorem Fails.unique (fails : question.Fails renderers groups error)
    (alike : question.Fails renderers groups e) : error = e := by
  cases fails with
  | mixedMimeTypes asked failed =>
      cases alike with
      | mixedMimeTypes alsoAsked alsoFailed =>
          obtain rfl := Option.some.inj (asked.symm.trans alsoAsked)
          exact Except.error.inj (failed.symm.trans alsoFailed)
  | capabilities about asked track failed =>
      cases alike with
      | capabilities alsoAbout alsoAsked alsoTrack alsoFailed =>
          obtain rfl := Option.some.inj (about.symm.trans alsoAbout)
          obtain rfl := Option.some.inj (asked.symm.trans alsoAsked)
          obtain rfl := Option.some.inj (track.symm.trans alsoTrack)
          exact Except.error.inj (failed.symm.trans alsoFailed)

/-- There is one first failure. -/
theorem FailsFirst.unique (first : question.FailsFirst renderers groups error)
    (alike : other.FailsFirst renderers groups e) : error = e := by
  have notBefore := first.first other e alike.fails
  have notAfter := alike.first question error first.fails
  have same : question = other :=
    turn_injective (List.le_antisymm (List.not_lt.mp notBefore) (List.not_lt.mp notAfter))
  subst same
  exact first.fails.unique alike.fails

end Question

namespace Mapping

variable {renderers : List Renderer} {groups : List TrackGroup} {mapping : Mapping} {error : Error}

/-! ## When giving groups away fails -/

/-- A mapping is there only if every question was answered. -/
theorem not_fails_of_assign (assigned : assign renderers groups = .ok mapping)
    (question : Question) (e : Error) : ¬ question.Fails renderers groups e := by
  obtain ⟨mixed, answered, mixedFound, rfl, asked, _⟩ := exists_of_assign_eq_ok assigned
  intro fails
  cases fails with
  | mixedMimeTypes here failed =>
      obtain ⟨_, _, said⟩ := exists_result_of_map_eq_ok mixedFound here
      cases failed.symm.trans said
  | capabilities about here track failed =>
      rw [List.getElem?_map, Option.map_eq_some_iff] at about
      obtain ⟨entry, there, rfl⟩ := about
      obtain ⟨_, _, answer⟩ :=
        exists_result_of_map_eq_ok (asked entry (List.mem_of_getElem? there)) here
      obtain ⟨_, said⟩ := MappedGroup.exists_capabilities_of_query answer track
      cases failed.symm.trans said

theorem failsFirst_mixedMimeTypes (failed : renderers.mapM Renderer.mixedMimeTypes = .error error) :
    ∃ question : Question, question.FailsFirst renderers groups error := by
  obtain ⟨i, renderer, here, fails, answered⟩ := exists_first_of_mapM_eq_error failed
  refine ⟨.mixedMimeTypes i, .mixedMimeTypes here fails, ?_⟩
  intro earlier e alsoFails before
  cases alsoFails with
  | mixedMimeTypes asked failed =>
      obtain ⟨_, said⟩ := answered _ _ (Question.mixedMimeTypes_turn_lt_iff.mp before) asked
      cases failed.symm.trans said
  | capabilities => exact absurd before (Question.not_capabilities_turn_lt _ _ _ _)

theorem failsFirst_capabilities {mixed : List AdaptiveSupport}
    (mixedFound : renderers.mapM Renderer.mixedMimeTypes = .ok mixed)
    (failed : answers renderers groups = .error error) :
    ∃ question : Question, question.FailsFirst renderers groups error := by
  obtain ⟨g, group, about, failedGroup, groupsBefore⟩ := exists_first_of_mapM_eq_error failed
  have failedQuery : renderers.mapM (fun renderer => MappedGroup.query renderer group) =
      .error error := by
    rcases bind_eq_error_iff.mp failedGroup with failed | ⟨_, _, same⟩
    · exact failed
    · cases same
  obtain ⟨i, renderer, asked, failedFormats, renderersBefore⟩ :=
    exists_first_of_mapM_eq_error failedQuery
  obtain ⟨t, format, track, fails, tracksBefore⟩ :=
    exists_first_of_mapM_eq_error (MappedGroup.query_eq_error_iff.mp failedFormats)
  refine ⟨.capabilities g i t, .capabilities about asked track fails, ?_⟩
  intro earlier e alsoFails before
  cases alsoFails with
  | mixedMimeTypes here failed =>
      obtain ⟨_, _, said⟩ := exists_result_of_map_eq_ok (mapM_eq_ok_iff.mp mixedFound) here
      cases failed.symm.trans said
  | capabilities about' asked' track' failed =>
      -- an earlier group, an earlier renderer for this group, or an earlier track for both
      rcases Question.capabilities_turn_lt_iff.mp before with below | ⟨rfl, below | ⟨rfl, below⟩⟩
      · obtain ⟨entry, answered⟩ := groupsBefore _ _ below about'
        obtain ⟨results, found, _⟩ := bind_eq_ok_iff.mp answered
        obtain ⟨_, _, answer⟩ := exists_result_of_map_eq_ok (mapM_eq_ok_iff.mp found) asked'
        obtain ⟨_, said⟩ := MappedGroup.exists_capabilities_of_query answer track'
        cases failed.symm.trans said
      · obtain rfl := Option.some.inj (about.symm.trans about')
        obtain ⟨_, answer⟩ := renderersBefore _ _ below asked'
        obtain ⟨_, said⟩ := MappedGroup.exists_capabilities_of_query answer track'
        cases failed.symm.trans said
      · obtain rfl := Option.some.inj (about.symm.trans about')
        obtain rfl := Option.some.inj (asked.symm.trans asked')
        obtain ⟨_, said⟩ := tracksBefore _ _ below track'
        cases failed.symm.trans said

theorem exists_failsFirst_of_assign (failed : assign renderers groups = .error error) :
    ∃ question : Question, question.FailsFirst renderers groups error := by
  rcases bind_eq_error_iff.mp failed with mixedFailed | ⟨mixed, mixedFound, rest⟩
  · exact failsFirst_mixedMimeTypes mixedFailed
  · rcases bind_eq_error_iff.mp rest with answersFailed | ⟨_, _, same⟩
    · exact failsFirst_capabilities mixedFound answersFailed
    · cases same

theorem assign_eq_error_iff :
    assign renderers groups = .error error ↔
      ∃ question : Question, question.FailsFirst renderers groups error := by
  constructor
  · exact exists_failsFirst_of_assign
  · rintro ⟨question, first⟩
    cases assigned : assign renderers groups with
    | ok mapping => exact absurd first.fails (not_fails_of_assign assigned question error)
    | error e =>
        obtain ⟨other, alsoFirst⟩ := exists_failsFirst_of_assign assigned
        rw [first.unique alsoFirst]

end Mapping

/-! ## Group by group -/

/-- Asking and acting in turn comes to asking first and acting then, when no question depends on
what was done before. -/
theorem foldlM_eq_mapM_foldl (ask : α → Except ε β) (act : σ → α × β → σ) (items : List α)
    (state : σ) :
    items.foldlM (fun state item => do return act state (item, ← ask item)) state =
      (do let answers ← items.mapM ask; return (items.zip answers).foldl act state) := by
  induction items generalizing state with
  | nil => rfl
  | cons item rest ih =>
      rw [List.foldlM_cons, List.mapM_cons]
      cases ask item with
      | error e => rfl
      | ok answer =>
          show rest.foldlM _ (act state (item, answer)) = _
          rw [ih]
          cases rest.mapM ask with
          | error e => rfl
          | ok answers => rfl

theorem mapM_pair (ask : α → Except ε β) (items : List α) :
    (items.mapM fun item => do return (item, ← ask item)) =
      (do let answers ← items.mapM ask; return items.zip answers) := by
  induction items with
  | nil => rfl
  | cons item rest ih =>
      rw [List.mapM_cons, List.mapM_cons, ih]
      cases ask item with
      | error e => rfl
      | ok answer =>
          cases rest.mapM ask with
          | error e => rfl
          | ok answers => rfl

namespace Offer

/-- The best offer so far, after the answer of the next renderer. -/
def weighNext (group : TrackGroup) (used : List Nat) (best : Option Offer)
    (next : (Renderer × Nat) × MappedGroup) : Option Offer :=
  if next.2.support = .unsupportedType then best
  else keepBetter (isBetter (group.trackType = .metadata)) best
    ⟨next.1.2, !used.contains next.1.2, next.2⟩

/-- Ask the next renderer about a group, and weigh its offer. -/
def askNext (group : TrackGroup) (used : List Nat) (best : Option Offer) (next : Renderer × Nat) :
    Except Error (Option Offer) := do
  return weighNext group used best (next, ← MappedGroup.query next.1 group)

/-- Weighing the offers one by one finds the one that gets the group. -/
theorem foldl_weighNext (group : TrackGroup) (used : List Nat) {renderers : List Renderer}
    {answers : List MappedGroup} (length : answers.length = renderers.length) :
    (renderers.zipIdx.zip answers).foldl (weighNext group used) none =
      choose? (group.trackType = .metadata) (all used answers) := by
  have positions : (renderers.zipIdx.zip answers).map (fun next => (next.2, next.1.2)) =
      answers.zipIdx := by
    apply List.ext_getElem
    · simp [length]
    · intro i _ _
      simp
  rw [choose?, best?, List.foldl_filter, all, List.foldl_map, ← positions, List.foldl_map]
  congr 1
  funext best next
  by_cases unsupported : next.2.support = .unsupportedType
  · simp [weighNext, unsupported]
  · simp [weighNext, unsupported]

end Offer

namespace Placement

/-- The renderers that were given a group, the last one first. -/
def usedBy (placements : List Placement) : List Nat :=
  (placements.filterMap renderer?).reverse

theorem usedBy_append_singleton (placements : List Placement) (placement : Placement) :
    usedBy (placements ++ [placement]) = placement.renderer?.toList ++ usedBy placements := by
  cases placement with
  | given i mapped => simp [usedBy]
  | unmapped group => simp [usedBy]

/-- Ask the renderers about the next group, and place it. -/
def placeNext (renderers : List Renderer) (placements : List Placement) (group : TrackGroup) :
    Except Error (List Placement) := do
  let best ← renderers.zipIdx.foldlM (Offer.askNext group (usedBy placements)) none
  return placements ++ [best.elim (.unmapped group) fun offer => .given offer.renderer offer.mapped]

theorem placeNext_eq (renderers : List Renderer) (placements : List Placement)
    (group : TrackGroup) :
    placeNext renderers placements group =
      (do let answers ← renderers.mapM fun renderer => MappedGroup.query renderer group
          return placements ++ [ofEntry (usedBy placements) (group, answers)]) := by
  have asked : renderers.zipIdx.mapM (fun next => MappedGroup.query next.1 group) =
      renderers.mapM fun renderer => MappedGroup.query renderer group := by
    rw [← List.zipIdx_map_fst 0 renderers, List.mapM_map, List.zipIdx_map_fst]
    rfl
  have inTurn := foldlM_eq_mapM_foldl (fun next => MappedGroup.query next.1 group)
    (Offer.weighNext group (usedBy placements)) renderers.zipIdx none
  rw [placeNext]
  unfold Offer.askNext
  rw [inTurn, asked]
  cases found : renderers.mapM fun renderer => MappedGroup.query renderer group with
  | error e => rfl
  | ok answers =>
      show Except.ok _ = Except.ok _
      rw [Offer.foldl_weighNext group _ (length_eq_of_mapM_eq_ok found), ofEntry]
      cases Offer.choose? _ _ with
      | none => rfl
      | some offer => rfl

/-- Placing groups one by one gives the placements by the answers for them. -/
theorem foldl_ofEntry (placements : List Placement)
    (answered : List (TrackGroup × List MappedGroup)) :
    answered.foldl (fun placements entry => placements ++ [ofEntry (usedBy placements) entry])
        placements = placements ++ ofAnswers (usedBy placements) answered := by
  induction answered generalizing placements with
  | nil => simp [ofAnswers]
  | cons entry rest ih =>
      rw [List.foldl_cons, ih, ofAnswers_cons, List.append_assoc, List.singleton_append,
        usedBy_append_singleton]

end Placement

namespace Mapping

/-- Give groups to renderers, one group after the other. -/
def assignInTurn (renderers : List Renderer) (groups : List TrackGroup) :
    Except Error Mapping := do
  let mixed ← renderers.mapM Renderer.mixedMimeTypes
  let placements ← groups.foldlM (Placement.placeNext renderers) []
  return ofPlacements (renderers.zip mixed) placements

theorem assignInTurn_eq_assign (renderers : List Renderer) (groups : List TrackGroup) :
    assignInTurn renderers groups = assign renderers groups := by
  have inTurn := foldlM_eq_mapM_foldl
    (fun group => renderers.mapM fun renderer => MappedGroup.query renderer group)
    (fun placements entry => placements ++ [Placement.ofEntry (Placement.usedBy placements) entry])
    groups []
  have placed : groups.foldlM (Placement.placeNext renderers) [] =
      (do let answered ← answers renderers groups; return Placement.ofAnswers [] answered) := by
    rw [funext fun placements => funext (Placement.placeNext_eq renderers placements), inTurn,
      answers, mapM_pair]
    cases groups.mapM fun group =>
        renderers.mapM fun renderer => MappedGroup.query renderer group with
    | error e => rfl
    | ok answered =>
        show Except.ok _ = Except.ok _
        rw [Placement.foldl_ofEntry]
        rfl
  rw [assignInTurn, assign, placed]
  cases renderers.mapM Renderer.mixedMimeTypes with
  | error e => rfl
  | ok mixed =>
      cases answers renderers groups with
      | error e => rfl
      | ok answered => rfl

/-- Giving groups to renderers fails exactly if a question to a renderer fails, and with the error
of the first question that does. This is so whichever renderers were given the groups that came
before the question: asking and placing in turn comes to the same. -/
theorem assign_fails_first (renderers : List Renderer) (groups : List TrackGroup) :
    ((∃ error, assign renderers groups = .error error) ↔
        ∃ (question : Question) (error : Error), question.Fails renderers groups error) ∧
      (∀ error, assign renderers groups = .error error ↔
        ∃ question : Question, question.FailsFirst renderers groups error) ∧
      assignInTurn renderers groups = assign renderers groups := by
  refine ⟨?_, fun _ => assign_eq_error_iff, assignInTurn_eq_assign renderers groups⟩
  constructor
  · rintro ⟨error, failed⟩
    obtain ⟨question, first⟩ := exists_failsFirst_of_assign failed
    exact ⟨question, error, first.fails⟩
  · rintro ⟨question, error, fails⟩
    cases assigned : assign renderers groups with
    | ok mapping => exact absurd fails (not_fails_of_assign assigned question error)
    | error e => exact ⟨e, rfl⟩

end Mapping

end TrackSelection
