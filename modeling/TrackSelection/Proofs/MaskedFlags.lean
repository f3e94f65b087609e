import Mathlib.Data.List.Forall2
import TrackSelection.Proofs.BestAudio
import TrackSelection.Proofs.FirstText

/-!
# Selection flags that are masked

Of the selection flags of a text track only two are ever looked at, default and forced, and only
when they are not masked. They count in several ways, but all of them go through the score of the
track. A search for text needs no more of a track than its position, its capabilities and its score.
So groups that differ in nothing but other flags end with the same score at the same position. If
both flags are masked and nothing is preferred, there is no reason left to show any text.
-/

namespace TrackSelection

/-! ## Masks -/

namespace SelectionFlags

variable {flags mask a b : SelectionFlags}

/-- A flag with a name is left if it is set and not masked. -/
theorem testBit_without (flags mask : SelectionFlags) {i : Nat} (named : i < names.length) :
    (flags.without mask).bits.toNat.testBit i =
      (flags.bits.toNat.testBit i && !mask.bits.toNat.testBit i) := by
  have known : ∀ j < names.length,
      (UInt32.ofNat (1 <<< names.length - 1)).toNat.testBit j = true := by decide
  have inside : i < 32 := Nat.lt_trans named (by decide)
  have complement : (~~~mask.bits).toNat.testBit i = !mask.bits.toNat.testBit i := by
    show (~~~mask.bits).toBitVec.getLsbD i = !mask.bits.toBitVec.getLsbD i
    simp [inside]
  rw [without, SelectionFlags.complement, UInt32.toNat_and, UInt32.toNat_and, Nat.testBit_and,
    Nat.testBit_and, complement, known i named, Bool.and_true]

theorem isDefault_without (flags mask : SelectionFlags) :
    (flags.without mask).isDefault = (flags.isDefault && !mask.isDefault) :=
  testBit_without flags mask (by decide)

theorem isForced_without (flags mask : SelectionFlags) :
    (flags.without mask).isForced = (flags.isForced && !mask.isForced) :=
  testBit_without flags mask (by decide)

/-- Two sets of flags agree on default and forced, unless these are masked. They may differ in any
other flag. -/
structure AlikeUnder (mask a b : SelectionFlags) : Prop where
  isDefault : mask.isDefault = false → a.isDefault = b.isDefault
  isForced : mask.isForced = false → a.isForced = b.isForced

theorem AlikeUnder.without_eq (alike : AlikeUnder mask a b) :
    (a.without mask).isDefault = (b.without mask).isDefault ∧
      (a.without mask).isForced = (b.without mask).isForced := by
  rw [isDefault_without, isDefault_without, isForced_without, isForced_without]
  constructor
  · cases masked : mask.isDefault with
    | false => rw [alike.isDefault masked]
    | true => rw [Bool.not_true, Bool.and_false, Bool.and_false]
  · cases masked : mask.isForced with
    | false => rw [alike.isForced masked]
    | true => rw [Bool.not_true, Bool.and_false, Bool.and_false]

end SelectionFlags

/-- Two formats that are the same but for selection flags that a mask hides or nobody looks at. -/
structure Format.AlikeUnder (mask : SelectionFlags) (a b : Format) : Prop where
  flags : SelectionFlags.AlikeUnder mask a.selectionFlags b.selectionFlags
  rest : { a with selectionFlags := {} } = { b with selectionFlags := {} }

/-- Two groups whose formats are the same but for such flags. -/
def TrackGroup.AlikeUnder (mask : SelectionFlags) (a b : TrackGroup) : Prop :=
  List.Forall₂ (Format.AlikeUnder mask) a.formats b.formats

theorem TextScore.ofTrack_eq_of_alikeUnder {parameters : Parameters} {a b : Format}
    (alike : a.AlikeUnder parameters.text.disabledFlags b) (language : Option String)
    (capabilities : Capabilities) :
    ofTrack parameters language a capabilities = ofTrack parameters language b capabilities := by
  have sameLanguage : a.language = b.language :=
    (congrArg Format.language alike.rest :)
  have sameRoles : a.roleFlags = b.roleFlags :=
    (congrArg Format.roleFlags alike.rest :)
  obtain ⟨sameDefault, sameForced⟩ := alike.flags.without_eq
  simp only [ofTrack, sameLanguage, sameRoles, sameDefault, sameForced]

/-! ## What is read off tracks -/

section Reading

variable {β : Type} {related : Format → Format → Prop} {read : Format × Capabilities → β}

theorem map_zip_eq_of_forall₂
    (alike : ∀ a b capabilities, related a b → read (a, capabilities) = read (b, capabilities))
    {formats others : List Format} (pairs : List.Forall₂ related formats others)
    (row : List Capabilities) : (formats.zip row).map read = (others.zip row).map read := by
  induction pairs generalizing row with
  | nil => rfl
  | @cons a b _ _ pair _ ih =>
      cases row with
      | nil => rfl
      | cons capabilities row =>
          rw [List.zip_cons_cons, List.zip_cons_cons, List.map_cons, List.map_cons,
            alike a b capabilities pair, ih row]

/-- What is read off each track, group by group. -/
def MappedGroup.readings (read : Format × Capabilities → β) (listed : List MappedGroup) :
    List (List β) :=
  listed.map fun mapped => mapped.tracks.map read

/-- Groups whose formats read alike read alike beside one matrix, or both miss an entry of it. -/
theorem MappedGroup.map_readings_ofMatrix?_eq
    (alike : ∀ a b capabilities, related a b → read (a, capabilities) = read (b, capabilities))
    {groups others : List TrackGroup}
    (pairs : List.Forall₂ (fun a b => List.Forall₂ related a.formats b.formats) groups others)
    (matrix : CapabilityMatrix) :
    (ofMatrix? groups matrix).map (readings read) =
      (ofMatrix? others matrix).map (readings read) := by
  induction pairs generalizing matrix with
  | nil => rfl
  | @cons a b groups others pair _ ih =>
      cases matrix with
      | nil => rfl
      | cons row rows =>
          have size : a.size = b.size := pair.length_eq
          have tracks : (padded a row).tracks.map read = (padded b row).tracks.map read := by
            simp only [MappedGroup.tracks, padded, size]
            exact map_zip_eq_of_forall₂ alike pair _
          have step (group : TrackGroup) (rest : Option (List MappedGroup)) :
              (rest.map (padded group row :: ·)).map (readings read) =
                (rest.map (readings read)).map ((padded group row).tracks.map read :: ·) := by
            rw [Option.map_map, Option.map_map]
            rfl
          rw [ofMatrix?, ofMatrix?, size]
          split
          · rw [step, step, tracks, ih rows]
          · rfl

/-- Tracks by position, with what was read off them. -/
def Candidate.positions (readings : List (List β)) : List (Nat × Nat × β) :=
  readings.zipIdx.flatMap fun row => row.1.zipIdx.map fun entry => (row.2, entry.2, entry.1)

theorem Candidate.map_all (read : Format × Capabilities → β) (listed : List MappedGroup) :
    (all listed).map (fun candidate => (candidate.groupIndex, candidate.track,
        read (candidate.format, candidate.capabilities))) =
      positions (MappedGroup.readings read listed) := by
  rw [all, List.map_flatMap, positions, MappedGroup.readings, List.zipIdx_map, List.flatMap_map]
  congr 1
  funext entry
  rw [List.map_map, Prod.map_fst, List.zipIdx_map, List.map_map]
  rfl

end Reading

/-! ## Text beside masked flags -/

namespace TextTrack

def reading (parameters : Parameters) (language : Option String) (track : Format × Capabilities) :
    Capabilities × TextScore :=
  (track.2, TextScore.ofTrack parameters language track.1 track.2)

/-- Where a selection is found, and its score. -/
def found (selected : Selection × TextScore) : Nat × List Nat × TextScore :=
  (selected.1.groupIndex, selected.1.tracks, selected.2)

/-- The search for text among what is read off tracks. -/
def searchReadings (parameters : Parameters) (readings : List (List (Capabilities × TextScore))) :
    Option (Nat × List Nat × TextScore) :=
  let eligible := (Candidate.positions readings).filter fun entry =>
    entry.2.2.1.isSupported parameters.playback.mayExceedCapabilities &&
      entry.2.2.2.withinConstraints
  (best? (fun a b => a.2.2.2.order b.2.2.2 = .gt) eligible).map
    fun entry => (entry.1, [entry.2.1], entry.2.2.2)

/-- Nothing of a track counts but its position and what is read off it. -/
theorem map_found_select? (parameters : Parameters) (language : Option String)
    (listed : List MappedGroup) :
    (select? parameters language listed).map found =
      searchReadings parameters (MappedGroup.readings (reading parameters language) listed) := by
  rw [searchReadings, ← Candidate.map_all, List.filter_map, select?, eligible_eq,
    best?_map fun _ _ => rfl, best?_map fun _ _ => rfl, Option.map_map, Option.map_map,
    Option.map_map]
  rfl

/-- Groups that differ at most in masked flags, and in flags that nobody looks at, have the same
score at the same position, or nothing at all. -/
theorem map_found_selectFrom?_eq {parameters : Parameters} {groups others : List TrackGroup}
    (pairs : List.Forall₂ (TrackGroup.AlikeUnder parameters.text.disabledFlags) groups others)
    (language : Option String) (matrix : CapabilityMatrix) :
    (selectFrom? parameters language groups matrix).map (Option.map found) =
      (selectFrom? parameters language others matrix).map (Option.map found) := by
  have alike (a b : Format) (capabilities : Capabilities)
      (pair : a.AlikeUnder parameters.text.disabledFlags b) :
      reading parameters language (a, capabilities) =
        reading parameters language (b, capabilities) := by
    rw [reading, reading, TextScore.ofTrack_eq_of_alikeUnder pair]
  have searched (listed : Option (List MappedGroup)) :
      (listed.map (select? parameters language)).map (Option.map found) =
        (listed.map (MappedGroup.readings (reading parameters language))).map
          (searchReadings parameters) := by
    rw [Option.map_map, Option.map_map]
    exact congrArg listed.map (funext (map_found_select? parameters language))
  rw [selectFrom?, selectFrom?, searched, searched,
    MappedGroup.map_readings_ofMatrix?_eq alike pairs]

/-- Default and forced are masked, no language and no role is preferred, and an undetermined
language does not do. -/
structure AsksForNothing (text : TextParameters) : Prop where
  masksDefault : text.disabledFlags.isDefault = true
  masksForced : text.disabledFlags.isForced = true
  noLanguage : text.language = none
  noRoles : text.roles.bits = 0
  determined : text.selectUndetermined = false

section Nothing

variable {parameters : Parameters}

theorem withinConstraints_eq_false (nothing : AsksForNothing parameters.text)
    (language : Option String) (format : Format) (capabilities : Capabilities) :
    (TextScore.ofTrack parameters language format capabilities).withinConstraints = false := by
  have noMatch : Language.matchScore format.language none false = 0 := by
    rw [Language.matchScore]
    cases Language.determined? format.language with
    | none => rfl
    | some tag => rfl
  have noneShared : format.roleFlags.shared parameters.text.roles = 0 := by
    rw [RoleFlags.shared, nothing.noRoles, UInt32.and_zero]
    rfl
  have notDefault : (format.selectionFlags.without parameters.text.disabledFlags).isDefault =
      false := by
    rw [SelectionFlags.isDefault_without, nothing.masksDefault, Bool.not_true, Bool.and_false]
  have notForced : (format.selectionFlags.without parameters.text.disabledFlags).isForced =
      false := by
    rw [SelectionFlags.isForced_without, nothing.masksForced, Bool.not_true, Bool.and_false]
  simp [TextScore.ofTrack, nothing.noLanguage, nothing.determined, noMatch, noneShared, notDefault,
    notForced]

theorem select?_eq_none (nothing : AsksForNothing parameters.text) (language : Option String)
    (listed : List MappedGroup) : select? parameters language listed = none := by
  have empty : eligible parameters language listed = [] := by
    refine List.filter_eq_nil_iff.mpr fun scored mem may => ?_
    obtain ⟨candidate, _, rfl⟩ := List.mem_map.mp mem
    obtain ⟨_, wanted⟩ := Bool.and_eq_true_iff.mp may
    rw [withinConstraints_eq_false nothing] at wanted
    cases wanted
  rw [select?, empty]
  rfl

end Nothing

/-- Masked flags are not seen. Groups that differ at most in masked flags, and in flags other than
default and forced, have nothing selected or the same tracks of the same group with the same score.
Nothing at all is selected if both flags are masked and nothing else is asked for. A choice is made
in any case, if the matrix has an entry for every track. -/
theorem selectFrom?_masked (parameters : Parameters) (language : Option String)
    (matrix : CapabilityMatrix) :
    (∀ groups others,
      List.Forall₂ (TrackGroup.AlikeUnder parameters.text.disabledFlags) groups others →
        (selectFrom? parameters language groups matrix).map (Option.map found) =
          (selectFrom? parameters language others matrix).map (Option.map found)) ∧
      ∀ groups, matrix.Covers groups →
        ∃ answer, selectFrom? parameters language groups matrix = some answer ∧
          (AsksForNothing parameters.text → answer = none) := by
  constructor
  · intro groups others pairs
    exact map_found_selectFrom?_eq pairs language matrix
  · intro groups covers
    obtain ⟨listed, complete⟩ := MappedGroup.exists_ofMatrix?_of_covers covers
    refine ⟨select? parameters language listed, ?_, fun nothing => select?_eq_none nothing _ _⟩
    rw [selectFrom?, complete, Option.map_some]

namespace Sample

def masking (bits : UInt32) : Parameters where
  text := { disabledFlags := ⟨bits⟩ }

/-- English and German subtitles with some flags. -/
def subtitles (english german : UInt32) : List TrackGroup :=
  [⟨⟨0⟩, [{ language := some "en", selectionFlags := ⟨english⟩ },
    { language := some "de", selectionFlags := ⟨german⟩ }], List.cons_ne_nil _ _⟩]

def readable : CapabilityMatrix :=
  [[{ format := .handled }, { format := .handled }]]

theorem covers_subtitles (english german : UInt32) : readable.Covers (subtitles english german)
  | 0, _, here => ⟨_, rfl, by obtain rfl := Option.some.inj here; exact Nat.le_refl 2⟩

/-- English is forced in one place only, and that is masked. German is the default in both. -/
theorem alikeUnder_subtitles :
    List.Forall₂ (TrackGroup.AlikeUnder ⟨18⟩) (subtitles 2 1) (subtitles 8 5) :=
  have english : Format.AlikeUnder ⟨18⟩ { language := some "en", selectionFlags := ⟨2⟩ }
      { language := some "en", selectionFlags := ⟨8⟩ } := ⟨⟨by decide, by decide⟩, rfl⟩
  have german : Format.AlikeUnder ⟨18⟩ { language := some "de", selectionFlags := ⟨1⟩ }
      { language := some "de", selectionFlags := ⟨5⟩ } := ⟨⟨by decide, by decide⟩, rfl⟩
  .cons (.cons english (.cons german .nil)) .nil

end Sample

theorem selectFrom?_masked_subtitles :
    (∃ score,
      (selectFrom? (Sample.masking 18) (some "en") (Sample.subtitles 2 1) Sample.readable).map
          (Option.map found) = some (some (0, [1], score)) ∧
        (selectFrom? (Sample.masking 18) (some "en") (Sample.subtitles 8 5) Sample.readable).map
          (Option.map found) = some (some (0, [1], score))) ∧
      selectFrom? (Sample.masking 3) (some "en") (Sample.subtitles 2 1) Sample.readable =
        some none := by
  obtain ⟨same, _⟩ := selectFrom?_masked (Sample.masking 18) (some "en") Sample.readable
  obtain ⟨_, answered⟩ := selectFrom?_masked (Sample.masking 3) (some "en") Sample.readable
  obtain ⟨answer, made, none⟩ := answered _ (Sample.covers_subtitles 2 1)
  rw [none ⟨by decide, by decide, rfl, rfl, rfl⟩] at made
  refine ⟨⟨_, rfl, ?_⟩, made⟩
  rw [← same _ _ Sample.alikeUnder_subtitles]
  rfl

end TextTrack

end TrackSelection
