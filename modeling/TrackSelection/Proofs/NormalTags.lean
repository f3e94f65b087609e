import Mathlib.Data.List.DropRight
import TrackSelection.Proofs.LanguageMatches
import TrackSelection.Proofs.Placements
import TrackSelection.Proofs.Spellings
import TrackSelection.Scenario

/-!
# Tags in normal form

A tag is in normal form if it has no capital letter and no underscore, if it neither begins nor ends
with a blank, and if its primary subtag is not in the table of aliases. These are exactly the tags
that are their own normal form, and every normal form is one of them. Formats are therefore
normalized once and for all: a group built of formats that were built before keeps them as they
are, and so does a scenario, which normalizes each format twice.
-/

namespace TrackSelection

/-! ## Text without blanks at its ends -/

namespace Text

/-- There is no blank at either end. -/
structure IsTrimmed (cs : List Char) : Prop where
  first : ∀ nonempty : cs ≠ [], isBlank (cs.head nonempty) = false
  last : ∀ nonempty : cs ≠ [], isBlank (cs.getLast nonempty) = false

variable {cs : List Char}

theorem trimmed_eq_rdropWhile (cs : List Char) :
    trimmed cs = (cs.dropWhile isBlank).rdropWhile isBlank := rfl

theorem isTrimmed_trimmed (cs : List Char) : IsTrimmed (trimmed cs) := by
  rw [trimmed_eq_rdropWhile]
  constructor
  · intro nonempty
    rw [(List.rdropWhile_prefix isBlank _).head nonempty]
    exact List.head_dropWhile_not isBlank _
  · intro nonempty
    exact Bool.eq_false_iff.mpr (List.rdropWhile_last_not _ _ nonempty)

theorem IsTrimmed.trimmed_eq (is : IsTrimmed cs) : trimmed cs = cs := by
  have front : cs.dropWhile isBlank = cs := by
    rw [List.dropWhile_eq_self_iff]
    intro bound
    rw [← List.head_eq_getElem (List.ne_nil_of_length_pos bound)]
    exact Bool.eq_false_iff.mp (is.first _)
  rw [trimmed_eq_rdropWhile, front, List.rdropWhile_eq_self_iff]
  exact fun nonempty => Bool.eq_false_iff.mp (is.last nonempty)

/-- A word may take the place of the front of a text. -/
theorem IsTrimmed.word_append (is : IsTrimmed cs) {word rest : List Char} (nonempty : word ≠ [])
    (unbroken : ∀ c ∈ word, isBlank c = false) (ends : rest <:+ cs) : IsTrimmed (word ++ rest) := by
  constructor
  · intro _
    rw [List.head_append_of_ne_nil nonempty]
    exact unbroken _ (List.head_mem nonempty)
  · intro _
    by_cases empty : rest = []
    · subst empty
      simp only [List.append_nil]
      exact unbroken _ (List.getLast_mem nonempty)
    · rw [List.getLast_append_of_ne_nil _ empty, ends.getLast empty]
      exact is.last _

end Text

namespace Language

structure IsNormal (tag : String) : Prop where
  noCapital : ∀ c ∈ tag.toList, c.isUpper = false
  noUnderscore : '_' ∉ tag.toList
  isTrimmed : Text.IsTrimmed tag.toList
  notAlias : ∀ code, (primary tag, code) ∉ aliases

/-! ## Characters -/

theorem foldChar_eq_self_iff (c : Char) : foldChar c = c ↔ c.isUpper = false ∧ c ≠ '_' := by
  by_cases underscore : c = '_'
  · subst underscore
    decide
  · rw [foldChar, if_neg underscore, and_iff_left underscore]
    rcases toLower_eq_or c with ⟨notCapital, same⟩ | ⟨capital, lower⟩
    · exact iff_of_true same notCapital
    · refine iff_of_false (fun same => ?_) (by simp [capital])
      rw [same] at lower
      omega

theorem foldChar_foldChar (c : Char) : foldChar (foldChar c) = foldChar c := by
  by_cases underscore : c = '_'
  · subst underscore
    rfl
  · rw [foldChar_eq_self_iff, foldChar, if_neg underscore, ne_eq, toLower_eq_underscore_iff]
    refine ⟨?_, underscore⟩
    rcases toLower_eq_or c with ⟨notCapital, same⟩ | ⟨capital, lower⟩
    · rw [same, notCapital]
    · obtain ⟨low, high⟩ := (isUpper_iff c).mp capital
      rw [← Bool.not_eq_true, isUpper_iff]
      omega

/-! ## Tags -/

/-- A tag in normal form is left alone. -/
theorem IsNormal.normalize_eq {tag : String} (normal : IsNormal tag) : normalize tag = tag := by
  have folded : tag.toList.map foldChar = tag.toList := by
    have same : ∀ c ∈ tag.toList, foldChar c = c := by
      intro c mem
      refine (foldChar_eq_self_iff c).mpr ⟨normal.noCapital c mem, ?_⟩
      rintro rfl
      exact normal.noUnderscore mem
    rw [List.map_congr_left same, List.map_id']
  have preferred : preferredChars (primaryChars tag.toList) = primaryChars tag.toList := by
    have unlisted : alias? (primary tag) = none := alias?_eq_none_iff.mpr normal.notAlias
    rw [primary] at unlisted
    rw [preferredChars, unlisted, Option.elim_none]
  rw [normalize, normalizeChars, normal.isTrimmed.trimmed_eq, folded, preferred, primaryChars,
    subtagChars, List.takeWhile_append_dropWhile, String.ofList_toList]

/-- A folded tag stays as it is when its primary subtag is not an alias. Otherwise that subtag is
replaced by a code, which is a subtag in lower case and not an alias. -/
theorem normalizeChars_cases (tag : List Char) :
    (normalizeChars tag = (Text.trimmed tag).map foldChar ∧
      alias? (String.ofList (primaryChars ((Text.trimmed tag).map foldChar))) = none) ∨
    ∃ code : String, IsSubtag code.toList ∧ alias? code = none ∧
      normalizeChars tag = code.toList ++ subtagChars ((Text.trimmed tag).map foldChar) := by
  rw [normalizeChars, preferredChars]
  cases found : alias? (String.ofList (primaryChars ((Text.trimmed tag).map foldChar))) with
  | none => exact .inl ⟨List.takeWhile_append_dropWhile, rfl⟩
  | some code =>
      have listed := alias?_eq_some_iff.mp found
      obtain ⟨_, isCode, _⟩ := preferredChars_of_mem_aliases listed
      exact .inr ⟨code, isCode, alias?_code_eq_none listed, rfl⟩

theorem foldChar_eq_of_mem_normalizeChars {tag : List Char} {c : Char}
    (mem : c ∈ normalizeChars tag) : foldChar c = c := by
  have folded : ∀ c ∈ (Text.trimmed tag).map foldChar, foldChar c = c := by
    intro c mem
    obtain ⟨raw, _, rfl⟩ := List.mem_map.mp mem
    exact foldChar_foldChar raw
  rcases normalizeChars_cases tag with ⟨same, _⟩ | ⟨code, isCode, _, same⟩
  · rw [same] at mem
    exact folded c mem
  · rw [same] at mem
    rcases List.mem_append.mp mem with front | back
    · exact isCode.folded c front
    · exact folded c ((List.dropWhile_suffix _).subset back)

theorem isTrimmed_normalizeChars (tag : List Char) : Text.IsTrimmed (normalizeChars tag) := by
  have folded : Text.IsTrimmed ((Text.trimmed tag).map foldChar) := by
    rw [← Text.trimmed_map isBlank_foldChar]
    exact Text.isTrimmed_trimmed _
  rcases normalizeChars_cases tag with ⟨same, _⟩ | ⟨code, isCode, _, same⟩
  · rw [same]
    exact folded
  · rw [same]
    exact folded.word_append isCode.nonempty isCode.unbroken (List.dropWhile_suffix _)

theorem primaryChars_subtagChars (tag : List Char) : primaryChars (subtagChars tag) = [] := by
  induction tag with
  | nil => rfl
  | cons c rest ih =>
      by_cases hyphen : c = '-'
      · simp [primaryChars, subtagChars, hyphen]
      · simpa [primaryChars, subtagChars, hyphen] using ih

theorem alias?_primaryChars_normalizeChars (tag : List Char) :
    alias? (String.ofList (primaryChars (normalizeChars tag))) = none := by
  rcases normalizeChars_cases tag with ⟨same, unlisted⟩ | ⟨code, isCode, unlisted, same⟩
  · rw [same]
    exact unlisted
  · -- the primary subtag is the code now
    have noHyphen : '-' ∉ code.toList := fun mem => isCode.noHyphen '-' mem rfl
    rw [same, primaryChars_append noHyphen, primaryChars_subtagChars, List.append_nil,
      String.ofList_toList]
    exact unlisted

theorem isNormal_normalize (tag : String) : IsNormal (normalize tag) := by
  have folded : ∀ c ∈ (normalize tag).toList, c.isUpper = false ∧ c ≠ '_' := by
    intro c mem
    rw [normalize, String.toList_ofList] at mem
    exact (foldChar_eq_self_iff c).mp (foldChar_eq_of_mem_normalizeChars mem)
  refine ⟨fun c mem => (folded c mem).1, fun mem => (folded '_' mem).2 rfl, ?_, ?_⟩
  · rw [normalize, String.toList_ofList]
    exact isTrimmed_normalizeChars tag.toList
  · rw [← alias?_eq_none_iff, primary, normalize, String.toList_ofList]
    exact alias?_primaryChars_normalizeChars tag.toList

theorem normalize_eq_self_iff {tag : String} : normalize tag = tag ↔ IsNormal tag := by
  constructor
  · intro same
    rw [← same]
    exact isNormal_normalize tag
  · exact IsNormal.normalize_eq

end Language

/-! ## Formats, groups and scenarios -/

/-- A format whose language, if it has one, is in normal form. -/
def Format.IsNormal (format : Format) : Prop :=
  ∀ tag ∈ format.language, Language.IsNormal tag

theorem Format.isNormal_normalized (format : Format) : format.normalized.IsNormal := by
  intro tag mem
  obtain ⟨spelling, _, rfl⟩ := Option.map_eq_some_iff.mp mem
  exact Language.isNormal_normalize spelling

theorem Format.IsNormal.normalized_eq {format : Format} (normal : format.IsNormal) :
    format.normalized = format := by
  have language : format.language.map Language.normalize = format.language := by
    cases found : format.language with
    | none => rfl
    | some tag => rw [Option.map_some, (normal tag found).normalize_eq]
  rw [normalized, language]

theorem map_normalized_eq {formats : List Format} (normal : ∀ format ∈ formats, format.IsNormal) :
    formats.map Format.normalized = formats := by
  rw [List.map_congr_left fun format mem => (normal format mem).normalized_eq, List.map_id']

namespace Scenario

theorem group_eq_ok_iff {formats : List Format} {position : Nat} {built : TrackGroup} :
    group formats position = .ok built ↔
      built.id = .ofNat position ∧ built.formats = formats.map Format.normalized := by
  have once : (formats.map Format.normalized).map Format.normalized =
      formats.map Format.normalized :=
    map_normalized_eq (by simpa using fun format _ => Format.isNormal_normalized format)
  rw [group]
  split
  next empty =>
      refine iff_of_false (by simp) ?_
      rintro ⟨_, same⟩
      rw [List.isEmpty_iff.mp empty] at same
      exact built.nonempty same
  next => rw [TrackGroup.ofFormats_eq_ok_iff, once]

/-- A scenario has groups exactly if these have its formats in normal form, and their positions as
identities. -/
theorem trackGroups_eq_ok_iff {scenario : Scenario} {groups : List TrackGroup} :
    scenario.trackGroups = .ok groups ↔
      groups.map TrackGroup.formats = scenario.groups.map (List.map Format.normalized) ∧
        groups.map TrackGroup.id = (List.range scenario.groups.length).map GroupId.ofNat := by
  rw [trackGroups, List.range_eq_range', mapM_eq_ok_iff]
  generalize scenario.groups = listed, 0 = start
  induction listed generalizing start groups with
  | nil =>
      simp only [List.zipIdx_nil, List.map_nil, List.length_nil, List.range'_zero, List.nil_eq,
        List.map_eq_nil_iff, and_self]
  | cons formats rest ih =>
      cases groups with
      | nil => simp
      | cons built others =>
          simp only [List.zipIdx_cons, List.map_cons, List.length_cons, List.range'_succ,
            List.cons.injEq, group_eq_ok_iff, ih]
          rw [and_comm (a := built.id = _), and_and_and_comm]

end Scenario

/-- The normal form of every tag is in normal form and is its own normal form, and so is every tag
in normal form. Formats as they are built and formats of a group are therefore left alone by a group
that is built of them, and normalizing the formats of a scenario twice is the same as once. -/
theorem Language.normalize_reaches_normal_form :
    (∀ tag, IsNormal (normalize tag) ∧ normalize (normalize tag) = normalize tag ∧
      (normalize tag = tag ↔ IsNormal tag)) ∧
    (∀ format : Format, format.normalized.IsNormal) ∧
    (∀ id formats group, TrackGroup.ofFormats id formats = .ok group →
      ∀ format ∈ group.formats, format.IsNormal) ∧
    (∀ id (formats : List Format), formats ≠ [] → (∀ format ∈ formats, format.IsNormal) →
      ∃ group, TrackGroup.ofFormats id formats = .ok group ∧ group.id = id ∧
        group.formats = formats) ∧
    ∀ (scenario : Scenario) groups, scenario.trackGroups = .ok groups ↔
      groups.map TrackGroup.formats = scenario.groups.map (List.map Format.normalized) ∧
        groups.map TrackGroup.id = (List.range scenario.groups.length).map GroupId.ofNat := by
  refine ⟨fun tag => ?_, Format.isNormal_normalized, ?_, ?_, ?_⟩
  · have normal := isNormal_normalize tag
    exact ⟨normal, normal.normalize_eq, normalize_eq_self_iff⟩
  · intro id formats group built format mem
    rw [(TrackGroup.ofFormats_eq_ok_iff.mp built).2] at mem
    obtain ⟨raw, _, rfl⟩ := List.mem_map.mp mem
    exact raw.isNormal_normalized
  · intro id formats nonempty normal
    refine ⟨⟨id, formats, nonempty⟩, ?_, rfl, rfl⟩
    exact TrackGroup.ofFormats_eq_ok_iff.mpr ⟨rfl, (map_normalized_eq normal).symm⟩
  · intro scenario groups
    exact Scenario.trackGroups_eq_ok_iff

/-- A tag with blanks, capitals, an underscore and an alias, in a format that is built, put into a
group, and put into another group. -/
theorem Language.normalize_reaches_normal_form_chinese :
    let built : Format := Format.normalized { language := some "\u2003ZHO_Hant\n" }
    built.language = some "zh-hant" ∧ IsNormal "zh-hant" ∧
    ∃ group other, TrackGroup.ofFormats ⟨0⟩ [built] = .ok group ∧ group.formats = [built] ∧
      TrackGroup.ofFormats ⟨1⟩ group.formats = .ok other ∧ other.formats = [built] := by
  intro built
  have folded : normalize "\u2003ZHO_Hant\n" = "zh-hant" := by decide +kernel
  obtain ⟨normal, built_normal, of_group, keeps, _⟩ := normalize_reaches_normal_form
  obtain ⟨group, grouped, _, same⟩ := keeps ⟨0⟩ [built] (List.cons_ne_nil _ _)
    (by simpa using built_normal _)
  obtain ⟨other, regrouped, _, alike⟩ := keeps ⟨1⟩ group.formats group.nonempty
    (of_group _ _ _ grouped)
  refine ⟨congrArg some folded, ?_, group, other, grouped, same, regrouped, alike.trans same⟩
  rw [← folded]
  exact (normal _).1

end TrackSelection
