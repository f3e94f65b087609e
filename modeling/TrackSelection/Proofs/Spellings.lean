import Mathlib.Data.List.Forall2
import TrackSelection.Proofs.BuiltParameters
import TrackSelection.Proofs.SessionHistory
import TrackSelection.Proofs.SortedSearch

/-!
# Spellings of one language

One language tag has many spellings: letters of either case, underscores for hyphens, blanks around
the tag, and one of several codes for the primary subtag. Tags enter in many places: with the
formats of a group, with changes of parameters, with a configuration and with the languages of the
system. Wherever they enter, only their normal form is kept. Two sessions that are told the same in
different spellings therefore give the same answers to every sequence of calls.
-/

namespace TrackSelection

namespace Language

/-! ## Tags -/

/-- A character with an underscore read as a hyphen. -/
def hyphenated (c : Char) : Char :=
  if c = '_' then '-' else c

/-- Two spellings of one tag. -/
inductive Respelled : String → String → Prop
  /-- Letters may be of either case. -/
  | letters {a b : String} (same : a.toList.map Char.toLower = b.toList.map Char.toLower) :
      Respelled a b
  /-- Underscores may stand for hyphens. -/
  | separators {a b : String} (same : a.toList.map hyphenated = b.toList.map hyphenated) :
      Respelled a b
  /-- Blanks may surround the tag. -/
  | blanks {before after : List Char} (tag : List Char)
      (blank : ∀ c ∈ before ++ after, Text.isBlank c = true) :
      Respelled (String.ofList (before ++ tag ++ after)) (String.ofList tag)
  /-- The primary subtag may have another code. -/
  | code {word code : String} (rest : List Char) (listed : (word, code) ∈ aliases)
      (ends : ∀ c ∈ rest.head?, c = '-' ∨ c = '_') :
      Respelled (String.ofList (word.toList ++ rest)) (String.ofList (code.toList ++ rest))
  | symm {a b : String} : Respelled a b → Respelled b a
  | trans {a b c : String} : Respelled a b → Respelled b c → Respelled a c

theorem isUpper_iff (c : Char) : c.isUpper = true ↔ 65 ≤ c.toNat ∧ c.toNat ≤ 90 :=
  decide_eq_true_iff

/-- Only capital letters have another lower case, and they get the codes of small letters. -/
theorem toLower_eq_or (c : Char) :
    c.isUpper = false ∧ c.toLower = c ∨ c.isUpper = true ∧ c.toLower.toNat = c.toNat + 32 := by
  by_cases capital : c.isUpper = true
  · obtain ⟨low, high⟩ := (isUpper_iff c).mp capital
    have lower : c.toLower.toNat = (c.val.toNat + 32) % 4294967296 :=
      congrArg Char.toNat (dif_pos ⟨low, high⟩)
    refine .inr ⟨capital, lower.trans (Nat.mod_eq_of_lt ?_)⟩
    show c.toNat + 32 < 4294967296
    omega
  · have small : c.toLower = c := dif_neg fun both => capital ((isUpper_iff c).mpr both)
    exact .inl ⟨Bool.eq_false_iff.mpr capital, small⟩

theorem toLower_eq_underscore_iff (c : Char) : c.toLower = '_' ↔ c = '_' := by
  rcases toLower_eq_or c with ⟨_, same⟩ | ⟨capital, small⟩
  · rw [same]
  · obtain ⟨low, high⟩ := (isUpper_iff c).mp capital
    constructor
    · intro lower
      have code : c.toLower.toNat = 95 := congrArg Char.toNat lower
      omega
    · rintro rfl
      exact absurd high (by decide)

theorem foldChar_eq_toLower (c : Char) : foldChar c = (hyphenated c).toLower := by
  rw [foldChar, hyphenated]
  split <;> rfl

theorem foldChar_eq_hyphenated (c : Char) : foldChar c = hyphenated c.toLower := by
  simp only [foldChar, hyphenated, toLower_eq_underscore_iff]

theorem isBlank_foldChar (c : Char) : Text.isBlank (foldChar c) = Text.isBlank c := by
  rw [foldChar]
  split
  next underscore =>
      subst underscore
      rfl
  next =>
      rcases toLower_eq_or c with ⟨_, same⟩ | ⟨capital, small⟩
      · rw [same]
      · obtain ⟨low, high⟩ := (isUpper_iff c).mp capital
        have letter : ∀ code < 123, 65 ≤ code → Text.isBlank (Char.ofNat code) = false := by
          decide +kernel
        have before := letter c.toNat (by omega) low
        have after := letter c.toLower.toNat (by omega) (by omega)
        rw [Char.ofNat_toNat] at before after
        rw [before, after]

/-- Characters may be folded before the blanks are dropped. -/
theorem normalizeChars_eq (tag : List Char) :
    normalizeChars tag =
      preferredChars (primaryChars (Text.trimmed (tag.map foldChar))) ++
        subtagChars (Text.trimmed (tag.map foldChar)) := by
  rw [normalizeChars, Text.trimmed_map isBlank_foldChar]

/-- A primary subtag in lower case. -/
structure IsSubtag (subtag : List Char) : Prop where
  nonempty : subtag ≠ []
  unbroken : ∀ c ∈ subtag, Text.isBlank c = false
  noHyphen : ∀ c ∈ subtag, c ≠ '-'
  folded : ∀ c ∈ subtag, foldChar c = c

def isSubtag (subtag : List Char) : Bool :=
  !subtag.isEmpty && subtag.all fun c => !Text.isBlank c && c != '-' && foldChar c == c

theorem isSubtag_iff {subtag : List Char} : isSubtag subtag = true ↔ IsSubtag subtag := by
  simp only [isSubtag, Bool.and_eq_true, Bool.not_eq_true', List.isEmpty_eq_false_iff,
    List.all_eq_true, bne_iff_ne, beq_iff_eq]
  constructor
  · rintro ⟨nonempty, chars⟩
    exact ⟨nonempty, fun c mem => (chars c mem).1.1, fun c mem => (chars c mem).1.2,
      fun c mem => (chars c mem).2⟩
  · intro is
    exact ⟨is.nonempty, fun c mem => ⟨⟨is.unbroken c mem, is.noHyphen c mem⟩, is.folded c mem⟩⟩

theorem IsSubtag.map_foldChar {subtag : List Char} (is : IsSubtag subtag) :
    subtag.map foldChar = subtag := by
  rw [List.map_congr_left is.folded, List.map_id']

/-- What is left of a tag behind its primary subtag does not depend on that subtag. -/
theorem exists_trimmed_append {rest : List Char} (ends : ∀ c ∈ rest.head?, c = '-' ∨ c = '_') :
    ∃ tail : List Char, (∀ c ∈ tail.head?, c = '-') ∧ ∀ subtag, IsSubtag subtag →
      Text.trimmed ((subtag ++ rest).map foldChar) = subtag ++ tail := by
  cases rest with
  | nil =>
      refine ⟨[], by simp, fun subtag is => ?_⟩
      rw [List.append_nil, is.map_foldChar, Text.trimmed_word is.unbroken]
  | cons separator rest =>
      have hyphen : foldChar separator = '-' := by
        rcases ends separator (by simp) with rfl | rfl <;> rfl
      refine ⟨'-' :: ((rest.map foldChar).reverse.dropWhile Text.isBlank).reverse, by simp,
        fun subtag is => ?_⟩
      -- the hyphen is no blank, so that nothing is dropped up to it
      have unbroken : ∀ c ∈ subtag ++ ['-'], Text.isBlank c = false := by
        intro c mem
        rcases List.mem_append.mp mem with inside | last
        · exact is.unbroken c inside
        · obtain rfl := List.mem_singleton.mp last
          rfl
      have kept := Text.trimmed_word_append (by simp) unbroken (rest.map foldChar)
      rw [List.append_assoc, List.append_assoc] at kept
      rw [List.map_append, is.map_foldChar, List.map_cons, hyphen]
      exact kept

/-- The primary subtag is replaced by its preferred code, whatever follows it. -/
theorem exists_normalizeChars_append {rest : List Char}
    (ends : ∀ c ∈ rest.head?, c = '-' ∨ c = '_') :
    ∃ tail : List Char, ∀ subtag, IsSubtag subtag →
      normalizeChars (subtag ++ rest) = preferredChars subtag ++ tail := by
  obtain ⟨tail, hyphen, trimmed⟩ := exists_trimmed_append ends
  refine ⟨tail, fun subtag is => ?_⟩
  have inside : ∀ c ∈ subtag, decide (c ≠ '-') = true :=
    fun c mem => decide_eq_true (is.noHyphen c mem)
  have outside : tail.takeWhile (· ≠ '-') = [] ∧ tail.dropWhile (· ≠ '-') = tail := by
    cases tail with
    | nil => exact ⟨rfl, rfl⟩
    | cons c tail =>
        obtain rfl := hyphen c rfl
        exact ⟨rfl, rfl⟩
  rw [normalizeChars_eq, trimmed subtag is, primaryChars, subtagChars,
    List.takeWhile_append_of_pos inside, List.dropWhile_append_of_pos inside, outside.1, outside.2,
    List.append_nil]

/-- No code that is preferred is an alias itself. -/
theorem alias?_code_eq_none {word code : String} (listed : (word, code) ∈ aliases) :
    alias? code = none := by
  have unlisted : ∀ entry ∈ aliases, ∀ other ∈ aliases, other.1 ≠ entry.2 := by decide +kernel
  rw [alias?_eq_none_iff]
  intro other chained
  exact unlisted _ listed _ chained rfl

/-- An entry of the table leads from one subtag to another, which is not an alias itself. -/
theorem preferredChars_of_mem_aliases {word code : String} (listed : (word, code) ∈ aliases) :
    IsSubtag word.toList ∧ IsSubtag code.toList ∧
      preferredChars word.toList = code.toList ∧ preferredChars code.toList = code.toList := by
  have wellFormed : ∀ entry ∈ aliases, ∀ subtag ∈ [entry.1, entry.2],
      isSubtag subtag.toList = true := by
    decide +kernel
  refine ⟨isSubtag_iff.mp (wellFormed _ listed word (by simp)),
    isSubtag_iff.mp (wellFormed _ listed code (by simp)), ?_, ?_⟩
  · rw [preferredChars, String.ofList_toList, alias?_eq_some_iff.mpr listed, Option.elim_some]
  · rw [preferredChars, String.ofList_toList, alias?_code_eq_none listed, Option.elim_none]

/-- All spellings of a tag have one normal form. -/
theorem Respelled.normalize_eq {a b : String} (respelled : Respelled a b) :
    normalize a = normalize b := by
  induction respelled with
  | letters same =>
      have folded : ∀ tag : List Char, tag.map foldChar = (tag.map Char.toLower).map hyphenated :=
        fun tag => by simp [foldChar_eq_hyphenated]
      rw [normalize, normalize, normalizeChars_eq, normalizeChars_eq, folded, folded, same]
  | separators same =>
      have folded : ∀ tag : List Char, tag.map foldChar = (tag.map hyphenated).map Char.toLower :=
        fun tag => by simp [foldChar_eq_toLower]
      rw [normalize, normalize, normalizeChars_eq, normalizeChars_eq, folded, folded, same]
  | blanks tag blank =>
      rw [normalize, normalize, String.toList_ofList, String.toList_ofList, normalizeChars,
        normalizeChars, Text.trimmed_append_blanks blank]
  | code rest listed ends =>
      obtain ⟨tail, normal⟩ := exists_normalizeChars_append ends
      obtain ⟨isWord, isCode, preferred, fixed⟩ := preferredChars_of_mem_aliases listed
      rw [normalize, normalize, String.toList_ofList, String.toList_ofList, normal _ isWord,
        normal _ isCode, preferred, fixed]
  | symm _ ih => exact ih.symm
  | trans _ _ first second => exact first.trans second

end Language

/-! ## Where tags enter -/

/-- What is computed alike from related elements is computed alike from lists of them. -/
theorem map_eq_of_forall₂ {α β : Type} {related : α → α → Prop} {f : α → β}
    (alike : ∀ a b, related a b → f a = f b) {as bs : List α}
    (pairs : List.Forall₂ related as bs) : as.map f = bs.map f := by
  induction pairs with
  | nil => rfl
  | @cons a b _ _ pair _ ih => rw [List.map_cons, List.map_cons, alike a b pair, ih]

theorem bind_eq_of_rel {α β : Type} {related : α → α → Prop} {f : α → Option β}
    (alike : ∀ a b, related a b → f a = f b) {a b : Option α} (pair : Option.Rel related a b) :
    a.bind f = b.bind f := by
  cases pair with
  | none => rfl
  | @some a b pair => exact alike a b pair

structure Format.Respelled (a b : Format) : Prop where
  language : Option.Rel Language.Respelled a.language b.language
  rest : { a with language := none } = { b with language := none }

theorem Format.Respelled.normalized_eq {a b : Format} (respelled : a.Respelled b) :
    a.normalized = b.normalized := by
  have language : a.language.map Language.normalize = b.language.map Language.normalize := by
    rw [Option.map_eq_bind, Option.map_eq_bind]
    exact bind_eq_of_rel (fun _ _ tags => congrArg some tags.normalize_eq) respelled.language
  calc a.normalized
    _ = { { a with language := none } with language := a.language.map Language.normalize } := rfl
    _ = b.normalized := by rw [respelled.rest, language]; rfl

/-- A group is built of some formats exactly if it has these in normal form. -/
theorem TrackGroup.ofFormats_eq_ok_iff {id : GroupId} {formats : List Format} {group : TrackGroup} :
    ofFormats id formats = .ok group ↔
      group.id = id ∧ group.formats = formats.map Format.normalized := by
  obtain ⟨groupId, groupFormats, nonempty⟩ := group
  rw [ofFormats]
  split
  next empty =>
      refine iff_of_false (by simp) ?_
      rintro ⟨_, same⟩
      rw [empty] at same
      exact nonempty same
  next => simp [eq_comm]

/-- Two groups of one identity that were built of formats which differ at most in spelling. -/
def TrackGroup.Respelled (a b : TrackGroup) : Prop :=
  ∃ id formats others, ofFormats id formats = .ok a ∧ ofFormats id others = .ok b ∧
    List.Forall₂ Format.Respelled formats others

theorem TrackGroup.Respelled.eq {a b : TrackGroup} (respelled : a.Respelled b) : a = b := by
  obtain ⟨id, formats, others, built, builtToo, pairs⟩ := respelled
  have same : formats.map Format.normalized = others.map Format.normalized :=
    map_eq_of_forall₂ (fun _ _ pair => pair.normalized_eq) pairs
  rw [ofFormats_eq_ok_iff, ← same, ← ofFormats_eq_ok_iff] at builtToo
  exact Except.ok.inj (built.symm.trans builtToo)

theorem TrackGroup.eq_of_forall₂_respelled {groups others : List TrackGroup}
    (pairs : List.Forall₂ TrackGroup.Respelled groups others) : groups = others := by
  have same : groups.map (fun group => group) = others.map fun group => group :=
    map_eq_of_forall₂ (fun _ _ pair => pair.eq) pairs
  rwa [List.map_id', List.map_id'] at same

theorem Language.Respelled.preferredLanguage?_eq {a b : String}
    (respelled : Language.Respelled a b) :
    Parameters.preferredLanguage? a = Parameters.preferredLanguage? b := by
  rw [Parameters.preferredLanguage?, Parameters.preferredLanguage?, respelled.normalize_eq]

inductive Change.Respelled : Change → Change → Prop
  | same (change : Change) : Change.Respelled change change
  | audioLanguage {a b : String} (tags : Language.Respelled a b) :
      Change.Respelled (.audioLanguage a) (.audioLanguage b)
  | textLanguage {a b : String} (tags : Language.Respelled a b) :
      Change.Respelled (.textLanguage a) (.textLanguage b)
  | setOverride (renderer : Nat) {groups others : List TrackGroup}
      (pairs : List.Forall₂ TrackGroup.Respelled groups others) (override : Option Override) :
      Change.Respelled (.setOverride renderer groups override)
        (.setOverride renderer others override)
  | clearOverride (renderer : Nat) {groups others : List TrackGroup}
      (pairs : List.Forall₂ TrackGroup.Respelled groups others) :
      Change.Respelled (.clearOverride renderer groups) (.clearOverride renderer others)

theorem Change.Respelled.apply_eq {a b : Change} (respelled : a.Respelled b) (p : Parameters) :
    p.apply a = p.apply b := by
  cases respelled with
  | same => rfl
  | audioLanguage tags => rw [Parameters.apply, Parameters.apply, tags.preferredLanguage?_eq]
  | textLanguage tags => rw [Parameters.apply, Parameters.apply, tags.preferredLanguage?_eq]
  | setOverride renderer pairs override => rw [TrackGroup.eq_of_forall₂_respelled pairs]
  | clearOverride renderer pairs => rw [TrackGroup.eq_of_forall₂_respelled pairs]

theorem Change.foldl_apply_eq {changes others : List Change}
    (pairs : List.Forall₂ Change.Respelled changes others) (p : Parameters) :
    changes.foldl Parameters.apply p = others.foldl Parameters.apply p := by
  induction pairs generalizing p with
  | nil => rfl
  | cons pair _ ih => rw [List.foldl_cons, List.foldl_cons, pair.apply_eq, ih]

def Config.withoutLanguages (config : Config) : Config :=
  { config with
    audio := { config.audio with preferredLanguage := none }
    text := { config.text with preferredLanguage := none }
    systemLanguages := [] }

structure Config.Respelled (a b : Config) : Prop where
  audio : Option.Rel Language.Respelled a.audio.preferredLanguage b.audio.preferredLanguage
  text : Option.Rel Language.Respelled a.text.preferredLanguage b.text.preferredLanguage
  system : List.Forall₂ Language.Respelled a.systemLanguages b.systemLanguages
  rest : a.withoutLanguages = b.withoutLanguages

theorem Config.Respelled.parameters_eq {a b : Config} (respelled : a.Respelled b) :
    a.parameters = b.parameters := by
  have preferred : ∀ {tag other : Option String}, Option.Rel Language.Respelled tag other →
      tag.bind Parameters.preferredLanguage? = other.bind Parameters.preferredLanguage? :=
    bind_eq_of_rel fun _ _ tags => tags.preferredLanguage?_eq
  have audio := preferred respelled.audio
  have text := preferred respelled.text
  have rest := respelled.rest
  obtain ⟨_, ⟨_, _, _, _, _, _, _⟩, ⟨_, _, _, _⟩, _, _, _⟩ := a
  obtain ⟨_, ⟨_, _, _, _, _, _, _⟩, ⟨_, _, _, _⟩, _, _, _⟩ := b
  cases rest
  rw [parameters, parameters]
  simp only [audio, text]

inductive Recipe.Respelled : Recipe → Recipe → Prop
  | new {changes others : List Change} (pairs : List.Forall₂ Change.Respelled changes others) :
      Recipe.Respelled (.new changes) (.new others)
  | ofConfig {a b : Config} {changes others : List Change} (configs : a.Respelled b)
      (pairs : List.Forall₂ Change.Respelled changes others) :
      Recipe.Respelled (.ofConfig a changes) (.ofConfig b others)
  | upon {a b : Recipe} {changes others : List Change} (earlier : Recipe.Respelled a b)
      (pairs : List.Forall₂ Change.Respelled changes others) :
      Recipe.Respelled (.upon a changes) (.upon b others)

theorem Recipe.Respelled.parameters_eq {a b : Recipe} (respelled : a.Respelled b) :
    a.parameters = b.parameters := by
  induction respelled with
  | new pairs => exact Change.foldl_apply_eq pairs {}
  | ofConfig configs pairs =>
      rw [parameters, parameters, configs.parameters_eq, Change.foldl_apply_eq pairs]
  | upon _ pairs ih => rw [parameters, parameters, ih, Change.foldl_apply_eq pairs]

/-! ## Sessions -/

namespace Session

theorem normalLanguages_eq {languages others : List String}
    (tags : List.Forall₂ Language.Respelled languages others) :
    normalLanguages languages = normalLanguages others := by
  rw [normalLanguages, normalLanguages, map_eq_of_forall₂ (fun _ _ tag => tag.normalize_eq) tags]

inductive Call.Respelled : Call → Call → Prop
  | same (call : Call) : Call.Respelled call call
  | install {a b : Recipe} (recipes : a.Respelled b) :
      Call.Respelled (.install a.parameters) (.install b.parameters)
  | revise {changes others : List Change} (pairs : List.Forall₂ Change.Respelled changes others) :
      Call.Respelled (.revise changes) (.revise others)
  | select (renderers : List Renderer) {groups others : List TrackGroup}
      (pairs : List.Forall₂ TrackGroup.Respelled groups others) :
      Call.Respelled (.select renderers groups) (.select renderers others)

theorem Call.Respelled.perform_eq {a b : Call} (respelled : a.Respelled b) (session : Session) :
    session.perform a = session.perform b := by
  cases respelled with
  | same => rfl
  | install recipes => rw [recipes.parameters_eq]
  | revise pairs => rw [perform, perform, Change.foldl_apply_eq pairs]
  | select renderers pairs => rw [TrackGroup.eq_of_forall₂_respelled pairs]

/-- One session cannot tell calls apart that differ at most in spelling. -/
theorem after_eq_and_answers_eq {calls others : List Call}
    (pairs : List.Forall₂ Call.Respelled calls others) (session : Session) :
    session.after calls = session.after others ∧
      (session.history calls).map Event.answer = (session.history others).map Event.answer := by
  induction pairs generalizing session with
  | nil => exact ⟨rfl, rfl⟩
  | @cons call other _ _ pair _ ih =>
      have answer : (session.event call).answer = (session.event other).answer :=
        congrArg Prod.fst (pair.perform_eq session)
      have after : (session.event call).after = (session.event other).after :=
        congrArg Prod.snd (pair.perform_eq session)
      obtain ⟨sameAfter, sameAnswers⟩ := ih (session.event other).after
      rw [Session.after, Session.after, history, history, List.map_cons, List.map_cons, after,
        answer, sameAfter, sameAnswers]
      exact ⟨rfl, rfl⟩

/-- The spelling of language tags is irrelevant. Two sessions start with parameters and languages of
the system that differ at most in spelling, and so do the calls that are made on them; then each
call has the same answer on both, both sessions are the same in the end, and both select the same
tracks, or fail alike, for groups whose formats differ at most in spelling. -/
theorem select_eq_of_respelled {recipe recipe' : Recipe} (recipes : recipe.Respelled recipe')
    {languages languages' : List String}
    (tags : List.Forall₂ Language.Respelled languages languages') {calls calls' : List Call}
    (pairs : List.Forall₂ Call.Respelled calls calls') :
    let session := start recipe.parameters languages
    let other := start recipe'.parameters languages'
    (session.history calls).map Event.answer = (other.history calls').map Event.answer ∧
      session.after calls = other.after calls' ∧
      ∀ renderers groups groups', List.Forall₂ TrackGroup.Respelled groups groups' →
        (session.after calls).select renderers groups =
          (other.after calls').select renderers groups' := by
  intro session other
  have started : session = other := by
    show start recipe.parameters languages = start recipe'.parameters languages'
    rw [start, start, recipes.parameters_eq, normalLanguages_eq tags]
  obtain ⟨after, answers⟩ := after_eq_and_answers_eq pairs other
  rw [started]
  refine ⟨answers, after, fun renderers groups groups' built => ?_⟩
  rw [after, TrackGroup.eq_of_forall₂_respelled built]

namespace Sample

def speakers : Renderer where
  name := "speakers"
  trackType := .audio
  capabilities _ :=
    .ok { format := .handled, adaptive := .notSupported, tunneling := .notSupported }
  mixedMimeTypes := .ok .notSupported

/-- An English and another track. -/
def dubbed (tag : String) : List Format :=
  [{ sampleMimeType := some "audio/aac", language := some "en" },
    { sampleMimeType := some "audio/aac", language := some tag }]

def dubbedGroup (tag : String) : TrackGroup where
  id := ⟨0⟩
  formats := (dubbed tag).map Format.normalized
  nonempty := by simp [dubbed]

/-- A preferred language, and one of the system. -/
def speaking (tag system : String) : Config where
  audio := { preferredLanguage := some tag }
  systemLanguages := [system]

def selectedTracks (answer : Except Error Outcome) : List (Option (List Nat)) :=
  match answer with
  | .ok outcome => outcome.selections.map fun selection => selection.map Selection.tracks
  | .error _ => []

theorem respelled_austrian : Language.Respelled "\tGER_at " "de-AT" :=
  have blank : ∀ c ∈ ['\t'] ++ [' '], Text.isBlank c = true := List.all_eq_true.mp rfl
  have trimmed : Language.Respelled "\tGER_at " "GER_at" := .blanks "GER_at".toList blank
  have lower : Language.Respelled "GER_at" "ger_AT" := .letters (by decide)
  have hyphen : Language.Respelled "ger_AT" "ger-AT" := .separators (by decide)
  have coded : Language.Respelled "ger-AT" "de-AT" :=
    .code "-AT".toList (by decide : ("ger", "de") ∈ Language.aliases) (by simp)
  trimmed.trans (lower.trans (hyphen.trans coded))

end Sample

theorem select_eq_of_respelled_austrian :
    let recipe := Recipe.ofConfig (Sample.speaking "\tGER_at " "iw") []
    let recipe' := Recipe.ofConfig (Sample.speaking "de-AT" "he") []
    recipe.Respelled recipe' ∧
      let session := (start recipe.parameters ["iw"]).after [.revise [.textLanguage "de-AT"]]
      let other := (start recipe'.parameters ["he"]).after [.revise [.textLanguage "\tGER_at "]]
      Sample.selectedTracks
          (session.select [Sample.speakers] [Sample.dubbedGroup "\tGER_at "]) = [some [1]] ∧
        session.select [Sample.speakers] [Sample.dubbedGroup "\tGER_at "] =
          other.select [Sample.speakers] [Sample.dubbedGroup "de-AT"] := by
  have hebrew : Language.Respelled "iw" "he" :=
    .code [] (by decide : ("iw", "he") ∈ Language.aliases) (by simp)
  have systems : List.Forall₂ Language.Respelled ["iw"] ["he"] := .cons hebrew .nil
  have recipes : Recipe.Respelled (.ofConfig (Sample.speaking "\tGER_at " "iw") [])
      (.ofConfig (Sample.speaking "de-AT" "he") []) :=
    .ofConfig ⟨.some Sample.respelled_austrian, .none, systems, rfl⟩ .nil
  have calls : List.Forall₂ Call.Respelled [.revise [.textLanguage "de-AT"]]
      [.revise [.textLanguage "\tGER_at "]] :=
    .cons (.revise (.cons (.textLanguage Sample.respelled_austrian.symm) .nil)) .nil
  have formats : List.Forall₂ Format.Respelled (Sample.dubbed "\tGER_at ")
      (Sample.dubbed "de-AT") :=
    .cons ⟨.some (.letters rfl), rfl⟩ (.cons ⟨.some Sample.respelled_austrian, rfl⟩ .nil)
  have groups : List.Forall₂ TrackGroup.Respelled [Sample.dubbedGroup "\tGER_at "]
      [Sample.dubbedGroup "de-AT"] :=
    .cons ⟨⟨0⟩, Sample.dubbed "\tGER_at ", Sample.dubbed "de-AT", rfl, rfl, formats⟩ .nil
  exact ⟨recipes, by decide +kernel,
    (select_eq_of_respelled recipes systems calls).2.2 [Sample.speakers] _ _ groups⟩

end Session

end TrackSelection
