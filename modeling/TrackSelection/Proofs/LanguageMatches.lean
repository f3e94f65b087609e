import TrackSelection.Media.Language

/-!
# What a match of languages says

Two tags match if they are equal, if one continues the other, or if they have the same primary
subtag. Whether one tag continues another is decided on the bare text, so that a tag may also break
off inside the primary subtag of the other: `fi` is Finnish and begins `fil`, which is Filipino. The
main statement says that tags with the same primary subtag always match, that this is the only way
for others to match, and that such a match counts for more than one between two regions of the same
language. The last section makes tags that no query of some list tells apart.
-/

namespace TrackSelection.Language

def IsDetermined (tag : String) : Prop :=
  tag ≠ "" ∧ tag ≠ undetermined

instance (tag : String) : Decidable (IsDetermined tag) :=
  inferInstanceAs (Decidable (_ ∧ _))

theorem determined?_some {tag : String} (names : IsDetermined tag) :
    determined? (some tag) = some tag :=
  Option.filter_eq_some_iff.mpr ⟨rfl, decide_eq_true names⟩

/-- The first text is the beginning of a longer primary subtag that the second one starts with. -/
def BreaksOff (short long : List Char) : Prop :=
  '-' ∉ short ∧ ∃ c rest, c ≠ '-' ∧ long = short ++ c :: rest

/-! ## Primary subtags of texts of which one continues the other -/

@[simp] theorem primaryChars_nil : primaryChars [] = [] := rfl

/-- Up to a hyphen a primary subtag goes on with what is appended. -/
theorem primaryChars_append {word : List Char} (noHyphen : '-' ∉ word) (rest : List Char) :
    primaryChars (word ++ rest) = word ++ primaryChars rest := by
  apply List.takeWhile_append_of_pos
  intro c mem
  exact decide_eq_true fun hyphen => noHyphen (hyphen ▸ mem)

theorem primaryChars_eq_self {word : List Char} (noHyphen : '-' ∉ word) :
    primaryChars word = word := by
  simpa using primaryChars_append noHyphen []

/-- Nothing that is appended behind a hyphen changes the primary subtag. -/
theorem primaryChars_append_of_mem {word : List Char} (hyphen : '-' ∈ word) (rest : List Char) :
    primaryChars (word ++ rest) = primaryChars word := by
  obtain ⟨subtag, back, rfl, noHyphen⟩ := List.eq_append_cons_of_mem hyphen
  rw [List.append_assoc, primaryChars_append noHyphen, primaryChars_append noHyphen]
  rfl

/-- A text and one that continues it have the same primary subtag, unless the first breaks off
inside it. -/
theorem primaryChars_eq_iff_not_breaksOff {short long : List Char} (starts : short <+: long) :
    primaryChars short = primaryChars long ↔ ¬ BreaksOff short long := by
  obtain ⟨rest, rfl⟩ := starts
  by_cases hyphen : '-' ∈ short
  · rw [primaryChars_append_of_mem hyphen]
    exact iff_of_true rfl fun breaks => breaks.1 hyphen
  · rw [primaryChars_append hyphen, primaryChars_eq_self hyphen, List.self_eq_append_right]
    constructor
    · rintro empty ⟨_, c, more, other, same⟩
      obtain rfl := List.append_cancel_left same
      simp [primaryChars, other] at empty
    · intro whole
      cases rest with
      | nil => rfl
      | cons c more =>
          have boundary : c = '-' := by
            apply Decidable.byContradiction
            intro other
            exact whole ⟨hyphen, c, more, other, rfl⟩
          simp [primaryChars, boundary]

theorem BreaksOff.starts {short long : List Char} (breaks : BreaksOff short long) :
    short <+: long := by
  obtain ⟨_, c, rest, _, rfl⟩ := breaks
  exact List.prefix_append short (c :: rest)

/-! ## Scores of tags that name languages -/

variable {tag query : String}

theorem primary_eq_iff : primary tag = primary query ↔
    primaryChars tag.toList = primaryChars query.toList :=
  String.ofList_inj

theorem matchScore_of_isDetermined (names : IsDetermined tag) (asks : IsDetermined query)
    (allow : Bool) :
    matchScore (some tag) (some query) allow =
      if query = tag then 4
      else if query.toList <+: tag.toList ∨ tag.toList <+: query.toList then 3
      else if primary tag = primary query then 2
      else 0 := by
  simp only [matchScore, determined?_some names, determined?_some asks, Option.isSome_some, ne_eq,
    Option.some.injEq, asks.1, not_false_eq_true, true_and, List.isPrefixOf_iff_prefix]

/-- One of two tags breaks off inside the primary subtag of the other. -/
def FalseFriends (tag query : String) : Prop :=
  BreaksOff tag.toList query.toList ∨ BreaksOff query.toList tag.toList

theorem primary_ne_of_falseFriends (friends : FalseFriends tag query) :
    primary tag ≠ primary query := by
  rw [ne_eq, primary_eq_iff]
  obtain breaks | breaks := friends
  · intro same
    exact (primaryChars_eq_iff_not_breaksOff breaks.starts).mp same breaks
  · intro same
    exact (primaryChars_eq_iff_not_breaksOff breaks.starts).mp same.symm breaks

theorem falseFriends_of_continues
    (continues : query.toList <+: tag.toList ∨ tag.toList <+: query.toList)
    (different : primary tag ≠ primary query) : FalseFriends tag query := by
  rw [ne_eq, primary_eq_iff] at different
  obtain starts | starts := continues
  · right
    apply Classical.byContradiction
    intro whole
    exact different ((primaryChars_eq_iff_not_breaksOff starts).mpr whole).symm
  · left
    apply Classical.byContradiction
    intro whole
    exact different ((primaryChars_eq_iff_not_breaksOff starts).mpr whole)

theorem matchScore_of_falseFriends (names : IsDetermined tag) (asks : IsDetermined query)
    (friends : FalseFriends tag query) (allow : Bool) :
    matchScore (some tag) (some query) allow = 3 := by
  have different : query ≠ tag := by
    rintro rfl
    exact primary_ne_of_falseFriends friends rfl
  have continues : query.toList <+: tag.toList ∨ tag.toList <+: query.toList :=
    friends.symm.imp BreaksOff.starts BreaksOff.starts
  rw [matchScore_of_isDetermined names asks, if_neg different, if_pos continues]

/-- Tags with the same primary subtag match. Others match exactly if one breaks off inside the
primary subtag of the other, and then as well as a language matches one of its regions. -/
theorem matchScore_pos_iff_of_isDetermined (names : IsDetermined tag) (asks : IsDetermined query)
    (allow : Bool) :
    (primary tag = primary query → 2 ≤ matchScore (some tag) (some query) allow) ∧
      (0 < matchScore (some tag) (some query) allow ∧ primary tag ≠ primary query ↔
        FalseFriends tag query) ∧
      (FalseFriends tag query → matchScore (some tag) (some query) allow = 3) := by
  refine ⟨?_, ⟨?_, ?_⟩, fun friends => matchScore_of_falseFriends names asks friends allow⟩
  · intro same
    rw [matchScore_of_isDetermined names asks, if_pos same]
    split
    · decide
    · split <;> decide
  · rintro ⟨matched, different⟩
    apply falseFriends_of_continues ?_ different
    rw [matchScore_of_isDetermined names asks, if_neg different] at matched
    by_cases equal : query = tag
    · exact .inl (equal ▸ List.prefix_refl _)
    · rw [if_neg equal] at matched
      apply Decidable.byContradiction
      intro apart
      rw [if_neg apart] at matched
      cases matched
  · intro friends
    rw [matchScore_of_falseFriends names asks friends]
    exact ⟨by decide, primary_ne_of_falseFriends friends⟩

theorem matchScore_pos_iff_of_isDetermined_filipino :
    IsDetermined "fi" ∧ IsDetermined "fil-ph" ∧ FalseFriends "fi" "fil-ph" ∧
      (0 < matchScore (some "fi") (some "fil-ph") true ∧ primary "fi" ≠ primary "fil-ph" ↔
        FalseFriends "fi" "fil-ph") ∧
      (FalseFriends "fi" "fil-ph" → matchScore (some "fi") (some "fil-ph") true = 3) := by
  have finnish : IsDetermined "fi" := by decide
  have filipino : IsDetermined "fil-ph" := by decide
  have friends : FalseFriends "fi" "fil-ph" := .inl ⟨by decide, 'l', "-ph".toList, by decide, rfl⟩
  exact ⟨finnish, filipino, friends, (matchScore_pos_iff_of_isDetermined finnish filipino true).2⟩

/-- For a listener who asks for Filipino as spoken in the Philippines, Finnish counts for more than
the Filipino of another region. -/
theorem matchScore_filipino :
    IsDetermined "fi" ∧ IsDetermined "fil-ph" ∧ primary "fi" ≠ primary "fil-ph" ∧
      0 < matchScore (some "fi") (some "fil-ph") false ∧
      primary "fil-us" = primary "fil-ph" ∧
      matchScore (some "fil-us") (some "fil-ph") false <
        matchScore (some "fi") (some "fil-ph") false := by
  decide

/-! ## Tags that are longer than all queries -/

theorem isDetermined_of_long {tag : String} (long : 3 < tag.toList.length) : IsDetermined tag := by
  constructor
  · rintro rfl
    exact absurd long (by decide)
  · rintro rfl
    exact absurd long (by decide)

/-- A tag that names a language does not match a query that names none, unless they are equal. -/
theorem matchScore_eq_zero_of_determined? {query : Option String} (names : IsDetermined tag)
    (vague : determined? query = none) (different : query ≠ some tag) (allow : Bool) :
    matchScore (some tag) query allow = 0 := by
  simp only [matchScore, determined?_some names, vague, different, and_false, if_false]

/-- A query that is shorter than the primary subtag can only be its beginning. -/
theorem matchScore_append_of_shorter {word : List Char} (noHyphen : '-' ∉ word)
    (long : 3 < word.length) (asks : IsDetermined query)
    (shorter : query.toList.length < word.length) (rest : List Char) (allow : Bool) :
    matchScore (some (String.ofList (word ++ rest))) (some query) allow =
      if query.toList <+: word then 3 else 0 := by
  have length : word.length ≤ (word ++ rest).length := (List.prefix_append word rest).length_le
  have names : IsDetermined (String.ofList (word ++ rest)) := by
    apply isDetermined_of_long
    rw [String.toList_ofList]
    omega
  have different : query ≠ String.ofList (word ++ rest) := by
    rintro rfl
    rw [String.toList_ofList] at shorter
    omega
  have begins : query.toList <+: word ++ rest ∨ word ++ rest <+: query.toList ↔
      query.toList <+: word := by
    constructor
    · rintro (starts | starts)
      · exact List.prefix_of_prefix_length_le starts (List.prefix_append word rest)
          (Nat.le_of_lt shorter)
      · have atMost := starts.length_le
        omega
    · intro starts
      exact .inl (starts.trans (List.prefix_append word rest))
  have subtags : primary (String.ofList (word ++ rest)) ≠ primary query := by
    rw [ne_eq, primary_eq_iff, String.toList_ofList, primaryChars_append noHyphen]
    intro same
    have asLong : word.length ≤ (primaryChars query.toList).length :=
      same ▸ (List.prefix_append word _).length_le
    have atMost : (primaryChars query.toList).length ≤ query.toList.length :=
      (List.takeWhile_prefix _).length_le
    omega
  rw [matchScore_of_isDetermined names asks, if_neg different, if_neg subtags, String.toList_ofList]
  simp only [begins]

/-- What a long word goes on with does not matter to a query that is shorter than the word. -/
theorem matchScore_append_eq {word : List Char} (noHyphen : '-' ∉ word) (long : 3 < word.length)
    {query : Option String} (shorter : ∀ asked ∈ query, asked.toList.length < word.length)
    (rest other : List Char) (allow : Bool) :
    matchScore (some (String.ofList (word ++ rest))) query allow =
      matchScore (some (String.ofList (word ++ other))) query allow := by
  cases named : determined? query with
  | none =>
      have nothing (tail : List Char) :
          matchScore (some (String.ofList (word ++ tail))) query allow = 0 := by
        have length : word.length ≤ (word ++ tail).length :=
          (List.prefix_append word tail).length_le
        apply matchScore_eq_zero_of_determined? ?_ named
        · rintro rfl
          have less := shorter _ rfl
          rw [String.toList_ofList] at less
          omega
        · apply isDetermined_of_long
          rw [String.toList_ofList]
          omega
      rw [nothing rest, nothing other]
  | some asked =>
      obtain ⟨rfl, asks⟩ := Option.filter_eq_some_iff.mp named
      have asks := of_decide_eq_true asks
      rw [matchScore_append_of_shorter noHyphen long asks (shorter asked rfl),
        matchScore_append_of_shorter noHyphen long asks (shorter asked rfl)]

end TrackSelection.Language
