/-!
# Blank characters

Trimming and emptiness of text are decided by the Unicode property `White_Space`, not by the ASCII
blanks alone.
-/

namespace TrackSelection.Text

/-- The characters with the property `White_Space`. -/
def isBlank (c : Char) : Bool :=
  let code := c.toNat
  (9 ≤ code && code ≤ 13) || code == 0x20 || code == 0x85 || code == 0xA0 || code == 0x1680 ||
    (0x2000 ≤ code && code ≤ 0x200A) || code == 0x2028 || code == 0x2029 || code == 0x202F ||
    code == 0x205F || code == 0x3000

/-- Drop the blanks at both ends. -/
def trimmed (cs : List Char) : List Char :=
  ((cs.dropWhile isBlank).reverse.dropWhile isBlank).reverse

def trim (text : String) : String :=
  String.ofList (trimmed text.toList)

@[simp] theorem toList_trim (text : String) : (trim text).toList = trimmed text.toList := by
  simp [trim]

theorem trimmed_append_blanks {before after : List Char}
    (blank : ∀ c ∈ before ++ after, isBlank c = true) (cs : List Char) :
    trimmed (before ++ cs ++ after) = trimmed cs := by
  have first : ∀ c ∈ before, isBlank c = true :=
    fun c mem => blank c (List.mem_append_left after mem)
  have last : ∀ c ∈ after, isBlank c = true :=
    fun c mem => blank c (List.mem_append_right before mem)
  have lastBack : ∀ c ∈ after.reverse, isBlank c = true :=
    fun c mem => last c (List.mem_reverse.mp mem)
  rw [trimmed, trimmed, List.append_assoc, List.dropWhile_append_of_pos first,
    List.dropWhile_append]
  split
  next empty =>
      have gone : (after ++ []).dropWhile isBlank = [] := List.dropWhile_append_of_pos last
      rw [List.isEmpty_iff] at empty
      rw [List.append_nil] at gone
      rw [empty, gone]
  next => rw [List.reverse_append, List.dropWhile_append_of_pos lastBack]

/-- Characters may be replaced before or after trimming, if blanks are replaced by blanks. -/
theorem trimmed_map {replace : Char → Char} (alike : ∀ c, isBlank (replace c) = isBlank c)
    (cs : List Char) : trimmed (cs.map replace) = (trimmed cs).map replace := by
  have same : isBlank ∘ replace = isBlank := funext alike
  simp only [trimmed, List.dropWhile_map, same, ← List.map_reverse]

/-- Blanks that follow a word are dropped behind it. -/
theorem trimmed_word_append {word : List Char} (nonempty : word ≠ [])
    (unbroken : ∀ c ∈ word, isBlank c = false) (rest : List Char) :
    trimmed (word ++ rest) = word ++ (rest.reverse.dropWhile isBlank).reverse := by
  have stays : ∀ cs : List Char, cs ≠ [] → (∀ c ∈ cs, isBlank c = false) →
      ∀ more, (cs ++ more).dropWhile isBlank = cs ++ more := by
    intro cs some none more
    cases cs with
    | nil => exact absurd rfl some
    | cons c cs => rw [List.cons_append, List.dropWhile_cons_of_neg (by simp [none c])]
  have back : word.reverse.dropWhile isBlank = word.reverse := by
    have kept := stays word.reverse (by simpa using nonempty) (by simpa using unbroken) []
    rwa [List.append_nil] at kept
  rw [trimmed, stays word nonempty unbroken, List.reverse_append, List.dropWhile_append]
  split
  next empty =>
      rw [List.isEmpty_iff] at empty
      rw [empty, back, List.reverse_reverse, List.reverse_nil, List.append_nil]
  next => rw [List.reverse_append, List.reverse_reverse]

theorem trimmed_word {word : List Char} (unbroken : ∀ c ∈ word, isBlank c = false) :
    trimmed word = word := by
  cases word with
  | nil => rfl
  | cons c cs =>
      have kept := trimmed_word_append (List.cons_ne_nil c cs) unbroken []
      simpa using kept

end TrackSelection.Text
