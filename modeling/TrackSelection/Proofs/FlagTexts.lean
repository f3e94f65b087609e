import TrackSelection.Media.Flags
import TrackSelection.Proofs.CheckedChoice

/-!
# Reading flag sets back

The text of a flag set is its parts with bars and single blanks between them. Cut at the bars and
trimmed, it gives back the parts, since no part has a bar or a blank; each part gives back its bits,
since the names differ and no name looks like a hexadecimal number; and the bits of all parts
together are the set. So every set of 32 bits, also one with bits that have no name, is read back
from its text.
-/

namespace TrackSelection

namespace Flags

/-! ## Parts -/

/-- Something that is written between bars. -/
structure IsWord (word : List Char) : Prop where
  nonempty : word ≠ []
  unbroken : ∀ c ∈ word, Text.isBlank c = false
  noBar : '|' ∉ word

/-- Words with a bar between blanks between them. -/
def joined (words : List (List Char)) : List Char :=
  [' ', '|', ' '].intercalate words

@[simp] theorem joined_singleton (word : List Char) : joined [word] = word :=
  List.intercalate_singleton

theorem joined_cons_cons (word next : List Char) (words : List (List Char)) :
    joined (word :: next :: words) = word ++ [' '] ++ '|' :: ([' '] ++ joined (next :: words)) := by
  simp [joined, List.intercalate_cons_cons]

theorem trimmed_joined_ne_nil {word : List Char} (is : IsWord word) (words : List (List Char)) :
    Text.trimmed (joined (word :: words)) ≠ [] := by
  have starts : ∃ rest, joined (word :: words) = word ++ rest := by
    cases words with
    | nil => exact ⟨[], by simp⟩
    | cons next words => exact ⟨_, (joined_cons_cons word next words).trans (List.append_assoc ..)⟩
  obtain ⟨rest, same⟩ := starts
  rw [same, Text.trimmed_word_append is.nonempty is.unbroken]
  exact List.append_ne_nil_of_left_ne_nil is.nonempty _

/-- A text that is cut at its bars gives back its words, blanks aside. -/
theorem map_trimmed_splitOn_joined {words : List (List Char)} (nonempty : words ≠ [])
    (areWords : ∀ word ∈ words, IsWord word) {front : List Char}
    (blank : ∀ c ∈ front, Text.isBlank c = true) :
    ((front ++ joined words).splitOn '|').map Text.trimmed = words := by
  induction words generalizing front with
  | nil => exact absurd rfl nonempty
  | cons word words ih =>
      have is := areWords word List.mem_cons_self
      have noBar : '|' ∉ front := by
        intro bar
        exact absurd (blank '|' bar) (by decide)
      cases words with
      | nil =>
          have one : (front ++ word).splitOn '|' = [front ++ word] :=
            List.splitOn_eq_singleton (by simp [noBar, is.noBar])
          have trimmed : Text.trimmed (front ++ word ++ []) = Text.trimmed word :=
            Text.trimmed_append_blanks (by simpa using blank) word
          rw [List.append_nil, Text.trimmed_word is.unbroken] at trimmed
          rw [joined_singleton, one, List.map_singleton, trimmed]
      | cons next words =>
          -- the first bar stands between the blanks behind the first word
          have noBarYet : ∀ c ∈ front ++ (word ++ [' ']), (c == '|') = false := by
            intro c mem
            rw [beq_eq_false_iff_ne]
            rintro rfl
            simp [noBar, is.noBar] at mem
          have blanks : ∀ c ∈ [' '], Text.isBlank c = true := by
            intro c mem
            obtain rfl := List.mem_singleton.mp mem
            rfl
          have trimmed : Text.trimmed (front ++ word ++ [' ']) = Text.trimmed word := by
            refine Text.trimmed_append_blanks (fun c mem => ?_) word
            rcases List.mem_append.mp mem with before | after
            · exact blank c before
            · exact blanks c after
          rw [Text.trimmed_word is.unbroken, List.append_assoc] at trimmed
          have rest := ih (List.cons_ne_nil next words)
            (fun other mem => areWords other (List.mem_cons_of_mem word mem)) blanks
          rw [List.splitOn] at rest ⊢
          rw [joined_cons_cons, ← List.append_assoc,
            List.splitOnP_append_cons_of_forall_mem noBarYet '|' rfl, List.map_cons, rest, trimmed]

/-- Whether a name is a word that does not look like a number. -/
def isName (name : String) : Bool :=
  !name.toList.isEmpty && name.toList.all (fun c => !Text.isBlank c && c != '|') &&
    name.toList.head? != some '0'

theorem isWord_of_isName {name : String} (is : isName name = true) : IsWord name.toList := by
  simp only [isName, Bool.and_eq_true, List.all_eq_true, Bool.not_eq_true', bne_iff_ne] at is
  obtain ⟨⟨nonempty, chars⟩, _⟩ := is
  refine ⟨?_, fun c mem => (chars c mem).1, fun bar => (chars '|' bar).2 rfl⟩
  intro empty
  rw [empty] at nonempty
  cases nonempty

theorem head?_ne_of_isName {name : String} (is : isName name = true) :
    name.toList.head? ≠ some '0' := by
  simp only [isName, Bool.and_eq_true, bne_iff_ne] at is
  exact is.2

/-- Names that can be told apart in the text of a flag set. -/
structure AreNames (names : List String) : Prop where
  nodup : names.Nodup
  length_le : names.length ≤ 32
  isName : names.all isName = true

theorem AreNames.isName_of_mem {names : List String} (are : AreNames names) {name : String}
    (mem : name ∈ names) : Flags.isName name = true :=
  List.all_eq_true.mp are.isName name mem

variable {names : List String}

/-- A name stands for its bit. -/
theorem partBits?_name (are : AreNames names) {name : String} {i : Nat}
    (mem : (name, i) ∈ names.zipIdx) :
    partBits? names name.toList = some (UInt32.ofNat (1 <<< i)) := by
  obtain ⟨bound, rfl⟩ := List.getElem?_eq_some_iff.mp (List.mk_mem_zipIdx_iff_getElem?.mp mem)
  have known : names[i] ∈ names := List.getElem_mem bound
  have found : names.idxOf? names[i] = some i := by
    refine List.idxOf?_eq_some_iff.mpr ⟨bound, rfl, fun j before same => ?_⟩
    have equal := (List.getElem_inj are.nodup).mp same
    omega
  have notHex := head?_ne_of_isName (are.isName_of_mem known)
  rw [partBits?]
  · rw [String.ofList_toList, found, Option.map_some]
  · intro digits written
    rw [written] at notHex
    exact notHex rfl

theorem isWord_hex (number : Nat) : IsWord ('0' :: 'x' :: Text.writeHex number) := by
  have plain : ∀ value < 16, Text.isBlank (Text.hexDigit value) = false ∧
      Text.hexDigit value ≠ '|' := by
    decide
  have digits : ∀ c ∈ Text.writeHex number, Text.isBlank c = false ∧ c ≠ '|' := by
    intro c mem
    obtain ⟨value, below, rfl⟩ := Text.exists_hexDigit_of_mem_writeHex mem
    exact plain value below
  refine ⟨List.cons_ne_nil _ _, fun c mem => ?_, fun bar => ?_⟩
  · rcases List.mem_cons.mp mem with rfl | mem
    · rfl
    · rcases List.mem_cons.mp mem with rfl | mem
      · rfl
      · exact (digits c mem).1
  · have inside : '|' ∈ Text.writeHex number := by simpa using bar
    exact (digits '|' inside).2 rfl

/-- The digits of a number stand for its bits. -/
theorem partBits?_hex {number : Nat} (below : number < UInt32.size) :
    partBits? names ('0' :: 'x' :: Text.writeHex number) = some (UInt32.ofNat number) := by
  have noSign : ∀ rest, Text.writeHex number ≠ '+' :: rest := by
    intro rest same
    have plus : '+' ∈ Text.writeHex number := by rw [same]; exact List.mem_cons_self
    obtain ⟨value, small, equal⟩ := Text.exists_hexDigit_of_mem_writeHex plus
    have plain : ∀ value < 16, '+' ≠ Text.hexDigit value := by decide
    exact plain value small equal
  have nonempty : (Text.writeHex number).isEmpty = false := by
    rw [Text.writeHex]
    split <;> simp
  rw [partBits?, hexBits?]
  · simp [nonempty, Text.readHex?_writeHex, below]
  · exact noSign

/-! ## Bits -/

theorem testBit_foldl_or (parts : List UInt32) (bits : UInt32) (i : Nat) :
    (parts.foldl (· ||| ·) bits).toNat.testBit i =
      (bits.toNat.testBit i || parts.any fun part => part.toNat.testBit i) := by
  induction parts generalizing bits with
  | nil => simp
  | cons part parts ih =>
      rw [List.foldl_cons, ih, UInt32.toNat_or, Nat.testBit_or, List.any_cons, Bool.or_assoc]

/-- The set of one flag. -/
theorem testBit_flag {i : Nat} (below : i < 32) (j : Nat) :
    (UInt32.ofNat (1 <<< i)).toNat.testBit j = decide (i = j) := by
  have small : ∀ i < 32, 1 <<< i < UInt32.size := by decide
  rw [UInt32.toNat_ofNat_of_lt' (small i below), Nat.one_shiftLeft, Nat.testBit_two_pow]

theorem testBit_unnamedBits (bits : UInt32) (i : Nat) :
    (unnamedBits names bits).testBit i = (decide (names.length ≤ i) && bits.toNat.testBit i) := by
  rw [unnamedBits, Nat.testBit_shiftLeft, Nat.testBit_shiftRight]
  by_cases unnamed : names.length ≤ i
  · rw [Nat.add_sub_cancel' unnamed]
  · simp [unnamed]

theorem unnamedBits_lt (bits : UInt32) : unnamedBits names bits < UInt32.size := by
  rw [unnamedBits, Nat.shiftLeft_eq, Nat.shiftRight_eq_div_pow]
  exact Nat.lt_of_le_of_lt (Nat.div_mul_le_self _ _) bits.toNat_lt

/-- The parts of the text of a flag set, with the bits that they stand for. -/
def writtenParts (names : List String) (bits : UInt32) : List (List Char × UInt32) :=
  names.zipIdx.filterMap (fun entry =>
      if bits.toNat.testBit entry.2 then some (entry.1.toList, UInt32.ofNat (1 <<< entry.2))
      else none) ++
    if unnamedBits names bits = 0 then []
    else [('0' :: 'x' :: Text.writeHex (unnamedBits names bits),
      UInt32.ofNat (unnamedBits names bits))]

/-- A part is a name with a bit that is set, or the number of the bits without a name. -/
theorem mem_writtenParts {bits : UInt32} {part : List Char × UInt32} :
    part ∈ writtenParts names bits ↔
      (∃ name i, (name, i) ∈ names.zipIdx ∧ bits.toNat.testBit i = true ∧
        part = (name.toList, UInt32.ofNat (1 <<< i))) ∨
      unnamedBits names bits ≠ 0 ∧
        part = ('0' :: 'x' :: Text.writeHex (unnamedBits names bits),
          UInt32.ofNat (unnamedBits names bits)) := by
  rw [writtenParts, List.mem_append, List.mem_filterMap]
  refine or_congr ⟨?_, ?_⟩ ?_
  · rintro ⟨⟨name, i⟩, mem, written⟩
    split at written
    next set => exact ⟨name, i, mem, set, (Option.some.inj written).symm⟩
    next => cases written
  · rintro ⟨name, i, mem, set, rfl⟩
    exact ⟨(name, i), mem, if_pos set⟩
  · split
    next zero => simp [zero]
    next some => simp [some]

theorem toList_render (names : List String) (bits : UInt32) :
    (render names bits).toList =
      joined ((writtenParts names bits).map Prod.fst) := by
  have named : (namedParts names bits).map String.toList =
      (names.zipIdx.filterMap fun entry =>
        if bits.toNat.testBit entry.2 then some (entry.1.toList, UInt32.ofNat (1 <<< entry.2))
        else none).map Prod.fst := by
    rw [namedParts, List.map_filterMap, List.map_filterMap]
    congr 1
    funext entry
    obtain ⟨name, i⟩ := entry
    by_cases set : bits.toNat.testBit i = true <;> simp [set]
  rw [render, String.toList_intercalate, List.map_append, named, writtenParts, List.map_append,
    joined]
  congr 2
  split
  next => rfl
  next => simp

/-- Every part is read back. -/
theorem partBits?_writtenParts (are : AreNames names) {bits : UInt32} {part : List Char × UInt32}
    (mem : part ∈ writtenParts names bits) :
    IsWord part.1 ∧ partBits? names part.1 = some part.2 := by
  rcases mem_writtenParts.mp mem with ⟨name, i, named, _, rfl⟩ | ⟨_, rfl⟩
  · have known : name ∈ names := (List.mem_zipIdx' named).2 ▸ List.getElem_mem _
    exact ⟨isWord_of_isName (are.isName_of_mem known), partBits?_name are named⟩
  · exact ⟨isWord_hex _, partBits?_hex (unnamedBits_lt bits)⟩

/-- A bit is set exactly if a part stands for it. -/
theorem exists_writtenPart_testBit_iff (are : AreNames names) {bits : UInt32} {i : Nat} :
    (∃ part ∈ writtenParts names bits, part.2.toNat.testBit i = true) ↔
      bits.toNat.testBit i = true := by
  constructor
  · rintro ⟨part, written, set⟩
    rcases mem_writtenParts.mp written with ⟨name, j, named, isSet, rfl⟩ | ⟨_, rfl⟩
    · have below : j < 32 :=
        Nat.lt_of_lt_of_le (List.snd_lt_of_mem_zipIdx named) are.length_le
      rw [testBit_flag below, decide_eq_true_eq] at set
      exact set ▸ isSet
    · rw [UInt32.toNat_ofNat_of_lt' (unnamedBits_lt bits), testBit_unnamedBits,
        Bool.and_eq_true] at set
      exact set.2
  · intro set
    by_cases named : i < names.length
    · have entry : (names[i], i) ∈ names.zipIdx :=
        List.mk_mem_zipIdx_iff_getElem?.mpr (List.getElem?_eq_getElem named)
      refine ⟨_, mem_writtenParts.mpr (.inl ⟨names[i], i, entry, set, rfl⟩), ?_⟩
      rw [testBit_flag (Nat.lt_of_lt_of_le named are.length_le)]
      exact decide_eq_true rfl
    · have unnamed : (unnamedBits names bits).testBit i = true := by
        rw [testBit_unnamedBits, set, Bool.and_true]
        exact decide_eq_true (Nat.not_lt.mp named)
      have some : unnamedBits names bits ≠ 0 := by
        intro zero
        rw [zero, Nat.zero_testBit] at unnamed
        cases unnamed
      refine ⟨_, mem_writtenParts.mpr (.inr ⟨some, rfl⟩), ?_⟩
      rw [UInt32.toNat_ofNat_of_lt' (unnamedBits_lt bits)]
      exact unnamed

/-- The bits of all parts together are the flag set. -/
theorem foldl_writtenParts (are : AreNames names) (bits : UInt32) :
    ((writtenParts names bits).map Prod.snd).foldl (· ||| ·) 0 = bits := by
  refine UInt32.toNat_inj.mp (Nat.eq_of_testBit_eq fun i => ?_)
  rw [testBit_foldl_or, UInt32.toNat_zero, Nat.zero_testBit, Bool.false_or, List.any_map,
    Bool.eq_iff_iff, List.any_eq_true]
  exact exists_writtenPart_testBit_iff are

/-- Parts that can be read are read back from the text that joins them. -/
theorem mapM_splitOn_joined {parts : List (List Char × UInt32)} (nonempty : parts ≠ [])
    (reads : ∀ part ∈ parts, IsWord part.1 ∧ partBits? names part.1 = some part.2) :
    ((joined (parts.map Prod.fst)).splitOn '|').mapM
      (fun part => partBits? names (Text.trimmed part)) = some (parts.map Prod.snd) := by
  have words : ∀ word ∈ parts.map Prod.fst, IsWord word := by
    intro word mem
    obtain ⟨part, written, rfl⟩ := List.mem_map.mp mem
    exact (reads part written).1
  have cut := map_trimmed_splitOn_joined (by simpa using nonempty) words
    (by simp : ∀ c ∈ [], Text.isBlank c = true)
  rw [List.nil_append] at cut
  calc
    _ = (((joined (parts.map Prod.fst)).splitOn '|').map Text.trimmed).mapM (partBits? names) :=
        List.mapM_map.symm
    _ = (parts.map Prod.fst).mapM (partBits? names) := by rw [cut]
    _ = parts.mapM (fun part => partBits? names part.1) := List.mapM_map
    _ = some (parts.map Prod.snd) := mapM_eq_some_map fun part mem => (reads part mem).2

/-- Every flag set is read back from its text. -/
theorem parse?_render (are : AreNames names) (bits : UInt32) :
    parse? names (render names bits) = some bits := by
  have whole := foldl_writtenParts are bits
  have reads : ∀ part ∈ writtenParts names bits,
      IsWord part.1 ∧ partBits? names part.1 = some part.2 :=
    fun part mem => partBits?_writtenParts are mem
  rw [parse?]
  simp only [toList_render]
  cases parts : writtenParts names bits with
  | nil =>
      rw [parts] at whole
      exact congrArg some whole
  | cons first rest =>
      rw [parts] at whole reads
      have nonblank : Text.trimmed (joined ((first :: rest).map Prod.fst)) ≠ [] :=
        trimmed_joined_ne_nil (reads first List.mem_cons_self).1 (rest.map Prod.fst)
      rw [if_neg (mt List.isEmpty_iff.mp nonblank),
        mapM_splitOn_joined (List.cons_ne_nil first rest) reads]
      exact congrArg some whole

end Flags

/-! ## The two kinds of flags -/

theorem SelectionFlags.parse?_render (flags : SelectionFlags) :
    parse? flags.render = some flags := by
  have are : Flags.AreNames names := ⟨by decide +kernel, by decide +kernel, by decide +kernel⟩
  rw [render, parse?, Flags.parse?_render are, Option.map_some]

theorem RoleFlags.parse?_render (flags : RoleFlags) : parse? flags.render = some flags := by
  have are : Flags.AreNames names := ⟨by decide +kernel, by decide +kernel, by decide +kernel⟩
  rw [render, parse?, Flags.parse?_render are, Option.map_some]

end TrackSelection
