import EnumCodec.Proofs.Text.DottedName
import EnumCodec.Text.Compatibility
import Mathlib.Algebra.Group.Nat.Defs

/-!
# EnumCodec.Proofs.Text.NameForm

**The compatibility form of an identifier is an identifier.** The characters that may begin or continue
an identifier are closed under decomposition and under composition, and none that may begin one is a
mark that could be moved. The tables decide this: they are read as lists of characters, and each class
of characters becomes one number whose bits are looked up.
-/

namespace EnumCodec.Text

/-! ### Classes of characters as numbers -/

/-- The number whose bits are set at the code points of some ranges. -/
def codeSet : List (Nat × Nat) → Nat
  | [] => 0
  | (first, last) :: rest => codeSet rest ||| ((2 ^ (last + 1 - first) - 1) <<< first)

theorem testBit_codeSet (ranges : List (Nat × Nat)) (code : Nat) :
    (codeSet ranges).testBit code = inRanges ranges code := by
  induction ranges with
  | nil => simp [codeSet, inRanges]
  | cons range rest ih =>
    obtain ⟨first, last⟩ := range
    rw [codeSet, Nat.testBit_or, ih, Nat.testBit_shiftLeft, Nat.testBit_two_pow_sub_one, inRanges,
      inRanges, List.any_cons, Bool.or_comm]
    congr 1
    rw [Bool.eq_iff_iff]
    simp only [Bool.and_eq_true, decide_eq_true_eq]
    omega

/-- The code points that may begin an identifier. -/
def startCodes : Nat := codeSet ((0x5F, 0x5F) :: identifierStartRanges)

/-- The code points that may stand in an identifier. -/
def partCodes : Nat := codeSet (identifierStartRanges ++ identifierContinueRanges)

theorem asciiCodes : ∀ code < 128,
    isIdentifierStart (Char.ofNat code) = startCodes.testBit code ∧
      isIdentifierPart (Char.ofNat code) = partCodes.testBit code := by
  decide +kernel

/-- Beyond ASCII the tables alone decide. -/
theorem isAsciiIdentifierStart_of_le {c : Char} (beyond : 128 ≤ c.toNat) :
    isAsciiIdentifierStart c = false ∧ ('0' ≤ c && c ≤ '9') = false := by
  have small : ∀ d : Char, d.toNat < 128 → ¬ c ≤ d := by
    intro d less le
    have : c.toNat ≤ d.toNat := le
    omega
  have other : c ≠ '_' := by
    rintro rfl
    exact absurd beyond (by decide)
  simp [isAsciiIdentifierStart, small 'z' (by decide), small 'Z' (by decide),
    small '9' (by decide), other]

theorem isIdentifierStart_eq_testBit (c : Char) :
    isIdentifierStart c = startCodes.testBit c.toNat := by
  by_cases ascii : c.toNat < 128
  · simpa using (asciiCodes c.toNat ascii).1
  · have beyond : 128 ≤ c.toNat := by omega
    have other : ¬ c.toNat ≤ 0x5F := by omega
    rw [startCodes, testBit_codeSet, isIdentifierStart, (isAsciiIdentifierStart_of_le beyond).1]
    simp [inRanges, beyond, other]

theorem isIdentifierPart_eq_testBit (c : Char) :
    isIdentifierPart c = partCodes.testBit c.toNat := by
  by_cases ascii : c.toNat < 128
  · simpa using (asciiCodes c.toNat ascii).2
  · have beyond : 128 ≤ c.toNat := by omega
    obtain ⟨letter, digit⟩ := isAsciiIdentifierStart_of_le beyond
    rw [partCodes, testBit_codeSet, isIdentifierPart, letter, digit]
    simp [inRanges, beyond, List.any_append]

/-- The ranges of identifiers hold only code points of characters. -/
theorem identifierRanges_valid : (identifierStartRanges ++ identifierContinueRanges).all
    (fun range => range.2 < 0xD800 || (0xDFFF < range.1 && range.2 < 0x110000)) = true := by
  decide +kernel

theorem isValidChar_of_testBit_partCodes {code : Nat} (part : partCodes.testBit code = true) :
    code.isValidChar := by
  rw [partCodes, testBit_codeSet, inRanges_eq_true_iff] at part
  obtain ⟨range, mem, first, last⟩ := part
  have valid := List.all_eq_true.1 identifierRanges_valid range mem
  simp only [Bool.or_eq_true, Bool.and_eq_true, decide_eq_true_eq] at valid
  unfold Nat.isValidChar
  omega

/-- A code point of identifiers is that of its character. -/
theorem toNat_ofNat_of_testBit {code : Nat} (part : partCodes.testBit code = true) :
    (Char.ofNat code).toNat = code :=
  toNat_ofNat_of_isValidChar (isValidChar_of_testBit_partCodes part)

/-! ### Tables as lists of characters -/

/-- Rows and their characters. A row is given by its characters here, so that the kernel need not
decode it. -/
inductive Rows : List String → List (List Char) → Prop
  | nil : Rows [] []
  | cons {chars : List Char} {rows : List String} {rest : List (List Char)}
      (others : Rows rows rest) : Rows (String.ofList chars :: rows) (chars :: rest)

theorem Rows.readTable_eq {rows : List String} {chars : List (List Char)} (same : Rows rows chars) :
    readTable rows = chars.flatMap (tableEntries [] 0) := by
  induction same with
  | nil => rfl
  | cons others ih =>
    rw [readTable] at ih ⊢
    rw [List.flatMap_cons, List.flatMap_cons, String.toList_ofList, ih]

/-- Are the code points closed under decomposition? -/
def decomposesWell (last : Nat) : List (List Nat) → Bool
  | [] => true
  | [] :: rest => decomposesWell last rest
  | (distance :: codes) :: rest =>
    (!partCodes.testBit (last + distance) ||
      codes.all partCodes.testBit &&
        (!startCodes.testBit (last + distance) || codes.head?.any startCodes.testBit)) &&
    decomposesWell (last + distance) rest

/-- Are the code points closed under composition? -/
def composesWell : List Nat → Bool
  | [first, second, joined] =>
    (!(partCodes.testBit first && partCodes.testBit second) || partCodes.testBit joined) &&
      (!startCodes.testBit first || startCodes.testBit joined)
  | _ => true

/-- Does a combining class leave out the code points that begin identifiers? -/
def marksWell : List Nat → Bool
  | [first, last, _] => startCodes &&& codeSet [(first, last)] == 0
  | _ => true

set_option maxRecDepth 20000 in
theorem decompositionTable : ∃ chars, Rows decompositionRows chars ∧
    decomposesWell 0 (chars.flatMap (tableEntries [] 0)) = true := by
  apply Exists.intro
  apply And.intro
  · unfold decompositionRows
    repeat' constructor
  · decide +kernel

set_option maxRecDepth 20000 in
theorem compositionTable : ∃ chars, Rows compositionRows chars ∧
    (chars.flatMap (tableEntries [] 0)).all composesWell = true := by
  apply Exists.intro
  apply And.intro
  · unfold compositionRows
    repeat' constructor
  · decide +kernel

set_option maxRecDepth 20000 in
theorem combiningClassTable : ∃ chars, Rows combiningClassRows chars ∧
    (chars.flatMap (tableEntries [] 0)).all marksWell = true := by
  apply Exists.intro
  apply And.intro
  · unfold combiningClassRows
    repeat' constructor
  · decide +kernel

/-! ### Decomposition -/

theorem isIdentifierPart_ofNat {code : Nat} (part : partCodes.testBit code = true) :
    isIdentifierPart (Char.ofNat code) = true := by
  rw [isIdentifierPart_eq_testBit, toNat_ofNat_of_testBit part, part]

theorem partCodes_of_startCodes {code : Nat} (start : startCodes.testBit code = true) :
    partCodes.testBit code = true := by
  rw [startCodes, testBit_codeSet] at start
  rw [partCodes, testBit_codeSet]
  simp only [inRanges, List.any_cons, List.any_append, Bool.or_eq_true] at start ⊢
  rcases start with underscore | start
  · right
    obtain rfl : code = 0x5F := by
      simp only [Bool.and_eq_true, decide_eq_true_eq] at underscore
      omega
    decide +kernel
  · exact Or.inl start

theorem isIdentifierStart_ofNat {code : Nat} (start : startCodes.testBit code = true) :
    isIdentifierStart (Char.ofNat code) = true := by
  rw [isIdentifierStart_eq_testBit, toNat_ofNat_of_testBit (partCodes_of_startCodes start), start]

/-- Characters that may follow in an identifier, the first of them one that may begin it if
`begins` says so. -/
structure Continues (begins : Bool) (text : List Char) : Prop where
  parts : ∀ c ∈ text, isIdentifierPart c = true
  head : begins = true → ∃ first rest, text = first :: rest ∧ isIdentifierStart first = true

theorem continues_ofNat {begins : Bool} {codes : List Nat}
    (parts : codes.all partCodes.testBit = true)
    (head : begins = true → codes.head?.any startCodes.testBit = true) :
    Continues begins (codes.map Char.ofNat) where
  parts := by
    intro c mem
    obtain ⟨code, found, rfl⟩ := List.mem_map.1 mem
    exact isIdentifierPart_ofNat (List.all_eq_true.1 parts code found)
  head := by
    intro true
    cases codes with
    | nil => simp at head; exact absurd true (by simp [head])
    | cons code rest => exact ⟨_, _, rfl, isIdentifierStart_ofNat (head true)⟩

theorem undoDistances_continues {last code : Nat} {entries : List (List Nat)} {text : List Char}
    (well : decomposesWell last entries = true)
    (found : (undoDistances last entries).lookup code = some text)
    (part : partCodes.testBit code = true) : Continues (startCodes.testBit code) text := by
  fun_induction decomposesWell last entries with
  | case1 => cases found
  | case2 last rest ih => exact ih well found
  | case3 last distance codes rest ih =>
    obtain ⟨here, others⟩ := Bool.and_eq_true_iff.1 well
    rw [undoDistances, List.lookup_cons] at found
    split at found
    · rename_i same
      obtain rfl : code = last + distance := by simpa using same
      obtain rfl : codes.map Char.ofNat = text := by simpa using found
      rw [part, Bool.not_true, Bool.false_or, Bool.and_eq_true] at here
      refine continues_ofNat here.1 fun start => ?_
      simpa [start] using here.2
    · exact ih others found

theorem isIdentifierStart_of_range {c : Char} {first last : Nat}
    (mem : (first, last) ∈ identifierStartRanges) (above : first ≤ c.toNat) (below : c.toNat ≤ last)
    (beyond : 128 ≤ c.toNat) : isIdentifierStart c = true := by
  have found : inRanges identifierStartRanges c.toNat = true :=
    inRanges_eq_true_iff.2 ⟨_, mem, above, below⟩
  simp [isIdentifierStart, found, beyond]

/-- The letters of Hangul syllables begin identifiers. -/
theorem isIdentifierStart_hangulLetter {code : Nat} (above : 0x1100 ≤ code)
    (below : code ≤ 0x1248) : isIdentifierStart (Char.ofNat code) = true := by
  have same : (Char.ofNat code).toNat = code :=
    toNat_ofNat_of_isValidChar (Or.inl (by omega))
  exact isIdentifierStart_of_range (show (0x10FC, 0x1248) ∈ identifierStartRanges by decide +kernel)
    (by omega) (by omega) (by omega)

/-- The syllables of Hangul begin identifiers. -/
theorem isIdentifierStart_hangulSyllable {code : Nat} (above : 0xAC00 ≤ code)
    (below : code ≤ 0xD7A3) : isIdentifierStart (Char.ofNat code) = true := by
  have same : (Char.ofNat code).toNat = code :=
    toNat_ofNat_of_isValidChar (Or.inl (by omega))
  exact isIdentifierStart_of_range (show (0xAC00, 0xD7A3) ∈ identifierStartRanges by decide +kernel)
    (by omega) (by omega) (by omega)

theorem continues_hangulLetters {begins : Bool} {code : Nat} (above : 0xAC00 ≤ code)
    (below : code ≤ 0xD7A3) : Continues begins (hangulLetters code) := by
  have lead : isIdentifierStart (Char.ofNat (0x1100 + (code - 0xAC00) / 588)) = true :=
    isIdentifierStart_hangulLetter (by omega) (by omega)
  have vowel : isIdentifierStart (Char.ofNat (0x1161 + (code - 0xAC00) % 588 / 28)) = true :=
    isIdentifierStart_hangulLetter (by omega) (by omega)
  have tail : isIdentifierStart (Char.ofNat (0x11A7 + (code - 0xAC00) % 28)) = true :=
    isIdentifierStart_hangulLetter (by omega) (by omega)
  unfold hangulLetters
  constructor
  · intro c mem
    apply isIdentifierPart_of_isIdentifierStart
    dsimp only at mem
    split at mem
    all_goals
      simp only [List.mem_cons, List.not_mem_nil, or_false] at mem
      grind
  · intro _
    dsimp only
    split <;> exact ⟨_, _, rfl, lead⟩

/-- A character of an identifier decomposes into such characters, and one that begins it into a text
that may begin it. -/
theorem decomposeChar_continues {c : Char} (part : isIdentifierPart c = true) :
    Continues (isIdentifierStart c) (decomposeChar c) := by
  have itself : Continues (isIdentifierStart c) [c] :=
    ⟨by simpa using part, fun start => ⟨c, [], rfl, start⟩⟩
  unfold decomposeChar
  dsimp only
  split
  · exact itself
  · split
    · rename_i hangul
      simp only [Bool.and_eq_true, decide_eq_true_eq] at hangul
      exact continues_hangulLetters hangul.1 hangul.2
    · cases found : decompositions.lookup c.toNat with
      | none => exact itself
      | some text =>
        obtain ⟨chars, rows, well⟩ := decompositionTable
        rw [decompositions, rows.readTable_eq] at found
        rw [isIdentifierPart_eq_testBit] at part
        rw [isIdentifierStart_eq_testBit]
        exact undoDistances_continues well found part

/-! ### Marks -/

/-- No character that begins an identifier is a mark. -/
theorem combiningClass_eq_zero {c : Char} (start : isIdentifierStart c = true) :
    combiningClass c = 0 := by
  obtain ⟨chars, rows, well⟩ := combiningClassTable
  rw [isIdentifierStart_eq_testBit] at start
  unfold combiningClass
  dsimp only
  split
  · rfl
  · rw [List.findSome?_eq_none_iff.2, Option.getD_none]
    intro entry mem
    rw [combiningClasses, rows.readTable_eq] at mem
    have apart := List.all_eq_true.1 well entry mem
    split
    · rename_i first last k
      split
      · rename_i within
        have both : (startCodes &&& codeSet [(first, last)]).testBit c.toNat = true := by
          rw [Nat.testBit_and, start, testBit_codeSet]
          simpa [inRanges] using within
        rw [eq_of_beq (show (startCodes &&& codeSet [(first, last)] == 0) = true from apart),
          Nat.zero_testBit] at both
        cases both
      · rfl
    · rfl

theorem mem_insertMark {c d : Char} {text : List Char} (mem : d ∈ insertMark c text) :
    d = c ∨ d ∈ text := by
  induction text with
  | nil => simpa [insertMark] using mem
  | cons e rest ih =>
    unfold insertMark at mem
    split at mem
    · rcases List.mem_cons.1 mem with rfl | mem
      · simp
      · exact (ih mem).imp_right (List.mem_cons_of_mem e)
    · simpa using mem

theorem mem_orderMarks {d : Char} {text : List Char} (mem : d ∈ orderMarks text) : d ∈ text := by
  induction text with
  | nil => exact mem
  | cons c rest ih =>
    unfold orderMarks at mem
    split at mem
    · rcases List.mem_cons.1 mem with rfl | mem
      · simp
      · exact List.mem_cons_of_mem c (ih mem)
    · rcases mem_insertMark mem with rfl | mem
      · simp
      · exact List.mem_cons_of_mem c (ih mem)

/-! ### Composition -/

theorem composePair_continues {a b joined : Char} (composed : composePair a b = some joined)
    (first : isIdentifierPart a = true) (second : isIdentifierPart b = true) :
    Continues (isIdentifierStart a) [joined] := by
  have begins : isIdentifierStart joined = true → Continues (isIdentifierStart a) [joined] :=
    fun start => ⟨by simpa using isIdentifierPart_of_isIdentifierStart start,
      fun _ => ⟨joined, [], rfl, start⟩⟩
  unfold composePair at composed
  dsimp only at composed
  split at composed
  · rename_i letters
    simp only [Bool.and_eq_true, decide_eq_true_eq] at letters
    rw [← Option.some.inj composed] at begins ⊢
    exact begins (isIdentifierStart_hangulSyllable (by omega) (by omega))
  · split at composed
    · rename_i letters
      simp only [Bool.and_eq_true, decide_eq_true_eq, beq_iff_eq] at letters
      rw [← Option.some.inj composed] at begins ⊢
      exact begins (isIdentifierStart_hangulSyllable (by omega) (by omega))
    · obtain ⟨entry, mem, here⟩ := List.exists_of_findSome?_eq_some composed
      obtain ⟨chars, rows, well⟩ := compositionTable
      rw [compositions, rows.readTable_eq] at mem
      have closed := List.all_eq_true.1 well entry mem
      split at here
      · rename_i x y z
        split at here
        · rename_i same
          obtain ⟨rfl, rfl⟩ := same
          cases here
          rw [isIdentifierPart_eq_testBit] at first second
          rw [isIdentifierStart_eq_testBit]
          simp only [composesWell, first, second, Bool.and_self, Bool.not_true, Bool.false_or,
            Bool.and_eq_true] at closed
          show Continues (startCodes.testBit a.toNat) ([z].map Char.ofNat)
          refine continues_ofNat (by simpa using closed.1) fun start => ?_
          simpa [start] using closed.2
        · cases here
      · cases here

theorem composeAfter_continues {starter : Char} {passed text : List Char} {last : Nat}
    (part : isIdentifierPart starter = true) (marks : ∀ c ∈ passed, isIdentifierPart c = true)
    (parts : ∀ c ∈ text, isIdentifierPart c = true) :
    Continues (isIdentifierStart starter) (composeAfter starter passed last text) := by
  induction text generalizing starter passed last with
  | nil =>
    refine ⟨?_, fun start => ⟨_, _, rfl, start⟩⟩
    intro c mem
    rcases List.mem_cons.1 mem with rfl | mem
    · exact part
    · exact marks c (List.mem_reverse.1 mem)
  | cons c rest ih =>
    have here : isIdentifierPart c = true := parts c List.mem_cons_self
    have others : ∀ d ∈ rest, isIdentifierPart d = true :=
      fun d mem => parts d (List.mem_cons_of_mem c mem)
    unfold composeAfter
    dsimp only
    split
    · rename_i joined composed
      split at composed
      · cases composed
      · have pair := composePair_continues composed part here
        have next : Continues (isIdentifierStart joined) (composeAfter joined passed last rest) :=
          ih (pair.parts joined List.mem_cons_self) marks others
        refine ⟨next.parts, fun start => next.head ?_⟩
        obtain ⟨_, _, same, begins⟩ := pair.head start
        cases same
        exact begins
    · split
      · refine ⟨?_, fun start => ⟨_, _, rfl, start⟩⟩
        intro d mem
        rcases List.mem_append.1 mem with mem | mem
        · rcases List.mem_cons.1 mem with rfl | mem
          · exact part
          · exact marks d (List.mem_reverse.1 mem)
        · exact (ih here (by simp) others).parts d mem
      · refine ih part ?_ others
        intro d mem
        rcases List.mem_cons.1 mem with rfl | mem
        · exact here
        · exact marks d mem

/-! ### The form of an identifier -/

/-- The compatibility form of an identifier is an identifier. -/
theorem isIdentifier_compatibilityChars {word : List Char} (name : isIdentifier word = true) :
    isIdentifier (compatibilityChars word) = true := by
  unfold compatibilityChars
  split
  · exact name
  · cases word with
    | nil => cases name
    | cons c rest =>
      have parts : ∀ d ∈ c :: rest, isIdentifierPart d = true := fun d => isIdentifierPart_of_mem name
      have start : isIdentifierStart c = true := (Bool.and_eq_true_iff.1 name).1
      obtain ⟨first, others, same, begins⟩ :=
        (decomposeChar_continues (parts c List.mem_cons_self)).head start
      have pieces : ∀ d ∈ first :: (others ++ rest.flatMap decomposeChar),
          isIdentifierPart d = true := by
        intro d mem
        rw [← List.cons_append, ← same, ← List.flatMap_cons] at mem
        obtain ⟨whole, found, mem⟩ := List.mem_flatMap.1 mem
        exact (decomposeChar_continues (parts whole found)).parts d mem
      -- the first character is no mark, so it stays where it is and everything composes with it
      have starter := combiningClass_eq_zero begins
      rw [List.flatMap_cons, same, List.cons_append, orderMarks, if_pos starter, compose,
        if_pos starter]
      have whole : Continues (isIdentifierStart first) (composeAfter first [] 0
          (orderMarks (others ++ rest.flatMap decomposeChar))) :=
        composeAfter_continues (pieces first List.mem_cons_self) (by simp)
          fun d mem => pieces d (List.mem_cons_of_mem first (mem_orderMarks mem))
      obtain ⟨head, tail, same, begins⟩ := whole.head begins
      rw [same, isIdentifier, begins, Bool.true_and, List.all_eq_true]
      intro d mem
      exact whole.parts d (by rw [same]; exact List.mem_cons_of_mem head mem)

end EnumCodec.Text
