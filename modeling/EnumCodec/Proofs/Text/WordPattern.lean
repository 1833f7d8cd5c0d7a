import EnumCodec.Proofs.Text.WordEnds

/-!
# EnumCodec.Proofs.Text.WordPattern

**Words as what a pattern finds.** The words of a text are also said by the pattern
`[A-Z]+(?=[A-Z][a-z])|[A-Z]?[a-z]+|[A-Z]+|[0-9]+`, which is tried at each place from the left, its
alternatives in their order and each of them with as many characters as possible first. What is tried
again with fewer characters, and what is only looked at and not taken, is all decided by one character
behind a capital, so that the words found from the left are those found from the end.

* `Pattern.lengths`: the matches of a pattern at the start of a text, in the order in which they are tried.
* `Pattern.findAll`: what a pattern finds in a text.
* `words_eq_findAll`: the words of a text are what their pattern finds.
-/

namespace EnumCodec.Text

/-! ### Patterns -/

/-- A pattern for the start of a text. -/
inductive Pattern where
  /-- One character of a kind. -/
  | one (kind : Char → Bool)
  /-- One or more characters of a kind, as many as possible first. -/
  | many (kind : Char → Bool)
  /-- A character of a kind or none, the character first. -/
  | possibly (kind : Char → Bool)
  /-- One pattern and behind it another one. -/
  | both (first second : Pattern)
  /-- One of two patterns, the first one first. -/
  | either (first second : Pattern)
  /-- Nothing, where a pattern matches. -/
  | ahead (what : Pattern)

/-- How many characters of a kind can be taken from the start of a text: all of them, or fewer. -/
def runLengths (kind : Char → Bool) : List Char → List Nat
  | [] => []
  | c :: rest => if kind c then (runLengths kind rest).map (· + 1) ++ [1] else []

namespace Pattern

/-- **The matches of a pattern** at the start of a text, by their lengths, in the order in which they are
tried. -/
def lengths : Pattern → List Char → List Nat
  | one kind, text => if text.head?.any kind then [1] else []
  | many kind, text => runLengths kind text
  | possibly kind, text => if text.head?.any kind then [1, 0] else [0]
  | both first second, text =>
    (first.lengths text).flatMap fun n => (second.lengths (text.drop n)).map (n + ·)
  | either first second, text => first.lengths text ++ second.lengths text
  | ahead what, text => if what.lengths text = [] then [] else [0]

/-- **What a pattern finds in a text**: at each place its first match, and behind it the next ones; a place
without a match is passed over. -/
def findAll (pattern : Pattern) : List Char → List (List Char)
  | [] => []
  | c :: rest =>
    match (pattern.lengths (c :: rest)).head? with
    | some (n + 1) => (c :: rest.take n) :: pattern.findAll (rest.drop n)
    | _ => pattern.findAll rest
termination_by text => text.length

end Pattern

/-- A run of capitals, without the last one if that begins a word of small letters. -/
def acronymPattern : Pattern :=
  .both (.many isCapital) (.ahead (.both (.one isCapital) (.one isSmall)))

/-- A run of small letters with a capital before them or none. -/
def plainPattern : Pattern :=
  .both (.possibly isCapital) (.many isSmall)

/-- The pattern of words. -/
def wordPattern : Pattern :=
  .either acronymPattern (.either plainPattern (.either (.many isCapital) (.many isDigit)))

variable {kind : Char → Bool} {x y : Char} {text after rest : List Char}

/-! ### The parts of the pattern -/

theorem runLengths_cons_of_pos (fits : kind x = true) (rest : List Char) :
    runLengths kind (x :: rest) = (runLengths kind rest).map (· + 1) ++ [1] := by
  rw [runLengths, if_pos fits]

theorem runLengths_of_neg (misses : text.head?.any kind = false) : runLengths kind text = [] := by
  cases text with
  | nil => rfl
  | cons c rest => simpa [runLengths] using misses

/-- Does a text begin with a capital that has a small letter behind it? -/
def beginsCapitalized : List Char → Bool
  | [] => false
  | y :: after => isCapital y && after.head?.any isSmall

theorem beginsCapitalized_of_neg (misses : text.head?.any isCapital = false) :
    beginsCapitalized text = false := by
  cases text with
  | nil => rfl
  | cons y after =>
    have noCapital : isCapital y = false := by simpa using misses
    rw [beginsCapitalized, noCapital]
    rfl

/-- What the acronyms look ahead for. -/
theorem lengths_ahead (text : List Char) :
    (Pattern.ahead (.both (.one isCapital) (.one isSmall))).lengths text =
      if beginsCapitalized text then [0] else [] := by
  rcases text with _ | ⟨y, _ | ⟨z, rest⟩⟩
  · rfl
  · by_cases capital : isCapital y = true
    · simp [Pattern.lengths, beginsCapitalized, capital]
    · simp [Pattern.lengths, beginsCapitalized, capital]
  · by_cases capital : isCapital y = true
    · by_cases small : isSmall z = true
      · simp [Pattern.lengths, beginsCapitalized, capital, small]
      · simp [Pattern.lengths, beginsCapitalized, capital, small]
    · simp [Pattern.lengths, beginsCapitalized, capital]

theorem flatMap_ite_singleton {α : Type} (keep : α → Bool) (items : List α) :
    (items.flatMap fun item => if keep item then [item] else []) = items.filter keep := by
  induction items with
  | nil => rfl
  | cons item items ih =>
    rw [List.flatMap_cons, ih, List.filter_cons]
    split
    · rfl
    · rfl

/-- Of the runs of capitals the acronyms are those with what is looked for behind them. -/
theorem lengths_acronym (text : List Char) :
    acronymPattern.lengths text =
      (runLengths isCapital text).filter fun n => beginsCapitalized (text.drop n) := by
  have ahead (n : Nat) :
      ((Pattern.ahead (.both (.one isCapital) (.one isSmall))).lengths (text.drop n)).map (n + ·) =
        if beginsCapitalized (text.drop n) then [n] else [] := by
    rw [lengths_ahead]
    split
    · simp
    · simp
  show (runLengths isCapital text).flatMap _ = _
  simp only [ahead, flatMap_ite_singleton]

/-- One more capital before a text: the acronyms there are longer by one, and the capital alone is one if
the text begins with a capital of its own before a small letter. -/
theorem lengths_acronym_cons (capital : isCapital x = true) (rest : List Char) :
    acronymPattern.lengths (x :: rest) =
      (acronymPattern.lengths rest).map (· + 1) ++ if beginsCapitalized rest then [1] else [] := by
  rw [lengths_acronym, lengths_acronym, runLengths_cons_of_pos capital, List.filter_append,
    List.filter_map]
  congr 1
  simp [List.filter_cons]

theorem lengths_acronym_of_neg (misses : text.head?.any isCapital = false) :
    acronymPattern.lengths text = [] := by
  rw [lengths_acronym, runLengths_of_neg misses]
  rfl

theorem lengths_plain_of_pos (capital : isCapital x = true) (rest : List Char) :
    plainPattern.lengths (x :: rest) = (runLengths isSmall rest).map (· + 1) := by
  have large : isSmall x = false := isSmall_eq_false_of_isCapital capital
  have alone : runLengths isSmall (x :: rest) = [] := runLengths_of_neg (by simp [large])
  simp [plainPattern, Pattern.lengths, capital, alone, Nat.add_comm]

theorem lengths_plain_of_neg (misses : text.head?.any isCapital = false) :
    plainPattern.lengths text = runLengths isSmall text := by
  simp [plainPattern, Pattern.lengths, misses]

/-! ### The pattern at the start of a text -/

theorem lengths_wordPattern (text : List Char) :
    wordPattern.lengths text =
      acronymPattern.lengths text ++ (plainPattern.lengths text ++
        (runLengths isCapital text ++ runLengths isDigit text)) := rfl

theorem lengths_of_digit (digit : isDigit x = true) (rest : List Char) :
    wordPattern.lengths (x :: rest) = runLengths isDigit (x :: rest) := by
  have part : IsWordPart x := by simp [IsWordPart, digit]
  have kinds : isSmall x = false ∧ isCapital x = false := by simpa [digit] using part.kinds
  have noCapital : (x :: rest).head?.any isCapital = false := by simp [kinds]
  have noSmall : (x :: rest).head?.any isSmall = false := by simp [kinds]
  rw [lengths_wordPattern, lengths_acronym_of_neg noCapital, lengths_plain_of_neg noCapital,
    runLengths_of_neg noSmall, runLengths_of_neg noCapital]
  rfl

theorem lengths_of_small (small : isSmall x = true) (rest : List Char) :
    wordPattern.lengths (x :: rest) = runLengths isSmall (x :: rest) := by
  have part : IsWordPart x := by simp [IsWordPart, small]
  have kinds : isDigit x = false ∧ isCapital x = false := by simpa [small] using part.kinds
  have noCapital : (x :: rest).head?.any isCapital = false := by simp [kinds]
  have noDigit : (x :: rest).head?.any isDigit = false := by simp [kinds]
  rw [lengths_wordPattern, lengths_acronym_of_neg noCapital, lengths_plain_of_neg noCapital,
    runLengths_of_neg noCapital, runLengths_of_neg noDigit]
  simp

theorem lengths_of_capital (capital : isCapital x = true) (rest : List Char) :
    wordPattern.lengths (x :: rest) =
      acronymPattern.lengths (x :: rest) ++
        ((runLengths isSmall rest).map (· + 1) ++ runLengths isCapital (x :: rest)) := by
  have noDigit : (x :: rest).head?.any isDigit = false := by
    simp [isDigit_eq_false_of_letter (.inr capital)]
  rw [lengths_wordPattern, lengths_plain_of_pos capital, runLengths_of_neg noDigit, List.append_nil]

theorem lengths_of_other (other : ¬ IsWordPart x) (rest : List Char) :
    wordPattern.lengths (x :: rest) = [] := by
  simp only [IsWordPart, Bool.or_eq_true, not_or, Bool.not_eq_true] at other
  obtain ⟨⟨digit, small⟩, capital⟩ := other
  have noCapital : (x :: rest).head?.any isCapital = false := by simp [capital]
  rw [lengths_wordPattern, lengths_acronym_of_neg noCapital, lengths_plain_of_neg noCapital,
    runLengths_of_neg noCapital, runLengths_of_neg (by simp [small]),
    runLengths_of_neg (by simp [digit])]
  rfl

/-! ### One more character -/

/-- A letter or digit that joins the word behind it makes each match there longer by one. -/
theorem lengths_cons_of_within (first : IsWordPart x) (second : IsWordPart y)
    (within : ¬ WordEndsBetween x [] y after) :
    wordPattern.lengths (x :: y :: after) = (wordPattern.lengths (y :: after)).map (· + 1) ++ [1] := by
  simp only [WordEndsBetween, isLetter, not_or] at within
  rcases first.kinds with ⟨dx, sx, cx⟩ | ⟨dx, sx, cx⟩ | ⟨dx, sx, cx⟩
  · have dy : isDigit y = true := by
      rcases second.kinds with ⟨dy, -, -⟩ | ⟨-, sy, -⟩ | ⟨-, -, cy⟩
      · exact dy
      · simp [dx, sy] at within
      · simp [dx, cy] at within
    rw [lengths_of_digit dx, lengths_of_digit dy, runLengths_cons_of_pos dx]
  · have sy : isSmall y = true := by
      rcases second.kinds with ⟨dy, -, -⟩ | ⟨-, sy, -⟩ | ⟨-, -, cy⟩
      · simp [sx, dy] at within
      · exact sy
      · simp [sx, cy] at within
    rw [lengths_of_small sx, lengths_of_small sy, runLengths_cons_of_pos sx]
  · rcases second.kinds with ⟨dy, sy, cy⟩ | ⟨dy, sy, cy⟩ | ⟨dy, sy, cy⟩
    · simp [cx, dy] at within
    · -- The word has its capital now.
      have noCapital : (y :: after).head?.any isCapital = false := by simp [cy]
      rw [lengths_of_capital cx, lengths_of_small sy, lengths_acronym_cons cx,
        lengths_acronym_of_neg noCapital, beginsCapitalized_of_neg noCapital,
        runLengths_cons_of_pos cx, runLengths_of_neg noCapital]
      rfl
    · -- No small letter follows, so the run of capitals is tried as a whole.
      have noSmall : after.head?.any isSmall = false := by simpa [cx, cy] using within.2.2.2
      have large : (y :: after).head?.any isSmall = false := by simp [sy]
      have plain : beginsCapitalized (y :: after) = false := by simp [beginsCapitalized, noSmall]
      rw [lengths_of_capital cx, lengths_of_capital cy, lengths_acronym_cons cx, plain,
        runLengths_of_neg large, runLengths_of_neg noSmall, runLengths_cons_of_pos cx]
      simp

/-- Where a word ends there is no further character of the kind before it, but for a capital that begins
a word of small letters. -/
theorem WordEndsBetween.kinds (first : IsWordPart x) (ends : WordEndsBetween x [] y after) :
    (isDigit x = true → isDigit y = false) ∧
      (isSmall x = true ∨ isCapital x = true → isSmall y = false) ∧
      (isCapital x = true → isCapital y = true → after.head?.any isSmall = true) := by
  by_cases second : IsWordPart y
  · simp only [WordEndsBetween, isLetter] at ends
    rcases first.kinds with ⟨dx, sx, cx⟩ | ⟨dx, sx, cx⟩ | ⟨dx, sx, cx⟩ <;>
      rcases second.kinds with ⟨dy, sy, cy⟩ | ⟨dy, sy, cy⟩ | ⟨dy, sy, cy⟩ <;>
      simp_all
  · simp only [IsWordPart, Bool.or_eq_true, not_or, Bool.not_eq_true] at second
    simp [second]

/-- A letter or digit that does not join a word behind it is a word of its own. -/
theorem head?_lengths_of_apart (first : IsWordPart x)
    (apart : ∀ y after, rest = y :: after → IsWordPart y → WordEndsBetween x [] y after) :
    (wordPattern.lengths (x :: rest)).head? = some 1 := by
  have missing {kind : Char → Bool} (part : ∀ c, kind c = true → IsWordPart c)
      (misses : ∀ y after, WordEndsBetween x [] y after → kind y = false) :
      rest.head?.any kind = false := by
    cases rest with
    | nil => rfl
    | cons y after =>
      cases fits : kind y with
      | false => simpa using fits
      | true =>
        rw [misses y after (apart y after rfl (part y fits))] at fits
        cases fits
  have digitPart (c : Char) (digit : isDigit c = true) : IsWordPart c := by simp [IsWordPart, digit]
  have smallPart (c : Char) (small : isSmall c = true) : IsWordPart c := by simp [IsWordPart, small]
  rcases first.kinds with ⟨digit, -, -⟩ | ⟨-, small, -⟩ | ⟨-, -, capital⟩
  · have noDigit := missing digitPart fun y after ends => (ends.kinds first).1 digit
    rw [lengths_of_digit digit, runLengths_cons_of_pos digit, runLengths_of_neg noDigit]
    rfl
  · have noSmall := missing smallPart fun y after ends => (ends.kinds first).2.1 (.inl small)
    rw [lengths_of_small small, runLengths_cons_of_pos small, runLengths_of_neg noSmall]
    rfl
  · have noSmall := missing smallPart fun y after ends => (ends.kinds first).2.1 (.inr capital)
    rw [lengths_of_capital capital, lengths_acronym_cons capital, runLengths_of_neg noSmall,
      runLengths_cons_of_pos capital]
    -- What follows is no capital, or one that small letters take, and then no acronym goes on.
    cases rest with
    | nil => rfl
    | cons y after =>
      by_cases capital' : isCapital y = true
      · have part : IsWordPart y := by simp [IsWordPart, capital']
        have small := ((apart y after rfl part).kinds first).2.2 capital capital'
        have begins : beginsCapitalized (y :: after) = true := by
          simp [beginsCapitalized, capital', small]
        have noCapital : after.head?.any isCapital = false := by
          cases after with
          | nil => rfl
          | cons z rest => exact isCapital_eq_false_of_isSmall small
        rw [lengths_acronym_cons capital', lengths_acronym_of_neg noCapital,
          beginsCapitalized_of_neg noCapital, begins]
        rfl
      · have noCapital : (y :: after).head?.any isCapital = false := by simpa using capital'
        rw [lengths_acronym_of_neg noCapital, beginsCapitalized_of_neg noCapital,
          runLengths_of_neg noCapital]
        rfl

/-! ### The words of a text -/

/-- **The first match is the first word**: where a text begins with a letter or digit, the pattern first
tries the word there. -/
theorem words_of_lengths (part : IsWordPart x) (rest : List Char) :
    ∃ n, (wordPattern.lengths (x :: rest)).head? = some (n + 1) ∧
      words (x :: rest) = (x :: rest.take n) :: words (rest.drop n) := by
  -- Both the word and the match grow by one where the letter or digit joins the word behind it.
  induction rest generalizing x with
  | nil =>
    refine ⟨0, head?_lengths_of_apart part (by simp), ?_⟩
    rw [words_cons_of_apart part (by simp [leadingWords, joinsWord])]
    rfl
  | cons y after ih =>
    by_cases joins : joinsWord x (leadingWords (y :: after)).1 = true
    · obtain ⟨second, within⟩ := (joinsWord_leadingWord_iff part y after).1 joins
      obtain ⟨n, first, behind⟩ := ih second
      obtain ⟨word, others, same, whole⟩ := words_cons_of_joins joins
      obtain ⟨rfl, rfl⟩ := List.cons.inj (same.symm.trans behind)
      refine ⟨n + 1, ?_, whole⟩
      rw [lengths_cons_of_within part second within, List.head?_append, List.head?_map, first]
      rfl
    · refine ⟨0, head?_lengths_of_apart part ?_, words_cons_of_apart part joins⟩
      rintro _ _ ⟨rfl, rfl⟩ second
      refine Decidable.byContradiction fun within => ?_
      exact joins ((joinsWord_leadingWord_iff part y after).2 ⟨second, within⟩)

/-- **The words of a text are what their pattern finds.** -/
theorem words_eq_findAll (text : List Char) : words text = wordPattern.findAll text := by
  fun_induction Pattern.findAll wordPattern text with
  | case1 => rfl
  | case2 c rest n found ih =>
    by_cases part : IsWordPart c
    · obtain ⟨m, first, behind⟩ := words_of_lengths part rest
      obtain rfl : m = n := by simpa [first] using found
      rw [behind, ih]
    · rw [lengths_of_other part] at found
      cases found
  | case3 c rest none ih =>
    by_cases part : IsWordPart c
    · obtain ⟨n, first, -⟩ := words_of_lengths part rest
      exact absurd first (none n)
    · rw [words_cons_of_other part, ih]

/-- The last capital of several is left to the small letters behind it. -/
example : wordPattern.findAll "HTTPStatus2".toList = ["HTTP", "Status", "2"].map String.toList := by
  cbv

end EnumCodec.Text
