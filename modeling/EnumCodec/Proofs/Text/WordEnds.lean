import EnumCodec.Proofs.Text.SnakeCase

/-!
# EnumCodec.Proofs.Text.WordEnds

**Where the words of a text end.** Words are found from the end of the text, and a letter or digit joins
the word behind it or begins one of its own. Which of the two it does can be seen from the letter or digit
and the one behind it, from what lies between them, and from the one character that comes next.

* `WordEndsBetween`: the local reason for a word to end.
* `joinsWord_leadingWord_iff`: a letter or digit joins the word behind it if there is no such reason.
* `words_cons_of_joins`, `words_cons_of_apart`, `words_cons_of_other`: the words of a text with one more
  character before it.
-/

namespace EnumCodec.Text

variable {x y c : Char} {text before between after rest : List Char}

/-! ### Kinds of letters and digits -/

/-- An ASCII letter. -/
def isLetter (c : Char) : Bool := isSmall c || isCapital c

/-- A capital is no small letter. -/
theorem isSmall_eq_false_of_isCapital (capital : isCapital c = true) : isSmall c = false := by
  simp only [isSmall, isCapital, Bool.and_eq_true, Bool.and_eq_false_iff, decide_eq_true_eq,
    decide_eq_false_iff_not, Char.le_def, UInt32.le_iff_toNat_le] at capital ⊢
  change 65 ≤ c.toNat ∧ c.toNat ≤ 90 at capital
  change ¬ 97 ≤ c.toNat ∨ ¬ c.toNat ≤ 122
  omega

theorem isCapital_eq_false_of_isSmall (small : isSmall c = true) : isCapital c = false := by
  cases capital : isCapital c with
  | false => rfl
  | true =>
    rw [isSmall_eq_false_of_isCapital capital] at small
    cases small

/-- **The kinds exclude each other**: a character of a word is of just one of them. -/
theorem IsWordPart.kinds (part : IsWordPart c) :
    (isDigit c = true ∧ isSmall c = false ∧ isCapital c = false) ∨
      (isDigit c = false ∧ isSmall c = true ∧ isCapital c = false) ∨
      (isDigit c = false ∧ isSmall c = false ∧ isCapital c = true) := by
  by_cases capital : isCapital c = true
  · exact .inr (.inr ⟨isDigit_eq_false_of_letter (.inr capital),
      isSmall_eq_false_of_isCapital capital, capital⟩)
  · by_cases small : isSmall c = true
    · exact .inr (.inl ⟨isDigit_eq_false_of_letter (.inl small), small, by simpa using capital⟩)
    · refine .inl ⟨?_, by simpa using small, by simpa using capital⟩
      simpa [IsWordPart, small, capital] using part

theorem isCapital_smallForm (c : Char) : isCapital (smallForm c) = false := by
  by_cases capital : isCapital c = true
  · exact isCapital_eq_false_of_isSmall (isSmall_smallForm capital)
  · rw [smallForm, if_neg capital]
    simpa using capital

theorem isLetter_smallForm (c : Char) : isLetter (smallForm c) = isLetter c := by
  by_cases capital : isCapital c = true
  · simp [isLetter, isSmall_smallForm capital, capital]
  · rw [smallForm, if_neg capital]

theorem smallForm_smallForm (c : Char) : smallForm (smallForm c) = smallForm c := by
  rw [smallForm, isCapital_smallForm]
  simp

theorem smallForm_ne_underscore (part : IsWordPart c) : smallForm c ≠ '_' := by
  intro same
  have again := isWordPart_smallForm part
  rw [same] at again
  exact absurd again (by decide)

/-! ### The end of a word -/

/-- **Does a word end between two letters or digits that follow each other?** It does so if something lies
between them, between a digit and a letter, before a capital behind a small letter, and before the last of
several capitals if a small letter follows it. -/
def WordEndsBetween (x : Char) (between : List Char) (y : Char) (after : List Char) : Prop :=
  between ≠ [] ∨
    (isDigit x = true ∧ isLetter y = true ∨ isLetter x = true ∧ isDigit y = true) ∨
    (isSmall x = true ∧ isCapital y = true) ∨
    (isCapital x = true ∧ isCapital y = true ∧ after.head?.any isSmall = true)

instance : Decidable (WordEndsBetween x between y after) :=
  inferInstanceAs (Decidable (_ ∨ _))

/-- One more character before a text joins the word there, begins a word, or is left out. -/
theorem leadingWords_cons (c : Char) (rest : List Char) :
    leadingWords (c :: rest) =
      if joinsWord c (leadingWords rest).1 then (c :: (leadingWords rest).1, (leadingWords rest).2)
      else if IsWordPart c then ([c], words rest)
      else ([], words rest) := rfl

/-- Between small letters and digits there are no reasons but what lies between them and their kinds. -/
theorem wordEndsBetween_smallForm_iff :
    WordEndsBetween (smallForm x) between (smallForm y) after ↔
      between ≠ [] ∨ isDigit x = true ∧ isLetter y = true ∨ isLetter x = true ∧ isDigit y = true := by
  simp [WordEndsBetween, isDigit_smallForm, isLetter_smallForm, isCapital_smallForm]

/-- A text that begins with a letter or digit begins with a word. -/
theorem exists_leadingWord (part : IsWordPart y) (after : List Char) :
    ∃ word, (leadingWords (y :: after)).1 = y :: word := by
  rw [leadingWords_cons]
  split
  · exact ⟨_, rfl⟩
  · exact ⟨[], rfl⟩

/-- A text that begins with anything else does not. -/
theorem leadingWord_of_other (other : ¬ IsWordPart c) (rest : List Char) :
    (leadingWords (c :: rest)).1 = [] := by
  rw [leadingWords_cons, if_neg fun joins => other (isWordPart_of_joinsWord joins), if_neg other]

/-- A capital has small letters behind it in its word exactly if one follows it. -/
theorem any_isSmall_leadingWord (capital : isCapital y = true) (after : List Char) :
    (leadingWords (y :: after)).1.any isSmall = after.head?.any isSmall := by
  have large : isSmall y = false := isSmall_eq_false_of_isCapital capital
  have noDigit : isDigit y = false := isDigit_eq_false_of_letter (.inr capital)
  have part : IsWordPart y := by simp [IsWordPart, capital]
  have word : (leadingWords (y :: after)).1 =
      if joinsWord y (leadingWords after).1 then y :: (leadingWords after).1 else [y] := by
    rw [leadingWords_cons]
    split
    · rfl
    · rfl
  rw [word]
  cases after with
  | nil => simp [leadingWords, joinsWord, large]
  | cons z rest =>
    by_cases next : IsWordPart z
    · obtain ⟨others, found⟩ := exists_leadingWord next rest
      rw [found]
      -- The capital joins a word of small letters, and one of capitals alone.
      rcases next.kinds with ⟨-, small, capital'⟩ | ⟨-, small, -⟩ | ⟨-, small, capital'⟩
      · simp [joinsWord, large, noDigit, small, capital']
      · simp [joinsWord, large, noDigit, capital, small]
      · by_cases mixed : others.any isSmall = true
        · simp [joinsWord, large, noDigit, capital, small, capital', mixed]
        · simp [joinsWord, large, noDigit, capital, small, capital', mixed]
    · have noSmall : isSmall z = false := by
        cases small : isSmall z with
        | false => rfl
        | true => exact absurd (by simp [IsWordPart, small]) next
      simp [leadingWord_of_other next, joinsWord, large, noSmall]

/-- **A letter or digit joins the word behind it** exactly if there is one and no word ends between. -/
theorem joinsWord_leadingWord_iff (first : IsWordPart x) (y : Char) (after : List Char) :
    joinsWord x (leadingWords (y :: after)).1 = true ↔
      IsWordPart y ∧ ¬ WordEndsBetween x [] y after := by
  by_cases second : IsWordPart y
  · obtain ⟨word, found⟩ := exists_leadingWord second after
    have small : isCapital y = true → word.any isSmall = after.head?.any isSmall := by
      intro capital
      have whole := any_isSmall_leadingWord capital after
      rwa [found, List.any_cons, isSmall_eq_false_of_isCapital capital, Bool.false_or] at whole
    rw [found, and_iff_right second]
    rcases first.kinds with ⟨dx, sx, cx⟩ | ⟨dx, sx, cx⟩ | ⟨dx, sx, cx⟩ <;>
      rcases second.kinds with ⟨dy, sy, cy⟩ | ⟨dy, sy, cy⟩ | ⟨dy, sy, cy⟩ <;>
      simp [joinsWord, WordEndsBetween, isLetter, dx, sx, cx, dy, sy, cy]
    -- Two capitals are left, of which the second may begin a word of small letters.
    rw [← small cy, List.any_eq_false]
    simp
  · simp [leadingWord_of_other second, joinsWord, second]

/-! ### One more character -/

theorem words_cons_of_other (other : ¬ IsWordPart c) (rest : List Char) :
    words (c :: rest) = words rest := by
  rw [words, leadingWords_cons, if_neg fun joins => other (isWordPart_of_joinsWord joins),
    if_neg other]
  rfl

theorem words_cons_of_joins (joins : joinsWord x (leadingWords rest).1 = true) :
    ∃ word others, words rest = word :: others ∧ words (x :: rest) = (x :: word) :: others := by
  have nonempty : (leadingWords rest).1.isEmpty = false := by
    cases found : (leadingWords rest).1 with
    | nil =>
      rw [found] at joins
      cases joins
    | cons y word => rfl
  refine ⟨(leadingWords rest).1, (leadingWords rest).2, by simp [words, nonempty], ?_⟩
  rw [words, leadingWords_cons, if_pos joins]
  rfl

theorem words_cons_of_apart (part : IsWordPart x) (apart : ¬ joinsWord x (leadingWords rest).1 = true) :
    words (x :: rest) = [x] :: words rest := by
  rw [words, leadingWords_cons, if_neg apart, if_pos part]
  rfl

/-- What is no letter or digit and stands before a text is left out. -/
theorem words_append_of_other (others : ∀ c ∈ between, ¬ IsWordPart c) (tail : List Char) :
    words (between ++ tail) = words tail := by
  induction between with
  | nil => rfl
  | cons c between ih =>
    obtain ⟨other, others⟩ := List.forall_mem_cons.1 others
    rw [List.cons_append, words_cons_of_other other, ih others]

theorem words_of_other (others : ∀ c ∈ text, ¬ IsWordPart c) : words text = [] := by
  have left := words_append_of_other others []
  rwa [List.append_nil] at left

theorem words_cons_ne_nil (part : IsWordPart y) (after : List Char) : words (y :: after) ≠ [] := by
  by_cases joins : joinsWord y (leadingWords after).1 = true
  · obtain ⟨word, others, -, whole⟩ := words_cons_of_joins joins
    simp [whole]
  · simp [words_cons_of_apart part joins]

end EnumCodec.Text
