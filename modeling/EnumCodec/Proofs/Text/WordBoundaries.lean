import EnumCodec.Proofs.Text.WordPattern
import Mathlib.Data.List.Infix

/-!
# EnumCodec.Proofs.Text.WordBoundaries

**Where the underscores of a snake-cased text stand.** They stand where words end, so each of them has a
local reason, and nothing is left to split in a text that is in snake case already.

* `snakeCaseChars_between`: what stands between two letters or digits that follow each other.
* `wordParts_induction`: induction along the letters and digits of a text.
* `snakeCase_boundaries`: all of it for the whole text.
-/

namespace EnumCodec.Text

variable {x y c : Char} {text before between after rest : List Char}

/-! ### One more character -/

theorem snakeCaseChars_cons_of_other (other : ¬ IsWordPart c) (rest : List Char) :
    snakeCaseChars (c :: rest) = snakeCaseChars rest := by
  rw [snakeCaseChars, words_cons_of_other other, snakeCaseChars]

theorem snakeCaseChars_cons_of_joins (joins : joinsWord x (leadingWords rest).1 = true) :
    snakeCaseChars (x :: rest) = smallForm x :: snakeCaseChars rest := by
  obtain ⟨word, others, behind, whole⟩ := words_cons_of_joins joins
  rw [snakeCaseChars, snakeCaseChars, behind, whole]
  cases others with
  | nil => simp
  | cons second others => simp [List.intercalate_cons_cons]

theorem snakeCaseChars_cons_of_apart (part : IsWordPart x)
    (apart : ¬ joinsWord x (leadingWords rest).1 = true) :
    snakeCaseChars (x :: rest) =
      smallForm x :: ((if words rest = [] then [] else ['_']) ++ snakeCaseChars rest) := by
  rw [snakeCaseChars, snakeCaseChars, words_cons_of_apart part apart]
  cases words rest with
  | nil => simp
  | cons second others => simp [List.intercalate_cons_cons]

/-- What comes of the end of a text stands at the end of what comes of the text. -/
theorem snakeCaseChars_isSuffix (before tail : List Char) :
    snakeCaseChars tail <:+ snakeCaseChars (before ++ tail) := by
  induction before with
  | nil => exact List.suffix_rfl
  | cons c before ih =>
    refine ih.trans ?_
    rw [List.cons_append]
    by_cases joins : joinsWord c (leadingWords (before ++ tail)).1 = true
    · rw [snakeCaseChars_cons_of_joins joins]
      exact List.suffix_cons _ _
    · by_cases part : IsWordPart c
      · rw [snakeCaseChars_cons_of_apart part joins, ← List.cons_append]
        exact List.suffix_append _ _
      · rw [snakeCaseChars_cons_of_other part]

/-! ### From one letter or digit to the next -/

/-- The last letter or digit stands alone. -/
theorem snakeCaseChars_last (part : IsWordPart x) (others : ∀ c ∈ after, ¬ IsWordPart c) :
    snakeCaseChars (x :: after) = [smallForm x] := by
  have apart : ¬ joinsWord x (leadingWords after).1 = true := by
    cases after with
    | nil => simp [leadingWords, joinsWord]
    | cons c after => simp [leadingWord_of_other (others c List.mem_cons_self), joinsWord]
  have none : words after = [] := words_of_other others
  rw [snakeCaseChars_cons_of_apart part apart, if_pos none, snakeCaseChars, none]
  rfl

/-- **Two letters or digits that follow each other**: an underscore stands between them exactly if a word
ends there. -/
theorem snakeCaseChars_between (first : IsWordPart x) (others : ∀ c ∈ between, ¬ IsWordPart c)
    (second : IsWordPart y) (after : List Char) :
    snakeCaseChars (x :: (between ++ y :: after)) =
      smallForm x :: ((if WordEndsBetween x between y after then ['_'] else []) ++
        snakeCaseChars (y :: after)) := by
  have some : words (between ++ y :: after) ≠ [] := by
    rw [words_append_of_other others]
    exact words_cons_ne_nil second after
  have left : snakeCaseChars (between ++ y :: after) = snakeCaseChars (y :: after) := by
    rw [snakeCaseChars, words_append_of_other others, snakeCaseChars]
  have joins_iff : joinsWord x (leadingWords (between ++ y :: after)).1 = true ↔
      ¬ WordEndsBetween x between y after := by
    cases between with
    | nil => exact (joinsWord_leadingWord_iff first y after).trans (and_iff_right second)
    | cons c between =>
      -- Something lies between the two: there is no word that the first could join.
      rw [List.cons_append, leadingWord_of_other (others c List.mem_cons_self)]
      simp [joinsWord, WordEndsBetween]
  by_cases ends : WordEndsBetween x between y after
  · have apart : ¬ joinsWord x (leadingWords (between ++ y :: after)).1 = true := by
      intro joins
      exact joins_iff.1 joins ends
    rw [snakeCaseChars_cons_of_apart first apart, if_neg some, if_pos ends, left]
  · rw [snakeCaseChars_cons_of_joins (joins_iff.2 ends), if_neg ends, left]
    rfl

/-- **Induction along the letters and digits of a text**: a text is empty, or begins with some other
character, or with its last letter or digit, or with one that another one follows. -/
theorem wordParts_induction {motive : List Char → Prop} (nil : motive [])
    (other : ∀ c rest, ¬ IsWordPart c → motive rest → motive (c :: rest))
    (last : ∀ x after, IsWordPart x → (∀ c ∈ after, ¬ IsWordPart c) → motive (x :: after))
    (next : ∀ x between y after, IsWordPart x → (∀ c ∈ between, ¬ IsWordPart c) → IsWordPart y →
      motive (y :: after) → motive (x :: (between ++ y :: after)))
    (text : List Char) : motive text := by
  match text with
  | [] => exact nil
  | x :: rest =>
    by_cases part : IsWordPart x
    · cases found : rest.find? fun c => IsWordPart c with
      | none =>
        refine last x rest part fun c mem => ?_
        simpa using List.find?_eq_none.1 found c mem
      | some y =>
        obtain ⟨second, between, after, cut, others⟩ := List.find?_eq_some_iff_append.1 found
        rw [cut]
        refine next x between y after part (fun c mem => ?_) (of_decide_eq_true second) ?_
        · simpa using others c mem
        · have shorter : (y :: after).length < (x :: rest).length := by
            rw [cut]
            simp only [List.length_cons, List.length_append]
            omega
          exact wordParts_induction nil other last next (y :: after)
    · exact other x rest part (wordParts_induction nil other last next rest)
termination_by text.length

/-! ### Underscores -/

/-- The letters and digits of a text in small letters. -/
def lettersAndDigits (text : List Char) : List Char :=
  (text.filter fun c => IsWordPart c).map smallForm

/-- A text without its underscores. -/
def withoutUnderscores (text : List Char) : List Char :=
  text.filter (· ≠ '_')

theorem withoutUnderscores_append (text rest : List Char) :
    withoutUnderscores (text ++ rest) = withoutUnderscores text ++ withoutUnderscores rest :=
  List.filter_append ..

theorem lettersAndDigits_append (text rest : List Char) :
    lettersAndDigits (text ++ rest) = lettersAndDigits text ++ lettersAndDigits rest := by
  simp [lettersAndDigits]

theorem lettersAndDigits_cons (part : IsWordPart x) (rest : List Char) :
    lettersAndDigits (x :: rest) = smallForm x :: lettersAndDigits rest := by
  simp [lettersAndDigits, part]

theorem lettersAndDigits_of_other (others : ∀ c ∈ text, ¬ IsWordPart c) :
    lettersAndDigits text = [] := by
  simpa [lettersAndDigits] using others

theorem withoutUnderscores_cons (part : IsWordPart x) (rest : List Char) :
    withoutUnderscores (smallForm x :: rest) = smallForm x :: withoutUnderscores rest := by
  simp [withoutUnderscores, smallForm_ne_underscore part]

/-- **Without the underscores** the letters and digits of the text are left. -/
theorem withoutUnderscores_snakeCaseChars (text : List Char) :
    withoutUnderscores (snakeCaseChars text) = lettersAndDigits text := by
  induction text using wordParts_induction with
  | nil => rfl
  | other c rest other ih =>
    rw [snakeCaseChars_cons_of_other other, ih]
    simp [lettersAndDigits, other]
  | last x after part others =>
    rw [snakeCaseChars_last part others, withoutUnderscores_cons part, lettersAndDigits_cons part,
      lettersAndDigits_of_other others]
    rfl
  | next x between y after first others second ih =>
    have gap : withoutUnderscores (if WordEndsBetween x between y after then ['_'] else []) = [] := by
      split
      · rfl
      · rfl
    rw [snakeCaseChars_between first others second, withoutUnderscores_cons first,
      withoutUnderscores_append, gap, ih, lettersAndDigits_cons first, lettersAndDigits_append,
      lettersAndDigits_of_other others]

/-- What comes of a text that begins with a letter or digit begins with it. -/
theorem exists_snakeCaseChars (part : IsWordPart y) (after : List Char) :
    ∃ back, snakeCaseChars (y :: after) = smallForm y :: back := by
  by_cases joins : joinsWord y (leadingWords after).1 = true
  · exact ⟨_, snakeCaseChars_cons_of_joins joins⟩
  · exact ⟨_, snakeCaseChars_cons_of_apart part joins⟩

/-- A text in which underscores only stand between other characters, and never two of them together. -/
structure UnderscoresApart (text : List Char) : Prop where
  head : text.head? ≠ some '_'
  last : text.getLast? ≠ some '_'
  single : ¬ ['_', '_'] <:+: text

/-- **Underscores stand alone between letters and digits.** -/
theorem underscoresApart_snakeCaseChars (text : List Char) :
    UnderscoresApart (snakeCaseChars text) := by
  induction text using wordParts_induction with
  | nil => exact ⟨by decide, by decide, by decide⟩
  | other c rest other ih => rwa [snakeCaseChars_cons_of_other other]
  | last x after part others =>
    rw [snakeCaseChars_last part others]
    refine ⟨?_, ?_, ?_⟩
    · simpa using smallForm_ne_underscore part
    · simpa using smallForm_ne_underscore part
    · intro double
      simpa using double.length_le
  | next x between y after first others second ih =>
    obtain ⟨back, begins⟩ := exists_snakeCaseChars second after
    have letter : smallForm x ≠ '_' := smallForm_ne_underscore first
    rw [snakeCaseChars_between first others second]
    rw [begins] at ih ⊢
    obtain ⟨head, last, single⟩ := ih
    split
    · refine ⟨by simpa using letter, by simpa using last, ?_⟩
      simpa [List.infix_cons_iff, letter.symm, single, eq_comm] using head
    · refine ⟨by simpa using letter, by simpa using last, ?_⟩
      simpa [List.infix_cons_iff, letter.symm] using single

/-! ### Snake case once more -/

/-- **What is in snake case stays as it is.** -/
theorem snakeCaseChars_snakeCaseChars (text : List Char) :
    snakeCaseChars (snakeCaseChars text) = snakeCaseChars text := by
  induction text using wordParts_induction with
  | nil => rfl
  | other c rest other ih => rw [snakeCaseChars_cons_of_other other, ih]
  | last x after part others =>
    have none : ∀ c ∈ ([] : List Char), ¬ IsWordPart c := by simp
    rw [snakeCaseChars_last part others, snakeCaseChars_last (isWordPart_smallForm part) none,
      smallForm_smallForm]
  | next x between y after first others second ih =>
    obtain ⟨back, begins⟩ := exists_snakeCaseChars second after
    have first' : IsWordPart (smallForm x) := isWordPart_smallForm first
    have second' : IsWordPart (smallForm y) := isWordPart_smallForm second
    rw [snakeCaseChars_between first others second, begins]
    rw [begins] at ih
    by_cases ends : WordEndsBetween x between y after
    · -- The underscore lies between the two.
      have line : ∀ c ∈ ['_'], ¬ IsWordPart c := by
        intro c mem
        rw [List.mem_singleton.1 mem]
        decide
      have again : WordEndsBetween (smallForm x) ['_'] (smallForm y) back := .inl (by simp)
      have whole := snakeCaseChars_between first' line second' back
      rw [if_pos again, smallForm_smallForm, ih] at whole
      rwa [if_pos ends]
    · -- Nothing lies between the two, and what could part them are capitals, of which none are left.
      have nothing : ∀ c ∈ ([] : List Char), ¬ IsWordPart c := by simp
      have again : ¬ WordEndsBetween (smallForm x) [] (smallForm y) back := by
        intro again
        rcases wordEndsBetween_smallForm_iff.1 again with some | mixed
        · exact some rfl
        · exact ends (.inr (.inl mixed))
      have whole := snakeCaseChars_between first' nothing second' back
      rw [if_neg again, smallForm_smallForm, ih] at whole
      rwa [if_neg ends]

/-! ### The whole text -/

/-- **Snake case splits a text exactly where its words end.**

* It joins what the pattern of words finds.
* Without the underscores its letters and digits are left, in small letters and in their order.
* Between two of them that follow each other stands an underscore exactly if a word ends there.
* Underscores stand alone, and neither first nor last.
* A text in snake case stays as it is. -/
theorem snakeCase_boundaries (text : String) :
    (snakeCase text).toList =
        ['_'].intercalate ((wordPattern.findAll text.toList).map (List.map smallForm)) ∧
      withoutUnderscores (snakeCase text).toList = lettersAndDigits text.toList ∧
      (∀ before x between y after, text.toList = before ++ x :: (between ++ y :: after) →
        IsWordPart x → (∀ c ∈ between, ¬ IsWordPart c) → IsWordPart y →
        ∃ front back,
          (snakeCase text).toList = front ++ smallForm x ::
            ((if WordEndsBetween x between y after then ['_'] else []) ++ smallForm y :: back) ∧
          withoutUnderscores front = lettersAndDigits before ∧
          withoutUnderscores back = lettersAndDigits after) ∧
      UnderscoresApart (snakeCase text).toList ∧
      snakeCase (snakeCase text) = snakeCase text := by
  have chars : (snakeCase text).toList = snakeCaseChars text.toList := by
    rw [snakeCase, String.toList_ofList]
  rw [chars]
  refine ⟨?_, withoutUnderscores_snakeCaseChars _, ?_, underscoresApart_snakeCaseChars _, ?_⟩
  · rw [snakeCaseChars, words_eq_findAll]
  · intro before x between y after cut first others second
    obtain ⟨front, whole⟩ := snakeCaseChars_isSuffix before (x :: (between ++ y :: after))
    obtain ⟨back, begins⟩ := exists_snakeCaseChars second after
    have frontLetters : withoutUnderscores front = lettersAndDigits before := by
      have letters := withoutUnderscores_snakeCaseChars (before ++ x :: (between ++ y :: after))
      rw [← whole, withoutUnderscores_append, withoutUnderscores_snakeCaseChars,
        lettersAndDigits_append] at letters
      exact List.append_cancel_right letters
    have backLetters : withoutUnderscores back = lettersAndDigits after := by
      have letters := withoutUnderscores_snakeCaseChars (y :: after)
      rw [begins, withoutUnderscores_cons second, lettersAndDigits_cons second] at letters
      exact List.tail_eq_of_cons_eq letters
    refine ⟨front, back, ?_, frontLetters, backLetters⟩
    rw [cut, ← whole, snakeCaseChars_between first others second, begins]
  · rw [snakeCase, chars, snakeCaseChars_snakeCaseChars, snakeCase]

/-- Between two capitals a word ends where a small letter follows the second. -/
theorem snakeCase_boundaries_status :
    "HTTPStatus-2".toList = "HTT".toList ++ 'P' :: ([] ++ 'S' :: "tatus-2".toList) ∧
      IsWordPart 'P' ∧ (∀ c ∈ ([] : List Char), ¬ IsWordPart c) ∧ IsWordPart 'S' ∧
      ∃ front back,
        (snakeCase "HTTPStatus-2").toList = front ++ 'p' :: '_' :: 's' :: back ∧
        withoutUnderscores front = "htt".toList ∧ withoutUnderscores back = "tatus2".toList := by
  have cut : "HTTPStatus-2".toList = "HTT".toList ++ 'P' :: ([] ++ 'S' :: "tatus-2".toList) := by decide
  have nothing : ∀ c ∈ ([] : List Char), ¬ IsWordPart c := by simp
  obtain ⟨front, back, whole, frontLetters, backLetters⟩ :=
    (snakeCase_boundaries "HTTPStatus-2").2.2.1 _ _ _ _ _ cut (by decide) nothing (by decide)
  exact ⟨cut, by decide, nothing, by decide, front, back, whole, frontLetters, backLetters⟩

end EnumCodec.Text
