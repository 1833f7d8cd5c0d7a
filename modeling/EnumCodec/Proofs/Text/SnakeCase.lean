import EnumCodec.Text.Identifier
import EnumCodec.Text.Words
import Mathlib.Data.Nat.Init
import Mathlib.Tactic.Tauto

/-!
# EnumCodec.Proofs.Text.SnakeCase

**The words of a name, and the name in small letters with its words apart.** The words of a text are its
ASCII letters and digits in order, cut into pieces of which none is empty. Joined by underscores they
make an identifier exactly if the first of these characters is a letter.
-/

namespace EnumCodec.Text

/-! ### The characters of words -/

/-- A character of a word. -/
def IsWordPart (c : Char) : Prop :=
  (isDigit c || isSmall c || isCapital c) = true

instance : DecidablePred IsWordPart := fun _ => inferInstanceAs (Decidable (_ = _))

theorem isWordPart_of_joinsWord {c : Char} {word : List Char} (joins : joinsWord c word = true) :
    IsWordPart c := by
  unfold joinsWord at joins
  unfold IsWordPart
  split at joins
  · cases joins
  · by_cases digit : isDigit c
    · simp [digit]
    · by_cases small : isSmall c
      · simp [small]
      · by_cases capital : isCapital c
        · simp [capital]
        · simp [digit, small, capital] at joins

/-- A small form is that of a capital, a small letter, or the character itself. -/
theorem isSmall_smallForm {c : Char} (capital : isCapital c = true) :
    isSmall (smallForm c) = true := by
  unfold smallForm
  rw [if_pos capital]
  simp only [isCapital, Bool.and_eq_true, decide_eq_true_eq, Char.le_def,
    UInt32.le_iff_toNat_le] at capital
  change 65 ≤ c.toNat ∧ c.toNat ≤ 90 at capital
  have small : ∀ n, 65 ≤ n → n ≤ 90 → isSmall (Char.ofNat (n + 32)) = true := by decide
  exact small c.toNat capital.1 capital.2

/-- The small form of a character of a word is such a character again. -/
theorem isWordPart_smallForm {c : Char} (part : IsWordPart c) : IsWordPart (smallForm c) := by
  by_cases capital : isCapital c = true
  · simp [IsWordPart, isSmall_smallForm capital]
  · rwa [smallForm, if_neg capital]

/-- A digit is neither a small letter nor a capital. -/
theorem isDigit_eq_false_of_letter {c : Char} (letter : isSmall c = true ∨ isCapital c = true) :
    isDigit c = false := by
  simp only [isSmall, isCapital, isDigit, Bool.and_eq_true, Bool.and_eq_false_iff, decide_eq_true_eq,
    decide_eq_false_iff_not, Char.le_def, UInt32.le_iff_toNat_le] at letter ⊢
  change (97 ≤ c.toNat ∧ c.toNat ≤ 122) ∨ (65 ≤ c.toNat ∧ c.toNat ≤ 90) at letter
  change ¬ 48 ≤ c.toNat ∨ ¬ c.toNat ≤ 57
  omega

theorem isDigit_smallForm (c : Char) : isDigit (smallForm c) = isDigit c := by
  by_cases capital : isCapital c = true
  · rw [isDigit_eq_false_of_letter (.inl (isSmall_smallForm capital)),
      isDigit_eq_false_of_letter (.inr capital)]
  · rw [smallForm, if_neg capital]

theorem isIdentifierPart_of_isWordPart {c : Char} (part : IsWordPart c) :
    isIdentifierPart c = true := by
  simp only [IsWordPart, isDigit, isSmall, isCapital, Bool.or_eq_true] at part
  simp only [isIdentifierPart, isAsciiIdentifierStart, Bool.or_eq_true]
  tauto

/-- Of the characters of words the letters may begin an identifier. -/
theorem isIdentifierStart_iff_of_isWordPart {c : Char} (part : IsWordPart c) :
    isIdentifierStart c = true ↔ isDigit c = false := by
  constructor
  · intro start
    cases digit : isDigit c with
    | false => rfl
    | true =>
      simp only [isDigit, Bool.and_eq_true, decide_eq_true_eq, Char.le_def,
        UInt32.le_iff_toNat_le] at digit
      change 48 ≤ c.toNat ∧ c.toNat ≤ 57 at digit
      have none : ∀ n, 48 ≤ n → n ≤ 57 → isIdentifierStart (Char.ofNat n) = false := by decide
      have other := none c.toNat digit.1 digit.2
      rw [Char.ofNat_toNat, start] at other
      cases other
  · intro digit
    simp only [IsWordPart, digit, Bool.false_or, isSmall, isCapital] at part
    rw [isIdentifierStart, isAsciiIdentifierStart, part]
    rfl

/-! ### The words of a text -/

/-- **Nothing is lost and nothing is added**: the words are the letters and digits of the text. -/
theorem flatten_leadingWords (text : List Char) :
    (leadingWords text).1 ++ (leadingWords text).2.flatten =
      text.filter fun c => IsWordPart c := by
  induction text with
  | nil => rfl
  | cons c rest ih =>
    have finished : (if (leadingWords rest).1.isEmpty then (leadingWords rest).2 else
        (leadingWords rest).1 :: (leadingWords rest).2).flatten = rest.filter fun c => IsWordPart c := by
      rw [← ih]
      split
      · next empty => rw [List.isEmpty_iff.1 empty, List.nil_append]
      · rfl
    unfold leadingWords
    dsimp only
    split
    · next joins =>
      have kept : decide (IsWordPart c) = true := decide_eq_true (isWordPart_of_joinsWord joins)
      rw [List.filter_cons, if_pos kept, ← ih]
      rfl
    · split
      · next part =>
        have kept : decide (IsWordPart c) = true := decide_eq_true part
        rw [List.filter_cons, if_pos kept, ← finished]
        rfl
      · next other =>
        have passed : ¬ decide (IsWordPart c) = true := fun part => other (of_decide_eq_true part)
        rw [List.filter_cons, if_neg passed, ← finished]
        rfl

theorem ne_nil_of_mem_leadingWords {text word : List Char} (mem : word ∈ (leadingWords text).2) :
    word ≠ [] := by
  induction text with
  | nil => cases mem
  | cons c rest ih =>
    have finished (mem : word ∈ (if (leadingWords rest).1.isEmpty then (leadingWords rest).2 else
        (leadingWords rest).1 :: (leadingWords rest).2)) : word ≠ [] := by
      split at mem
      · exact ih mem
      · next nonempty =>
        rcases List.mem_cons.1 mem with rfl | mem
        · simpa using nonempty
        · exact ih mem
    unfold leadingWords at mem
    dsimp only at mem
    split at mem
    · exact ih mem
    · split at mem
      · exact finished mem
      · exact finished mem

theorem flatten_words (text : List Char) :
    (words text).flatten = text.filter fun c => IsWordPart c := by
  rw [← flatten_leadingWords, words]
  dsimp only
  split
  · next empty => rw [List.isEmpty_iff.1 empty, List.nil_append]
  · rfl

theorem ne_nil_of_mem_words {text word : List Char} (mem : word ∈ words text) : word ≠ [] := by
  unfold words at mem
  dsimp only at mem
  split at mem
  · exact ne_nil_of_mem_leadingWords mem
  · next nonempty =>
    rcases List.mem_cons.1 mem with rfl | mem
    · simpa using nonempty
    · exact ne_nil_of_mem_leadingWords mem

/-! ### The words in small letters, joined by underscores -/

/-- What stands between some pieces, or in one of them. -/
theorem mem_of_mem_intercalate {c separator : Char} {pieces : List (List Char)}
    (mem : c ∈ [separator].intercalate pieces) : c ∈ pieces.flatten ∨ c = separator := by
  induction pieces with
  | nil => cases mem
  | cons piece rest ih =>
    rw [List.flatten_cons, List.mem_append]
    cases rest with
    | nil => exact .inl (.inl (by simpa using mem))
    | cons second rest =>
      rw [List.intercalate_cons_cons] at mem
      simp only [List.mem_append, List.mem_singleton] at mem
      obtain (mem | mem) | mem := mem
      · exact .inl (.inl mem)
      · exact .inr mem
      · exact (ih mem).imp_left .inr

/-- Pieces that are joined begin as the first of them does. -/
theorem head?_intercalate {separator : List Char} {pieces : List (List Char)}
    (nonempty : ∀ piece ∈ pieces, piece ≠ []) :
    (separator.intercalate pieces).head? = pieces.flatten.head? := by
  cases pieces with
  | nil => rfl
  | cons piece rest =>
    obtain ⟨c, chars, rfl⟩ := List.exists_cons_of_ne_nil (nonempty piece List.mem_cons_self)
    cases rest with
    | nil => simp
    | cons second rest =>
      rw [List.intercalate_cons_cons]
      rfl

theorem flatten_map_map_smallForm (pieces : List (List Char)) :
    (pieces.map (List.map smallForm)).flatten = pieces.flatten.map smallForm :=
  List.map_flatten.symm

/-- The words of a name in small letters have nothing between them but underscores. -/
theorem mem_snakeCase {text : String} {c : Char} (mem : c ∈ (snakeCase text).toList) :
    IsWordPart c ∨ c = '_' := by
  rw [snakeCase, String.toList_ofList, snakeCaseChars] at mem
  refine (mem_of_mem_intercalate mem).imp_left fun inside => ?_
  rw [flatten_map_map_smallForm, flatten_words] at inside
  obtain ⟨old, kept, rfl⟩ := List.mem_map.1 inside
  exact isWordPart_smallForm (of_decide_eq_true (List.mem_filter.1 kept).2)

/-- The first ASCII letter or digit of a text. -/
def firstWordPart? (text : String) : Option Char :=
  text.toList.find? fun c => IsWordPart c

/-- The words begin with the first letter or digit. -/
theorem head?_snakeCase (text : String) :
    (snakeCase text).toList.head? = (firstWordPart? text).map smallForm := by
  have nonempty : ∀ piece ∈ (words text.toList).map (List.map smallForm), piece ≠ [] := by
    intro piece mem
    obtain ⟨word, found, rfl⟩ := List.mem_map.1 mem
    simpa using ne_nil_of_mem_words found
  rw [snakeCase, String.toList_ofList, snakeCaseChars, head?_intercalate nonempty,
    flatten_map_map_smallForm, flatten_words, List.head?_map, List.head?_filter, firstWordPart?]

/-- **The words make an identifier** exactly if the first letter or digit is a letter. -/
theorem isIdentifier_snakeCase_iff (text : String) :
    isIdentifier (snakeCase text).toList = true ↔
      ∃ c, firstWordPart? text = some c ∧ isDigit c = false := by
  have head := head?_snakeCase text
  have parts : ∀ c ∈ (snakeCase text).toList, isIdentifierPart c = true := fun c mem =>
    (mem_snakeCase mem).elim isIdentifierPart_of_isWordPart fun line => line ▸ rfl
  generalize (snakeCase text).toList = chars at head parts
  cases first : firstWordPart? text with
  | none =>
    rw [first, Option.map_none, List.head?_eq_none_iff] at head
    subst head
    simp [isIdentifier]
  | some c =>
    rw [first, Option.map_some] at head
    obtain ⟨rest, rfl⟩ := List.head?_eq_some_iff.1 head
    unfold firstWordPart? at first
    have found := List.find?_some first
    have part : IsWordPart c := of_decide_eq_true found
    have others : rest.all isIdentifierPart = true :=
      List.all_eq_true.2 fun d mem => parts d (List.mem_cons_of_mem _ mem)
    rw [isIdentifier, others, Bool.and_true,
      isIdentifierStart_iff_of_isWordPart (isWordPart_smallForm part), isDigit_smallForm]
    simp

/-- A name has one word, which is all there is, or else nothing or an underscore comes of its words. -/
theorem snakeCase_cases (text : String) :
    (∃ word, words text.toList = [word] ∧ snakeCase text = String.ofList (word.map smallForm)) ∨
      ((∀ word, words text.toList ≠ [word]) ∧ (snakeCase text = "" ∨ '_' ∈ (snakeCase text).toList)) := by
  unfold snakeCase snakeCaseChars
  rcases words text.toList with _ | ⟨first, _ | ⟨second, rest⟩⟩
  · exact .inr ⟨by simp, .inl rfl⟩
  · exact .inl ⟨first, rfl, by simp⟩
  · refine .inr ⟨by simp, .inr ?_⟩
    rw [String.toList_ofList, List.map_cons, List.map_cons, List.intercalate_cons_cons]
    simp

end EnumCodec.Text
