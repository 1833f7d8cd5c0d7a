import EnumCodec.Proofs.Text.Spelling

/-!
# EnumCodec.Proofs.Text.LowercaseSpelling

**What the lowercase form of an escaped text spells.** The escapes themselves hold small letters alone
and are not changed, so the lowercase form of an escaped text is the body of a literal again. It spells
the lowercase form of the text itself, but for one thing: a capital sigma looks at the letters before
it, and behind an escape such as `\n` it finds the letter of the escape where the text has a control
character. Such a sigma is lowered as if it ended a word. `bodyText_lowercase_iff` says that this is
the only difference.
-/

namespace EnumCodec.Text

open Source

/-! ### One character at a time -/

/-- The lowercase form of a character; `final` tells that a capital sigma ends a word. -/
def lowerPiece (final : Bool) (c : Char) : List Char :=
  if c = 'Σ' then [if final then 'ς' else 'σ']
  else if c = 'İ' then ['i', '\u0307']
  else [lowercaseChar c]

theorem lowercaseAfter_cons (before : List Char) (c : Char) (rest : List Char) :
    lowercaseAfter before (c :: rest) =
      lowerPiece (beginsCased before && !beginsCased rest) c ++
        lowercaseAfter (c :: before) rest := rfl

/-- The number of characters does not depend on the place of a sigma. -/
theorem length_lowerPiece (final final' : Bool) (c : Char) :
    (lowerPiece final c).length = (lowerPiece final' c).length := by
  unfold lowerPiece
  split <;> rfl

/-- Only for a sigma does it matter whether it ends a word. -/
theorem lowerPiece_eq_iff {final final' : Bool} {c : Char} :
    lowerPiece final c = lowerPiece final' c ↔ (c = 'Σ' → final = final') := by
  unfold lowerPiece
  split
  · cases final <;> cases final' <;> simp_all
  · simp_all

/-- With a letter behind it, a sigma does not end a word, whatever stands before it. -/
theorem lowerPiece_between_iff {before before' after : Bool} {c : Char} :
    lowerPiece (before' && !after) c = lowerPiece (before && !after) c ↔
      (c = 'Σ' → after = false → before' = before) := by
  rw [lowerPiece_eq_iff]
  cases after <;> simp

/-- The lowercase form of a plain character consists of plain characters. -/
theorem isPlain_of_mem_lowerPiece {final : Bool} {c d : Char} (h : isPlain c = true)
    (hd : d ∈ lowerPiece final c) : isPlain d = true := by
  unfold lowerPiece at hd
  split at hd
  · cases final <;> (obtain rfl := List.mem_singleton.1 hd; rfl)
  split at hd
  · simp only [List.mem_cons, List.not_mem_nil, or_false] at hd
    rcases hd with rfl | rfl <;> rfl
  · obtain rfl := List.mem_singleton.1 hd
    exact isPlain_lowercaseChar h

/-! ### Escapes stay as they are -/

/-- A character that lowering does not change. -/
def IsLowered (c : Char) : Prop :=
  ∀ final, lowerPiece final c = [c]

theorem isLowered_of_lt {c : Char} (small : c.toNat < 128) (h : ¬ ('A' ≤ c ∧ c ≤ 'Z')) :
    IsLowered c := by
  intro final
  have sigma : c ≠ 'Σ' := by rintro rfl; simp at small
  have dotted : c ≠ 'İ' := by rintro rfl; simp at small
  have fixed : lowercaseChar c = c := by
    rw [lowercaseChar, if_pos small, if_neg (by simpa using h)]
  simp [lowerPiece, sigma, dotted, fixed]

theorem isLowered_hexDigit : ∀ n < 16, IsLowered (hexDigit n) := by
  intro n hn
  have : ∀ n < 16, (hexDigit n).toNat < 128 ∧ ¬ ('A' ≤ hexDigit n ∧ hexDigit n ≤ 'Z') := by
    decide
  exact isLowered_of_lt (this n hn).1 (this n hn).2

theorem isLowered_of_mem_hexDigits {width n : Nat} {c : Char} (h : c ∈ hexDigits width n) :
    IsLowered c := by
  induction width generalizing n with
  | zero => simp [hexDigits] at h
  | succ width ih =>
      rcases List.mem_append.1 h with h | h
      · exact ih h
      · obtain rfl := List.mem_singleton.1 h
        exact isLowered_hexDigit _ (Nat.mod_lt n (by omega))

/-- A character that is not plain is a small ASCII sign or a separator, and not a letter. -/
theorem cases_of_not_isPlain {c : Char} (h : isPlain c = false) :
    c.toNat < 128 ∧ ¬ ('A' ≤ c ∧ c ≤ 'Z') ∨ c = '\u0085' ∨ c = '\u2028' ∨ c = '\u2029' := by
  have code : ∀ n, n.isValidChar → c.toNat = n → c = Char.ofNat n := by
    rintro n - rfl
    exact (Char.ofNat_toNat c).symm
  have range : 'A' ≤ c ∧ c ≤ 'Z' → 65 ≤ c.toNat ∧ c.toNat ≤ 90 := by
    rw [Char.le_def, Char.le_def]
    exact fun ⟨low, high⟩ => ⟨by simpa using UInt32.le_iff_toNat_le.1 low,
      by simpa using UInt32.le_iff_toNat_le.1 high⟩
  rw [← Bool.not_eq_true, isPlain_iff_toNat] at h
  by_cases next : c.toNat = 0x85
  · exact .inr (.inl (code _ (by decide) next))
  by_cases line : c.toNat = 0x2028
  · exact .inr (.inr (.inl (code _ (by decide) line)))
  by_cases paragraph : c.toNat = 0x2029
  · exact .inr (.inr (.inr (code _ (by decide) paragraph)))
  · exact .inl ⟨by omega, fun capital => by have := range capital; omega⟩

theorem isLowered_of_not_isPlain {c : Char} (h : isPlain c = false) : IsLowered c := by
  rcases cases_of_not_isPlain h with ⟨small, noCapital⟩ | rfl | rfl | rfl
  · exact isLowered_of_lt small noCapital
  all_goals
    intro final
    cases final <;> decide +kernel

/-- The characters of an escape are letters of short escapes or hexadecimal digits. -/
theorem mem_escapeChar {c d : Char} (h : isPlain c = false) (hd : d ∈ escapeChar c) :
    d ∈ ['\\', '"', 'n', 'r', 't', 'u'] ∨ d ∈ hexDigits 4 c.toNat := by
  simp only [isPlain, Bool.and_eq_false_iff, bne_eq_false_iff_eq, Bool.not_eq_false'] at h
  unfold escapeChar at hd
  grind

/-- The characters of an escape are not changed. -/
theorem isLowered_of_mem_escapeChar {c d : Char} (h : isPlain c = false)
    (hd : d ∈ escapeChar c) : IsLowered d := by
  rcases mem_escapeChar h hd with letter | digit
  · have each : ['\\', '"', 'n', 'r', 't', 'u'].all fun d =>
        decide (d.toNat < 128 ∧ ¬ ('A' ≤ d ∧ d ≤ 'Z')) := by decide
    have here := of_decide_eq_true (List.all_eq_true.1 each d letter)
    exact isLowered_of_lt here.1 here.2
  · exact isLowered_of_mem_hexDigits digit

/-- Lowering goes over characters that it does not change. -/
theorem lowercaseAfter_append_of_isLowered {piece : List Char} (h : ∀ c ∈ piece, IsLowered c)
    (before rest : List Char) :
    lowercaseAfter before (piece ++ rest) = piece ++ lowercaseAfter (piece.reverse ++ before) rest := by
  induction piece generalizing before with
  | nil => rfl
  | cons c piece ih =>
      rw [List.cons_append, lowercaseAfter_cons, h c List.mem_cons_self,
        ih fun d hd => h d (List.mem_cons_of_mem c hd)]
      simp

/-! ### The letters near a sigma -/

theorem beginsCased_cons (c : Char) (rest : List Char) :
    beginsCased (c :: rest) =
      if caseRole c = .ignorable then beginsCased rest else caseRole c == .cased := by
  unfold beginsCased
  by_cases h : caseRole c = .ignorable <;> simp [h]

/-- A character that is not plain is no letter, and is not passed over. -/
theorem caseRole_of_not_isPlain {c : Char} (h : isPlain c = false) : caseRole c = .other := by
  have ascii : ∀ n < 128, isPlain (Char.ofNat n) = false → caseRole (Char.ofNat n) = .other := by
    decide
  rcases cases_of_not_isPlain h with ⟨small, -⟩ | rfl | rfl | rfl
  · have found := ascii c.toNat small
    rw [Char.ofNat_toNat] at found
    exact found h
  all_goals decide +kernel

/-- Escapes do not change whether a letter comes next. -/
theorem beginsCased_escapeChars (text : List Char) :
    beginsCased (escapeChars text) = beginsCased text := by
  induction text with
  | nil => rfl
  | cons c rest ih =>
      rw [escapeChars_cons]
      by_cases h : isPlain c = true
      · rw [escapeChar_of_isPlain h, List.singleton_append, beginsCased_cons, beginsCased_cons, ih]
      · rw [Bool.not_eq_true] at h
        obtain ⟨others, hothers⟩ := escapeChar_of_not_isPlain h
        rw [hothers, List.cons_append, beginsCased_cons, beginsCased_cons,
          caseRole_of_not_isPlain h]
        rfl

/-- Is the character written as an escape that ends with a letter? -/
def escapeEndsCased (c : Char) : Bool :=
  !isPlain c && beginsCased (escapeChar c).reverse

/-- The characters whose escapes end with a letter are fourteen control characters, those that have
short escapes and those whose last hexadecimal digit is a letter. -/
theorem escapeEndsCased_iff {c : Char} :
    escapeEndsCased c = true ↔ (9 ≤ c.toNat ∧ c.toNat ≤ 15) ∨ (26 ≤ c.toNat ∧ c.toNat ≤ 31) ∨
      c.toNat = 127 := by
  have ascii : ∀ n < 128, escapeEndsCased (Char.ofNat n) = true ↔
      (9 ≤ n ∧ n ≤ 15) ∨ (26 ≤ n ∧ n ≤ 31) ∨ n = 127 := by
    decide
  by_cases small : c.toNat < 128
  · have found := ascii c.toNat small
    rwa [Char.ofNat_toNat] at found
  · refine iff_of_false (fun h => ?_) (by omega)
    rw [escapeEndsCased, Bool.and_eq_true, Bool.not_eq_true'] at h
    rcases cases_of_not_isPlain h.1 with ⟨ascii, -⟩ | rfl | rfl | rfl
    · exact small ascii
    all_goals exact absurd h.2 (by decide)

/-- What stands before an escape does not matter to a sigma behind it. -/
theorem beginsCased_reverse_escapeChar_append {c : Char} (h : isPlain c = false)
    (more : List Char) :
    beginsCased ((escapeChar c).reverse ++ more) = beginsCased (escapeChar c).reverse := by
  have digit : ∀ n < 16, caseRole (hexDigit n) ≠ .ignorable := by decide
  unfold escapeChar
  repeat' split
  · rfl
  · rfl
  · rfl
  · rfl
  · rfl
  · have last := digit (c.toNat % 16) (Nat.mod_lt _ (by omega))
    simp [hexDigits, beginsCased_cons, last]
  · simp [beginsCased_cons, caseRole_of_not_isPlain h]

/-- Is the first character that is not passed over one whose escape ends with a letter? -/
def beginsLetterEscape (text : List Char) : Bool :=
  match text.find? (fun c => caseRole c != .ignorable) with
  | some c => escapeEndsCased c
  | none => false

theorem beginsLetterEscape_cons (c : Char) (rest : List Char) :
    beginsLetterEscape (c :: rest) =
      if caseRole c = .ignorable then beginsLetterEscape rest else escapeEndsCased c := by
  unfold beginsLetterEscape
  by_cases h : caseRole c = .ignorable <;> simp [h]

/-- The two kinds of beginnings exclude each other. -/
theorem beginsCased_of_beginsLetterEscape {text : List Char}
    (h : beginsLetterEscape text = true) : beginsCased text = false := by
  induction text with
  | nil => simp [beginsLetterEscape] at h
  | cons c rest ih =>
      rw [beginsLetterEscape_cons] at h
      rw [beginsCased_cons]
      by_cases passing : caseRole c = .ignorable
      · rw [if_pos passing] at h ⊢
        exact ih h
      · rw [if_neg passing] at h ⊢
        have special : isPlain c = false := by
          rw [escapeEndsCased, Bool.and_eq_true] at h
          simpa using h.1
        rw [caseRole_of_not_isPlain special]
        rfl

/-- **What a sigma finds before it in an escaped text**: a letter of the text, or the last letter of an
escape. Both texts are read from the sigma backwards. -/
theorem beginsCased_reverse_escape (text : List Char) :
    beginsCased (text.flatMap fun c => (escapeChar c).reverse) =
      (beginsCased text || beginsLetterEscape text) := by
  induction text with
  | nil => rfl
  | cons c rest ih =>
      rw [List.flatMap_cons, beginsCased_cons c rest, beginsLetterEscape_cons]
      by_cases plain : isPlain c = true
      · have unescaped : escapeEndsCased c = false := by simp [escapeEndsCased, plain]
        rw [escapeChar_of_isPlain plain, List.reverse_singleton, List.singleton_append,
          beginsCased_cons, ih, unescaped]
        split <;> simp
      · rw [Bool.not_eq_true] at plain
        rw [beginsCased_reverse_escapeChar_append plain, caseRole_of_not_isPlain plain]
        simp [escapeEndsCased, plain]

theorem reverse_escapeChars (text : List Char) :
    (escapeChars text).reverse = text.reverse.flatMap fun c => (escapeChar c).reverse := by
  rw [escapeChars, List.reverse_flatMap]
  rfl

/-! ### The text that is spelled -/

/-- The lowercase form of the characters of a text, where a capital sigma looks at what stands before
it in the escaped text. -/
def lowercaseEscapedAfter (before : List Char) : List Char → List Char
  | [] => []
  | c :: rest =>
    lowerPiece (beginsCased before && !beginsCased rest) c ++
      lowercaseEscapedAfter ((escapeChar c).reverse ++ before) rest

/-- The lowercase form of an escaped text is an escaped text again. -/
theorem lowercaseAfter_escapeChars (before text : List Char) :
    lowercaseAfter before (escapeChars text) =
      escapeChars (lowercaseEscapedAfter before text) := by
  induction text generalizing before with
  | nil => rfl
  | cons c rest ih =>
      rw [escapeChars_cons, lowercaseEscapedAfter, escapeChars_append]
      by_cases h : isPlain c = true
      · rw [escapeChar_of_isPlain h, List.singleton_append, lowercaseAfter_cons,
          beginsCased_escapeChars, ih,
          escapeChars_of_plain fun d hd => isPlain_of_mem_lowerPiece h hd]
        rfl
      · rw [Bool.not_eq_true] at h
        rw [lowercaseAfter_append_of_isLowered fun d hd => isLowered_of_mem_escapeChar h hd,
          isLowered_of_not_isPlain h, ih, escapeChars_singleton]

/-- The lowercase form of an escaped text spells a text again. -/
theorem Spells.lowercaseAfter (before text : List Char) :
    Spells (lowercaseAfter before (Text.escapeChars text))
      (lowercaseEscapedAfter before text) := by
  rw [lowercaseAfter_escapeChars]
  exact escapeChars _

/-- Neither an escape nor its lowercase form breaks a literal. -/
theorem not_breaksLiteral_of_mem_escapeChar {c d : Char} (hd : d ∈ escapeChar c) :
    breaksLiteral d = false := by
  by_cases h : isPlain c = true
  · rw [escapeChar_of_isPlain h, List.mem_singleton] at hd
    exact hd ▸ (isPlain_iff.1 h).2.2
  · rcases mem_escapeChar (Bool.not_eq_true _ ▸ h) hd with letter | digit
    · have each : ['\\', '"', 'n', 'r', 't', 'u'].all fun d => !breaksLiteral d := by decide
      simpa using List.all_eq_true.1 each d letter
    · exact (isPlain_iff.1 (Spells.isPlain_of_mem_hexDigits digit)).2.2

theorem not_breaksLiteral_of_mem_escapeChars {text : List Char} {d : Char}
    (hd : d ∈ escapeChars text) : breaksLiteral d = false := by
  obtain ⟨c, -, here⟩ := List.mem_flatMap.1 hd
  exact not_breaksLiteral_of_mem_escapeChar here

theorem not_breaksLiteral_of_mem_lowercase_escapeChars {text : List Char} {d : Char}
    (hd : d ∈ lowercaseChars (escapeChars text)) : breaksLiteral d = false := by
  rw [lowercaseChars, lowercaseAfter_escapeChars] at hd
  exact not_breaksLiteral_of_mem_escapeChars hd

/-- A capital sigma with no letter behind it stands behind an escape that ends with a letter, so that it
seems to end a word in the escaped text. -/
def HasFalseFinal (text : List Char) : Prop :=
  ∃ before after, text = before ++ 'Σ' :: after ∧ beginsLetterEscape before.reverse = true ∧
    beginsCased after = false

/-- The two lowercase forms agree exactly if each sigma makes the same of what stands before it. -/
theorem lowercaseEscapedAfter_eq_iff {seen seen' text : List Char} :
    lowercaseEscapedAfter seen' text = lowercaseAfter seen text ↔
      ∀ before after, text = before ++ 'Σ' :: after → beginsCased after = false →
        beginsCased ((escapeChars before).reverse ++ seen') =
          beginsCased (before.reverse ++ seen) := by
  induction text generalizing seen seen' with
  | nil => simp [lowercaseEscapedAfter, lowercaseAfter]
  | cons c rest ih =>
      rw [lowercaseEscapedAfter, lowercaseAfter_cons]
      have pieces : ∀ tail tail' : List Char,
          lowerPiece (beginsCased seen' && !beginsCased rest) c ++ tail' =
              lowerPiece (beginsCased seen && !beginsCased rest) c ++ tail ↔
            (c = 'Σ' → beginsCased rest = false → beginsCased seen' = beginsCased seen) ∧
              tail' = tail := by
        intro tail tail'
        rw [← lowerPiece_between_iff]
        exact ⟨fun h => List.append_inj h (length_lowerPiece _ _ c), fun h => by rw [h.1, h.2]⟩
      rw [pieces, ih]
      constructor
      · rintro ⟨first, others⟩ before after split final
        cases before with
        | nil =>
            obtain ⟨rfl, rfl⟩ := List.cons.inj split
            exact first rfl final
        | cons d before =>
            obtain ⟨rfl, rfl⟩ := List.cons.inj split
            simpa using others before after rfl final
      · refine fun all => ⟨fun hc final => ?_, fun before after split final => ?_⟩
        · simpa using all [] rest (by rw [hc]; rfl) final
        · simpa using all (c :: before) after (by rw [split]; rfl) final

/-- **Lowering commutes with escaping** but for a sigma that an escape deceives: the lowercase form of
the escaped text spells the lowercase form of the text exactly if there is no such sigma. -/
theorem bodyText_lowercase_iff {text : List Char} :
    bodyText false (lowercaseChars (escapeChars text)) = some (lowercaseChars text) ↔
      ¬ HasFalseFinal text := by
  have spelled : bodyText false (lowercaseChars (escapeChars text)) =
      some (lowercaseEscapedAfter [] text) :=
    (Spells.lowercaseAfter [] text).bodyText_eq
  rw [spelled, Option.some.injEq, lowercaseChars, lowercaseEscapedAfter_eq_iff]
  simp only [List.append_nil, reverse_escapeChars, beginsCased_reverse_escape]
  constructor
  · rintro agree ⟨before, after, split, lettered, final⟩
    have := agree before after split final
    rw [beginsCased_of_beginsLetterEscape lettered, lettered] at this
    simp at this
  · intro none before after split final
    cases lettered : beginsLetterEscape before.reverse with
    | false => simp
    | true => exact absurd ⟨before, after, split, lettered, final⟩ none

end EnumCodec.Text
