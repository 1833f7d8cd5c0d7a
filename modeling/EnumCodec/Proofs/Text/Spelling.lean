import EnumCodec.Proofs.Text.Plain
import EnumCodec.Source.Token.Text
import Mathlib.Algebra.Group.Nat.Defs

/-!
# EnumCodec.Proofs.Text.Spelling

**Bodies of double-quoted literals that spell a text.** A body spells a text if no quote in it ends the
literal and if its escapes stand for the characters of the text. The relation is one on pieces: pieces
that stand next to each other spell what they spell one after the other, so it is enough to know the
piece for each character. The escaped form of a text spells that text, whatever its characters are.
-/

namespace EnumCodec.Text

open Source

/-- A piece of a body stands for some characters: reading the body goes over the piece, and reading
the escapes turns it into the characters. -/
structure Spells (piece chars : List Char) : Prop where
  body : ∀ more, shortBody '"' (piece ++ more) =
    (shortBody '"' more).map fun found => (piece ++ found.1, found.2)
  meaning : ∀ more, unescape .char textEscape 0 (piece ++ more) =
    (unescape .char textEscape 0 more).map (chars.map .char ++ ·)

namespace Spells

theorem nil : Spells [] [] :=
  ⟨fun more => by simp, fun more => by simp⟩

/-- Pieces next to each other. -/
theorem append {piece chars piece' chars' : List Char} (h : Spells piece chars)
    (h' : Spells piece' chars') : Spells (piece ++ piece') (chars ++ chars') where
  body more := by
    rw [List.append_assoc, h.body, h'.body, Option.map_map]
    congr 1
    funext found
    simp
  meaning more := by
    rw [List.append_assoc, h.meaning, h'.meaning, Option.map_map]
    congr 1
    funext found
    simp

/-- A plain character is a piece that stands for itself. -/
theorem plain {c : Char} (h : isPlain c = true) : Spells [c] [c] := by
  obtain ⟨quote, backslash, unbroken⟩ := isPlain_iff.1 h
  have newline : c ≠ '\n' := by rintro rfl; simp [breaksLiteral] at unbroken
  constructor
  · intro more
    rw [List.singleton_append, shortBody.eq_def]
    split
    · contradiction
    · rename_i heq
      exact absurd (List.cons.inj heq).1 backslash
    · rename_i heq
      obtain ⟨rfl, rfl⟩ := List.cons.inj heq
      simp [quote, newline]
  · intro more
    simp [unescape, backslash]

/-- Plain characters are pieces that stand for themselves. -/
theorem plains {text : List Char} (h : ∀ c ∈ text, isPlain c = true) : Spells text text := by
  induction text with
  | nil => exact nil
  | cons c rest ih =>
      have first : Spells [c] [c] := plain (h c List.mem_cons_self)
      exact first.append (ih fun d hd => h d (List.mem_cons_of_mem c hd))

/-- A backslash with the characters of its escape is a piece, if the escape is read off the text
behind the backslash and has as many characters as the piece, of which no further one can end the
literal. -/
theorem escaped {first : Char} {others chars : List Char}
    (unquoted : ∀ c ∈ others, isPlain c = true)
    (escape : ∀ more, textEscape (first :: others ++ more) =
      some (chars.map .char, others.length + 1)) :
    Spells ('\\' :: first :: others) chars := by
  constructor
  · intro more
    simp only [List.cons_append, shortBody, (plains unquoted).body, Option.map_map]
    congr 1
  · intro more
    have skip : ∀ (front : List Char) more,
        unescape .char textEscape front.length (front ++ more) =
          unescape .char textEscape 0 more := by
      intro front more
      induction front with
      | nil => rfl
      | cons c front ih => exact ih
    have rest := skip (first :: others) more
    simp only [List.cons_append] at escape rest ⊢
    rw [unescape, if_pos rfl, escape]
    exact congrArg (Option.map (chars.map .char ++ ·)) rest

/-! ### Hexadecimal digits -/

theorem digitValue?_hexDigit : ∀ n < 16, digitValue? (hexDigit n) = some n := by
  decide

theorem isPlain_hexDigit : ∀ n < 16, isPlain (hexDigit n) = true := by
  decide

theorem length_hexDigits (width n : Nat) : (hexDigits width n).length = width := by
  induction width generalizing n with
  | zero => rfl
  | succ width ih => simp [hexDigits, ih]

theorem isPlain_of_mem_hexDigits {width n : Nat} {c : Char} (h : c ∈ hexDigits width n) :
    isPlain c = true := by
  induction width generalizing n with
  | zero => simp [hexDigits] at h
  | succ width ih =>
      rcases List.mem_append.1 h with h | h
      · exact ih h
      · obtain rfl := List.mem_singleton.1 h
        exact isPlain_hexDigit _ (Nat.mod_lt n (by omega))

theorem isDigitOf_of_mem_hexDigits {width n : Nat} {c : Char} (h : c ∈ hexDigits width n) :
    isDigitOf 16 c = true := by
  induction width generalizing n with
  | zero => simp [hexDigits] at h
  | succ width ih =>
      rcases List.mem_append.1 h with h | h
      · exact ih h
      · obtain rfl := List.mem_singleton.1 h
        have small : n % 16 < 16 := Nat.mod_lt n (by omega)
        simp [isDigitOf, digitValue?_hexDigit _ small, small]

/-- So many digits give back a number that so many digits can hold. -/
theorem valueOfDigits_hexDigits {width n : Nat} (h : n < 16 ^ width) :
    valueOfDigits 16 (hexDigits width n) = n := by
  induction width generalizing n with
  | zero =>
      have : n = 0 := by simpa using h
      simp [this, hexDigits, valueOfDigits]
  | succ width ih =>
      have high : n / 16 < 16 ^ width := by
        rw [Nat.pow_succ] at h
        omega
      have low : n % 16 < 16 := Nat.mod_lt n (by omega)
      have front := ih high
      simp only [valueOfDigits] at front
      simp only [valueOfDigits, hexDigits, List.foldl_append, front, List.foldl_cons,
        List.foldl_nil, digitValue?_hexDigit _ low, Option.getD_some]
      omega

theorem hexValue?_hexDigits {width n : Nat} (h : n < 16 ^ width) (more : List Char) :
    hexValue? width (hexDigits width n ++ more) = some n := by
  have front : (hexDigits width n ++ more).take width = hexDigits width n :=
    List.take_left' (length_hexDigits width n)
  have digits : (hexDigits width n).all (isDigitOf 16) = true :=
    List.all_eq_true.2 fun c hc => isDigitOf_of_mem_hexDigits hc
  simp [hexValue?, front, length_hexDigits, digits, valueOfDigits_hexDigits h]

/-! ### Escaped texts -/

/-- A character that breaks literals has four hexadecimal digits and is half of no pair. -/
theorem toNat_lt_of_breaksLiteral {c : Char} (h : breaksLiteral c = true) : c.toNat < 0x202A := by
  simp only [breaksLiteral, Bool.or_eq_true, decide_eq_true_eq, beq_iff_eq] at h
  omega

/-- The escaped form of a character spells the character. -/
theorem escapeChar (c : Char) : Spells (escapeChar c) [c] := by
  unfold Text.escapeChar
  split
  · subst c
    exact escaped (by simp) fun more => rfl
  split
  · subst c
    exact escaped (by simp) fun more => rfl
  split
  · subst c
    exact escaped (by simp) fun more => rfl
  split
  · subst c
    exact escaped (by simp) fun more => rfl
  split
  · subst c
    exact escaped (by simp) fun more => rfl
  split
  · rename_i breaks
    have small := toNat_lt_of_breaksLiteral breaks
    refine escaped (fun d hd => isPlain_of_mem_hexDigits hd) fun more => ?_
    have unshared : sharedEscape? 'u' = none := rfl
    have noOctal : isDigitOf 8 'u' = false := rfl
    simp [textEscape, unshared, noOctal, hexValue?_hexDigits (show c.toNat < 16 ^ 4 by omega),
      CodePoint.ofNat?_toNat, length_hexDigits]
  · rename_i hb hq _ _ _ hl
    exact plain (by simp [isPlain, hb, hq, hl])

/-- **The escaped form of a text spells the text.** -/
theorem escapeChars (text : List Char) : Spells (escapeChars text) text := by
  induction text with
  | nil => exact nil
  | cons c rest ih => exact (escapeChar c).append ih

/-! ### Whole bodies -/

/-- Where a body that spells a text ends. -/
theorem shortBody_eq {body chars : List Char} (h : Spells body chars) (after : List Char) :
    shortBody '"' (body ++ '"' :: after) = some (body, after) := by
  rw [h.body]
  simp [shortBody]

/-- What a body that spells a text stands for. -/
theorem bodyCodes_eq {body chars : List Char} (h : Spells body chars) :
    bodyCodes false body = some (chars.map .char) := by
  have whole := h.meaning []
  simpa [bodyCodes, unescape] using whole

end Spells

/-- The text that a body stands for, if it holds no half of a surrogate pair. -/
def bodyText (raw : Bool) (body : List Char) : Option (List Char) :=
  (bodyCodes raw body).bind (List.mapM CodePoint.char?)

theorem Spells.bodyText_eq {body chars : List Char} (h : Spells body chars) :
    bodyText false body = some chars := by
  rw [bodyText, h.bodyCodes_eq, Option.bind_some, CodePoint.mapM_char?_chars]

end EnumCodec.Text
