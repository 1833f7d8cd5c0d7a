import EnumCodec.Proofs.Text.LowercaseSpelling

/-!
# EnumCodec.Proofs.Text.TwoLanguages

**One escaped form for the literals of two languages.** A double-quoted literal of C# is read here by
the rules of that language: it ends at the first quote that no backslash stands before, its escapes
are fewer than those of Python, a `\x` takes as many digits as it finds, and the literal denotes units
of UTF-16 and not characters. The escaped form of a text holds only escapes that both languages read
alike, so that it denotes the text in both, and so does its lowercase form, which is an escaped form
again.
-/

namespace EnumCodec.Text

open Source

/-! ### Literals of Python -/

/-- The text of a double-quoted literal behind its opening quote, and what follows the closing
quote. -/
def pythonLiteral? (source : List Char) : Option (List Char × List Char) := do
  let (body, after) ← shortBody '"' source
  return (← bodyText false body, after)

/-- A body that spells a text denotes it and ends at the quote behind it. -/
theorem Spells.pythonLiteral?_eq {body text : List Char} (h : Spells body text)
    (after : List Char) : pythonLiteral? (body ++ '"' :: after) = some (text, after) := by
  simp [pythonLiteral?, h.shortBody_eq, h.bodyText_eq]

/-! ### Literals of C# -/

namespace CSharp

/-- The units of UTF-16 for a code point: one below 65536, and two halves of a pair above. -/
def unitsOfCode (code : Nat) : List UInt16 :=
  if code < 0x10000 then [UInt16.ofNat code]
  else
    [UInt16.ofNat (0xD800 + (code - 0x10000) / 0x400),
      UInt16.ofNat (0xDC00 + (code - 0x10000) % 0x400)]

/-- The units of UTF-16 for a text. -/
def units (text : List Char) : List UInt16 :=
  text.flatMap fun c => unitsOfCode c.toNat

theorem toNat_ofNat {n : Nat} (h : n < 0x10000) : (UInt16.ofNat n).toNat = n := by
  rw [UInt16.toNat_ofNat']
  exact Nat.mod_eq_of_lt h

/-- The units of a character with more behind them show the character and what is behind it. -/
theorem unitsOfCode_append_inj {c d : Char} {more more' : List UInt16}
    (h : unitsOfCode c.toNat ++ more = unitsOfCode d.toNat ++ more') : c = d ∧ more = more' := by
  have valid (e : Char) : e.toNat < 0xD800 ∨ 0xDFFF < e.toNat ∧ e.toNat < 0x110000 := e.valid
  have hc := valid c
  have hd := valid d
  have low (e : Char) (small : e.toNat < 0x10000) := toNat_ofNat small
  have front (e : Char) (large : ¬ e.toNat < 0x10000) :=
    toNat_ofNat (show 0xD800 + (e.toNat - 0x10000) / 0x400 < 0x10000 by have := valid e; omega)
  have back (e : Char) := toNat_ofNat (show 0xDC00 + (e.toNat - 0x10000) % 0x400 < 0x10000 by omega)
  rw [← Char.toNat_inj]
  unfold unitsOfCode at h
  split at h <;> split at h <;> rename_i sizeC sizeD <;>
    simp only [List.cons_append, List.nil_append, List.cons.injEq] at h
  · exact ⟨by rw [← low c sizeC, h.1, low d sizeD], h.2⟩
  -- The first half of a pair is no character of its own.
  · have same := congrArg UInt16.toNat h.1
    rw [low c sizeC, front d sizeD] at same
    omega
  · have same := congrArg UInt16.toNat h.1
    rw [front c sizeC, low d sizeD] at same
    omega
  · obtain ⟨first, second, rest⟩ := h
    have quotients := congrArg UInt16.toNat first
    have remainders := congrArg UInt16.toNat second
    rw [front c sizeC, front d sizeD] at quotients
    rw [back c, back d] at remainders
    exact ⟨by omega, rest⟩

/-- Texts with the same units are the same. -/
theorem units_injective : Function.Injective units := by
  intro text
  induction text with
  | nil =>
      intro text' h
      cases text' with
      | nil => rfl
      | cons d rest' =>
          simp only [units, List.flatMap_nil, List.flatMap_cons, unitsOfCode] at h
          split at h <;> simp at h
  | cons c rest ih =>
      intro text' h
      cases text' with
      | nil =>
          simp only [units, List.flatMap_nil, List.flatMap_cons, unitsOfCode] at h
          split at h <;> simp at h
      | cons d rest' =>
          obtain ⟨rfl, others⟩ := unitsOfCode_append_inj h
          rw [ih others]

/-- The characters that end a line, none of which a literal holds. -/
def endsLine (c : Char) : Bool :=
  c == '\n' || c == '\r' || c == '\u0085' || c == '\u2028' || c == '\u2029'

/-- The unit of an escape with a single letter or sign. -/
def simpleEscape? : Char → Option UInt16
  | '\'' => some 0x27
  | '"' => some 0x22
  | '\\' => some 0x5C
  | '0' => some 0
  | 'a' => some 7
  | 'b' => some 8
  | 'f' => some 12
  | 'n' => some 10
  | 'r' => some 13
  | 't' => some 9
  | 'v' => some 11
  | _ => none

/-- The digits behind `\x`, of which there are at most four. -/
def shortHexDigits (text : List Char) : List Char :=
  (text.take 4).takeWhile (isDigitOf 16)

/-- The escape that follows a backslash: the units that it stands for, and how many characters belong
to it. There is no escape that stands for itself. -/
def escape? : List Char → Option (List UInt16 × Nat)
  | [] => none
  | c :: rest =>
    match simpleEscape? c with
    | some unit => some ([unit], 1)
    | none =>
      if c = 'x' then
        let digits := shortHexDigits rest
        if digits = [] then none
        else some ([UInt16.ofNat (valueOfDigits 16 digits)], digits.length + 1)
      else if c = 'u' then
        (hexValue? 4 rest).map fun code => ([UInt16.ofNat code], 5)
      else if c = 'U' then do
        let code ← hexValue? 8 rest
        if code < 0x110000 then some (unitsOfCode code, 9) else none
      else none

/-- The units of a double-quoted literal behind its opening quote, and what follows the closing quote;
the first `skip` characters belong to an escape that is done. -/
def literalAfter? : (skip : Nat) → List Char → Option (List UInt16 × List Char)
  | _, [] => none
  | skip + 1, _ :: rest => literalAfter? skip rest
  | 0, c :: rest =>
    if c = '"' then some ([], rest)
    else if c = '\\' then
      match escape? rest with
      | some (found, used) =>
        (literalAfter? used rest).map fun (others, after) => (found ++ others, after)
      | none => none
    else if endsLine c then none
    else (literalAfter? 0 rest).map fun (others, after) => (unitsOfCode c.toNat ++ others, after)

/-- The units of a double-quoted literal behind its opening quote, and what follows the closing
quote. -/
def literal? (source : List Char) : Option (List UInt16 × List Char) :=
  literalAfter? 0 source

/-! ### Pieces of bodies -/

/-- Reading goes over a piece of a body and finds the units of some characters. -/
def Denotes (piece chars : List Char) : Prop :=
  ∀ more, literal? (piece ++ more) =
    (literal? more).map fun found => (units chars ++ found.1, found.2)

namespace Denotes

theorem nil : Denotes [] [] := fun more => by
  simp [units]

/-- Pieces next to each other. -/
theorem append {piece chars piece' chars' : List Char} (h : Denotes piece chars)
    (h' : Denotes piece' chars') : Denotes (piece ++ piece') (chars ++ chars') := by
  intro more
  rw [List.append_assoc, h, h', Option.map_map]
  congr 1
  funext found
  simp [units]

/-- A plain character is a piece that stands for itself. -/
theorem plain {c : Char} (h : isPlain c = true) : Denotes [c] [c] := by
  intro more
  obtain ⟨quote, backslash, unbroken⟩ := isPlain_iff.1 h
  have stays : endsLine c = false := Bool.eq_false_iff.2 fun ends => by
    simp only [endsLine, Bool.or_eq_true, beq_iff_eq] at ends
    rcases ends with (((rfl | rfl) | rfl) | rfl) | rfl <;> simp [breaksLiteral] at unbroken
  simp [literal?, literalAfter?, quote, backslash, stays, units]

/-- A backslash with the characters of its escape is a piece, if the escape is read off the text
behind the backslash and has as many characters as the piece. -/
theorem escaped {others chars : List Char}
    (escape : ∀ more, escape? (others ++ more) = some (units chars, others.length)) :
    Denotes ('\\' :: others) chars := by
  have skip : ∀ (front : List Char) more,
      literalAfter? front.length (front ++ more) = literal? more := by
    intro front more
    induction front with
    | nil => rfl
    | cons c front ih => exact ih
  intro more
  rw [literal?, List.cons_append, literalAfter?, if_neg (by decide), if_pos rfl, escape]
  exact congrArg (Option.map _) (skip others more)

/-- The escaped form of a character denotes the character. -/
theorem escapeChar (c : Char) : Denotes (escapeChar c) [c] := by
  unfold Text.escapeChar
  split
  · subst c
    exact escaped fun more => rfl
  split
  · subst c
    exact escaped fun more => rfl
  split
  · subst c
    exact escaped fun more => rfl
  split
  · subst c
    exact escaped fun more => rfl
  split
  · subst c
    exact escaped fun more => rfl
  split
  · rename_i breaks
    have small := Spells.toNat_lt_of_breaksLiteral breaks
    refine escaped fun more => ?_
    have letter : simpleEscape? 'u' = none := rfl
    have one : units [c] = [UInt16.ofNat c.toNat] := by
      simp [units, unitsOfCode, show c.toNat < 0x10000 by omega]
    rw [List.cons_append, escape?, letter, one]
    simp [Spells.hexValue?_hexDigits (show c.toNat < 16 ^ 4 by omega), Spells.length_hexDigits]
  · rename_i hb hq _ _ _ hl
    exact plain (by simp [isPlain, hb, hq, hl])

/-- **The escaped form of a text denotes the text.** -/
theorem escapeChars (text : List Char) : Denotes (escapeChars text) text := by
  induction text with
  | nil => exact nil
  | cons c rest ih => exact (escapeChar c).append ih

/-- A body that denotes a text ends at the quote behind it. -/
theorem literal?_eq {body text : List Char} (h : Denotes body text) (after : List Char) :
    literal? (body ++ '"' :: after) = some (units text, after) := by
  rw [h]
  simp [literal?, literalAfter?]

end Denotes

end CSharp

/-! ### Both languages -/

/-- The character is no control character and separates no lines. -/
def StaysOnLine (c : Char) : Prop :=
  0x20 ≤ c.toNat ∧ c.toNat ∉ [0x7F, 0x85, 0x2028, 0x2029]

theorem staysOnLine_iff {c : Char} : StaysOnLine c ↔ breaksLiteral c = false := by
  simp only [StaysOnLine, breaksLiteral, List.mem_cons, List.not_mem_nil, or_false, ne_eq,
    Bool.or_eq_false_iff, decide_eq_false_iff_not, beq_eq_false_iff_ne]
  omega

/-- The source behind an opening quote is a literal on one line that ends at the quote behind `body`,
and in both languages it denotes `text` and no other text. -/
structure DenotesInBoth (body text : List Char) : Prop where
  python : ∀ after, pythonLiteral? (body ++ '"' :: after) = some (text, after)
  csharp : ∀ after other,
    CSharp.literal? (body ++ '"' :: after) = some (CSharp.units other, after) ↔ other = text
  line : ∀ c ∈ body, StaysOnLine c

theorem denotesInBoth_escapeChars (text : List Char) : DenotesInBoth (escapeChars text) text where
  python := (Spells.escapeChars text).pythonLiteral?_eq
  csharp after other := by
    rw [(CSharp.Denotes.escapeChars text).literal?_eq, Option.some.injEq, Prod.mk.injEq,
      CSharp.units_injective.eq_iff]
    exact ⟨fun h => h.1.symm, fun h => ⟨h.symm, rfl⟩⟩
  line _ hc := staysOnLine_iff.2 (not_breaksLiteral_of_mem_escapeChars hc)

/-- **Escaping is exact in both languages.** The escaped form of a text is a literal on one line that
denotes the text, and its lowercase form is a literal on one line that denotes some text. -/
theorem escape_exact (text : String) :
    DenotesInBoth (escape text).toList text.toList ∧
      ∃ lowered, DenotesInBoth (lowercase (escape text)).toList lowered := by
  rw [toList_escape]
  refine ⟨denotesInBoth_escapeChars _, lowercaseEscapedAfter [] text.toList, ?_⟩
  rw [lowercase, String.toList_ofList, toList_escape, lowercaseChars, lowercaseAfter_escapeChars]
  exact denotesInBoth_escapeChars _

end EnumCodec.Text
