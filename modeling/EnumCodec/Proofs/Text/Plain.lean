import EnumCodec.Text.Camel
import EnumCodec.Text.Escape
import EnumCodec.Text.Identifier

/-!
# EnumCodec.Proofs.Text.Plain

**Plain characters: those that a double-quoted literal holds as they are.** A character is plain unless
it is a quote, a backslash, or one that breaks a literal. Identifiers consist of plain characters, and
the lowercase form of a plain character is plain again, so neither needs an escape.
-/

namespace EnumCodec.Text

/-- Does a double-quoted literal hold the character as it is? -/
def isPlain (c : Char) : Bool :=
  c != '"' && c != '\\' && !breaksLiteral c

/-- A text of plain characters. -/
def PlainText (text : String) : Prop :=
  ∀ c ∈ text.toList, isPlain c = true

instance (text : String) : Decidable (PlainText text) :=
  decidable_of_iff (text.toList.all isPlain = true) List.all_eq_true

theorem isPlain_iff {c : Char} :
    isPlain c = true ↔ c ≠ '"' ∧ c ≠ '\\' ∧ breaksLiteral c = false := by
  simp [isPlain, and_assoc]

/-- The code points of plain characters. -/
theorem isPlain_iff_toNat {c : Char} :
    isPlain c = true ↔ 32 ≤ c.toNat ∧ c.toNat ≠ 34 ∧ c.toNat ≠ 92 ∧ c.toNat ≠ 127 ∧
      c.toNat ≠ 0x85 ∧ c.toNat ≠ 0x2028 ∧ c.toNat ≠ 0x2029 := by
  have quote : c = '"' ↔ c.toNat = 34 := by
    rw [← Char.toNat_inj]
    rfl
  have backslash : c = '\\' ↔ c.toNat = 92 := by
    rw [← Char.toNat_inj]
    rfl
  rw [isPlain_iff, ne_eq, quote, ne_eq, backslash]
  simp only [breaksLiteral, Bool.or_eq_false_iff, decide_eq_false_iff_not, beq_eq_false_iff_ne]
  omega

/-! ### Escapes -/

/-- A plain character has no other form. -/
theorem escapeChar_of_isPlain {c : Char} (h : isPlain c = true) : escapeChar c = [c] := by
  obtain ⟨hq, hb, hl⟩ := isPlain_iff.1 h
  have newline : c ≠ '\n' := by rintro rfl; simp [breaksLiteral] at hl
  have carriage : c ≠ '\r' := by rintro rfl; simp [breaksLiteral] at hl
  have tab : c ≠ '\t' := by rintro rfl; simp [breaksLiteral] at hl
  simp [escapeChar, hq, hb, hl, newline, carriage, tab]

/-- Any other character is written as a backslash and more. -/
theorem escapeChar_of_not_isPlain {c : Char} (h : isPlain c = false) :
    ∃ rest, escapeChar c = '\\' :: rest := by
  unfold escapeChar
  repeat' split
  · exact ⟨_, rfl⟩
  · exact ⟨_, rfl⟩
  · exact ⟨_, rfl⟩
  · exact ⟨_, rfl⟩
  · exact ⟨_, rfl⟩
  · exact ⟨_, rfl⟩
  · rename_i hb hq _ _ _ hl
    simp [isPlain, hb, hq, hl] at h

/-- A plain text is its own escaped form. -/
theorem escapeChars_of_plain {text : List Char} (h : ∀ c ∈ text, isPlain c = true) :
    escapeChars text = text := by
  induction text with
  | nil => rfl
  | cons c rest ih =>
      rw [escapeChars_cons, escapeChar_of_isPlain (h c List.mem_cons_self),
        ih fun d hd => h d (List.mem_cons_of_mem c hd)]
      rfl

theorem PlainText.escape_eq {text : String} (h : PlainText text) : escape text = text := by
  rw [escape, escapeChars_of_plain h, String.ofList_toList]

/-! ### Lowercase forms -/

/-- A run whose characters go to small ASCII letters, or to characters beyond ASCII among which there
are no line separators and no surrogates. -/
def shiftsToPlain : Nat × Nat × Nat × Int → Bool
  | (first, last, _, shift) =>
    let low := (first + shift).toNat
    let high := (last + shift).toNat
    (97 ≤ low && high ≤ 122) || (0x86 ≤ low && high < 0x2028) ||
      (0x202A ≤ low && high < 0xD800) || (0xE000 ≤ low && high < 0x110000)

theorem lowercaseRuns_shiftToPlain : lowercaseRuns.all shiftsToPlain = true := by
  decide +kernel

theorem toNat_ofNat_of_isValidChar {code : Nat} (valid : code.isValidChar) :
    (Char.ofNat code).toNat = code := by
  rw [Char.ofNat, dif_pos valid]
  rfl

theorem isPlain_ofNat {code : Nat}
    (h : (97 ≤ code ∧ code ≤ 122) ∨ (0x86 ≤ code ∧ code < 0x2028) ∨
      (0x202A ≤ code ∧ code < 0xD800) ∨ (0xE000 ≤ code ∧ code < 0x110000)) :
    isPlain (Char.ofNat code) = true := by
  have valid : code.isValidChar := by
    unfold Nat.isValidChar
    omega
  rw [isPlain_iff_toNat, toNat_ofNat_of_isValidChar valid]
  omega

/-- What a run gives is plain. -/
theorem isPlain_of_lowercaseInRun {run : Nat × Nat × Nat × Int} (hrun : run ∈ lowercaseRuns)
    {code : Nat} {c : Char} (h : lowercaseInRun code run = some c) : isPlain c = true := by
  have plain := List.all_eq_true.1 lowercaseRuns_shiftToPlain run hrun
  obtain ⟨first, last, step, shift⟩ := run
  simp only [lowercaseInRun] at h
  split at h
  · rename_i inside
    simp only [Bool.and_eq_true, decide_eq_true_eq] at inside
    simp only [shiftsToPlain, Bool.or_eq_true, Bool.and_eq_true, decide_eq_true_eq] at plain
    obtain rfl := Option.some.inj h
    apply isPlain_ofNat
    omega
  · cases h

/-- The lowercase form of a plain character is plain. -/
theorem isPlain_lowercaseChar {c : Char} (h : isPlain c = true) :
    isPlain (lowercaseChar c) = true := by
  unfold lowercaseChar
  split
  · split
    · rename_i capital
      apply isPlain_ofNat
      rw [Bool.and_eq_true, decide_eq_true_eq, decide_eq_true_eq, Char.le_def, Char.le_def] at capital
      have low : 65 ≤ c.toNat := by simpa using UInt32.le_iff_toNat_le.1 capital.1
      have high : c.toNat ≤ 90 := by simpa using UInt32.le_iff_toNat_le.1 capital.2
      omega
    · exact h
  · cases found : lowercaseRuns.findSome? (lowercaseInRun c.toNat) with
    | none => exact h
    | some d =>
        obtain ⟨run, hrun, hd⟩ := List.exists_of_findSome?_eq_some found
        exact isPlain_of_lowercaseInRun hrun hd

end EnumCodec.Text
