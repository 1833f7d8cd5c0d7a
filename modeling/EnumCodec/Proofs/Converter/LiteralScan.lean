import EnumCodec.Converter.Validation
import EnumCodec.Proofs.Text.DottedName
import EnumCodec.Proofs.Text.Spelling

/-!
# EnumCodec.Proofs.Converter.LiteralScan

**The literals that the check of a text in C# finds.** The check looks for literals from left to right
in the whole text, so a quote in the wrong place would turn everything behind it inside out. A piece of
a text is therefore described by what it does in front of whatever follows: which literals it shows, and
how many more braces open than close outside of them. Pieces that stand next to each other show their
literals one after the other, and the numbers of their braces add up.
-/

namespace EnumCodec

open Text (IsDottedName IsOptionalName PlainText isPlain)

namespace Validation

/-! ### Bodies of literals -/

/-- **What may stand between the quotes of a literal**: characters other than a quote, a backslash or a
line feed, and pairs of a backslash and any character but a line feed. -/
inductive IsBody : List Char → Prop
  | nil : IsBody []
  | char {c : Char} {rest : List Char} (quote : c ≠ '"') (backslash : c ≠ '\\') (newline : c ≠ '\n')
    (body : IsBody rest) : IsBody (c :: rest)
  | pair {c : Char} {rest : List Char} (newline : c ≠ '\n') (body : IsBody rest) :
    IsBody ('\\' :: c :: rest)

variable {body rest text code code' : List Char} {literals literals' others : List String}

theorem IsBody.append (one : IsBody body) (two : IsBody rest) : IsBody (body ++ rest) := by
  induction one with
  | nil => exact two
  | char quote backslash newline _ ih => exact .char quote backslash newline ih
  | pair newline _ ih => exact .pair newline ih

theorem isBody_of_plain (plain : ∀ c ∈ text, isPlain c = true) : IsBody text := by
  induction text with
  | nil => exact .nil
  | cons c rest ih =>
    obtain ⟨here, others⟩ := List.forall_mem_cons.1 plain
    obtain ⟨quote, backslash, unbroken⟩ := Text.isPlain_iff.1 here
    refine .char quote backslash ?_ (ih others)
    rintro rfl
    exact absurd unbroken (by decide)

/-- The escaped form of a character stays between the quotes. -/
theorem isBody_escapeChar (c : Char) : IsBody (Text.escapeChar c) := by
  unfold Text.escapeChar
  split
  · exact .pair (by decide) .nil
  split
  · exact .pair (by decide) .nil
  split
  · exact .pair (by decide) .nil
  split
  · exact .pair (by decide) .nil
  split
  · exact .pair (by decide) .nil
  split
  · exact .pair (by decide) (isBody_of_plain fun _ => Text.Spells.isPlain_of_mem_hexDigits)
  · next backslash quote newline _ _ _ => exact .char quote backslash newline .nil

/-- **The escaped form of a text stays between the quotes**, whatever its characters are. -/
theorem isBody_escapeChars (text : List Char) : IsBody (Text.escapeChars text) := by
  induction text with
  | nil => exact .nil
  | cons c rest ih => exact (isBody_escapeChar c).append ih

/-- What follows a literal is what stands behind its body and a quote. -/
theorem afterLiteral?_eq_some_iff :
    afterLiteral? text = some rest ↔ ∃ body, IsBody body ∧ text = body ++ '"' :: rest := by
  constructor
  · intro found
    fun_induction afterLiteral? text with
    | case1 => cases found
    | case2 others =>
      cases found
      exact ⟨[], .nil, rfl⟩
    | case3 => cases found
    | case4 => cases found
    | case5 c others newline ih =>
      obtain ⟨body, isBody, rfl⟩ := ih found
      exact ⟨'\\' :: c :: body, .pair newline isBody, rfl⟩
    | case6 => cases found
    | case7 c others quote newline _ pair last ih =>
      -- A backslash has been met in the cases before, alone or with the character behind it.
      have backslash : c ≠ '\\' := by
        rintro rfl
        cases others with
        | nil => exact last rfl rfl
        | cons next others => exact pair next others rfl rfl
      obtain ⟨body, isBody, rfl⟩ := ih found
      exact ⟨c :: body, .char quote backslash newline isBody, rfl⟩
  · rintro ⟨body, isBody, rfl⟩
    induction isBody with
    | nil => rfl
    | char quote backslash newline _ ih => simpa [afterLiteral?, quote, backslash, newline] using ih
    | pair newline _ ih => simpa [afterLiteral?, newline] using ih

theorem IsBody.afterLiteral? (isBody : IsBody body) (rest : List Char) :
    afterLiteral? (body ++ '"' :: rest) = some rest :=
  afterLiteral?_eq_some_iff.2 ⟨body, isBody, rfl⟩

instance (text : List Char) : Decidable (IsBody text) :=
  decidable_of_iff (Validation.afterLiteral? (text ++ ['"']) = some []) <| by
    rw [afterLiteral?_eq_some_iff]
    constructor
    · rintro ⟨body, isBody, same⟩
      rwa [List.append_cancel_right same]
    · exact fun isBody => ⟨text, isBody, rfl⟩

/-! ### The literals of a text -/

/-- No literal begins with the quote before the text. -/
def HasNoLiteral (rest : List Char) : Prop :=
  ∀ body after, IsBody body → rest ≠ body ++ '"' :: after

/-- **The literals of a text**: those that begin leftmost and do not overlap, in order, and the text that
is left when nothing stands between their quotes. A character stays if it is no quote, or if no literal
begins with it. -/
inductive Splits : List Char → List String → List Char → Prop
  | nil : Splits [] [] []
  | literal {body : String} {rest code : List Char} {literals : List String}
    (isBody : IsBody body.toList) (behind : Splits rest literals code) :
    Splits ('"' :: (body.toList ++ '"' :: rest)) (body :: literals) ('"' :: '"' :: code)
  | other {c : Char} {rest code : List Char} {literals : List String}
    (none : c = '"' → HasNoLiteral rest) (behind : Splits rest literals code) :
    Splits (c :: rest) literals (c :: code)

theorem emptyLiterals_literal (isBody : IsBody body) (rest : List Char) :
    emptyLiterals ('"' :: (body ++ '"' :: rest)) = '"' :: '"' :: emptyLiterals rest := by
  rw [emptyLiterals, if_pos rfl]
  split
  · next others found =>
    rw [isBody.afterLiteral? rest] at found
    cases found
    rfl
  · next missing =>
    rw [isBody.afterLiteral? rest] at missing
    cases missing

theorem emptyLiterals_other {c : Char} (none : c = '"' → HasNoLiteral rest) :
    emptyLiterals (c :: rest) = c :: emptyLiterals rest := by
  rw [emptyLiterals]
  split
  · next quote =>
    split
    · next others found =>
      obtain ⟨body, isBody, same⟩ := afterLiteral?_eq_some_iff.1 found
      exact absurd same (none quote body others isBody)
    · rfl
  · rfl

/-- What is left of a text is what the check counts braces in. -/
theorem Splits.eq_emptyLiterals (splits : Splits text literals code) : code = emptyLiterals text := by
  induction splits with
  | nil => rw [emptyLiterals]
  | literal isBody _ ih => rw [emptyLiterals_literal isBody, ih]
  | other none _ ih => rw [emptyLiterals_other none, ih]

/-- A text has its literals only once. -/
theorem Splits.unique (splits : Splits text literals code) (again : Splits text literals' code') :
    literals = literals' := by
  -- Whether a literal begins with the first character does not depend on the reading, and where it ends
  -- is known from the text behind it.
  induction splits generalizing literals' code' with
  | nil =>
    cases again
    rfl
  | @literal body rest _ _ isBody _ ih =>
    generalize whole : '"' :: (body.toList ++ '"' :: rest) = text at again
    cases again with
    | nil => cases whole
    | @literal body' rest' _ _ isBody' behind' =>
      have found := isBody.afterLiteral? rest
      rw [(List.cons.inj whole).2, isBody'.afterLiteral? rest'] at found
      cases found
      have same := List.append_cancel_right (List.cons.inj whole).2
      rw [String.toList_inj.1 same, ih behind']
    | other none' _ =>
      obtain ⟨rfl, rfl⟩ := List.cons.inj whole
      exact absurd rfl (none' rfl _ _ isBody)
  | @other c rest _ _ none _ ih =>
    generalize whole : c :: rest = text at again
    cases again with
    | nil => cases whole
    | literal isBody' _ =>
      obtain ⟨rfl, rfl⟩ := List.cons.inj whole
      exact absurd rfl (none rfl _ _ isBody')
    | other _ behind' =>
      obtain ⟨rfl, rfl⟩ := List.cons.inj whole
      exact ih behind'

/-! ### Pieces of a text -/

/-- How many more braces open in a text than close. -/
def depth (text : List Char) : Int :=
  text.count '\x7b' - text.count '\x7d'

@[simp] theorem depth_append (text rest : List Char) : depth (text ++ rest) = depth text + depth rest := by
  simp only [depth, List.count_append]
  omega

/-- **What a piece of a text does** in front of anything: it shows some literals, and outside of them so
many more braces open than close. -/
def Shows (piece : String) (literals : List String) (opened : Int) : Prop :=
  ∃ code, depth code = opened ∧ ∀ rest others left, Splits rest others left →
    Splits (piece.toList ++ rest) (literals ++ others) (code ++ left)

/-- A text without quotes and braces. -/
def IsFree (text : String) : Prop :=
  ∀ c ∈ text.toList, c ≠ '"' ∧ c ≠ '\x7b' ∧ c ≠ '\x7d'

instance (text : String) : Decidable (IsFree text) :=
  List.decidableBAll (fun c => c ≠ '"' ∧ c ≠ '\x7b' ∧ c ≠ '\x7d') text.toList

theorem IsFree.append {text rest : String} (one : IsFree text) (two : IsFree rest) :
    IsFree (text ++ rest) := by
  intro c mem
  rw [String.toList_append, List.mem_append] at mem
  exact mem.elim (one c) (two c)

/-- Names need neither quotes nor braces. -/
theorem isFree_of_isDottedName {name : String} (dotted : IsDottedName name) : IsFree name := by
  have absent {c : Char} (other : c ≠ '.') (outside : Text.isIdentifierPart c = false) :
      ∀ d ∈ name.toList, d ≠ c := by
    rintro d mem rfl
    exact Text.not_mem_of_isDottedName dotted other outside mem
  exact fun c mem => ⟨absent (by decide) (by decide +kernel) c mem,
    absent (by decide) (by decide +kernel) c mem, absent (by decide) (by decide +kernel) c mem⟩

theorem isFree_of_isOptionalName {name : String} (optional : IsOptionalName name) : IsFree name := by
  obtain rfl | dotted := optional
  · decide
  · exact isFree_of_isDottedName dotted

namespace Shows

variable {piece next start stop : String} {opened more : Int}

theorem nil : Shows "" [] 0 :=
  ⟨[], rfl, fun _ _ _ => id⟩

/-- Pieces that stand next to each other. -/
theorem append (one : Shows piece literals opened) (two : Shows next others more) :
    Shows (piece ++ next) (literals ++ others) (opened + more) := by
  obtain ⟨code, rfl, first⟩ := one
  obtain ⟨code', rfl, second⟩ := two
  refine ⟨code ++ code', depth_append code code', fun rest behind left splits => ?_⟩
  rw [String.toList_append, List.append_assoc, List.append_assoc, List.append_assoc]
  exact first _ _ _ (second _ _ _ splits)

/-- A piece without quotes stays as it is. -/
theorem of_not_mem (quote : '"' ∉ piece.toList) : Shows piece [] (depth piece.toList) := by
  refine ⟨piece.toList, rfl, fun rest others left splits => ?_⟩
  generalize piece.toList = chars at quote
  induction chars with
  | nil => exact splits
  | cons c chars ih =>
    rw [List.mem_cons, not_or] at quote
    exact .other (fun same => absurd same.symm quote.1) (ih quote.2)

/-- A fixed piece without quotes. -/
theorem fixed (opened : Int)
    (ok : (!piece.toList.contains '"' && depth piece.toList == opened) = true) :
    Shows piece [] opened := by
  simp only [Bool.and_eq_true, Bool.not_eq_true', List.contains_eq_mem, decide_eq_false_iff_not,
    beq_iff_eq] at ok
  exact ok.2 ▸ of_not_mem ok.1

theorem free (isFree : IsFree piece) : Shows piece [] 0 := by
  have absent (c : Char) (avoids : ∀ d ∈ piece.toList, d ≠ c) : piece.toList.count c = 0 :=
    List.count_eq_zero.2 fun mem => avoids c mem rfl
  have level : depth piece.toList = 0 := by
    rw [depth, absent _ fun d mem => (isFree d mem).2.1, absent _ fun d mem => (isFree d mem).2.2]
    rfl
  exact level ▸ of_not_mem fun mem => (isFree _ mem).1 rfl

/-- A body between its quotes. -/
theorem quoted {body : String} (isBody : IsBody body.toList) : Shows ("\"" ++ body ++ "\"") [body] 0 := by
  refine ⟨['"', '"'], rfl, fun rest others left splits => ?_⟩
  rw [String.toList_append, String.toList_append, List.append_assoc, List.append_assoc]
  exact .literal isBody splits

/-- A body behind a fixed piece that ends with the opening quote, and before one that begins with the
closing quote. -/
theorem slot (front back : String) {body : String} (isBody : IsBody body.toList)
    (before : front ++ "\"" = start) (behind : "\"" ++ back = stop) (ok : IsFree front ∧ IsFree back) :
    Shows (start ++ body ++ stop) [body] 0 := by
  have whole := ((free ok.1).append (quoted isBody)).append (free ok.2)
  simpa [← before, ← behind, String.append_assoc] using whole

/-- What a text shows are its literals, and its braces are those that the check counts. -/
theorem splits (shows : Shows piece literals opened) :
    Splits piece.toList literals (emptyLiterals piece.toList) ∧
      depth (emptyLiterals piece.toList) = opened := by
  obtain ⟨code, level, whole⟩ := shows
  have splits := whole [] [] [] .nil
  simp only [List.append_nil] at splits
  obtain rfl := splits.eq_emptyLiterals
  exact ⟨splits, level⟩

/-- The literals of a text are those that it shows and no others. -/
theorem splits_iff (shows : Shows piece literals opened) :
    Splits piece.toList others code ↔ others = literals ∧ code = emptyLiterals piece.toList := by
  constructor
  · exact fun splits => ⟨splits.unique shows.splits.1, splits.eq_emptyLiterals⟩
  · rintro ⟨rfl, rfl⟩
    exact shows.splits.1

/-- Where all braces are closed, they are equal in number. -/
theorem balanced (shows : Shows piece literals 0) :
    (emptyLiterals piece.toList).count '\x7b' = (emptyLiterals piece.toList).count '\x7d' := by
  have level := shows.splits.2
  rw [depth] at level
  omega

end Shows

/-! ### Texts in texts -/

theorem occursIn_iff {part text : List Char} : occursIn part text = true ↔ part <:+: text := by
  induction text with
  | nil => simp [occursIn]
  | cons c rest ih => rw [occursIn, Bool.or_eq_true, List.isPrefixOf_iff_prefix, ih, List.infix_cons_iff]

end Validation

end EnumCodec
