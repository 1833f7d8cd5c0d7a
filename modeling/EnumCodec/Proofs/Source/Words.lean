import EnumCodec.Proofs.Source.Scanning
import Mathlib.Data.List.TakeDrop

/-!
# EnumCodec.Proofs.Source.Words

**Names and literals within a line.** A name is read up to the first character that cannot go on with
it, a dotted name piece by piece, and a literal up to its closing quote, whatever stands behind them.
The name of a token is the compatibility form of what is written.
-/

namespace EnumCodec.Source

open Text (isPlain Spells isIdentifier isIdentifierPart isIdentifierStart isAsciiIdentifierStart
  dotPieces splitDots)

variable {nest : List Symbol} {blocks : List Columns} {rest : List Char}

/-! ### Characters of names -/

theorem isNameChar_of_isIdentifierPart {c : Char} (h : isIdentifierPart c = true) :
    isNameChar c = true := by
  simp only [isIdentifierPart, isAsciiIdentifierStart, isNameChar, Bool.or_eq_true,
    Bool.and_eq_true, decide_eq_true_eq, beq_iff_eq] at h ⊢
  tauto

theorem isDecimal_of_isIdentifierStart {c : Char} (h : isIdentifierStart c = true) :
    isDecimal c = false := by
  cases digit : isDecimal c with
  | false => rfl
  | true =>
      simp only [isDecimal, Bool.and_eq_true, decide_eq_true_eq, Char.le_def,
        UInt32.le_iff_toNat_le] at digit
      change 48 ≤ c.toNat ∧ c.toNat ≤ 57 at digit
      have beyond : ¬ 128 ≤ c.toNat := by omega
      simp only [isIdentifierStart, isAsciiIdentifierStart, beyond, decide_false, Bool.false_and,
        Bool.or_false, Bool.or_eq_true, Bool.and_eq_true, decide_eq_true_eq, beq_iff_eq,
        Char.le_def, UInt32.le_iff_toNat_le] at h
      rcases h with (small | capital) | rfl
      · change 97 ≤ c.toNat ∧ c.toNat ≤ 122 at small
        omega
      · change 65 ≤ c.toNat ∧ c.toNat ≤ 90 at capital
        omega
      · exact absurd digit (by decide)

/-- A character that can neither go on with a name nor make a literal of it. -/
def endsName (c : Char) : Bool :=
  !isNameChar c && c != '\'' && c != '"'

/-- A word that begins as a name is read up to the first character that ends it. -/
theorem readStep_word {state : ReadState} (within : state.atLineStart = false) {c : Char}
    {word : List Char} (start : isNameChar c = true) (letter : isDecimal c = false)
    (parts : ∀ d ∈ word, isNameChar d = true) (ends : ∀ d ∈ rest.head?, endsName d = true) :
    readStep state (c :: word ++ rest) =
      (wordToken (c :: word)).map fun kind => ([⟨kind, state.line⟩], state, rest) := by
  have other : ∀ d, isNameChar d = false → c ≠ d := fun d hd hc => by
    rw [hc, hd] at start
    cases start
  have unblank : isLineBlank c = false := by
    simp [isLineBlank, other ' ' rfl, other '\t' rfl, other '\x0c' rfl]
  have all : ∀ d ∈ c :: word, isNameChar d = true := List.forall_mem_cons.2 ⟨start, parts⟩
  have whole : (c :: word ++ rest).span isNameChar = (c :: word, rest) := by
    have stop : rest.takeWhile isNameChar = [] ∧ rest.dropWhile isNameChar = rest := by
      cases rest with
      | nil => exact ⟨rfl, rfl⟩
      | cons d rest =>
          have ending := ends d rfl
          simp only [endsName, Bool.and_eq_true, Bool.not_eq_true'] at ending
          simp [ending.1.1]
    rw [List.span_eq_takeWhile_dropWhile, List.takeWhile_append_of_pos all,
      List.dropWhile_append_of_pos all, stop.1, stop.2, List.append_nil]
  have unquoted : ¬ (rest.head? = some '\'' ∨ rest.head? = some '"') := by
    rintro (quote | quote)
    · exact absurd (ends _ quote) (by decide)
    · exact absurd (ends _ quote) (by decide)
  unfold readStep
  rw [within, if_neg (by decide), List.cons_append, List.dropWhile_cons, if_neg (by simp [unblank])]
  split
  · contradiction
  · rename_i heq
    exact absurd (List.cons.inj heq).1 (other _ rfl)
  · rename_i heq
    exact absurd (List.cons.inj heq).1 (other _ rfl)
  · rename_i heq
    exact absurd (List.cons.inj heq).1 (other _ rfl)
  · rename_i heq
    obtain ⟨rfl, rfl⟩ := List.cons.inj heq
    rw [List.cons_append] at whole
    simp only [start, letter, Bool.not_false, Bool.and_self, if_true, whole, if_neg unquoted,
      List.isEmpty_cons]
    cases wordToken (c :: word) <;> rfl

/-! ### Names -/

/-- An identifier that is no keyword. -/
def IsName (word : String) : Prop :=
  isIdentifier word.toList = true ∧ Keyword.spellings.lookup word = none

instance (word : String) : Decidable (IsName word) :=
  inferInstanceAs (Decidable (_ ∧ _))

/-- The form of a name in which it is compared. -/
def nameOf (word : String) : String :=
  String.ofList (Text.compatibilityChars word.toList)

/-- The token of a name. -/
def nameKind (word : String) : TokenKind :=
  if word = "match" then .soft .matchWord
  else if word = "case" then .soft .caseWord
  else if word = "_" then .soft .underscore
  else .name (nameOf word)

theorem nameOf_of_ascii {word : String} (h : word.toList.all (·.toNat < 128) = true) :
    nameOf word = word := by
  rw [nameOf, Text.compatibilityChars_of_ascii h, String.ofList_toList]

theorem nameText?_nameKind (word : String) :
    (nameKind word).nameText? = some (nameOf word) := by
  unfold nameKind
  split
  · rename_i hw
    rw [hw, nameOf_of_ascii (by decide)]
    rfl
  · split
    · rename_i hw
      rw [hw, nameOf_of_ascii (by decide)]
      rfl
    · split
      · rename_i hw
        rw [hw, nameOf_of_ascii (by decide)]
        rfl
      · rfl

theorem wordToken_of_isName {word : String} (h : IsName word) :
    wordToken word.toList = some (nameKind word) := by
  unfold wordToken nameKind
  rw [String.ofList_toList]
  split
  · rename_i ascii
    simp only [h.2, nameOf_of_ascii ascii]
  · rename_i beyond
    have other : ∀ w : String, w.toList.all (·.toNat < 128) = true → word ≠ w := by
      rintro w hw rfl
      exact beyond hw
    rw [if_pos h.1, if_neg (other _ (by decide)), if_neg (other _ (by decide)),
      if_neg (other _ (by decide))]
    rfl

/-- **A name is read as one token.** -/
theorem Reads.name {word : String} (h : IsName word) (ends : ∀ c ∈ rest.head?, endsName c = true) :
    Reads ⟨false, nest, blocks⟩ (word.toList ++ rest) [nameKind word] ⟨false, nest, blocks⟩ rest := by
  have token := wordToken_of_isName h
  have identifier := h.1
  cases split : word.toList with
  | nil => rw [split] at identifier; cases identifier
  | cons c others =>
      rw [split] at token identifier
      obtain ⟨start, parts⟩ := Bool.and_eq_true_iff.1 identifier
      refine .token (by simp only [List.length_append, List.length_cons]; omega)
        fun line => ⟨line, ?_⟩
      rw [readStep_word rfl
        (isNameChar_of_isIdentifierPart (Text.isIdentifierPart_of_isIdentifierStart start))
        (isDecimal_of_isIdentifierStart start)
        (fun d hd => isNameChar_of_isIdentifierPart (List.all_eq_true.1 parts d hd)) ends, token]
      rfl

/-- A blank before a token does not count. -/
theorem Reads.afterBlank {text : List Char} {kinds : List TokenKind} {place' : Place}
    (h : Reads ⟨false, nest, blocks⟩ text kinds place' rest) (some_ : kinds ≠ []) :
    Reads ⟨false, nest, blocks⟩ (' ' :: text) kinds place' rest := by
  obtain ⟨steps, bound, h⟩ := h
  refine ⟨steps, by simp only [Place.allowance, List.length_cons] at *; omega, fun line => ?_⟩
  obtain ⟨line', tokens, hkinds, hrun⟩ := h line
  refine ⟨line', tokens, hkinds, ?_⟩
  cases steps with
  | zero =>
      obtain ⟨rfl, -⟩ : [] = tokens ∧ _ := by simpa [run] using hrun
      exact absurd hkinds.symm some_
  | succ steps =>
      unfold run at hrun ⊢
      split at hrun
      · cases hrun
      · exact hrun

/-! ### Dotted names -/

/-- The tokens of names with dots between them. -/
def referenceKinds : List String → List TokenKind
  | [] => []
  | word :: words => nameKind word :: words.flatMap fun other => [.symbol .dot, nameKind other]

theorem referenceKinds_dotPieces_ne_nil (text : String) :
    referenceKinds (dotPieces text) ≠ [] := by
  obtain ⟨piece, pieces, h⟩ := List.exists_cons_of_ne_nil (Text.splitDots_ne_nil text.toList)
  rw [dotPieces, h]
  exact List.cons_ne_nil _ _

/-- Every piece of a dotted name is a name. -/
def IsReference (text : String) : Prop :=
  ∀ piece ∈ dotPieces text, IsName piece

instance (text : String) : Decidable (IsReference text) :=
  inferInstanceAs (Decidable (∀ _ ∈ _, _))

theorem IsReference.join {text text' : String} (h : IsReference text) (h' : IsReference text') :
    IsReference (text ++ "." ++ text') := by
  unfold IsReference at *
  rw [Text.dotPieces_join, List.forall_mem_append]
  exact ⟨h, h'⟩

theorem IsReference.firstPiece {text : String} (h : IsReference text) :
    IsName (Text.firstPiece text) :=
  h _ (List.mem_map.2 ⟨_, Text.firstPiece_mem text, String.ofList_toList⟩)

theorem IsName.start {word : String} (h : IsName word) :
    ∃ c others, word.toList = c :: others ∧ isNameChar c = true ∧ isDecimal c = false := by
  have identifier := h.1
  cases split : word.toList with
  | nil => rw [split] at identifier; cases identifier
  | cons c others =>
      rw [split] at identifier
      have start := (Bool.and_eq_true_iff.1 identifier).1
      exact ⟨c, others, rfl,
        isNameChar_of_isIdentifierPart (Text.isIdentifierPart_of_isIdentifierStart start),
        isDecimal_of_isIdentifierStart start⟩

/-- A dot before a name is a token of its own. -/
theorem Reads.dot {word : String} (h : IsName word) :
    Reads ⟨false, nest, blocks⟩ ('.' :: word.toList ++ rest) [.symbol .dot] ⟨false, nest, blocks⟩
      (word.toList ++ rest) := by
  obtain ⟨c, others, split, start, letter⟩ := h.start
  have other : c ≠ '.' := by rintro rfl; cases start
  have symbol : ∀ text, readSymbol ('.' :: c :: text) = some (.dot, c :: text) := by
    intro text
    simp [readSymbol, other]
  refine .token (by simp) fun line => ⟨line, ?_⟩
  rw [split]
  have unblank : isLineBlank '.' = false := rfl
  have punctuation : isNameChar '.' = false := rfl
  simp [readStep, Place.onLine, unblank, punctuation, letter, symbol, nestAfter,
    show isDecimal '.' = false from rfl]

/-- **A dotted name is read piece by piece.** -/
theorem Reads.reference {text : String} (h : IsReference text)
    (ends : ∀ c ∈ rest.head?, endsName c = true) :
    Reads ⟨false, nest, blocks⟩ (text.toList ++ rest) (referenceKinds (dotPieces text))
      ⟨false, nest, blocks⟩ rest := by
  have others : ∀ words : List String, (∀ word ∈ words, IsName word) →
      Reads ⟨false, nest, blocks⟩ (words.flatMap (fun word => '.' :: word.toList) ++ rest)
        (words.flatMap fun word => [.symbol .dot, nameKind word]) ⟨false, nest, blocks⟩ rest := by
    intro words names
    induction words with
    | nil => exact .refl
    | cons word words ih =>
        obtain ⟨named, names⟩ := List.forall_mem_cons.1 names
        have ending : ∀ c ∈ (words.flatMap (fun word => '.' :: word.toList) ++ rest).head?,
            endsName c = true := by
          cases words with
          | nil => exact ends
          | cons => rintro c ⟨⟩; decide
        rw [List.flatMap_cons, List.append_assoc]
        exact (Reads.dot named).trans ((Reads.name named ending).trans (ih names))
  obtain ⟨word, words, pieces⟩ := List.exists_cons_of_ne_nil (Text.splitDots_ne_nil text.toList)
  have whole : text.toList = word ++ words.flatMap ('.' :: ·) := Text.eq_of_splitDots_eq_cons pieces
  have split : dotPieces text = String.ofList word :: words.map String.ofList := by
    rw [dotPieces, pieces, List.map_cons]
  rw [IsReference, split, List.forall_mem_cons] at h
  have further := others (words.map String.ofList) h.2
  rw [List.flatMap_map] at further
  simp only [String.toList_ofList] at further
  have ending : ∀ c ∈ (words.flatMap ('.' :: ·) ++ rest).head?, endsName c = true := by
    cases words with
    | nil => exact ends
    | cons => rintro c ⟨⟩; decide
  have first : Reads ⟨false, nest, blocks⟩
      ((String.ofList word).toList ++ (words.flatMap ('.' :: ·) ++ rest))
      [nameKind (String.ofList word)] ⟨false, nest, blocks⟩ (words.flatMap ('.' :: ·) ++ rest) :=
    .name h.1 ending
  rw [String.toList_ofList] at first
  rw [whole, split, List.append_assoc]
  exact first.trans further

/-! ### Literals -/

theorem readStep_quote (line : Nat) (more : List Char) :
    readStep (Place.onLine ⟨false, nest, blocks⟩ line) ('"' :: more) =
      (literalBody ('"' :: more)).bind fun found =>
        (bodyCodes false found.1).map fun codes =>
          ([⟨.string (.ofText (.ofCodes codes)), line⟩],
            Place.onLine ⟨false, nest, blocks⟩ (line + countLines found.1), found.2) := by
  change (literalBody ('"' :: more)).bind _ = _
  congr 1
  funext found
  change (literalToken {} found.1).bind _ = _
  rw [literalToken, if_neg (by decide), if_neg (by decide)]
  cases bodyCodes false found.1 <;> rfl

/-- No quote ends a body that spells a text. -/
theorem literalBody_of_spells {body chars : List Char} (h : Spells body chars)
    (ends : rest.head? ≠ some '"') :
    literalBody ('"' :: (body ++ '"' :: rest)) = some (body, rest) := by
  have one : (body ++ '"' :: rest).take 2 ≠ ['"', '"'] := by
    cases body with
    | nil =>
        cases rest with
        | nil => simp
        | cons c rest => simpa using ends
    | cons c body =>
        intro two
        obtain rfl : c = '"' := by simpa using congrArg List.head? two
        have found := h.body ['"']
        simp [shortBody] at found
  rw [literalBody, if_neg one, h.shortBody_eq]

/-- A text that can be the body of a literal. -/
def IsLiteral (body : String) : Prop :=
  ∃ chars, Spells body.toList chars

/-- The text that the body of a literal spells. -/
def literalText (body : String) : String :=
  String.ofList ((Text.bodyText false body.toList).getD [])

theorem literalText_eq {body : String} {chars : List Char} (h : Spells body.toList chars) :
    literalText body = String.ofList chars := by
  rw [literalText, h.bodyText_eq]
  rfl

/-- **A literal is read as the text that its body spells.** -/
theorem Reads.literal {body chars : List Char} (h : Spells body chars)
    (ends : rest.head? ≠ some '"') :
    Reads ⟨false, nest, blocks⟩ ('"' :: (body ++ '"' :: rest))
      [.string (.text (String.ofList chars))] ⟨false, nest, blocks⟩ rest := by
  refine .token (by simp only [List.length_append, List.length_cons]; omega)
    fun line => ⟨line + countLines body, ?_⟩
  rw [readStep_quote, literalBody_of_spells h ends, Option.bind_some, h.bodyCodes_eq,
    Option.map_some, Text.CodeText.ofCodes_chars]
  rfl

theorem longBody_of_plain {body : List Char} (h : ∀ c ∈ body, isPlain c = true) :
    longBody '"' (body ++ '"' :: '"' :: '"' :: rest) = some (body, rest) := by
  induction body with
  | nil => simp [longBody]
  | cons c body ih =>
      obtain ⟨first, others⟩ := List.forall_mem_cons.1 h
      obtain ⟨quote, backslash, -⟩ := Text.isPlain_iff.1 first
      rw [List.cons_append, longBody.eq_def]
      split
      · contradiction
      · rename_i heq
        exact absurd (List.cons.inj heq).1 backslash
      · rename_i heq
        obtain ⟨rfl, rfl⟩ := List.cons.inj heq
        simp [quote, ih others]

/-- **A plain text in triple quotes is read as it is.** -/
theorem Reads.description {body : List Char} (h : ∀ c ∈ body, isPlain c = true) :
    Reads ⟨false, nest, blocks⟩ ('"' :: '"' :: '"' :: (body ++ '"' :: '"' :: '"' :: rest))
      [.string (.text (String.ofList body))] ⟨false, nest, blocks⟩ rest := by
  refine .token (by simp only [List.length_append, List.length_cons]; omega)
    fun line => ⟨line + countLines body, ?_⟩
  have found : literalBody ('"' :: '"' :: '"' :: (body ++ '"' :: '"' :: '"' :: rest)) =
      some (body, rest) := by
    simp [literalBody, longBody_of_plain h]
  rw [readStep_quote, found, Option.bind_some, (Spells.plains h).bodyCodes_eq,
    Option.map_some, Text.CodeText.ofCodes_chars]
  rfl

end EnumCodec.Source
