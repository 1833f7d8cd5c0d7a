import EnumCodec.Proofs.Text.NameForm
import EnumCodec.Source.Grammar.Basic
import EnumCodec.Source.Token.Reading
import Mathlib.Data.List.TakeDrop

/-!
# EnumCodec.Proofs.Source.TokenNames

**The names among the tokens are identifiers.** A word begins with no digit; one of ASCII characters is
a name as it is, and any other must be an identifier and is a name in its compatibility form. No other
kind of token has a name.
-/

namespace EnumCodec.Source

open Text (isIdentifier isIdentifierStart isIdentifierPart)

/-- The text of a token that is a name is an identifier. -/
def TokenKind.IsNamed (kind : TokenKind) : Prop :=
  ∀ id, kind.nameText? = some id → isIdentifier id.toList = true

/-- All names among tokens are identifiers. -/
def AllNamed (tokens : List Token) : Prop :=
  ∀ t ∈ tokens, t.kind.IsNamed

theorem TokenKind.isNamed_of_nameText?_eq_none {kind : TokenKind} (other : kind.nameText? = none) :
    kind.IsNamed := by
  intro id named
  rw [other] at named
  cases named

@[simp] theorem TokenKind.isNamed_name {id : String} :
    (TokenKind.name id).IsNamed ↔ isIdentifier id.toList = true := by
  simp [TokenKind.IsNamed, TokenKind.nameText?]

@[simp] theorem SoftKeyword.isIdentifier_text (word : SoftKeyword) :
    isIdentifier word.text.toList = true := by
  cases word <;> decide +kernel

theorem TokenKind.isNamed_soft (word : SoftKeyword) : (TokenKind.soft word).IsNamed := by
  rintro _ ⟨⟩
  exact word.isIdentifier_text

/-! ### Words -/

theorem isIdentifierPart_of_ascii {c : Char} (ascii : c.toNat < 128) (word : isNameChar c = true) :
    isIdentifierPart c = true := by
  have within : ¬ 128 ≤ c.toNat := by omega
  simp only [isNameChar, within, decide_false, Bool.or_false] at word
  simp only [isIdentifierPart, Text.isAsciiIdentifierStart, within, decide_false, Bool.false_and,
    Bool.or_false]
  grind

theorem isIdentifierStart_of_ascii {c : Char} (ascii : c.toNat < 128) (word : isNameChar c = true)
    (letter : isDecimal c = false) : isIdentifierStart c = true := by
  have within : ¬ 128 ≤ c.toNat := by omega
  simp only [isNameChar, within, decide_false, Bool.or_false] at word
  rw [isDecimal] at letter
  simp only [isIdentifierStart, Text.isAsciiIdentifierStart, within, decide_false, Bool.false_and,
    Bool.or_false]
  grind

theorem wordToken_isNamed {c : Char} {rest : List Char} {kind : TokenKind}
    (read : wordToken (c :: rest) = some kind) (word : ∀ d ∈ c :: rest, isNameChar d = true)
    (letter : isDecimal c = false) : kind.IsNamed := by
  unfold wordToken at read
  dsimp only at read
  split at read
  · rename_i ascii
    have small : ∀ d ∈ c :: rest, d.toNat < 128 := by simpa using ascii
    split at read
    · cases read
      exact TokenKind.isNamed_of_nameText?_eq_none rfl
    · cases read
      split
      · exact TokenKind.isNamed_soft .matchWord
      split
      · exact TokenKind.isNamed_soft .caseWord
      split
      · exact TokenKind.isNamed_soft .underscore
      · rintro _ ⟨⟩
        rw [String.toList_ofList, isIdentifier, Bool.and_eq_true, List.all_eq_true]
        have head := List.mem_cons_self (a := c) (l := rest)
        exact ⟨isIdentifierStart_of_ascii (small c head) (word c head) letter, fun d mem =>
          isIdentifierPart_of_ascii (small d (List.mem_cons_of_mem c mem))
            (word d (List.mem_cons_of_mem c mem))⟩
  · split at read
    · rename_i identifier
      cases read
      rintro _ ⟨⟩
      rw [String.toList_ofList]
      exact Text.isIdentifier_compatibilityChars identifier
    · cases read

/-- The word at the front of a text that does not begin with a digit. -/
theorem wordToken_span_isNamed {c : Char} {rest word after : List Char} {kind : TokenKind}
    (split : (if isNameChar c && !isDecimal c then (c :: rest).span isNameChar
      else ([], c :: rest)) = (word, after))
    (nonempty : word ≠ []) (read : wordToken word = some kind) : kind.IsNamed := by
  split at split
  · rename_i begins
    obtain ⟨letter, digit⟩ := Bool.and_eq_true_iff.1 begins
    rw [List.span_eq_takeWhile_dropWhile] at split
    obtain ⟨rfl, rfl⟩ := Prod.mk.inj split
    rw [List.takeWhile_cons_of_pos letter] at read
    refine wordToken_isNamed read ?_ (by simpa using digit)
    rw [← List.takeWhile_cons_of_pos letter]
    exact fun d mem => List.all_eq_true.1 List.all_takeWhile d mem
  · obtain ⟨rfl, rfl⟩ := Prod.mk.inj split
    exact absurd rfl nonempty

/-! ### Tokens -/

theorem allNamed_singleton {kind : TokenKind} {line : Nat} (named : kind.IsNamed) :
    AllNamed [⟨kind, line⟩] := by
  intro t mem
  rw [List.mem_singleton.1 mem]
  exact named

theorem AllNamed.append {tokens others : List Token} (named : AllNamed tokens)
    (rest : AllNamed others) : AllNamed (tokens ++ others) :=
  fun t mem => (List.mem_append.1 mem).elim (named t) (rest t)

theorem AllNamed.tail {tokens : List Token} (named : AllNamed tokens) : AllNamed tokens.tail :=
  fun t mem => named t (List.mem_of_mem_tail mem)

theorem blockTokens_isNamed {columns : Columns} {blocks left : List Columns}
    {kinds : List TokenKind} (read : blockTokens columns blocks = some (kinds, left)) :
    ∀ kind ∈ kinds, kind.IsNamed := by
  unfold blockTokens at read
  dsimp only at read
  intro kind mem
  apply TokenKind.isNamed_of_nameText?_eq_none
  split at read
  · split at read <;> cases read
    cases mem
  · split at read
    · split at read <;> cases read
      rw [List.mem_singleton.1 mem]
      rfl
    · split at read <;> cases read
      rw [(List.mem_replicate.1 mem).2]
      rfl

theorem readStep_allNamed {state after : ReadState} {text rest : List Char} {tokens : List Token}
    (read : readStep state text = some (tokens, after, rest)) : AllNamed tokens := by
  unfold readStep at read
  split at read
  · simp only [Option.bind_eq_bind, Option.bind_eq_some_iff] at read
    obtain ⟨⟨columns, lines, behind⟩, -, read⟩ := read
    dsimp only at read
    split at read
    · split at read <;> cases read <;> exact nofun
    · simp only [Option.bind_eq_some_iff] at read
      obtain ⟨⟨kinds, blocks⟩, opened, read⟩ := read
      cases read
      intro t mem
      obtain ⟨kind, found, rfl⟩ := List.mem_map.1 mem
      exact blockTokens_isNamed opened kind found
  · split at read
    · cases read
    · cases read
      exact nofun
    · cases read
      split
      · exact allNamed_singleton (TokenKind.isNamed_of_nameText?_eq_none rfl)
      · exact nofun
    · split at read <;> cases read
      exact nofun
    · rename_i c rest _ _ _ _
      dsimp only at read
      generalize split : (if isNameChar c && !isDecimal c then _ else _) = parts at read
      obtain ⟨word, behind⟩ := parts
      have named : ∀ kind, word ≠ [] → wordToken word = some kind → kind.IsNamed :=
        fun _ => wordToken_span_isNamed split
      dsimp only at read
      split at read
      · split at read
        · simp only [Option.bind_eq_bind, Option.bind_eq_some_iff] at read
          obtain ⟨⟨body, behind⟩, -, value, -, read⟩ := read
          cases read
          exact allNamed_singleton (TokenKind.isNamed_of_nameText?_eq_none rfl)
        · rename_i noLiteral
          simp only [Option.bind_eq_bind, Option.bind_eq_some_iff] at read
          obtain ⟨kind, word, read⟩ := read
          cases read
          refine allNamed_singleton (named kind ?_ word)
          rintro rfl
          cases noLiteral
      · split at read
        · rename_i nonempty
          simp only [Option.bind_eq_bind, Option.bind_eq_some_iff] at read
          obtain ⟨kind, word, read⟩ := read
          cases read
          exact allNamed_singleton (named kind (by simpa using nonempty) word)
        · split at read
          · simp only [Option.bind_eq_bind, Option.bind_eq_some_iff] at read
            obtain ⟨⟨value, behind⟩, -, read⟩ := read
            cases read
            exact allNamed_singleton (TokenKind.isNamed_of_nameText?_eq_none rfl)
          · simp only [Option.bind_eq_bind, Option.bind_eq_some_iff] at read
            obtain ⟨⟨symbol, behind⟩, -, nest, -, read⟩ := read
            cases read
            exact allNamed_singleton (TokenKind.isNamed_of_nameText?_eq_none rfl)

theorem readFrom_allNamed {fuel : Nat} {state : ReadState} {text : List Char}
    {tokens : List Token} (read : readFrom fuel state text = some tokens) : AllNamed tokens := by
  induction fuel generalizing state text tokens with
  | zero => cases read
  | succ fuel ih =>
    unfold readFrom at read
    split at read
    · split at read
      · cases read
        refine AllNamed.append (fun t mem => ?_)
          (allNamed_singleton (TokenKind.isNamed_of_nameText?_eq_none rfl))
        rw [(List.mem_replicate.1 mem).2]
        exact TokenKind.isNamed_of_nameText?_eq_none rfl
      · cases read
    · simp only [Option.bind_eq_bind, Option.bind_eq_some_iff] at read
      obtain ⟨⟨first, after, rest⟩, step, others, further, read⟩ := read
      cases read
      exact (readStep_allNamed step).append (ih further)

/-- **All names among the tokens of a text are identifiers.** -/
theorem tokens?_allNamed {text : List Char} {tokens : List Token}
    (read : tokens? text = some tokens) : AllNamed tokens :=
  readFrom_allNamed read

end EnumCodec.Source
