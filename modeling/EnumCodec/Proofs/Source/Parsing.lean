import EnumCodec.Proofs.Source.Words

/-!
# EnumCodec.Proofs.Source.Parsing

**What rules of the grammar take.** A rule takes the tokens of a piece of source whatever stands behind
them, or behind them and a token that ends the piece. The kinds of the tokens decide alone; the lines
on which they stand only show in the few statements that note theirs.
-/

namespace EnumCodec.Source

open Text (dotPieces)

/-! ### Tokens by their kinds -/

/-- Tokens of the given kinds, each on the line that its position has. -/
def numbered (lines : Nat → Nat) (start : Nat) : List TokenKind → List Token
  | [] => []
  | kind :: kinds => ⟨kind, lines start⟩ :: numbered lines (start + 1) kinds

theorem exists_numbered (tokens : List Token) (start : Nat) :
    ∃ lines, tokens = numbered lines start (tokens.map Token.kind) := by
  induction tokens generalizing start with
  | nil => exact ⟨id, rfl⟩
  | cons token tokens ih =>
      obtain ⟨lines, hlines⟩ := ih (start + 1)
      refine ⟨fun position => if position = start then token.line else lines position, ?_⟩
      have others : ∀ (kinds : List TokenKind) (next : Nat), start < next →
          numbered (fun position => if position = start then token.line else lines position) next
            kinds = numbered lines next kinds := by
        intro kinds
        induction kinds with
        | nil => exact fun _ _ => rfl
        | cons kind kinds ih =>
            intro next later
            have other : ¬ next = start := by omega
            simp only [numbered, if_neg other, ih (next + 1) (by omega)]
      rw [List.map_cons, numbered, others _ _ (by omega), ← hlines, if_pos rfl]

theorem length_numbered (lines : Nat → Nat) (start : Nat) (kinds : List TokenKind) :
    (numbered lines start kinds).length = kinds.length := by
  induction kinds generalizing start with
  | nil => rfl
  | cons kind kinds ih => simp [numbered, ih]

/-! ### Rules that take tokens -/

theorem bind_of_some {α β : Type} {rule : Rule α} {next : α → Rule β} {tokens r : List Token}
    {a : α} (h : rule tokens = some (a, r)) : (rule >>= next) tokens = next a r := by
  change (rule tokens).bind _ = _
  rw [h]
  rfl

theorem bind_of_none {α β : Type} {rule : Rule α} {next : α → Rule β} {tokens : List Token}
    (h : rule tokens = none) : (rule >>= next) tokens = none := by
  change (rule tokens).bind _ = _
  rw [h]
  rfl

theorem token_of_ne {first kind : TokenKind} (h : first ≠ kind) (lines : Nat → Nat) (start : Nat)
    (kinds : List TokenKind) : token kind (numbered lines start (first :: kinds)) = none :=
  if_neg h

theorem nextIs_of_ne {first kind : TokenKind} (h : first ≠ kind) (lines : Nat → Nat) (start : Nat)
    (kinds : List TokenKind) :
    nextIs kind (numbered lines start (first :: kinds)) =
      some (false, numbered lines start (first :: kinds)) := by
  change some (decide (some first = some kind), _) = _
  simp [h]

theorem many_of_none {α : Type} {rule : Rule α} {tokens : List Token} (h : rule tokens = none) :
    many rule tokens = some ([], tokens) := by
  unfold many
  cases tokens.length with
  | zero => rfl
  | succ bound => simp only [manyUpTo, h]

/-- Before other tokens a rule takes tokens of the given kinds, and its value is as described. -/
def Takes {α : Type} (rule : Rule α) (kinds more : List TokenKind) (result : α → Prop) : Prop :=
  ∀ lines start, ∃ value next,
    rule (numbered lines start (kinds ++ more)) = some (value, numbered lines next more) ∧
      result value

theorem Takes.mono {α : Type} {rule : Rule α} {kinds more : List TokenKind} {result result' : α → Prop}
    (h : Takes rule kinds more result) (implies : ∀ value, result value → result' value) :
    Takes rule kinds more result' := by
  intro lines start
  obtain ⟨value, next, hvalue, hresult⟩ := h lines start
  exact ⟨value, next, hvalue, implies value hresult⟩

/-- Before other tokens a rule takes tokens of the given kinds as often as it can. -/
def TakesMany {α : Type} (rule : Rule α) (kinds more : List TokenKind)
    (results : List α → Prop) : Prop :=
  ∀ lines start, ∃ values next,
    (∀ bound, (kinds ++ more).length ≤ bound →
      manyUpTo rule bound (numbered lines start (kinds ++ more)) =
        some (values, numbered lines next more)) ∧
      results values

namespace TakesMany

variable {α : Type} {rule : Rule α} {kinds kinds' more : List TokenKind} {result : α → Prop}
  {results : List α → Prop}

theorem nil (stops : ∀ lines start, rule (numbered lines start more) = none) :
    TakesMany rule [] more (· = []) := by
  intro lines start
  refine ⟨[], start, fun bound _ => ?_, rfl⟩
  cases bound with
  | zero => rfl
  | succ bound => simp only [manyUpTo, List.nil_append, stops]

theorem cons (first : Takes rule kinds (kinds' ++ more) result) (some_ : kinds ≠ [])
    (others : TakesMany rule kinds' more results) :
    TakesMany rule (kinds ++ kinds') more
      fun values => ∃ value rest, values = value :: rest ∧ result value ∧ results rest := by
  intro lines start
  obtain ⟨value, next, hvalue, hresult⟩ := first lines start
  obtain ⟨values, last, hvalues, hresults⟩ := others lines next
  refine ⟨value :: values, last, fun bound enough => ?_, value, values, rfl, hresult, hresults⟩
  have positive := List.length_pos_iff.2 some_
  simp only [List.length_append] at enough
  obtain ⟨bound, rfl⟩ : ∃ n, bound = n + 1 := ⟨bound - 1, by omega⟩
  have rest := hvalues bound (by rw [List.length_append]; omega)
  rw [List.append_assoc]
  simp only [manyUpTo, hvalue, rest]

/-- Items of one form, one after the other, before others. -/
theorem items {β : Type} (kindsOf : β → List TokenKind) (valueOf : β → α) (xs : List β)
    (follows : List TokenKind → Prop) (last : follows (kinds' ++ more))
    (item : ∀ x ∈ xs, ∀ behind, follows behind → follows (kindsOf x ++ behind) ∧
      kindsOf x ≠ [] ∧ Takes rule (kindsOf x) behind (· = valueOf x))
    (others : TakesMany rule kinds' more results) :
    follows (xs.flatMap kindsOf ++ kinds' ++ more) ∧
      TakesMany rule (xs.flatMap kindsOf ++ kinds') more
        fun values => ∃ rest, values = xs.map valueOf ++ rest ∧ results rest := by
  induction xs with
  | nil =>
      refine ⟨last, fun lines start => ?_⟩
      obtain ⟨values, next, hvalues, hresults⟩ := others lines start
      exact ⟨values, next, hvalues, values, rfl, hresults⟩
  | cons x xs ih =>
      obtain ⟨hx, hxs⟩ := List.forall_mem_cons.1 item
      obtain ⟨behind, others⟩ := ih hxs
      obtain ⟨here, some_, takes⟩ := hx _ behind
      rw [List.flatMap_cons, List.append_assoc (kindsOf x)]
      refine ⟨by rwa [List.append_assoc (kindsOf x)], fun lines start => ?_⟩
      obtain ⟨values, next, hvalues, value, _, rfl, rfl, rest, rfl, hrest⟩ :=
        cons takes some_ others lines start
      exact ⟨_, next, hvalues, rest, rfl, hrest⟩

/-- The repetition of a rule has no more rounds than there are tokens. -/
theorem many (h : TakesMany rule kinds more results) :
    Takes (Source.many rule) kinds more results := by
  intro lines start
  obtain ⟨values, next, hvalues, hresults⟩ := h lines start
  exact ⟨values, next, hvalues _ (Nat.le_of_eq (length_numbered ..).symm), hresults⟩

end TakesMany

/-! ### Operands -/

/-- Does no expression go on with the token? -/
def endsOperand : TokenKind → Bool
  | .symbol .rightParen => true
  | .symbol .colon => true
  | .newline => true
  | _ => false

theorem endsOperand_cases {kind : TokenKind} (h : endsOperand kind = true) :
    kind = .symbol .rightParen ∨ kind = .symbol .colon ∨ kind = .newline := by
  unfold endsOperand at h
  split at h
  · exact Or.inl rfl
  · exact Or.inr (Or.inl rfl)
  · exact Or.inr (Or.inr rfl)
  · cases h

theorem nameText?_cases {kind : TokenKind} {id : String} (h : kind.nameText? = some id) :
    kind = .name id ∨ ∃ word : SoftKeyword, kind = .soft word ∧ word.text = id := by
  cases kind with
  | name name => exact Or.inl (congrArg TokenKind.name (Option.some.inj h))
  | soft word => exact Or.inr ⟨word, rfl, Option.some.inj h⟩
  | _ => cases h

/-- Does a primary begin with the token, so that no sign and no word stands before it? -/
def beginsPrimary : TokenKind → Bool
  | .name _ => true
  | .soft _ => true
  | .string _ => true
  | .symbol .leftParen => true
  | _ => false

theorem beginsPrimary_cases {kind : TokenKind} (h : beginsPrimary kind = true) :
    (∃ id, kind = .name id) ∨ (∃ word, kind = .soft word) ∨ (∃ value, kind = .string value) ∨
      kind = .symbol .leftParen := by
  unfold beginsPrimary at h
  split at h
  · exact Or.inl ⟨_, rfl⟩
  · exact Or.inr (Or.inl ⟨_, rfl⟩)
  · exact Or.inr (Or.inr (Or.inl ⟨_, rfl⟩))
  · exact Or.inr (Or.inr (Or.inr rfl))
  · cases h

theorem beginsPrimary_nameKind (word : String) : beginsPrimary (nameKind word) = true := by
  rcases nameText?_cases (nameText?_nameKind word) with name | ⟨soft, name, -⟩
  · rw [name]
    rfl
  · rw [name]
    rfl

theorem nameKind_ne_symbol (word : String) (s : Symbol) : nameKind word ≠ .symbol s := by
  intro h
  have named := nameText?_nameKind word
  rw [h] at named
  cases named

theorem name_numbered (word : String) (lines : Nat → Nat) (start : Nat) (kinds : List TokenKind) :
    name (numbered lines start (nameKind word :: kinds)) =
      some (nameOf word, numbered lines (start + 1) kinds) := by
  rw [numbered, name, nameText?_nameKind]
  rfl

namespace Takes

variable {first ending : TokenKind} {kinds more : List TokenKind} {result : Expr → Prop}
  {rules : Rules}

theorem leftGrouped {operand : Rule Expr} {operators : List BinaryOp}
    (h : Takes operand kinds (ending :: more) result) (ends : endsOperand ending = true) :
    Takes (leftGrouped operand operators) kinds (ending :: more) result := by
  intro lines start
  obtain ⟨value, next, hvalue, hresult⟩ := h lines start
  refine ⟨value, next, (bind_of_some hvalue).trans ?_, hresult⟩
  rcases endsOperand_cases ends with rfl | rfl | rfl <;> rfl

theorem factor (h : Takes (primary rules) (first :: kinds) (ending :: more) result)
    (begins : beginsPrimary first = true) (ends : endsOperand ending = true) :
    Takes (factor rules) (first :: kinds) (ending :: more) result := by
  intro lines start
  obtain ⟨value, next, hvalue, hresult⟩ := h lines start
  refine ⟨value, next, ?_, hresult⟩
  have power : power rules (numbered lines start (first :: kinds ++ ending :: more)) =
      some (value, numbered lines next (ending :: more)) := by
    rcases beginsPrimary_cases begins with ⟨id, rfl⟩ | ⟨word, rfl⟩ | ⟨text, rfl⟩ | rfl
    all_goals
      rw [Source.power, bind_of_some (a := none) rfl, bind_of_some hvalue]
      rcases endsOperand_cases ends with rfl | rfl | rfl <;> rfl
  rcases beginsPrimary_cases begins with ⟨id, rfl⟩ | ⟨word, rfl⟩ | ⟨text, rfl⟩ | rfl
  · exact power
  · exact power
  · exact power
  · exact power

theorem bitwiseOr (h : Takes (rules .factor) kinds (ending :: more) result)
    (ends : endsOperand ending = true) :
    Takes (bitwiseOr rules) kinds (ending :: more) result :=
  ((((((h.leftGrouped ends).leftGrouped ends).leftGrouped ends).leftGrouped ends).leftGrouped
    ends).leftGrouped ends)

theorem comparison (h : Takes (Source.bitwiseOr rules) kinds (ending :: more) result)
    (ends : endsOperand ending = true) :
    Takes (comparison rules) kinds (ending :: more) result := by
  intro lines start
  obtain ⟨value, next, hvalue, hresult⟩ := h lines start
  refine ⟨value, next, (bind_of_some hvalue).trans ?_, hresult⟩
  rcases endsOperand_cases ends with rfl | rfl | rfl <;> rfl

/-- An expression that is no more than a comparison. -/
theorem expression (h : Takes (Source.comparison rules) (first :: kinds) (ending :: more) result)
    (begins : beginsPrimary first = true) (ends : endsOperand ending = true) :
    Takes (expression rules) (first :: kinds) (ending :: more) result := by
  intro lines start
  obtain ⟨value, next, hvalue, hresult⟩ := h lines start
  refine ⟨value, next, ?_, hresult⟩
  have inversion : inversion rules (numbered lines start (first :: kinds ++ ending :: more)) =
      some (value, numbered lines next (ending :: more)) := by
    rcases beginsPrimary_cases begins with ⟨id, rfl⟩ | ⟨word, rfl⟩ | ⟨text, rfl⟩ | rfl
    all_goals
      rw [Source.inversion, bind_of_some (a := []) rfl, bind_of_some hvalue]
      rfl
  have conjunction : conjunction rules (numbered lines start (first :: kinds ++ ending :: more)) =
      some (value, numbered lines next (ending :: more)) := by
    rw [Source.conjunction, bind_of_some (a := [value]) (r := numbered lines next (ending :: more))]
    · rfl
    · rw [separated, bind_of_some inversion]
      rcases endsOperand_cases ends with rfl | rfl | rfl <;> rfl
  have disjunction : disjunction rules (numbered lines start (first :: kinds ++ ending :: more)) =
      some (value, numbered lines next (ending :: more)) := by
    rw [Source.disjunction, bind_of_some (a := [value]) (r := numbered lines next (ending :: more))]
    · rfl
    · rw [separated, bind_of_some conjunction]
      rcases endsOperand_cases ends with rfl | rfl | rfl <;> rfl
  rw [Source.expression, bind_of_some (a := false)
    (r := numbered lines start (first :: kinds ++ ending :: more)),
    if_neg Bool.false_ne_true, bind_of_some disjunction]
  · rcases endsOperand_cases ends with rfl | rfl | rfl <;> rfl
  · rcases beginsPrimary_cases begins with ⟨id, rfl⟩ | ⟨word, rfl⟩ | ⟨text, rfl⟩ | rfl <;> rfl

end Takes

/-! ### Dotted names -/

/-- The expression of names with dots between them. -/
def referenceExpr : List String → Expr
  | [] => .name ""
  | word :: words => words.foldl (fun value attr => .attribute value (nameOf attr)) (.name (nameOf word))

namespace Takes

variable {ending : TokenKind} {more : List TokenKind} {rules : Rules} {word : String}
  {words : List String}

/-- **The tokens of a dotted name are taken as its expression.** -/
theorem reference (ends : endsOperand ending = true) :
    Takes (primary rules) (referenceKinds (word :: words)) (ending :: more)
      (· = referenceExpr (word :: words)) := by
  have stops : ∀ lines start, trailer rules (numbered lines start (ending :: more)) = none := by
    intro lines start
    rcases endsOperand_cases ends with rfl | rfl | rfl <;> rfl
  have attributes := (TakesMany.items (fun other => [.symbol .dot, nameKind other])
    (fun other value => Expr.attribute value (nameOf other)) words (fun _ => True) trivial
    (fun other _ behind _ => ⟨trivial, by simp, fun lines start => ?_⟩) (TakesMany.nil stops)).2.many
  · intro lines start
    obtain ⟨_, next, hvalues, _, rfl, rfl⟩ := attributes lines (start + 1)
    refine ⟨_, next, ?_, rfl⟩
    have atom : atom rules (numbered lines start (referenceKinds (word :: words) ++ ending :: more)) =
        some (.name (nameOf word), numbered lines (start + 1)
          (words.flatMap (fun other => [.symbol .dot, nameKind other]) ++ ending :: more)) := by
      rcases nameText?_cases (nameText?_nameKind word) with name | ⟨soft, name, text⟩
      · rw [referenceKinds, name]
        rfl
      · rw [referenceKinds, name, ← text]
        rfl
    rw [List.append_nil] at hvalues
    rw [primary, bind_of_some atom, bind_of_some hvalues]
    simp only [referenceExpr, List.append_nil, List.foldl_map]
    rfl
  · refine ⟨_, start + 2, ?_, rfl⟩
    rcases nameText?_cases (nameText?_nameKind other) with name | ⟨soft, name, text⟩
    · rw [name]
      rfl
    · rw [name, ← text]
      rfl

end Takes

end EnumCodec.Source
