import EnumCodec.Proofs.Source.Parsing

/-!
# EnumCodec.Proofs.Source.Statements

**Statements around names.** The rules take the statements in which a dotted name stands: a comparison
with it, a call with it, a method with it as an annotation, a branch, an import.
-/

namespace EnumCodec.Source

open Text (dotPieces)

/-- The expression of a dotted name. -/
def reference (name : String) : Expr :=
  referenceExpr (dotPieces name)

theorem dotPieces_eq_cons (name : String) : ∃ word words, dotPieces name = word :: words := by
  obtain ⟨piece, pieces, h⟩ := List.exists_cons_of_ne_nil (Text.splitDots_ne_nil name.toList)
  exact ⟨_, _, by rw [dotPieces, h, List.map_cons]⟩

namespace Takes

variable {depth : Nat} {ending : TokenKind} {more : List TokenKind}

/-! ### Expressions with names -/

theorem reference_bitwiseOr (name : String) (ends : endsOperand ending = true) :
    Takes (Source.bitwiseOr (rulesTo (depth + 1))) (referenceKinds (dotPieces name))
      (ending :: more) (· = Source.reference name) := by
  obtain ⟨word, words, pieces⟩ := dotPieces_eq_cons name
  rw [Source.reference, pieces]
  exact ((reference ends).factor (beginsPrimary_nameKind word) ends).bitwiseOr ends

theorem reference_expression (name : String) (ends : endsOperand ending = true) :
    Takes (rulesTo (depth + 2) .expression) (referenceKinds (dotPieces name)) (ending :: more)
      (· = Source.reference name) := by
  have operand : Takes (Source.bitwiseOr (rulesTo (depth + 1))) (referenceKinds (dotPieces name))
      (ending :: more) (· = Source.reference name) := reference_bitwiseOr name ends
  obtain ⟨word, words, pieces⟩ := dotPieces_eq_cons name
  rw [pieces] at operand ⊢
  exact (operand.comparison ends).expression (beginsPrimary_nameKind word) ends

/-- A name is compared with a dotted name. -/
theorem identical (id name : String) (ends : endsOperand ending = true) :
    Takes (rulesTo (depth + 2) .expression)
      (.name id :: .keyword .isK :: referenceKinds (dotPieces name)) (ending :: more)
      (· = .compare (.name id) [(.identical, Source.reference name)]) := by
  change Takes (Source.expression (rulesTo (depth + 1))) _ _ _
  refine expression ?_ rfl ends
  have operand : Takes (Source.bitwiseOr (rulesTo (depth + 1))) (referenceKinds (dotPieces name))
      (ending :: more) (· = Source.reference name) := reference_bitwiseOr name ends
  obtain ⟨word, words, pieces⟩ := dotPieces_eq_cons name
  rw [pieces] at operand ⊢
  have compared : Takes (do
        let op ← comparisonOp
        return (op, ← Source.bitwiseOr (rulesTo (depth + 1))))
      (.keyword .isK :: referenceKinds (word :: words)) (ending :: more)
      (· = (.identical, Source.reference name)) := by
    intro lines start
    obtain ⟨_, next, hvalue, rfl⟩ := operand lines (start + 1)
    refine ⟨_, next, ?_, rfl⟩
    have op : comparisonOp (numbered lines start
        (.keyword .isK :: referenceKinds (word :: words) ++ ending :: more)) =
        some (.identical, numbered lines (start + 1)
          (referenceKinds (word :: words) ++ ending :: more)) := by
      rcases nameText?_cases (nameText?_nameKind word) with name | ⟨soft, name, -⟩
      all_goals
        rw [referenceKinds, name]
        rfl
    rw [bind_of_some op, bind_of_some hvalue]
    rfl
  have stops : ∀ lines start, (do
        let op ← comparisonOp
        return (op, ← Source.bitwiseOr (rulesTo (depth + 1)))) (numbered lines start (ending :: more)) =
      (none : Option ((CompareOp × Expr) × List Token)) := by
    intro lines start
    rcases endsOperand_cases ends with rfl | rfl | rfl <;> rfl
  intro lines start
  obtain ⟨_, next, hvalues, _, _, rfl, rfl, rfl⟩ :=
    (TakesMany.cons compared (by simp) (.nil stops)).many lines (start + 1)
  refine ⟨_, next, ?_, rfl⟩
  rw [List.append_nil] at hvalues
  exact (bind_of_some (a := .name id) rfl).trans ((bind_of_some hvalues).trans rfl)

/-- No name is given where the second token does not say so. -/
theorem namedExpression {rules : Rules} {first second : TokenKind} {kinds others : List TokenKind}
    {result : Expr → Prop} (h : Takes (rules .expression) (first :: kinds) (ending :: more) result)
    (next : kinds ++ ending :: more = second :: others) (unnamed : second ≠ .symbol .walrus)
    (ends : endsOperand ending = true) :
    Takes (Source.namedExpression rules) (first :: kinds) (ending :: more) result := by
  intro lines start
  obtain ⟨value, last, hvalue, hresult⟩ := h lines start
  refine ⟨value, last, ?_, hresult⟩
  rw [List.cons_append, next] at hvalue ⊢
  have atNamed : atNamed (numbered lines start (first :: second :: others)) =
      some (false, numbered lines start (first :: second :: others)) := by
    have here : peek (numbered lines start (first :: second :: others)) =
        some (some first, numbered lines start (first :: second :: others)) := rfl
    have behind : peekSecond (numbered lines start (first :: second :: others)) =
        some (some second, numbered lines start (first :: second :: others)) := rfl
    rw [Source.atNamed, bind_of_some here, Option.bind_some]
    cases first.nameText? with
    | none => rfl
    | some id =>
        refine (bind_of_some behind).trans ?_
        simp [unnamed]
        rfl
  rw [Source.namedExpression, bind_of_some atNamed, if_neg Bool.false_ne_true, bind_of_some hvalue]
  rcases endsOperand_cases ends with rfl | rfl | rfl <;> rfl

/-- A dotted name is the last argument of a call. -/
theorem reference_argument (depth : Nat) (name : String) (more : List TokenKind) :
    Takes (argument (rulesTo (depth + 2))) (referenceKinds (dotPieces name))
      (.symbol .rightParen :: more) (· = .positional (Source.reference name)) := by
  have value : Takes (rulesTo (depth + 2) .expression) (referenceKinds (dotPieces name))
      (.symbol .rightParen :: more) (· = Source.reference name) := reference_expression name rfl
  obtain ⟨word, words, pieces⟩ := dotPieces_eq_cons name
  obtain ⟨second, others, next, unnamed, unassigned⟩ : ∃ second others,
      words.flatMap (fun other => [.symbol .dot, nameKind other]) ++ .symbol .rightParen :: more =
        second :: others ∧ second ≠ .symbol .walrus ∧ second ≠ .symbol .assign := by
    cases words with
    | nil => exact ⟨_, _, rfl, by decide, by decide⟩
    | cons => exact ⟨_, _, rfl, by decide, by decide⟩
  rw [pieces] at value ⊢
  have named := namedExpression value next unnamed rfl
  intro lines start
  obtain ⟨_, last, hvalue, rfl⟩ := named lines start
  refine ⟨_, last, ?_, rfl⟩
  rw [List.cons_append, next] at hvalue
  rw [referenceKinds, List.cons_append, next]
  have here : peek (numbered lines start (nameKind word :: second :: others)) =
      some (some (nameKind word), numbered lines start (nameKind word :: second :: others)) := rfl
  have behind : peekSecond (numbered lines start (nameKind word :: second :: others)) =
      some (some second, numbered lines start (nameKind word :: second :: others)) := rfl
  rw [argument, atSymbol, atSymbol, bind_of_some (nextIs_of_ne (nameKind_ne_symbol word _) ..),
    if_neg Bool.false_ne_true, bind_of_some (nextIs_of_ne (nameKind_ne_symbol word _) ..),
    if_neg Bool.false_ne_true, bind_of_some here, bind_of_some behind,
    if_neg (by simp [unassigned]), bind_of_some hvalue]
  rfl

/-- A call of a function. -/
theorem called {kinds : List TokenKind} {args : List Expr} (function : String)
    (h : Takes (callArguments (rulesTo (depth + 2))) kinds (ending :: more) (· = (args, [])))
    (ends : endsOperand ending = true) :
    Takes (rulesTo (depth + 4) .expression) (.name function :: .symbol .leftParen :: kinds)
      (ending :: more) (· = .call (.name function) args []) := by
  have called : Takes (trailer (rulesTo (depth + 2))) (.symbol .leftParen :: kinds) (ending :: more)
      (· = (Expr.call · args [])) := by
    intro lines start
    obtain ⟨_, next, hvalues, rfl⟩ := h lines (start + 1)
    refine ⟨_, next, ?_, rfl⟩
    rw [trailer, bind_of_some (a := some (.symbol .leftParen)) rfl]
    change (skip >>= _) _ = _
    rw [bind_of_some (a := ()) rfl]
    exact (bind_of_some hvalues).trans rfl
  have stops : ∀ lines start, trailer (rulesTo (depth + 2)) (numbered lines start (ending :: more)) =
      none := by
    intro lines start
    rcases endsOperand_cases ends with rfl | rfl | rfl <;> rfl
  have trailers := (TakesMany.cons called (by simp) (.nil stops)).many
  have whole : Takes (primary (rulesTo (depth + 2)))
      (.name function :: .symbol .leftParen :: kinds) (ending :: more)
      (· = .call (.name function) args []) := by
    intro lines start
    obtain ⟨_, next, hvalues, _, _, rfl, rfl, rfl⟩ := trailers lines (start + 1)
    rw [List.append_nil] at hvalues
    exact ⟨_, next, (bind_of_some (a := .name function) rfl).trans
      ((bind_of_some hvalues).trans rfl), rfl⟩
  have operand : Takes (Source.bitwiseOr (rulesTo (depth + 3)))
      (.name function :: .symbol .leftParen :: kinds) (ending :: more)
      (· = .call (.name function) args []) :=
    bitwiseOr (whole.factor rfl ends) ends
  exact (operand.comparison ends).expression rfl ends

/-- A function is called with a name and a dotted name. -/
theorem call (function id name : String) (ends : endsOperand ending = true) :
    Takes (rulesTo (depth + 4) .expression)
      (.name function :: .symbol .leftParen :: .name id :: .symbol .comma ::
        (referenceKinds (dotPieces name) ++ [.symbol .rightParen])) (ending :: more)
      (· = .call (.name function) [.name id, Source.reference name] []) := by
  refine called function ?_ ends
  have argument : Takes (do
        symbol .comma
        argument (rulesTo (depth + 2)))
      (.symbol .comma :: referenceKinds (dotPieces name)) (.symbol .rightParen :: ending :: more)
      (· = .positional (Source.reference name)) := by
    intro lines start
    obtain ⟨_, next, hvalue, rfl⟩ := reference_argument depth name (ending :: more) lines (start + 1)
    exact ⟨_, next, (bind_of_some (r := numbered lines (start + 1) _) rfl).trans hvalue, rfl⟩
  have arguments := (TakesMany.cons argument (by simp) (.nil fun _ _ => rfl)).many
  intro lines start
  obtain ⟨_, next, hvalues, _, _, rfl, rfl, rfl⟩ := arguments lines (start + 1)
  refine ⟨_, next + 1, ?_, rfl⟩
  simp only [List.append_nil, List.cons_append, List.append_assoc, List.nil_append] at hvalues ⊢
  have further : furtherArguments (rulesTo (depth + 2)) (.positional (.name id))
      (numbered lines (start + 1) (.symbol .comma ::
        (referenceKinds (dotPieces name) ++ .symbol .rightParen :: ending :: more))) =
      some (([.name id, Source.reference name], []), numbered lines (next + 1) (ending :: more)) :=
    (bind_of_some hvalues).trans rfl
  rw [callArguments, bind_of_some (a := false) rfl, if_neg Bool.false_ne_true,
    bind_of_some (a := .positional (.name id)) rfl]
  exact further

/-- Literals that stand next to each other. -/
theorem literals {rules : Rules} {first : StringToken} {others : List StringToken} {value : Expr}
    (joined : joinLiterals rules (first :: others) = some value) (ends : endsOperand ending = true) :
    Takes (primary rules) (.string first :: others.map .string) (ending :: more) (· = value) := by
  have item : ∀ text ∈ others, ∀ behind, True → True ∧ [TokenKind.string text] ≠ [] ∧
      Takes stringToken [.string text] behind (· = text) :=
    fun text _ behind _ => ⟨trivial, by simp, fun lines start => ⟨_, start + 1, rfl, rfl⟩⟩
  have stops : ∀ lines start, stringToken (numbered lines start (ending :: more)) = none := by
    intro lines start
    rcases endsOperand_cases ends with rfl | rfl | rfl <;> rfl
  have further := (TakesMany.items (fun text => [TokenKind.string text]) id others (fun _ => True)
    trivial item (TakesMany.nil stops)).2.many
  intro lines start
  obtain ⟨_, next, hvalues, _, rfl, rfl⟩ := further lines (start + 1)
  refine ⟨_, next, ?_, rfl⟩
  rw [List.append_nil, ← List.map_eq_flatMap, List.append_nil, List.map_id] at hvalues
  have all : manyOne stringToken (numbered lines start (.string first :: others.map .string ++
      ending :: more)) = some (first :: others, numbered lines next (ending :: more)) :=
    (bind_of_some (a := first) rfl).trans ((bind_of_some hvalues).trans rfl)
  have atom : atom rules (numbered lines start (.string first :: others.map .string ++
      ending :: more)) = some (value, numbered lines next (ending :: more)) := by
    rw [Source.atom, bind_of_some (a := some (.string first)) rfl]
    change (manyOne stringToken >>= _) _ = _
    rw [bind_of_some all, joined]
    rfl
  rw [primary, bind_of_some atom]
  rcases endsOperand_cases ends with rfl | rfl | rfl <;> rfl

/-- A function is called with literals that stand next to each other. -/
theorem call_literals (function : String) {first : StringToken} {others : List StringToken}
    {value : Expr} (joined : joinLiterals (rulesTo depth) (first :: others) = some value)
    (ends : endsOperand ending = true) :
    Takes (rulesTo (depth + 4) .expression)
      (.name function :: .symbol .leftParen :: .string first ::
        (others.map .string ++ [.symbol .rightParen])) (ending :: more)
      (· = .call (.name function) [value] []) := by
  refine called function ?_ ends
  have text : Takes (primary (rulesTo depth)) (.string first :: others.map .string)
      (.symbol .rightParen :: ending :: more) (· = value) := literals joined rfl
  have operand : Takes (Source.bitwiseOr (rulesTo (depth + 1))) (.string first :: others.map .string)
      (.symbol .rightParen :: ending :: more) (· = value) := bitwiseOr (text.factor rfl rfl) rfl
  have argument : Takes (rulesTo (depth + 2) .expression) (.string first :: others.map .string)
      (.symbol .rightParen :: ending :: more) (· = value) :=
    (operand.comparison rfl).expression rfl rfl
  obtain ⟨second, behind, next, unnamed⟩ : ∃ second behind,
      others.map .string ++ .symbol .rightParen :: ending :: more = second :: behind ∧
        second ≠ .symbol .walrus := by
    cases others with
    | nil => exact ⟨_, _, rfl, by decide⟩
    | cons other others => exact ⟨.string other, _, rfl, by simp⟩
  have named := namedExpression argument next unnamed rfl
  intro lines start
  obtain ⟨value, last, hvalue, rfl⟩ := named lines start
  refine ⟨_, last + 1, ?_, rfl⟩
  simp only [List.cons_append, List.append_assoc, List.nil_append] at hvalue ⊢
  have positional : Source.argument (rulesTo (depth + 2)) (numbered lines start (.string first ::
      (others.map .string ++ .symbol .rightParen :: ending :: more))) =
      some (.positional value, numbered lines last (.symbol .rightParen :: ending :: more)) := by
    rw [Source.argument, bind_of_some (a := false) rfl, if_neg Bool.false_ne_true,
      bind_of_some (a := false) rfl, if_neg Bool.false_ne_true,
      bind_of_some (a := some (.string first)) rfl, bind_of_some rfl, if_neg (by simp [TokenKind.nameText?]),
      bind_of_some hvalue]
    rfl
  rw [callArguments, bind_of_some (a := false) rfl, if_neg Bool.false_ne_true,
    bind_of_some positional]
  rfl

theorem expressions {first : TokenKind} {kinds : List TokenKind} {result : Expr → Prop}
    (h : Takes (rulesTo depth .expression) (first :: kinds) (.newline :: more) result)
    (begins : beginsPrimary first = true) :
    Takes (rulesTo (depth + 1) .expressions) (first :: kinds) (.newline :: more) result := by
  intro lines start
  obtain ⟨value, next, hvalue, hresult⟩ := h lines start
  refine ⟨value, next, ?_, hresult⟩
  have unstarred : first ≠ .symbol (.operator .mul) := by
    rintro rfl
    cases begins
  have item : starExpression (rulesTo depth) (numbered lines start (first :: kinds ++ .newline :: more)) =
      some (value, numbered lines next (.newline :: more)) := by
    rw [starExpression, atSymbol, List.cons_append, bind_of_some (nextIs_of_ne unstarred ..),
      if_neg Bool.false_ne_true]
    exact hvalue
  have items : separated (starExpression (rulesTo depth)) (symbol .comma)
      (numbered lines start (first :: kinds ++ .newline :: more)) =
      some ([value], numbered lines next (.newline :: more)) :=
    (bind_of_some item).trans rfl
  have list : commaList (starExpression (rulesTo depth))
      (numbered lines start (first :: kinds ++ .newline :: more)) =
      some (([value], false), numbered lines next (.newline :: more)) :=
    (bind_of_some items).trans rfl
  exact (bind_of_some list).trans rfl

/-! ### Statements -/

variable {rules : Rules} {kinds kinds' : List TokenKind} {result : Stmt → Prop}

/-- A simple statement alone on its line. -/
theorem simpleStatements (h : Takes (simpleStatement rules) kinds (.newline :: more) result) :
    Takes (Source.simpleStatements rules) (kinds ++ [.newline]) more
      fun body => ∃ statement, body = [statement] ∧ result statement := by
  intro lines start
  obtain ⟨statement, next, hstatement, hresult⟩ := h lines start
  refine ⟨[statement], next + 1, ?_, statement, rfl, hresult⟩
  have one : separated (simpleStatement rules) (symbol .semicolon)
      (numbered lines start (kinds ++ .newline :: more)) =
      some ([statement], numbered lines next (.newline :: more)) :=
    (bind_of_some hstatement).trans rfl
  rw [List.append_assoc, List.singleton_append]
  exact (bind_of_some one).trans rfl

theorem returns {first : TokenKind} {value : Expr}
    (h : Takes (rulesTo depth .expression) (first :: kinds) (.newline :: more) (· = value))
    (begins : beginsPrimary first = true) :
    Takes (statement (rulesTo (depth + 1))) (.keyword .returnK :: first :: (kinds ++ [.newline])) more
      (· = [.returns (some value)]) := by
  have simple : Takes (simpleStatement (rulesTo (depth + 1))) (.keyword .returnK :: first :: kinds)
      (.newline :: more) (· = .returns (some value)) := by
    intro lines start
    obtain ⟨value, next, hvalue, rfl⟩ := expressions h begins lines (start + 1)
    refine ⟨_, next, ?_, rfl⟩
    have possibly : possibly (rulesTo (depth + 1) .expressions)
        (numbered lines (start + 1) (first :: kinds ++ .newline :: more)) =
        some (some value, numbered lines next (.newline :: more)) := by
      rw [Source.possibly, hvalue]
    rw [simpleStatement, bind_of_some (a := some (.keyword .returnK)) rfl]
    change (skip >>= _) _ = _
    rw [bind_of_some (a := ()) rfl]
    exact (bind_of_some possibly).trans rfl
  intro lines start
  obtain ⟨_, next, hbody, _, rfl, rfl⟩ := simpleStatements simple lines start
  refine ⟨_, next, ?_, rfl⟩
  rw [statement, bind_of_some (a := some (.keyword .returnK)) rfl]
  exact hbody

/-- A block of lines that stand further to the right. -/
theorem block {results : List Stmt → Prop}
    (h : Takes (rules .statements) kinds (.dedent :: more) results) :
    Takes (block rules) (.symbol .colon :: .newline :: .indent :: (kinds ++ [.dedent])) more
      results := by
  intro lines start
  obtain ⟨body, next, hbody, hresults⟩ := h lines (start + 3)
  refine ⟨body, next + 1, ?_, hresults⟩
  simp only [List.cons_append, List.append_assoc, List.nil_append]
  rw [Source.block, bind_of_some (r := numbered lines (start + 1) _) rfl,
    bind_of_some (a := true) rfl, if_pos rfl, bind_of_some (r := numbered lines (start + 2) _) rfl,
    bind_of_some (r := numbered lines (start + 3) _) rfl]
  exact (bind_of_some hbody).trans rfl

end Takes

/-! ### Errors with messages -/

/-- The tokens of a replacement field in parentheses. -/
def fieldTokens (kinds : List TokenKind) : List Token :=
  (.symbol .leftParen :: (kinds ++ [.symbol .rightParen, .newline])).map (⟨·, 1⟩) ++
    [⟨.endOfSource, 2⟩]

theorem fieldExpr_eq {rules : Rules} {field : String} {value : Expr} (kinds : List TokenKind)
    (h : tokens? ('(' :: field.toList ++ [')']) = some (fieldTokens kinds))
    (h' : rules .expressions (fieldTokens kinds) =
      some (value, [⟨.newline, 1⟩, ⟨.endOfSource, 2⟩])) :
    fieldExpr rules field.toList = some value := by
  rw [fieldExpr, h]
  change (rules .expressions (fieldTokens kinds)).bind _ = _
  rw [h']
  rfl

/-- Each replacement field of a literal is read as the expression beside it. -/
def FieldsRead (rules : Rules) : List String → List Expr → Prop :=
  List.Forall₂ fun field value => fieldExpr rules field.toList = some value

theorem FieldsRead.mapM {rules : Rules} {fields : List String} {values : List Expr}
    (h : FieldsRead rules fields values) :
    (fields.map String.toList).mapM (fieldExpr rules) = some values := by
  induction h with
  | nil => rfl
  | cons first _ ih => simp [first, ih]

/-- Literals with replacement fields that stand next to each other. -/
theorem joinLiterals_formatted {rules : Rules} {literals : List (List String)}
    {values : List (List Expr)} (h : List.Forall₂ (FieldsRead rules) literals values) (some_ : literals ≠ []) :
    joinLiterals rules (literals.map fun fields => .formatted (fields.map String.toList)) =
      some (.formatted values.flatten) := by
  have read (next : StringToken → Option (List Expr))
      (reads : ∀ fields, next (.formatted fields) = fields.mapM (fieldExpr rules)) :
      (literals.map fun fields => StringToken.formatted (fields.map String.toList)).mapM next =
        some values := by
    clear some_
    induction h with
    | nil => rfl
    | cons first _ ih => simp [reads, first.mapM, ih]
  unfold joinLiterals
  rw [if_neg (by simp), if_pos (by simpa using List.exists_mem_of_ne_nil literals some_)]
  exact congrArg (Option.bind · _) (read _ fun _ => rfl)

/-- An error is raised with a message of literals that stand next to each other. -/
theorem Takes.raises {depth : Nat} (error : String) {first : StringToken} {others : List StringToken}
    {value : Expr} (joined : joinLiterals (rulesTo depth) (first :: others) = some value)
    (more : List TokenKind) :
    Takes (statement (rulesTo (depth + 4)))
      (.keyword .raiseK :: .name error :: .symbol .leftParen :: .string first ::
        (others.map .string ++ [.symbol .rightParen, .newline])) more
      (· = [.raises (some (.call (.name error) [value] [])) none]) := by
  have call : Takes (rulesTo (depth + 4) .expression) (.name error :: .symbol .leftParen ::
      .string first :: (others.map .string ++ [.symbol .rightParen])) (.newline :: more)
      (· = .call (.name error) [value] []) := call_literals error joined rfl
  have simple : Takes (simpleStatement (rulesTo (depth + 4)))
      (.keyword .raiseK :: .name error :: .symbol .leftParen :: .string first ::
        (others.map .string ++ [.symbol .rightParen])) (.newline :: more)
      (· = .raises (some (.call (.name error) [value] [])) none) := by
    intro lines start
    obtain ⟨_, next, hvalue, rfl⟩ := call lines (start + 1)
    refine ⟨_, next, ?_, rfl⟩
    have possibly : possibly (rulesTo (depth + 4) .expression) (numbered lines (start + 1)
        (.name error :: .symbol .leftParen :: .string first ::
          (others.map .string ++ [.symbol .rightParen]) ++ .newline :: more)) =
        some (some (.call (.name error) [value] []), numbered lines next (.newline :: more)) := by
      rw [Source.possibly, hvalue]
    rw [simpleStatement, bind_of_some (a := some (.keyword .raiseK)) rfl]
    change (skip >>= _) _ = _
    rw [bind_of_some (a := ()) rfl]
    exact (bind_of_some possibly).trans rfl
  intro lines start
  obtain ⟨_, next, hbody, _, rfl, rfl⟩ := simpleStatements simple lines start
  refine ⟨_, next, ?_, rfl⟩
  rw [statement, bind_of_some (a := some (.keyword .raiseK)) rfl]
  simpa only [List.cons_append, List.append_assoc, List.nil_append] using hbody

/-! ### Bodies -/

/-- Before other tokens statements are taken as often as there are any, and all together they are as
described. -/
def TakesBody (rules : Rules) (kinds more : List TokenKind) (results : List Stmt → Prop) : Prop :=
  TakesMany (statement rules) kinds more fun groups => results groups.flatten

namespace TakesBody

variable {rules : Rules} {kinds kinds' more : List TokenKind} {result results : List Stmt → Prop}

theorem nil (stops : ∀ lines start, statement rules (numbered lines start more) = none) :
    TakesBody rules [] more (· = []) := by
  intro lines start
  obtain ⟨_, next, hvalues, rfl⟩ := TakesMany.nil stops lines start
  exact ⟨[], next, hvalues, rfl⟩

theorem cons (first : Takes (statement rules) kinds (kinds' ++ more) result) (some_ : kinds ≠ [])
    (others : TakesBody rules kinds' more results) :
    TakesBody rules (kinds ++ kinds') more
      fun body => ∃ statement rest, body = statement ++ rest ∧ result statement ∧ results rest := by
  intro lines start
  obtain ⟨_, next, hvalues, statement, groups, rfl, hstatement, hgroups⟩ :=
    TakesMany.cons first some_ others lines start
  exact ⟨_, next, hvalues, statement, groups.flatten, rfl, hstatement, hgroups⟩

theorem mono (h : TakesBody rules kinds more result) (implies : ∀ body, result body → results body) :
    TakesBody rules kinds more results := by
  intro lines start
  obtain ⟨groups, next, hvalues, hresult⟩ := h lines start
  exact ⟨groups, next, hvalues, implies _ hresult⟩

/-- A block has at least one statement. -/
theorem statements (first : Takes (statement rules) kinds (kinds' ++ more) result)
    (others : TakesBody rules kinds' more results) :
    Takes (Source.statements rules) (kinds ++ kinds') more
      fun body => ∃ statement rest, body = statement ++ rest ∧ result statement ∧ results rest := by
  intro lines start
  obtain ⟨statement, next, hstatement, hfirst⟩ := first lines start
  obtain ⟨groups, last, hgroups, hothers⟩ := others.many lines next
  refine ⟨_, last, ?_, statement, groups.flatten, rfl, hfirst, hothers⟩
  have body : manyOne (Source.statement rules) (numbered lines start (kinds ++ kinds' ++ more)) =
      some (statement :: groups, numbered lines last more) := by
    rw [List.append_assoc]
    exact (bind_of_some hstatement).trans ((bind_of_some hgroups).trans rfl)
  exact (bind_of_some body).trans rfl

/-- No statement begins where a block ends. -/
theorem statement_dedent (depth : Nat) (more : List TokenKind) (lines : Nat → Nat) (start : Nat) :
    statement (rulesTo (depth + 5)) (numbered lines start (.dedent :: more)) = none :=
  rfl

/-- The last statement of a block. -/
theorem last {depth : Nat} (h : Takes (statement (rulesTo (depth + 5))) kinds (.dedent :: more) result)
    (some_ : kinds ≠ []) : TakesBody (rulesTo (depth + 5)) kinds (.dedent :: more) result := by
  have body := cons h some_ (.nil (statement_dedent depth more))
  rw [List.append_nil] at body
  refine body.mono ?_
  rintro _ ⟨statement, _, rfl, hstatement, rfl⟩
  rwa [List.append_nil]

/-- The only statement of a block. -/
theorem only {depth : Nat}
    (h : Takes (statement (rulesTo (depth + 5))) kinds (.dedent :: more) result) :
    Takes (rulesTo (depth + 6) .statements) kinds (.dedent :: more) result := by
  have block := statements h (.nil (statement_dedent depth more))
  rw [List.append_nil] at block
  refine block.mono ?_
  rintro _ ⟨statement, _, rfl, hstatement, rfl⟩
  rwa [List.append_nil]

/-- The statements of a module. -/
theorem moduleOfTokens_eq {depth : Nat}
    (first : Takes (statement (rulesTo (depth + 5))) kinds (kinds' ++ [.endOfSource]) result)
    (some_ : kinds ≠ []) (others : TakesBody (rulesTo (depth + 5)) kinds' [.endOfSource] results)
    (lines : Nat → Nat) (start : Nat) :
    ∃ statement rest, moduleOfTokens (depth + 6)
        (numbered lines start (kinds ++ kinds' ++ [.endOfSource])) = some (statement ++ rest) ∧
      result statement ∧ results rest := by
  obtain ⟨_, next, hbody, statement, rest, rfl, hstatement, hrest⟩ :=
    statements first others lines start
  refine ⟨statement, rest, ?_, hstatement, hrest⟩
  have read : rulesTo (depth + 6) .statements
      (numbered lines start (kinds ++ kinds' ++ [.endOfSource])) =
      some (statement ++ rest, numbered lines next [.endOfSource]) := hbody
  unfold moduleOfTokens
  split
  · rename_i alone
    have count := congrArg List.length alone
    have positive := List.length_pos_iff.2 some_
    simp only [length_numbered, List.length_append, List.length_cons, List.length_nil] at count
    omega
  · rw [read]
    rfl

end TakesBody

/-! ### Branches -/

/-- The tokens of a condition with the lines that stand under it. -/
def branchKinds (test body : List TokenKind) : List TokenKind :=
  .keyword .ifK :: (test ++ .symbol .colon :: .newline :: .indent :: (body ++ [.dedent]))

theorem Takes.conditional {rules : Rules} {test body more : List TokenKind} {follow : TokenKind}
    {value : Expr} {statements : List Stmt}
    (htest : Takes (Source.namedExpression rules) test
      (.symbol .colon :: .newline :: .indent :: (body ++ .dedent :: follow :: more)) (· = value))
    (hbody : Takes (rules .statements) body (.dedent :: follow :: more) (· = statements))
    (alone : follow ≠ .keyword .elifK ∧ follow ≠ .keyword .elseK) :
    Takes (statement rules) (branchKinds test body) (follow :: more)
      (· = [.conditional value statements []]) := by
  intro lines start
  obtain ⟨value, middle, hvalue, rfl⟩ := htest lines (start + 1)
  obtain ⟨statements, next, hblock, rfl⟩ := hbody.block lines middle
  refine ⟨_, next, ?_, rfl⟩
  simp only [branchKinds, List.cons_append, List.append_assoc, List.nil_append] at hvalue hblock ⊢
  have branches : many (do
        keyword .elifK
        let test ← Source.namedExpression rules
        return (test, ← Source.block rules)) (numbered lines next (follow :: more)) =
      some (([] : List (Expr × List Stmt)), numbered lines next (follow :: more)) :=
    many_of_none (bind_of_none (token_of_ne alone.1 lines next more))
  have last : elseBlock rules (numbered lines next (follow :: more)) =
      some ([], numbered lines next (follow :: more)) := by
    rw [elseBlock, atKeyword, bind_of_some (nextIs_of_ne alone.2 ..), if_neg Bool.false_ne_true]
    rfl
  have whole : ifStatement rules (numbered lines (start + 1) (test ++ .symbol .colon :: .newline ::
      .indent :: (body ++ .dedent :: follow :: more))) =
      some (.conditional value statements [], numbered lines next (follow :: more)) :=
    (bind_of_some hvalue).trans ((bind_of_some hblock).trans ((bind_of_some branches).trans
      (bind_of_some last)))
  rw [statement, bind_of_some (a := some (.keyword .ifK)) rfl]
  change (skip >>= _) _ = _
  rw [bind_of_some (a := ()) rfl]
  exact (bind_of_some whole).trans rfl

/-- There are tokens, and no branch goes on with them. -/
def EndsBranches (kinds : List TokenKind) : Prop :=
  ∃ kind others, kinds = kind :: others ∧ kind ≠ .keyword .elifK ∧ kind ≠ .keyword .elseK

/-- A branch, and other statements behind it. -/
theorem TakesBody.branch {rules : Rules} {test body kinds more : List TokenKind} {value : Expr}
    {statements : List Stmt} {results : List Stmt → Prop}
    (htest : ∀ more, Takes (Source.namedExpression rules) test (.symbol .colon :: more) (· = value))
    (hbody : ∀ more, Takes (rules .statements) body (.dedent :: more) (· = statements))
    (ends : EndsBranches (kinds ++ more)) (last : TakesBody rules kinds more results) :
    TakesBody rules (branchKinds test body ++ kinds) more
      fun all => ∃ rest, all = .conditional value statements [] :: rest ∧ results rest := by
  obtain ⟨kind, others, next, alone⟩ := ends
  have first : Takes (statement rules) (branchKinds test body) (kinds ++ more)
      (· = [.conditional value statements []]) := by
    rw [next]
    exact .conditional (htest _) (hbody _) alone
  refine (cons first (List.cons_ne_nil _ _) last).mono ?_
  rintro _ ⟨_, rest, rfl, rfl, hrest⟩
  exact ⟨rest, rfl, hrest⟩

/-- Branches one after the other, and other statements behind them. -/
theorem TakesBody.branches {α : Type} {rules : Rules} {kinds more : List TokenKind}
    {results : List Stmt → Prop} (xs : List α) (test body : α → List TokenKind)
    (value : α → Expr) (statements : α → List Stmt)
    (htest : ∀ x ∈ xs, ∀ more, Takes (Source.namedExpression rules) (test x) (.symbol .colon :: more)
      (· = value x))
    (hbody : ∀ x ∈ xs, ∀ more, Takes (rules .statements) (body x) (.dedent :: more)
      (· = statements x))
    (ends : EndsBranches (kinds ++ more)) (last : TakesBody rules kinds more results) :
    TakesBody rules (xs.flatMap (fun x => branchKinds (test x) (body x)) ++ kinds) more
      fun all => ∃ rest, all = xs.map (fun x => .conditional (value x) (statements x) []) ++ rest ∧
        results rest := by
  have item : ∀ x ∈ xs, ∀ behind, EndsBranches behind →
      EndsBranches (branchKinds (test x) (body x) ++ behind) ∧
      branchKinds (test x) (body x) ≠ [] ∧
      Takes (statement rules) (branchKinds (test x) (body x)) behind
        (· = [.conditional (value x) (statements x) []]) := by
    rintro x hx _ ⟨kind, rest, rfl, alone⟩
    refine ⟨⟨.keyword .ifK, _, rfl, by decide, by decide⟩, List.cons_ne_nil _ _, ?_⟩
    exact .conditional (htest x hx _) (hbody x hx _) alone
  obtain ⟨-, all⟩ := TakesMany.items (fun x => branchKinds (test x) (body x))
    (fun x => [Stmt.conditional (value x) (statements x) []]) xs EndsBranches ends item last
  intro lines start
  obtain ⟨_, next, hvalues, groups, rfl, hgroups⟩ := all lines start
  refine ⟨_, next, hvalues, groups.flatten, ?_, hgroups⟩
  rw [List.flatten_append, ← List.flatMap_def, List.map_eq_flatMap]

/-! ### Methods of classes -/

/-- The tokens of a class method with one parameter. -/
def methodKinds (name parameter : String) (hint returned body : List TokenKind) :
    List TokenKind :=
  .symbol (.operator .matMul) :: .name "classmethod" :: .newline :: .keyword .defK :: .name name ::
    .symbol .leftParen :: .name "cls" :: .symbol .comma :: .name parameter :: .symbol .colon ::
    (hint ++ .symbol .rightParen :: .symbol .arrow ::
      (returned ++ .symbol .colon :: .newline :: .indent :: (body ++ [.dedent])))

/-- A class method with one parameter. -/
def classMethod (name parameter : String) (hint returned : Expr) (body : List Stmt) : Stmt :=
  .functionDef false name [.name "classmethod"]
    ⟨[], [⟨"cls", none, none⟩, ⟨parameter, some hint, none⟩], none, [], none⟩ (some returned) body

namespace Takes

variable {depth : Nat} {rules : Rules} {name parameter : String}
  {hint returned body more : List TokenKind} {type result : Expr} {results : List Stmt → Prop}

theorem annotatedParameter
    (h : Takes (rules .expression) hint (.symbol .rightParen :: more) (· = type)) :
    Takes (parameterEntry rules true) (.name parameter :: .symbol .colon :: hint)
      (.symbol .rightParen :: more) (· = .plain ⟨parameter, some type, none⟩) := by
  intro lines start
  obtain ⟨type, next, htype, rfl⟩ := h lines (start + 2)
  refine ⟨_, next, ?_, rfl⟩
  have note : (do
        symbol .colon
        if false && (← atSymbol (.operator .mul)) then
          skip
          return .starred (← Source.bitwiseOr rules)
        else rules .expression : Rule Expr)
      (numbered lines (start + 1) (.symbol .colon :: hint ++ .symbol .rightParen :: more)) =
      some (type, numbered lines next (.symbol .rightParen :: more)) :=
    (bind_of_some (r := numbered lines (start + 2) _) rfl).trans
      ((bind_of_some rfl).trans htype)
  have possibly : possibly (do
        symbol .colon
        if false && (← atSymbol (.operator .mul)) then
          skip
          return .starred (← Source.bitwiseOr rules)
        else rules .expression : Rule Expr)
      (numbered lines (start + 1) (.symbol .colon :: hint ++ .symbol .rightParen :: more)) =
      some (some type, numbered lines next (.symbol .rightParen :: more)) := by
    rw [Source.possibly, note]
  rw [parameterEntry, bind_of_some (a := some (.name parameter)) rfl]
  change (Source.name >>= _) _ = _
  rw [bind_of_some (a := parameter) rfl]
  exact (bind_of_some possibly).trans rfl

theorem parameters (parameter : String)
    (h : Takes (rules .expression) hint (.symbol .rightParen :: more) (· = type)) :
    Takes (Source.parameters rules true .rightParen)
      (.name "cls" :: .symbol .comma :: .name parameter :: .symbol .colon :: hint)
      (.symbol .rightParen :: more)
      (· = ⟨[], [⟨"cls", none, none⟩, ⟨parameter, some type, none⟩], none, [], none⟩) := by
  have entry : Takes (do
        symbol .comma
        parameterEntry rules true)
      (.symbol .comma :: .name parameter :: .symbol .colon :: hint)
      (.symbol .rightParen :: more) (· = .plain ⟨parameter, some type, none⟩) := by
    intro lines start
    obtain ⟨_, next, hvalue, rfl⟩ := annotatedParameter h lines (start + 1)
    exact ⟨_, next, (bind_of_some (r := numbered lines (start + 1) _) rfl).trans hvalue, rfl⟩
  have entries := (TakesMany.cons entry (by simp) (.nil fun _ _ => rfl)).many
  intro lines start
  obtain ⟨_, next, hvalues, _, _, rfl, rfl, rfl⟩ := entries lines (start + 1)
  refine ⟨_, next, ?_, rfl⟩
  rw [List.append_nil] at hvalues
  have all : separated (parameterEntry rules true) (symbol .comma) (numbered lines start
      (.name "cls" :: .symbol .comma :: .name parameter :: .symbol .colon :: hint ++
        .symbol .rightParen :: more)) =
      some ([.plain ⟨"cls", none, none⟩, .plain ⟨parameter, some type, none⟩],
        numbered lines next (.symbol .rightParen :: more)) :=
    (bind_of_some (a := .plain ⟨"cls", none, none⟩) rfl).trans ((bind_of_some hvalues).trans rfl)
  have list : commaList (parameterEntry rules true) (numbered lines start
      (.name "cls" :: .symbol .comma :: .name parameter :: .symbol .colon :: hint ++
        .symbol .rightParen :: more)) =
      some (([.plain ⟨"cls", none, none⟩, .plain ⟨parameter, some type, none⟩], false),
        numbered lines next (.symbol .rightParen :: more)) :=
    (bind_of_some all).trans rfl
  rw [Source.parameters, bind_of_some (a := false) rfl, if_neg Bool.false_ne_true]
  exact (bind_of_some list).trans rfl

/-- **A class method with one parameter.** -/
theorem classMethod
    (htype : Takes (rulesTo (depth + 3) .expression) hint
      (.symbol .rightParen :: .symbol .arrow ::
        (returned ++ .symbol .colon :: .newline :: .indent :: (body ++ .dedent :: more))) (· = type))
    (hreturned : Takes (rulesTo (depth + 3) .expression) returned
      (.symbol .colon :: .newline :: .indent :: (body ++ .dedent :: more)) (· = result))
    (hbody : Takes (rulesTo (depth + 3) .statements) body (.dedent :: more) results) :
    Takes (statement (rulesTo (depth + 3))) (methodKinds name parameter hint returned body) more
      fun method => ∃ statements, method = [Source.classMethod name parameter type result statements] ∧
        results statements := by
  intro lines start
  obtain ⟨_, first, hparameters, rfl⟩ := parameters parameter htype lines (start + 6)
  obtain ⟨result, second, hresult, rfl⟩ := hreturned lines (first + 2)
  obtain ⟨statements, next, hblock, described⟩ := hbody.block lines second
  refine ⟨_, next, ?_, statements, rfl, described⟩
  simp only [methodKinds, List.cons_append, List.append_assoc, List.nil_append]
    at hparameters hresult hblock ⊢
  have arrow : possibly (do
        symbol .arrow
        rulesTo (depth + 3) .expression)
      (numbered lines (first + 1) (.symbol .arrow ::
        (returned ++ .symbol .colon :: .newline :: .indent :: (body ++ .dedent :: more)))) =
      some (some result, numbered lines second
        (.symbol .colon :: .newline :: .indent :: (body ++ .dedent :: more))) := by
    rw [Source.possibly, bind_of_some (r := numbered lines (first + 2) _) rfl, hresult]
  have function : functionDef (rulesTo (depth + 3)) false [.name "classmethod"]
      (numbered lines (start + 4) (.name name :: .symbol .leftParen :: .name "cls" ::
        .symbol .comma :: .name parameter :: .symbol .colon :: (hint ++ .symbol .rightParen ::
          .symbol .arrow :: (returned ++ .symbol .colon :: .newline :: .indent ::
            (body ++ .dedent :: more))))) =
      some (Source.classMethod name parameter type result statements, numbered lines next more) := by
    rw [functionDef, bind_of_some (a := name) rfl,
      bind_of_some (r := numbered lines (start + 6) _) rfl, bind_of_some hparameters,
      bind_of_some (r := numbered lines (first + 1) _) rfl, bind_of_some arrow,
      bind_of_some hblock]
    rfl
  have method : decorated (rulesTo (depth + 3)) (numbered lines start
      (.symbol (.operator .matMul) :: .name "classmethod" :: .newline :: .keyword .defK ::
        .name name :: .symbol .leftParen :: .name "cls" :: .symbol .comma :: .name parameter ::
        .symbol .colon :: (hint ++ .symbol .rightParen :: .symbol .arrow ::
          (returned ++ .symbol .colon :: .newline :: .indent :: (body ++ .dedent :: more))))) =
      some (Source.classMethod name parameter type result statements, numbered lines next more) := by
    rw [decorated, bind_of_some (a := [.name "classmethod"]) (r := numbered lines (start + 3) _) rfl,
      bind_of_some (a := false) rfl, if_neg Bool.false_ne_true, bind_of_some (a := none) rfl,
      bind_of_some (r := numbered lines (start + 4) _) rfl]
    exact function
  rw [statement, bind_of_some (a := some (.symbol (.operator .matMul))) rfl]
  exact (bind_of_some method).trans rfl

end Takes

/-! ### Classes and imports -/

namespace Takes

variable {depth : Nat} {rules : Rules} {kinds more : List TokenKind}

/-- A class without bases. -/
theorem plainClass {word : String} {result : List Stmt → Prop}
    (h : Takes (rules .statements) kinds (.dedent :: more) result) :
    Takes (statement rules) (.keyword .classK :: nameKind word :: .symbol .colon :: .newline ::
        .indent :: (kinds ++ [.dedent])) more
      fun statements => ∃ line body, statements = [.classDef line (nameOf word) [] [] [] body] ∧
        result body := by
  intro lines start
  obtain ⟨body, next, hblock, hresult⟩ := h.block lines (start + 2)
  refine ⟨_, next, ?_, lines start, body, rfl, hresult⟩
  simp only [List.cons_append, List.append_assoc, List.nil_append] at hblock ⊢
  have whole : classDef rules [] (numbered lines start (.keyword .classK :: nameKind word ::
      .symbol .colon :: .newline :: .indent :: (kinds ++ .dedent :: more))) =
      some (.classDef (lines start) (nameOf word) [] [] [] body, numbered lines next more) := by
    rw [classDef, bind_of_some (a := lines start) rfl,
      bind_of_some (r := numbered lines (start + 1) _) rfl,
      bind_of_some (name_numbered word ..), bind_of_some (a := ([], [])) rfl]
    exact (bind_of_some hblock).trans rfl
  rw [statement, bind_of_some (a := some (.keyword .classK)) rfl]
  exact (bind_of_some whole).trans rfl

theorem dottedName (name : String) (more : List TokenKind) :
    Takes Source.dottedName (referenceKinds (dotPieces name)) (.keyword .importK :: more)
      (· = Text.joinDots ((dotPieces name).map nameOf)) := by
  obtain ⟨piece, pieces, split⟩ := dotPieces_eq_cons name
  have other : ∀ piece ∈ pieces, ∀ behind, Takes (do
        symbol .dot
        Source.name) [.symbol .dot, nameKind piece] behind (· = nameOf piece) := by
    intro piece _ behind lines start
    exact ⟨_, start + 2, (bind_of_some (r := numbered lines (start + 1) _) rfl).trans
      (name_numbered piece lines (start + 1) behind), rfl⟩
  have stops : ∀ lines start, (do
        symbol .dot
        Source.name : Rule String) (numbered lines start (.keyword .importK :: more)) = none :=
    fun _ _ => rfl
  have others := (TakesMany.items (fun piece => [.symbol .dot, nameKind piece]) nameOf
    pieces (fun _ => True) trivial
    (fun piece member behind _ => ⟨trivial, by simp, other piece member behind⟩)
    (TakesMany.nil stops)).2.many
  rw [split]
  intro lines start
  obtain ⟨_, next, hvalues, _, rfl, rfl⟩ := others lines (start + 1)
  refine ⟨_, next, ?_, rfl⟩
  rw [List.append_nil] at hvalues
  have all : separated Source.name (symbol .dot) (numbered lines start
      (referenceKinds (piece :: pieces) ++ .keyword .importK :: more)) =
      some (nameOf piece :: (pieces.map nameOf ++ []), numbered lines next (.keyword .importK :: more)) :=
    (bind_of_some (name_numbered piece ..)).trans ((bind_of_some hvalues).trans rfl)
  refine (bind_of_some all).trans ?_
  rw [List.append_nil]
  rfl

theorem importedNames (word : String) (more : List TokenKind) :
    Takes Source.importedNames [nameKind word] (.newline :: more) (· = [⟨nameOf word, none⟩]) := by
  intro lines start
  refine ⟨_, start + 1, ?_, rfl⟩
  have entry : (do return ⟨← Source.name, ← importAlias⟩ : Rule ImportedName)
      (numbered lines start (nameKind word :: .newline :: more)) =
      some (⟨nameOf word, none⟩, numbered lines (start + 1) (.newline :: more)) :=
    (bind_of_some (name_numbered word ..)).trans rfl
  have entries : separated (do return ⟨← Source.name, ← importAlias⟩ : Rule ImportedName)
      (symbol .comma) (numbered lines start (nameKind word :: .newline :: more)) =
      some ([⟨nameOf word, none⟩], numbered lines (start + 1) (.newline :: more)) :=
    (bind_of_some entry).trans rfl
  change Source.importedNames (numbered lines start (nameKind word :: .newline :: more)) = _
  rw [Source.importedNames, atSymbol, atSymbol,
    bind_of_some (nextIs_of_ne (nameKind_ne_symbol word _) ..), if_neg Bool.false_ne_true,
    bind_of_some (nextIs_of_ne (nameKind_ne_symbol word _) ..), if_neg Bool.false_ne_true,
    bind_of_some entries]
  rfl

/-- A name is imported from a module with a dotted name. -/
theorem importFrom (module word : String) :
    Takes (statement rules) (.keyword .fromK :: (referenceKinds (dotPieces module) ++
        [.keyword .importK, nameKind word, .newline])) more
      (· = [.importFrom (some (Text.joinDots ((dotPieces module).map nameOf)))
        [⟨nameOf word, none⟩] 0]) := by
  have imported : Takes (simpleStatement rules) (.keyword .fromK ::
      (referenceKinds (dotPieces module) ++ [.keyword .importK, nameKind word])) (.newline :: more)
      (· = .importFrom (some (Text.joinDots ((dotPieces module).map nameOf)))
        [⟨nameOf word, none⟩] 0) := by
    intro lines start
    obtain ⟨_, middle, hmodule, rfl⟩ :=
      dottedName module (nameKind word :: .newline :: more) lines (start + 1)
    obtain ⟨_, next, hnames, rfl⟩ := importedNames word more lines (middle + 1)
    refine ⟨_, next, ?_, rfl⟩
    simp only [List.cons_append, List.append_assoc, List.nil_append] at hnames ⊢
    have level : importLevel (numbered lines (start + 1) (referenceKinds (dotPieces module) ++
        .keyword .importK :: nameKind word :: .newline :: more)) =
        some (0, numbered lines (start + 1) (referenceKinds (dotPieces module) ++
          .keyword .importK :: nameKind word :: .newline :: more)) := by
      obtain ⟨piece, pieces, split⟩ := dotPieces_eq_cons module
      rw [split, referenceKinds]
      rcases nameText?_cases (nameText?_nameKind piece) with name | ⟨soft, name, -⟩
      · rw [name]
        rfl
      · rw [name]
        rfl
    have named : possibly Source.dottedName (numbered lines (start + 1)
        (referenceKinds (dotPieces module) ++ .keyword .importK :: nameKind word :: .newline :: more)) =
        some (some (Text.joinDots ((dotPieces module).map nameOf)), numbered lines middle
          (.keyword .importK :: nameKind word :: .newline :: more)) := by
      rw [possibly, hmodule]
    rw [simpleStatement, bind_of_some (a := some (.keyword .fromK)) rfl]
    change (skip >>= _) _ = _
    rw [bind_of_some (r := numbered lines (start + 1) _) rfl, Source.importFrom,
      bind_of_some level, bind_of_some named, bind_of_some (a := ()) rfl,
      bind_of_some (r := numbered lines (middle + 1) _) rfl, bind_of_some hnames]
    rfl
  intro lines start
  obtain ⟨_, next, hbody, _, rfl, rfl⟩ := simpleStatements imported lines start
  refine ⟨_, next, ?_, rfl⟩
  rw [statement, bind_of_some (a := some (.keyword .fromK)) rfl]
  simpa only [List.cons_append, List.append_assoc, List.nil_append] using hbody

end Takes

/-! ### Tuples of texts -/

/-- The tokens of texts, each with a comma behind it. -/
def textKinds (texts : List String) : List TokenKind :=
  texts.flatMap fun text => [.string (.text text), .symbol .comma]

/-- The comma behind a text is as well the comma before the next one. -/
theorem textKinds_eq (texts : List String) :
    .symbol .comma :: textKinds texts =
      texts.flatMap (fun text => [.symbol .comma, .string (.text text)]) ++ [.symbol .comma] := by
  induction texts with
  | nil => rfl
  | cons text texts ih =>
      rw [List.flatMap_cons, List.append_assoc, ← ih]
      rfl

/-- The constant of a literal of characters is its text. -/
@[simp]
theorem ofText_codes (text : String) :
    Constant.ofText (.ofCodes (StringToken.text text).codes) = .text text := by
  rw [StringToken.codes, Text.CodeText.ofCodes_chars, String.ofList_toList]
  rfl

/-- A text as an expression. -/
def textExpr (text : String) : Expr :=
  .constant (.text text)

namespace Takes

variable {depth : Nat} {rules : Rules} {more : List TokenKind}

theorem text_starNamed (depth : Nat) (text : String) (more : List TokenKind) :
    Takes (starNamed (rulesTo (depth + 3))) [.string (.text text)] (.symbol .comma :: more)
      (· = textExpr text) :=
  fun lines start => ⟨_, start + 1, rfl, by simp [textExpr]⟩

/-- **A tuple of texts.** -/
theorem textTuple (depth : Nat) (texts : List String) (more : List TokenKind) :
    Takes (parenthesized (rulesTo (depth + 3))) (textKinds texts ++ [.symbol .rightParen]) more
      (· = .tuple (texts.map textExpr)) := by
  cases texts with
  | nil => exact fun lines start => ⟨_, start + 1, rfl, rfl⟩
  | cons text texts =>
      have item : ∀ text ∈ texts, ∀ behind, (∃ rest, behind = .symbol .comma :: rest) →
          (∃ rest, [.symbol .comma, .string (.text text)] ++ behind = .symbol .comma :: rest) ∧
          [TokenKind.symbol .comma, .string (.text text)] ≠ [] ∧
          Takes (do
            symbol .comma
            starNamed (rulesTo (depth + 3))) [.symbol .comma, .string (.text text)] behind
            (· = textExpr text) := by
        rintro text - _ ⟨rest, rfl⟩
        refine ⟨⟨_, rfl⟩, by simp, fun lines start => ?_⟩
        obtain ⟨_, next, hvalue, rfl⟩ := text_starNamed depth text rest lines (start + 1)
        exact ⟨_, next, (bind_of_some (r := numbered lines (start + 1) _) rfl).trans hvalue, rfl⟩
      have stops : ∀ lines start, (do
            symbol .comma
            starNamed (rulesTo (depth + 3)))
          (numbered lines start (.symbol .comma :: .symbol .rightParen :: more)) = none :=
        fun _ _ => rfl
      obtain ⟨⟨rest, comma⟩, others⟩ := TakesMany.items
        (fun text => [.symbol .comma, .string (.text text)]) textExpr texts
        (fun kinds => ∃ rest, kinds = .symbol .comma :: rest) ⟨_, rfl⟩ item (TakesMany.nil stops)
      rw [List.append_nil] at comma others
      have regrouped : textKinds (text :: texts) ++ [.symbol .rightParen] ++ more =
          [.string (.text text)] ++ .symbol .comma :: rest := by
        have shifted := congrArg (· ++ .symbol .rightParen :: more) (textKinds_eq texts)
        simp only [List.cons_append, List.append_assoc, List.nil_append] at shifted comma
        rw [← comma, ← shifted]
        simp [textKinds]
      intro lines start
      obtain ⟨_, middle, hfirst, rfl⟩ := text_starNamed depth text rest lines start
      obtain ⟨_, next, hvalues, _, rfl, rfl⟩ := others.many lines middle
      refine ⟨_, next + 2, ?_, rfl⟩
      rw [comma] at hvalues
      rw [regrouped, parenthesized, atSymbol, atKeyword, bind_of_some (a := false) rfl,
        if_neg Bool.false_ne_true, bind_of_some (a := false) rfl, if_neg Bool.false_ne_true,
        bind_of_some hfirst, displayTail, bind_of_some (a := false) rfl, if_neg Bool.false_ne_true,
        bind_of_some hvalues, bind_of_some (a := some ()) rfl, bind_of_some (a := ()) rfl]
      · rw [List.append_nil]
        cases texts with
        | nil => rfl
        | cons => rfl
      · intro value starred
        cases starred

theorem textTuple_expressions (texts : List String) :
    Takes (rulesTo (depth + 6) .expressions)
      (.symbol .leftParen :: (textKinds texts ++ [.symbol .rightParen])) (.newline :: more)
      (· = .tuple (texts.map textExpr)) := by
  have primary : Takes (Source.primary (rulesTo (depth + 3)))
      (.symbol .leftParen :: (textKinds texts ++ [.symbol .rightParen])) (.newline :: more)
      (· = .tuple (texts.map textExpr)) := by
    intro lines start
    obtain ⟨_, next, htuple, rfl⟩ :=
      textTuple depth texts (.newline :: more) lines (start + 1)
    refine ⟨_, next, ?_, rfl⟩
    have atom : atom (rulesTo (depth + 3)) (numbered lines start
        (.symbol .leftParen :: (textKinds texts ++ [.symbol .rightParen]) ++ .newline :: more)) =
        some (.tuple (texts.map textExpr), numbered lines next (.newline :: more)) := by
      rw [Source.atom, bind_of_some (a := some (.symbol .leftParen)) rfl]
      change (skip >>= _) _ = _
      rw [bind_of_some (r := numbered lines (start + 1) _) rfl]
      exact htuple
    exact (bind_of_some atom).trans rfl
  have operand : Takes (Source.bitwiseOr (rulesTo (depth + 4)))
      (.symbol .leftParen :: (textKinds texts ++ [.symbol .rightParen])) (.newline :: more)
      (· = .tuple (texts.map textExpr)) :=
    bitwiseOr (primary.factor rfl rfl) rfl
  have value : Takes (rulesTo (depth + 5) .expression)
      (.symbol .leftParen :: (textKinds texts ++ [.symbol .rightParen])) (.newline :: more)
      (· = .tuple (texts.map textExpr)) :=
    (operand.comparison rfl).expression rfl rfl
  exact value.expressions rfl

end Takes

end EnumCodec.Source
