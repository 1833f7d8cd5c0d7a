import EnumCodec.Source.Grammar.Basic
import EnumCodec.Source.Grammar.Target
import EnumCodec.Source.Token.Reading

/-!
# EnumCodec.Source.Grammar.Expression

**The rules for expressions.** From the loosest to the tightest: conditional expressions and unnamed
functions, `or`, `and`, `not`, comparisons, the operators on bits, shifts, sums, products, signs,
powers, `await`, and atoms with their calls, subscripts and attributes.
-/

namespace EnumCodec.Source

/-! ### Operators -/

/-- Operands with operators of one strength between them, grouped to the left. -/
def leftGrouped (operand : Rule Expr) (operators : List BinaryOp) : Rule Expr := do
  let first ← operand
  let others ← many do
    match ← peek with
    | some (.symbol (.operator op)) =>
      require (operators.contains op)
      skip
      return (op, ← operand)
    | _ => failure
  return others.foldl (fun left (op, right) => .binary left op right) first

/-- Operands joined by the operators on bits, down to products. -/
def bitwiseOr (rules : Rules) : Rule Expr :=
  let term := leftGrouped (rules .factor) [.mul, .div, .floorDiv, .mod, .matMul]
  let sum := leftGrouped term [.add, .sub]
  let shift := leftGrouped sum [.shiftLeft, .shiftRight]
  let bitAnd := leftGrouped shift [.bitAnd]
  let bitXor := leftGrouped bitAnd [.bitXor]
  leftGrouped bitXor [.bitOr]

/-! ### Parameters -/

/-- One entry of a list of parameters. -/
inductive ParameterEntry where
  /-- A parameter. -/
  | plain (parameter : Parameter Expr)
  /-- The slash behind the parameters that only a position can reach. -/
  | slash
  /-- The star before the parameters that only a keyword can reach. -/
  | star
  /-- A star with the parameter for further positional arguments. -/
  | variadic (parameter : Parameter Expr)
  /-- Two stars with the parameter for further keyword arguments. -/
  | keywords (parameter : Parameter Expr)

/-- An entry of a list of parameters; those of a function with a name may have annotations. -/
def parameterEntry (rules : Rules) (annotated : Bool) : Rule ParameterEntry := do
  let annotation := fun (starred : Bool) => (do
    if annotated then
      possibly do
        symbol .colon
        if starred && (← atSymbol (.operator .mul)) then
          skip
          return .starred (← bitwiseOr rules)
        else rules .expression
    else return none : Rule (Option Expr))
  match ← peek with
  | some (.symbol (.operator .div)) =>
    skip
    return .slash
  | some (.symbol (.operator .pow)) =>
    skip
    let name ← name
    return .keywords ⟨name, ← annotation false, none⟩
  | some (.symbol (.operator .mul)) =>
    skip
    match ← possibly name with
    | none => return .star
    | some name => return .variadic ⟨name, ← annotation true, none⟩
  | _ =>
    let name ← name
    let note ← annotation false
    let default ← possibly do
      symbol .assign
      rules .expression
    return .plain ⟨name, note, default⟩

/-- Arranges parameters before the star. Behind one with a default all must have one, and a slash
needs a parameter before it. The rest begins with a star of some kind or is empty. -/
def arrangePositional (defaults : Bool) : List ParameterEntry →
    Option (List (Parameter Expr) × List ParameterEntry)
  | .plain parameter :: rest =>
    if defaults && parameter.default.isNone then none
    else (arrangePositional (defaults || parameter.default.isSome) rest).map fun (ps, after) =>
      (parameter :: ps, after)
  | rest => some ([], rest)

/-- Arranges the parameters behind the star: those that only a keyword can reach, and the one for
further keyword arguments at the end. -/
def arrangeKeywords : List ParameterEntry →
    Option (List (Parameter Expr) × Option (Parameter Expr))
  | [] => some ([], none)
  | [.keywords parameter] => some ([], some parameter)
  | .plain parameter :: rest =>
    (arrangeKeywords rest).map fun (ps, last) => (parameter :: ps, last)
  | _ => none

/-- Arranges parameters up to the star: those that only a position can reach stand before a slash. -/
def arrangeBeforeStar (entries : List ParameterEntry) :
    Option (List (Parameter Expr) × List (Parameter Expr) × List ParameterEntry) := do
  let (first, rest) ← arrangePositional false entries
  match rest with
  | .slash :: more =>
    if first.isEmpty then none
    else
      let (second, rest) ← arrangePositional (first.any (·.default.isSome)) more
      some (first, second, rest)
  | _ => some ([], first, rest)

/-- Arranges a list of parameters, if they are in an order that is allowed. -/
def arrangeParameters (entries : List ParameterEntry) : Option (Parameters Expr) := do
  let (positionalOnly, positional, rest) ← arrangeBeforeStar entries
  match rest with
  | .star :: .plain parameter :: more =>
    let (keywordOnly, keywords) ← arrangeKeywords (.plain parameter :: more)
    some { positionalOnly, positional, variadic := none, keywordOnly, keywords }
  | .variadic parameter :: more =>
    let (keywordOnly, keywords) ← arrangeKeywords more
    some { positionalOnly, positional, variadic := some parameter, keywordOnly, keywords }
  | _ =>
    let (keywordOnly, keywords) ← arrangeKeywords rest
    if keywordOnly.isEmpty then
      some { positionalOnly, positional, variadic := none, keywordOnly, keywords }
    else none

/-- The parameters of a function, up to the token behind them. -/
def parameters (rules : Rules) (annotated : Bool) (ending : Symbol) : Rule (Parameters Expr) := do
  if ← atSymbol ending then
    return ⟨[], [], none, [], none⟩
  else
    let (entries, _) ← commaList (parameterEntry rules annotated)
    match arrangeParameters entries with
    | some parameters => return parameters
    | none => failure

/-! ### Comparisons -/

/-- The comparison that the next tokens name. -/
def comparisonOp : Rule CompareOp := do
  match ← peek with
  | some (.symbol .equal) => skip; return .equal
  | some (.symbol .notEqual) => skip; return .notEqual
  | some (.symbol .less) => skip; return .less
  | some (.symbol .lessEqual) => skip; return .lessEqual
  | some (.symbol .greater) => skip; return .greater
  | some (.symbol .greaterEqual) => skip; return .greaterEqual
  | some (.keyword .inK) => skip; return .within
  | some (.keyword .notK) =>
    skip
    keyword .inK
    return .notWithin
  | some (.keyword .isK) =>
    skip
    if ← atKeyword .notK then
      skip
      return .notIdentical
    else return .identical
  | _ => failure

/-! ### Atoms -/

/-- The expression of a replacement field: its source text in parentheses. -/
def fieldExpr (rules : Rules) (field : List Char) : Option Expr := do
  let tokens ← tokens? ('(' :: field ++ [')'])
  let (value, rest) ← rules .expressions tokens
  match rest with
  | [⟨.newline, _⟩, ⟨.endOfSource, _⟩] => return value
  | _ => none

/-- The value of literals that stand next to each other: byte strings only, or texts, where one with
replacement fields makes the whole such a text. -/
def joinLiterals (rules : Rules) (literals : List StringToken) : Option Expr :=
  if literals.any (· matches .bytes _) then do
    let parts ← literals.mapM fun
      | .bytes value => some value
      | _ => none
    return .constant (.bytes parts.flatten)
  else if literals.any (· matches .formatted _) then do
    let fields ← literals.mapM fun
      | .formatted fields => fields.mapM (fieldExpr rules)
      | _ => some []
    return .formatted fields.flatten
  else
    some (.constant (.ofText (.ofCodes (literals.flatMap StringToken.codes))))

/-- One string literal. -/
def stringToken : Rule StringToken := do
  match ← peek with
  | some (.string value) => skip; return value
  | _ => failure

/-- String literals that stand next to each other. -/
def stringLiterals (rules : Rules) : Rule Expr := do
  let literals ← manyOne stringToken
  match joinLiterals rules literals with
  | some value => return value
  | none => failure

/-- Is the next token a name with the sign `:=` behind it? -/
def atNamed : Rule Bool := do
  match (← peek).bind TokenKind.nameText? with
  | some _ => return (← peekSecond) = some (.symbol .walrus)
  | none => return false

/-- An expression that may get a name. -/
def namedExpression (rules : Rules) : Rule Expr := do
  if ← atNamed then
    let target ← name
    skip
    return .named target (← rules .expression)
  else
    let value ← rules .expression
    require (!(← atSymbol .walrus))
    return value

/-- A chain of comparisons. -/
def comparison (rules : Rules) : Rule Expr := do
  let first ← bitwiseOr rules
  let others ← many do
    let op ← comparisonOp
    return (op, ← bitwiseOr rules)
  if others.isEmpty then return first else return .compare first others

/-- A comparison with any number of `not` before it. -/
def inversion (rules : Rules) : Rule Expr := do
  let negations ← many (keyword .notK)
  let operand ← comparison rules
  return negations.foldl (fun value _ => .unary .not value) operand

/-- Operands joined by `and`. -/
def conjunction (rules : Rules) : Rule Expr := do
  match ← separated (inversion rules) (keyword .andK) with
  | [operand] => return operand
  | operands => return .all operands

/-- Operands joined by `or`. -/
def disjunction (rules : Rules) : Rule Expr := do
  match ← separated (conjunction rules) (keyword .orK) with
  | [operand] => return operand
  | operands => return .any operands

/-- An item of a list, a set or a tuple: an expression that may get a name, or one with a star. -/
def starNamed (rules : Rules) : Rule Expr := do
  if ← atSymbol (.operator .mul) then
    skip
    return .starred (← bitwiseOr rules)
  else namedExpression rules

/-- An item of a list of expressions outside brackets: an expression, or one with a star. -/
def starExpression (rules : Rules) : Rule Expr := do
  if ← atSymbol (.operator .mul) then
    skip
    return .starred (← bitwiseOr rules)
  else rules .expression

/-- One expression, or several with commas between them. -/
def starExpressions (rules : Rules) : Rule Expr := do
  return tupleUnlessSingle (← commaList (starExpression rules))

/-- A `yield` expression. -/
def yieldExpression (rules : Rules) : Rule Expr := do
  keyword .yieldK
  if ← atKeyword .fromK then
    skip
    return .yieldFrom (← rules .expression)
  else
    return .yield (← possibly (rules .expressions))

/-! ### Calls, subscripts and comprehensions -/

/-- One argument of a call. -/
inductive Argument where
  /-- An argument by position. -/
  | positional (value : Expr)
  /-- A sequence of such arguments. -/
  | starred (value : Expr)
  /-- An argument by keyword. -/
  | keyword (name : String) (value : Expr)
  /-- A mapping of such arguments. -/
  | unpacked (value : Expr)

/-- One argument of a call. -/
def argument (rules : Rules) : Rule Argument := do
  if ← atSymbol (.operator .mul) then
    skip
    return .starred (← rules .expression)
  else if ← atSymbol (.operator .pow) then
    skip
    return .unpacked (← rules .expression)
  else if ((← peek).bind TokenKind.nameText?).isSome && (← peekSecond) = some (.symbol .assign) then
    let key ← name
    skip
    return .keyword key (← rules .expression)
  else
    let value ← namedExpression rules
    require (!(← atSymbol .assign))
    return .positional value

/-- The arguments of a call by position and by keyword, if they are in an order that is allowed: no
argument by position may follow one by keyword, and no star may follow two stars. -/
def arrangeArguments (keywordSeen mappingSeen : Bool) : List Argument →
    Option (List Expr × List (Option String × Expr))
  | [] => some ([], [])
  | .positional value :: rest =>
    if keywordSeen then none
    else (arrangeArguments false false rest).map fun (args, keywords) => (value :: args, keywords)
  | .starred value :: rest =>
    if mappingSeen then none
    else (arrangeArguments keywordSeen false rest).map fun (args, keywords) =>
      (.starred value :: args, keywords)
  | .keyword name value :: rest =>
    (arrangeArguments true mappingSeen rest).map fun (args, keywords) =>
      (args, (some name, value) :: keywords)
  | .unpacked value :: rest =>
    (arrangeArguments true true rest).map fun (args, keywords) =>
      (args, (none, value) :: keywords)

/-- The arguments behind the first one, up to the closing parenthesis, which is taken. -/
def furtherArguments (rules : Rules) (first : Argument) :
    Rule (List Expr × List (Option String × Expr)) := do
  let others ← many do
    symbol .comma
    argument rules
  let _ ← possibly (symbol .comma)
  symbol .rightParen
  match arrangeArguments false false (first :: others) with
  | some result => return result
  | none => failure

/-- The arguments up to the closing parenthesis, which is taken. -/
def arguments (rules : Rules) : Rule (List Expr × List (Option String × Expr)) := do
  if ← atSymbol .rightParen then
    skip
    return ([], [])
  else furtherArguments rules (← argument rules)

/-- Is the next token one that begins a clause of a comprehension? -/
def atClause : Rule Bool := do
  return (← atKeyword .forK) || (← atKeyword .asyncK)

/-- The end of a slice behind its first colon. -/
def sliceTail (rules : Rules) (lower : Option Expr) : Rule Expr := do
  let upper ← possibly (rules .expression)
  let step ← possibly (symbol .colon)
  match step with
  | none => return .slice lower upper none
  | some _ => return .slice lower upper (← possibly (rules .expression))

/-- One index of a subscript: a slice, an expression, or one with a star. -/
def subscriptIndex (rules : Rules) : Rule Expr := do
  if ← atSymbol (.operator .mul) then
    skip
    return .starred (← rules .expression)
  else if ← atSymbol .colon then
    skip
    sliceTail rules none
  else if ← atNamed then namedExpression rules
  else
    let value ← rules .expression
    if ← atSymbol .colon then
      skip
      sliceTail rules (some value)
    else return value

/-- The index of a subscript from the indices between its brackets; a single one with a star is a
tuple. -/
def subscriptOf : List Expr × Bool → Expr
  | ([.starred value], false) => .tuple [.starred value]
  | indices => tupleUnlessSingle indices

/-! ### Comprehensions -/

/-- One target of a loop, with a star before it or not. -/
def starTarget (rules : Rules) : Rule Expr := do
  let target ← (do
    if ← atSymbol (.operator .mul) then
      skip
      return .starred (← rules .primary)
    else rules .primary : Rule Expr)
  require target.isStarTarget
  return target

/-- The targets of a loop. -/
def starTargets (rules : Rules) : Rule Expr := do
  return tupleUnlessSingle (← commaList (starTarget rules))

/-- A clause of a comprehension. -/
def clause (rules : Rules) : Rule (Clause Expr) := do
  let isAsync := (← possibly (keyword .asyncK)).isSome
  keyword .forK
  let target ← starTargets rules
  keyword .inK
  let source ← disjunction rules
  let conditions ← many do
    keyword .ifK
    disjunction rules
  return { isAsync, target, source, conditions }

/-- Behind the first item of a list in brackets: the clauses of a comprehension, or further items and
possibly a last comma. The closing bracket is taken. -/
def displayTail (rules : Rules) (first : Expr) (ending : Symbol) (kind : Collection)
    (whole : List Expr × Bool → Option Expr) : Rule Expr := do
  if ← atClause then
    require !(first matches .starred _)
    let clauses ← manyOne (clause rules)
    symbol ending
    return .comprehension kind first none clauses
  else
    let others ← many do
      symbol .comma
      starNamed rules
    let comma ← possibly (symbol .comma)
    symbol ending
    match whole (first :: others, comma.isSome) with
    | some value => return value
    | none => failure

/-- What stands in parentheses behind the opening one: a tuple, an expression, or a generator. -/
def parenthesized (rules : Rules) : Rule Expr := do
  if ← atSymbol .rightParen then
    skip
    return .tuple []
  else if ← atKeyword .yieldK then
    let value ← yieldExpression rules
    symbol .rightParen
    return value
  else
    let first ← starNamed rules
    displayTail rules first .rightParen .generator fun
      | ([.starred _], false) => none
      | items => some (tupleUnlessSingle items)

/-- A list behind its opening bracket. -/
def listDisplay (rules : Rules) : Rule Expr := do
  if ← atSymbol .rightBracket then
    skip
    return .list []
  else
    let first ← starNamed rules
    displayTail rules first .rightBracket .list fun items => some (.list items.1)

/-- An entry of a mapping. -/
def dictEntry (rules : Rules) : Rule (Option Expr × Expr) := do
  if ← atSymbol (.operator .pow) then
    skip
    return (none, ← bitwiseOr rules)
  else
    let key ← rules .expression
    symbol .colon
    return (some key, ← rules .expression)

/-- The further entries of a mapping behind the first one. -/
def dictTail (rules : Rules) (first : Option Expr × Expr) : Rule Expr := do
  let others ← many do
    symbol .comma
    dictEntry rules
  let _ ← possibly (symbol .comma)
  symbol .rightBrace
  return .dict (first :: others)

/-- A set or a mapping behind its opening brace. -/
def braceDisplay (rules : Rules) : Rule Expr := do
  if ← atSymbol .rightBrace then
    skip
    return .dict []
  else if ← atSymbol (.operator .pow) then
    dictTail rules (← dictEntry rules)
  else
    let isNamed ← atNamed
    let first ← starNamed rules
    if ← atSymbol .colon then
      require !(isNamed || first matches .starred _)
      skip
      let value ← rules .expression
      if ← atClause then
        let clauses ← manyOne (clause rules)
        symbol .rightBrace
        return .comprehension .dict first (some value) clauses
      else dictTail rules (some first, value)
    else
      displayTail rules first .rightBrace .set fun items => some (.set items.1)

/-! ### From atoms to expressions -/

/-- An atom. -/
def atom (rules : Rules) : Rule Expr := do
  match ← peek with
  | some (.name id) => skip; return .name id
  | some (.soft word) => skip; return .name word.text
  | some (.keyword .noneK) => skip; return .constant .none
  | some (.keyword .trueK) => skip; return .constant (.bool true)
  | some (.keyword .falseK) => skip; return .constant (.bool false)
  | some (.number (.int value)) => skip; return .constant (.int value)
  | some (.number (.float value)) => skip; return .constant (.float value)
  | some (.number (.imaginary value)) => skip; return .constant (.imaginary value)
  | some (.string _) => stringLiterals rules
  | some (.symbol .ellipsis) => skip; return .constant .ellipsis
  | some (.symbol .leftParen) => skip; parenthesized rules
  | some (.symbol .leftBracket) => skip; listDisplay rules
  | some (.symbol .leftBrace) => skip; braceDisplay rules
  | _ => failure

/-- The arguments of a call up to the closing parenthesis, which is taken; a generator may be the only
one. -/
def callArguments (rules : Rules) : Rule (List Expr × List (Option String × Expr)) := do
  if ← atSymbol .rightParen then
    skip
    return ([], [])
  else
    match ← argument rules with
    | .positional element =>
      if ← atClause then
        let clauses ← manyOne (clause rules)
        symbol .rightParen
        return ([.comprehension .generator element none clauses], [])
      else furtherArguments rules (.positional element)
    | first => furtherArguments rules first

/-- What can follow an atom: an attribute, a call or a subscript. The result tells what becomes of the
expression before it. -/
def trailer (rules : Rules) : Rule (Expr → Expr) := do
  match ← peek with
  | some (.symbol .dot) =>
    skip
    let attr ← name
    return (Expr.attribute · attr)
  | some (.symbol .leftParen) =>
    skip
    let (args, keywords) ← callArguments rules
    return (Expr.call · args keywords)
  | some (.symbol .leftBracket) =>
    skip
    let indices ← commaList (subscriptIndex rules)
    symbol .rightBracket
    return (Expr.subscript · (subscriptOf indices))
  | _ => failure

/-- An atom with its calls, subscripts and attributes. -/
def primary (rules : Rules) : Rule Expr := do
  let first ← atom rules
  let trailers ← many (trailer rules)
  return trailers.foldl (fun value trailer => trailer value) first

/-- A power, whose base may be awaited. -/
def power (rules : Rules) : Rule Expr := do
  let awaited := (← possibly (keyword .awaitK)).isSome
  let value ← primary rules
  let base := if awaited then .await value else value
  if ← atSymbol (.operator .pow) then
    skip
    return .binary base .pow (← rules .factor)
  else return base

/-- A power with the signs before it. -/
def factor (rules : Rules) : Rule Expr := do
  match ← peek with
  | some (.symbol (.operator .add)) => skip; return .unary .plus (← rules .factor)
  | some (.symbol (.operator .sub)) => skip; return .unary .minus (← rules .factor)
  | some (.symbol .tilde) => skip; return .unary .invert (← rules .factor)
  | _ => power rules

/-- A function without a name. -/
def lambdaExpression (rules : Rules) : Rule Expr := do
  keyword .lambdaK
  let parameters ← parameters rules false .colon
  symbol .colon
  return .lambda parameters (← rules .expression)

/-- An expression without commas and stars. -/
def expression (rules : Rules) : Rule Expr := do
  if ← atKeyword .lambdaK then lambdaExpression rules
  else
    let body ← disjunction rules
    let condition ← possibly do
      keyword .ifK
      let test ← disjunction rules
      keyword .elseK
      return (test, ← rules .expression)
    match condition with
    | some (test, orElse) => return .conditional test body orElse
    | none => return body

end EnumCodec.Source
