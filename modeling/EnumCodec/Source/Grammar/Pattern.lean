import EnumCodec.Source.Grammar.Expression

/-!
# EnumCodec.Source.Grammar.Pattern

**The rules for patterns of a `match` statement.**
-/

namespace EnumCodec.Source

/-- A numeric literal with or without a minus sign, and whether it is imaginary. -/
def signedNumber : Rule (Expr × Bool) := do
  let minus ← possibly (symbol (.operator .sub))
  let (value, isImaginary) ← (do
    match ← peek with
    | some (.number (.int value)) => skip; return (.constant (.int value), false)
    | some (.number (.float value)) => skip; return (.constant (.float value), false)
    | some (.number (.imaginary value)) => skip; return (.constant (.imaginary value), true)
    | _ => failure : Rule (Expr × Bool))
  return (if minus.isSome then .unary .minus value else value, isImaginary)

/-- A number in a pattern: one literal, or a real one and an imaginary one joined by a sign. -/
def patternNumber : Rule Expr := do
  let (first, isImaginary) ← signedNumber
  match ← peek with
  | some (.symbol (.operator .add)) =>
    require !isImaginary
    skip
    let (second, isImaginary) ← signedNumber
    require (isImaginary && second matches .constant _)
    return .binary first .add second
  | some (.symbol (.operator .sub)) =>
    require !isImaginary
    skip
    let (second, isImaginary) ← signedNumber
    require (isImaginary && second matches .constant _)
    return .binary first .sub second
  | _ => return first

/-- A literal in a pattern. -/
def patternLiteral (rules : Rules) : Rule Expr := do
  match ← peek with
  | some (.number _) => patternNumber
  | some (.symbol (.operator .sub)) => patternNumber
  | some (.string _) => stringLiterals rules
  | some (.keyword .noneK) => skip; return .constant .none
  | some (.keyword .trueK) => skip; return .constant (.bool true)
  | some (.keyword .falseK) => skip; return .constant (.bool false)
  | _ => failure

/-- A name, or several joined by dots, and whether there are several. -/
def patternName : Rule (Expr × Bool) := do
  let first ← name
  let attributes ← many do
    symbol .dot
    name
  return (attributes.foldl .attribute (.name first), !attributes.isEmpty)

/-- The name that takes the subject, which is not the underscore. -/
def captureName : Rule String := do
  require !((← peek) = some (.soft .underscore))
  let target ← name
  require !((← atSymbol .dot) || (← atSymbol .leftParen) || (← atSymbol .assign))
  return target

/-- A pattern, or a star with a name for the rest of a sequence. -/
def starPattern (rules : Rules) : Rule Pattern := do
  if ← atSymbol (.operator .mul) then
    skip
    if ← nextIs (.soft .underscore) then
      skip
      return .rest none
    else return .rest (some (← captureName))
  else rules .pattern

/-- A pattern in parentheses or a sequence, behind the opening parenthesis. -/
def parenthesizedPattern (rules : Rules) : Rule Pattern := do
  if ← atSymbol .rightParen then
    skip
    return .sequence []
  else
    let (items, comma) ← commaList (starPattern rules)
    symbol .rightParen
    match items, comma with
    | [.rest _], false => failure
    | [item], false => return item
    | items, _ => return .sequence items

/-- A sequence in brackets, behind the opening one. -/
def bracketedPattern (rules : Rules) : Rule Pattern := do
  if ← atSymbol .rightBracket then
    skip
    return .sequence []
  else
    let (items, _) ← commaList (starPattern rules)
    symbol .rightBracket
    return .sequence items

/-- An entry of a mapping: a key, which is a literal or a dotted name, and a pattern. -/
def keyPattern (rules : Rules) : Rule (Expr × Pattern) := do
  let key ← either (patternLiteral rules) do
    let (key, dotted) ← patternName
    require dotted
    return key
  symbol .colon
  return (key, ← rules .pattern)

/-- A mapping behind its opening brace; a name for all other entries may come last. -/
def mappingPattern (rules : Rules) : Rule Pattern := do
  let entries := (← possibly (separated (keyPattern rules) (symbol .comma))).getD []
  let rest ← possibly do
    if !entries.isEmpty then symbol .comma
    symbol (.operator .pow)
    captureName
  if !entries.isEmpty || rest.isSome then
    let _ ← possibly (symbol .comma)
  symbol .rightBrace
  return .mapping entries rest

/-- An argument of a type pattern: a pattern by position, or one with the name of an attribute. -/
def classArgument (rules : Rules) : Rule (Option String × Pattern) := do
  if ((← peek).bind TokenKind.nameText?).isSome && (← peekSecond) = some (.symbol .assign) then
    let key ← name
    skip
    return (some key, ← rules .pattern)
  else return (none, ← rules .pattern)

/-- The arguments of a type pattern behind the opening parenthesis; those with names come last. -/
def classPattern (rules : Rules) (type : Expr) : Rule Pattern := do
  if ← atSymbol .rightParen then
    skip
    return .instance type [] []
  else
    let (args, _) ← commaList (classArgument rules)
    symbol .rightParen
    let items := args.takeWhile (·.1.isNone)
    let attributes := args.dropWhile (·.1.isNone)
    require (attributes.all (·.1.isSome))
    return .instance type (items.map (·.2))
      (attributes.map fun (name, pattern) => (name.getD "", pattern))

/-- A pattern without alternatives. -/
def closedPattern (rules : Rules) : Rule Pattern := do
  match ← peek with
  | some (.soft .underscore) => skip; return .capture none
  | some (.symbol .leftParen) => skip; parenthesizedPattern rules
  | some (.symbol .leftBracket) => skip; bracketedPattern rules
  | some (.symbol .leftBrace) => skip; mappingPattern rules
  | some kind =>
    match kind.nameText? with
    | none => return .value (← patternLiteral rules)
    | some first =>
      let (value, dotted) ← patternName
      if ← atSymbol .leftParen then
        skip
        classPattern rules value
      else
        require !(← atSymbol .assign)
        return if dotted then .value value else .capture (some first)
  | none => failure

/-- A pattern: alternatives with bars between them, and possibly a name. -/
def pattern (rules : Rules) : Rule Pattern := do
  let alternatives ← separated (closedPattern rules) (symbol (.operator .bitOr))
  let value :=
    match alternatives with
    | [single] => single
    | several => .either several
  if ← atKeyword .asK then
    skip
    return .bound value (← captureName)
  else return value

/-- The pattern of a branch, which may be a sequence without brackets. -/
def branchPattern (rules : Rules) : Rule Pattern := do
  let (items, comma) ← commaList (starPattern rules)
  match items, comma with
  | [.rest _], false => failure
  | [item], false => return item
  | items, _ => return .sequence items

end EnumCodec.Source
