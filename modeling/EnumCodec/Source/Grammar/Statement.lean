import EnumCodec.Source.Grammar.Pattern

/-!
# EnumCodec.Source.Grammar.Statement

**The rules for statements.** Simple statements stand on one line with semicolons between them; the
others have blocks, which are simple statements behind the colon or indented lines below it.
-/

namespace EnumCodec.Source

/-! ### Simple statements -/

/-- What can be assigned: a `yield` expression or expressions with commas. -/
def assignedValue (rules : Rules) : Rule Expr := do
  if ← atKeyword .yieldK then yieldExpression rules else rules .expressions

/-- A statement that begins with expressions: an assignment of one of three kinds, or the expressions
alone. -/
def expressionStatement (rules : Rules) : Rule Stmt := do
  let line ← peekLine
  let first ← rules .expressions
  match ← peek with
  | some (.symbol .colon) =>
    require first.isSingleTarget
    skip
    let annotation ← rules .expression
    let value ← possibly do
      symbol .assign
      assignedValue rules
    return .annotated line first annotation value
  | some (.symbol .assign) =>
    let values ← manyOne do
      symbol .assign
      assignedValue rules
    let targets := first :: values.dropLast
    require (targets.all Expr.isStarTarget)
    return .assign line targets (values.getLastD first)
  | some (.symbol (.augmented op)) =>
    require first.isSingleTarget
    skip
    return .augmented first op (← assignedValue rules)
  | _ => return .expression first

/-- Names joined by dots, as one text. -/
def dottedName : Rule String := do
  return ".".intercalate (← separated name (symbol .dot))

/-- The name that an import binds, if it is another one. -/
def importAlias : Rule (Option String) :=
  possibly do
    keyword .asK
    name

/-- `import` behind its keyword. -/
def importModules : Rule Stmt := do
  let names ← separated (do return ⟨← dottedName, ← importAlias⟩) (symbol .comma)
  return .importModules names

/-- The dots before a module, three of which may be one symbol. -/
def importLevel : Rule Nat := do
  let dots ← many do
    match ← peek with
    | some (.symbol .dot) => skip; return 1
    | some (.symbol .ellipsis) => skip; return 3
    | _ => failure
  return dots.foldl (· + ·) 0

/-- The names of an import from a module; in parentheses a comma may come last. -/
def importedNames : Rule (List ImportedName) := do
  let entry : Rule ImportedName := do return ⟨← name, ← importAlias⟩
  if ← atSymbol (.operator .mul) then
    skip
    return [⟨"*", none⟩]
  else if ← atSymbol .leftParen then
    skip
    let (names, _) ← commaList entry
    symbol .rightParen
    return names
  else
    let names ← separated entry (symbol .comma)
    require !(← atSymbol .comma)
    return names

/-- `from` behind its keyword. -/
def importFrom : Rule Stmt := do
  let level ← importLevel
  let module ← possibly dottedName
  require (module.isSome || level != 0)
  keyword .importK
  return .importFrom module (← importedNames) level

/-- `raise` behind its keyword. -/
def raiseStatement (rules : Rules) : Rule Stmt := do
  match ← possibly (rules .expression) with
  | none => return .raises none none
  | some error =>
    let cause ← possibly do
      keyword .fromK
      rules .expression
    return .raises (some error) cause

/-- `del` behind its keyword. -/
def deleteStatement (rules : Rules) : Rule Stmt := do
  let (targets, _) ← commaList (rules .primary)
  require (targets.all (Expr.isTarget false))
  return .delete targets

/-- `assert` behind its keyword. -/
def assertStatement (rules : Rules) : Rule Stmt := do
  let test ← rules .expression
  let message ← possibly do
    symbol .comma
    rules .expression
  return .asserts test message

/-- A simple statement. -/
def simpleStatement (rules : Rules) : Rule Stmt := do
  match ← peek with
  | some (.keyword .returnK) => skip; return .returns (← possibly (rules .expressions))
  | some (.keyword .importK) => skip; importModules
  | some (.keyword .fromK) => skip; importFrom
  | some (.keyword .raiseK) => skip; raiseStatement rules
  | some (.keyword .passK) => skip; return .pass
  | some (.keyword .delK) => skip; deleteStatement rules
  | some (.keyword .yieldK) => return .expression (← yieldExpression rules)
  | some (.keyword .assertK) => skip; assertStatement rules
  | some (.keyword .breakK) => skip; return .breaks
  | some (.keyword .continueK) => skip; return .continues
  | some (.keyword .globalK) => skip; return .globalNames (← separated name (symbol .comma))
  | some (.keyword .nonlocalK) => skip; return .nonlocalNames (← separated name (symbol .comma))
  | _ => expressionStatement rules

/-- Simple statements up to the end of their line. -/
def simpleStatements (rules : Rules) : Rule (List Stmt) := do
  let statements ← separated (simpleStatement rules) (symbol .semicolon)
  let _ ← possibly (symbol .semicolon)
  token .newline
  return statements

/-! ### Statements with blocks -/

/-- The block of a statement, behind the colon. -/
def block (rules : Rules) : Rule (List Stmt) := do
  symbol .colon
  if ← nextIs .newline then
    skip
    token .indent
    let body ← rules .statements
    token .dedent
    return body
  else simpleStatements rules

/-- The block of `else`, if there is one. -/
def elseBlock (rules : Rules) : Rule (List Stmt) := do
  if ← atKeyword .elseK then
    skip
    block rules
  else return []

/-- `if` behind its keyword, with its further branches. -/
def ifStatement (rules : Rules) : Rule Stmt := do
  let test ← namedExpression rules
  let body ← block rules
  let branches ← many do
    keyword .elifK
    let test ← namedExpression rules
    return (test, ← block rules)
  let last ← elseBlock rules
  return .conditional test body
    (branches.foldr (fun (test, body) orElse => [.conditional test body orElse]) last)

/-- `while` behind its keyword. -/
def whileStatement (rules : Rules) : Rule Stmt := do
  let test ← namedExpression rules
  let body ← block rules
  return .whileLoop test body (← elseBlock rules)

/-- `for` behind its keyword. -/
def forStatement (rules : Rules) (isAsync : Bool) : Rule Stmt := do
  let target ← starTargets rules
  keyword .inK
  let source ← rules .expressions
  let body ← block rules
  return .forLoop isAsync target source body (← elseBlock rules)

/-- A context of `with`, and its target. -/
def withItem (rules : Rules) : Rule (Expr × Option Expr) := do
  let context ← rules .expression
  if ← atKeyword .asK then
    skip
    return (context, some (← starTarget rules))
  else return (context, none)

/-- `with` behind its keyword; the contexts may stand in parentheses. -/
def withStatement (rules : Rules) (isAsync : Bool) : Rule Stmt := do
  let inParentheses := do
    symbol .leftParen
    let (items, _) ← commaList (withItem rules)
    symbol .rightParen
    require (← atSymbol .colon)
    return items
  let items ← either inParentheses do
    let items ← separated (withItem rules) (symbol .comma)
    require (← atSymbol .colon)
    return items
  return .withBlock isAsync items (← block rules)

/-- A handler of a `try` statement, for single errors or for groups. -/
def handler (rules : Rules) (grouped : Bool) : Rule (Handler Stmt) := do
  keyword .exceptK
  if grouped then symbol (.operator .mul)
  if !grouped && (← atSymbol .colon) then
    return { type := none, name := none, body := ← block rules }
  else
    let type ← rules .expression
    let name ← importAlias
    return { type := some type, name, body := ← block rules }

/-- `try` behind its keyword. -/
def tryStatement (rules : Rules) : Rule Stmt := do
  let body ← block rules
  let finalBlock : Rule (List Stmt) := do
    keyword .finallyK
    block rules
  if ← atKeyword .finallyK then
    return .tryBlock false body [] [] (← finalBlock)
  else
    let grouped := (← peekSecond) = some (.symbol (.operator .mul))
    let handlers ← manyOne (handler rules grouped)
    let orElse ← elseBlock rules
    let final ← possibly finalBlock
    return .tryBlock grouped body handlers orElse (final.getD [])

/-- A branch of a `match` statement. -/
def branch (rules : Rules) : Rule (Branch Stmt) := do
  token (.soft .caseWord)
  let pattern ← branchPattern rules
  let guard ← possibly do
    keyword .ifK
    namedExpression rules
  return { pattern, guard, body := ← block rules }

/-- A `match` statement. -/
def matchStatement (rules : Rules) : Rule Stmt := do
  token (.soft .matchWord)
  let (subjects, comma) ← commaList (starNamed rules)
  require (comma || !(subjects matches [.starred _]))
  symbol .colon
  token .newline
  token .indent
  let branches ← manyOne (branch rules)
  token .dedent
  return .matchBlock (tupleUnlessSingle (subjects, comma)) branches

/-- `def` behind its keyword. -/
def functionDef (rules : Rules) (isAsync : Bool) (decorators : List Expr) : Rule Stmt := do
  let name ← name
  symbol .leftParen
  let parameters ← parameters rules true .rightParen
  symbol .rightParen
  let returns ← possibly do
    symbol .arrow
    rules .expression
  return .functionDef isAsync name decorators parameters returns (← block rules)

/-- `class` with its keyword, whose line is that of the class. -/
def classDef (rules : Rules) (decorators : List Expr) : Rule Stmt := do
  let line ← peekLine
  keyword .classK
  let name ← name
  let (bases, keywords) ← (do
    if ← atSymbol .leftParen then
      skip
      arguments rules
    else return ([], []) : Rule (List Expr × List (Option String × Expr)))
  return .classDef line name decorators bases keywords (← block rules)

/-- A decorator. -/
def decorator (rules : Rules) : Rule Expr := do
  symbol (.operator .matMul)
  let value ← namedExpression rules
  token .newline
  return value

/-- A class or a function behind its decorators. -/
def decorated (rules : Rules) : Rule Stmt := do
  let decorators ← manyOne (decorator rules)
  if ← atKeyword .classK then classDef rules decorators
  else
    let isAsync := (← possibly (keyword .asyncK)).isSome
    keyword .defK
    functionDef rules isAsync decorators

/-- A statement behind `async`. -/
def asyncStatement (rules : Rules) : Rule Stmt := do
  match ← peek with
  | some (.keyword .defK) => skip; functionDef rules true []
  | some (.keyword .withK) => skip; withStatement rules true
  | some (.keyword .forK) => skip; forStatement rules true
  | _ => failure

/-- A statement, or the simple statements of a line. -/
def statement (rules : Rules) : Rule (List Stmt) := do
  match ← peek with
  | some (.keyword .defK) => skip; return [← functionDef rules false []]
  | some (.symbol (.operator .matMul)) => return [← decorated rules]
  | some (.keyword .asyncK) => skip; return [← asyncStatement rules]
  | some (.keyword .ifK) => skip; return [← ifStatement rules]
  | some (.keyword .classK) => return [← classDef rules []]
  | some (.keyword .withK) => skip; return [← withStatement rules false]
  | some (.keyword .forK) => skip; return [← forStatement rules false]
  | some (.keyword .tryK) => skip; return [← tryStatement rules]
  | some (.keyword .whileK) => skip; return [← whileStatement rules]
  | some (.soft .matchWord) =>
    either (do return [← matchStatement rules]) (simpleStatements rules)
  | _ => simpleStatements rules

/-- Statements, at least one, up to the end of their block. -/
def statements (rules : Rules) : Rule (List Stmt) := do
  return (← manyOne (statement rules)).flatten

end EnumCodec.Source
