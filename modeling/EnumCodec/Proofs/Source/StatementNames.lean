import EnumCodec.Proofs.Source.ExpressionNames
import EnumCodec.Source.Reading

/-!
# EnumCodec.Proofs.Source.StatementNames

**The names in a module are identifiers.** This holds of the targets of assignments, of classes and
their decorators and bases, and of imports, wherever they stand in the classes of a module.
-/

set_option mvcgen.warning false

open Std.Do

namespace EnumCodec.Source

open Text (isIdentifier IsDottedName)

/-! ### Patterns -/

section Patterns

@[spec] theorem faithful_signedNumber : Faithful signedNumber := by
  mvcgen [signedNumber] <;> simp_all
  all_goals split <;> simp_all

@[spec] theorem faithful_patternNumber : Faithful patternNumber := by
  mvcgen [patternNumber] <;> simp_all

@[spec] theorem faithful_patternLiteral (rules : Rules) : Faithful (patternLiteral rules) := by
  mvcgen [patternLiteral] <;> simp_all

@[spec] theorem faithful_patternName : Faithful patternName := by
  mvcgen [patternName] <;> simp_all
  rename_i first _ attributes _ start named
  exact isNamed_foldl (fun value attr mem base => isNamed_attribute base (named.1 attr mem))
    (isNamed_name start.1)

@[spec] theorem faithful_captureName : Faithful captureName := by
  mvcgen [captureName] <;> simp_all

variable {rules : Rules} (sound : Sound rules)

include sound

@[spec] theorem faithful_starPattern : Faithful (starPattern rules) := by
  have pattern := sound.pattern
  mvcgen [starPattern, pattern] <;> simp_all

@[spec] theorem faithful_parenthesizedPattern : Faithful (parenthesizedPattern rules) := by
  mvcgen [parenthesizedPattern] <;> simp_all

@[spec] theorem faithful_bracketedPattern : Faithful (bracketedPattern rules) := by
  mvcgen [bracketedPattern] <;> simp_all

@[spec] theorem faithful_keyPattern : Faithful (keyPattern rules) := by
  have pattern := sound.pattern
  mvcgen [keyPattern, pattern] <;> simp_all

@[spec] theorem faithful_mappingPattern : Faithful (mappingPattern rules) := by
  mvcgen [mappingPattern] <;> simp_all

@[spec] theorem faithful_classArgument : Faithful (classArgument rules) := by
  have pattern := sound.pattern
  mvcgen [classArgument, pattern] <;> simp_all

@[spec] theorem faithful_classPattern (type : Expr) : Faithful (classPattern rules type) := by
  mvcgen [classPattern] <;> simp_all

@[spec] theorem faithful_closedPattern : Faithful (closedPattern rules) := by
  mvcgen [closedPattern] <;> simp_all

@[spec] theorem faithful_pattern : Faithful (pattern rules) := by
  mvcgen [pattern] <;> simp_all

@[spec] theorem faithful_branchPattern : Faithful (branchPattern rules) := by
  mvcgen [branchPattern] <;> simp_all

end Patterns

/-! ### Simple statements -/

section Imports

@[spec] theorem yields_dottedName : Yields IsDottedName dottedName := by
  mvcgen [dottedName, separated] <;> simp_all
  rename_i first _ others _ start named
  have dotted : ∀ piece, isIdentifier piece.toList = true → IsDottedName piece := by
    intro piece named
    simpa using Text.isDottedName_of_isIdentifier named
  exact Text.isDottedName_joinDots (dotted first start.1) fun piece mem =>
    dotted piece (named.1 piece mem)

@[spec] theorem faithful_importAlias : Faithful importAlias := by
  mvcgen [importAlias]
  simp_all

@[spec] theorem faithful_importModules : Faithful importModules := by
  mvcgen [importModules] <;> simp_all

@[spec] theorem faithful_importLevel : Faithful importLevel := by
  mvcgen [importLevel] <;> simp_all

@[spec] theorem faithful_importedNames : Faithful importedNames := by
  mvcgen [importedNames] <;> simp_all

@[spec] theorem faithful_importFrom : Faithful importFrom := by
  have module := yields_possibly yields_dottedName
  mvcgen [importFrom, -faithful_possibly, module] <;> simp_all

end Imports

variable {rules : Rules} (sound : Sound rules)

include sound

@[spec] theorem faithful_assignedValue : Faithful (assignedValue rules) := by
  have expressions := sound.expressions
  mvcgen [assignedValue, expressions] <;> simp_all

@[spec] theorem faithful_expressionStatement : Faithful (expressionStatement rules) := by
  have expressions := sound.expressions
  have expression := sound.expression
  mvcgen [expressionStatement, expression, expressions] <;> simp_all
  change IsNamed (_ :: _)
  simp_all

@[spec] theorem faithful_raiseStatement : Faithful (raiseStatement rules) := by
  have expression := sound.expression
  mvcgen [raiseStatement, expression] <;> simp_all

@[spec] theorem faithful_deleteStatement : Faithful (deleteStatement rules) := by
  have primary := sound.primary
  mvcgen [deleteStatement, primary]
  simp_all

@[spec] theorem faithful_assertStatement : Faithful (assertStatement rules) := by
  have expression := sound.expression
  mvcgen [assertStatement, expression] <;> simp_all

@[spec] theorem faithful_simpleStatement : Faithful (simpleStatement rules) := by
  have expressions := sound.expressions
  mvcgen [simpleStatement, expressions] <;> simp_all

@[spec] theorem faithful_simpleStatements : Faithful (simpleStatements rules) := by
  mvcgen [simpleStatements] <;> simp_all

/-! ### Statements with blocks -/

@[spec] theorem faithful_block : Faithful (block rules) := by
  have statements := sound.statements
  mvcgen [block, statements] <;> simp_all

@[spec] theorem faithful_elseBlock : Faithful (elseBlock rules) := by
  mvcgen [elseBlock] <;> simp_all

@[spec] theorem faithful_ifStatement : Faithful (ifStatement rules) := by
  mvcgen [ifStatement] <;> simp_all

@[spec] theorem faithful_whileStatement : Faithful (whileStatement rules) := by
  mvcgen [whileStatement] <;> simp_all

@[spec] theorem faithful_forStatement (isAsync : Bool) : Faithful (forStatement rules isAsync) := by
  have expressions := sound.expressions
  mvcgen [forStatement, expressions] <;> simp_all

@[spec] theorem faithful_withItem : Faithful (withItem rules) := by
  have expression := sound.expression
  mvcgen [withItem, expression] <;> simp_all

@[spec] theorem faithful_withStatement (isAsync : Bool) : Faithful (withStatement rules isAsync) := by
  mvcgen [withStatement] <;> simp_all

@[spec] theorem faithful_handler (grouped : Bool) : Faithful (handler rules grouped) := by
  have expression := sound.expression
  mvcgen [handler, expression] <;> simp_all

@[spec] theorem faithful_tryStatement : Faithful (tryStatement rules) := by
  mvcgen [tryStatement] <;> simp_all

@[spec] theorem faithful_branch : Faithful (branch rules) := by
  mvcgen [branch] <;> simp_all

@[spec] theorem faithful_matchStatement : Faithful (matchStatement rules) := by
  mvcgen [matchStatement] <;> simp_all

@[spec] theorem faithful_functionDef (isAsync : Bool) (decorators : List Expr) :
    Faithful (functionDef rules isAsync decorators) := by
  have expression := sound.expression
  mvcgen [functionDef, expression] <;> simp_all

@[spec] theorem faithful_classDef {decorators : List Expr} (named : IsNamed decorators) :
    Faithful (classDef rules decorators) := by
  mvcgen [classDef] <;> simp_all

@[spec] theorem faithful_decorator : Faithful (decorator rules) := by
  mvcgen [decorator] <;> simp_all

@[spec] theorem faithful_decorated : Faithful (decorated rules) := by
  mvcgen [decorated] <;> simp_all

@[spec] theorem faithful_asyncStatement : Faithful (asyncStatement rules) := by
  mvcgen [asyncStatement] <;> simp_all

@[spec] theorem faithful_statement : Faithful (statement rules) := by
  mvcgen [statement] <;> simp_all

@[spec] theorem faithful_statements : Faithful (statements rules) := by
  mvcgen [statements] <;> simp_all

/-! ### Modules -/

theorem Sound.ruleFor : Sound (ruleFor rules) where
  expression := faithful_expression sound
  factor := faithful_factor sound
  primary := faithful_primary sound
  expressions := faithful_starExpressions sound
  pattern := faithful_pattern sound
  statements := faithful_statements sound

omit sound in
theorem sound_rulesTo (depth : Nat) : Sound (rulesTo depth) := by
  induction depth with
  | zero =>
    constructor <;>
    · apply yields_iff.2
      rintro tokens value rest named ⟨⟩
  | succ depth ih =>
    obtain ⟨expression, factor, primary, expressions, pattern, statements⟩ := ih.ruleFor
    exact ⟨expression, factor, primary, expressions, pattern, statements⟩

omit sound in
theorem moduleOfTokens_isNamed {depth : Nat} {tokens : List Token} {tree : Module}
    (read : moduleOfTokens depth tokens = some tree) (named : AllNamed tokens) :
    IsNamed tree := by
  unfold moduleOfTokens at read
  split at read
  · cases read
    exact isNamed_nil
  · split at read
    · rename_i body _ found
      cases read
      exact (yields_iff.1 (sound_rulesTo depth).statements tokens _ _ named found).1
    · cases read

omit sound in
/-- **The names in a module that can be read are identifiers.** -/
theorem readModule_isNamed {text : String} {tree : Module} (read : readModule text = .ok tree) :
    IsNamed tree := by
  unfold readModule at read
  dsimp only at read
  split at read
  · cases read
  · split at read
    · cases read
    · rename_i tokens found
      split at read
      · cases read
      · rename_i body whole
        cases read
        exact moduleOfTokens_isNamed whole (tokens?_allNamed found)

end EnumCodec.Source
