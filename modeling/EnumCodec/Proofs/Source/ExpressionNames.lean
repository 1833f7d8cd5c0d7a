import EnumCodec.Proofs.Source.RuleNames
import EnumCodec.Source.Grammar.Expression

/-!
# EnumCodec.Proofs.Source.ExpressionNames

**The rules for expressions keep to names.** Of an expression only what spells a name counts: the
expression itself, and the arguments by position if it is a call.
-/

set_option mvcgen.warning false

open Std.Do

namespace EnumCodec.Source

open Text (isIdentifier)

/-! ### Values put together -/

@[simp] theorem isNamed_foldl {α β : Type} [Named β] {step : β → α → β} {items : List α}
    {first : β} (keeps : ∀ value, ∀ item ∈ items, IsNamed value → IsNamed (step value item))
    (start : IsNamed first) : IsNamed (items.foldl step first) := by
  induction items generalizing first with
  | nil => exact start
  | cons item rest ih =>
    exact ih (fun value item mem => keeps value item (List.mem_cons_of_mem _ mem))
      (keeps first item List.mem_cons_self start)

@[simp] theorem isNamed_tupleUnlessSingle {items : List Expr × Bool} (named : IsNamed items.1) :
    IsNamed (tupleUnlessSingle items) := by
  unfold tupleUnlessSingle
  split <;> simp_all

/-- The rules for all parts keep to names. -/
structure Sound (rules : Rules) : Prop where
  expression : Faithful (rules .expression)
  factor : Faithful (rules .factor)
  primary : Faithful (rules .primary)
  expressions : Faithful (rules .expressions)
  pattern : Faithful (rules .pattern)
  statements : Faithful (rules .statements)

/-! ### Operators -/

theorem faithful_leftGrouped {operand : Rule Expr} (operators : List BinaryOp)
    (faithful : Faithful operand) : Faithful (leftGrouped operand operators) := by
  mvcgen [leftGrouped, faithful] <;> simp_all

variable {rules : Rules} (sound : Sound rules)

include sound

@[spec] theorem faithful_bitwiseOr : Faithful (bitwiseOr rules) :=
  have term := faithful_leftGrouped [.mul, .div, .floorDiv, .mod, .matMul] sound.factor
  have sum := faithful_leftGrouped [.add, .sub] term
  have shift := faithful_leftGrouped [.shiftLeft, .shiftRight] sum
  have bitAnd := faithful_leftGrouped [.bitAnd] shift
  have bitXor := faithful_leftGrouped [.bitXor] bitAnd
  faithful_leftGrouped [.bitOr] bitXor

/-! ### Parameters -/

@[spec] theorem faithful_parameterEntry (annotated : Bool) :
    Faithful (parameterEntry rules annotated) := by
  have expression := sound.expression
  mvcgen [parameterEntry, expression] <;> simp_all

@[spec] theorem faithful_parameters (annotated : Bool) (ending : Symbol) :
    Faithful (parameters rules annotated ending) := by
  mvcgen [parameters] <;> simp_all

/-! ### Literals and comparisons -/

omit sound in
@[spec] theorem faithful_comparisonOp : Faithful comparisonOp := by
  mvcgen [comparisonOp] <;> simp_all

omit sound in
theorem joinLiterals_isNamed {literals : List StringToken} {value : Expr}
    (joined : joinLiterals rules literals = some value) : IsNamed value := by
  unfold joinLiterals at joined
  split at joined
  · obtain ⟨parts, -, ⟨⟩⟩ := Option.bind_eq_some_iff.1 joined
    simp
  · split at joined
    · obtain ⟨fields, -, ⟨⟩⟩ := Option.bind_eq_some_iff.1 joined
      simp
    · cases joined
      simp

omit sound in
@[spec] theorem faithful_stringToken : Faithful stringToken := by
  mvcgen [stringToken] <;> simp_all

omit sound in
@[spec] theorem faithful_stringLiterals : Faithful (stringLiterals rules) := by
  mvcgen [stringLiterals] <;> simp_all
  exact joinLiterals_isNamed ‹_›

omit sound in
@[spec] theorem faithful_atNamed : Faithful atNamed := by
  mvcgen [atNamed] <;> simp_all

/-! ### Operands -/

@[spec] theorem faithful_namedExpression : Faithful (namedExpression rules) := by
  have expression := sound.expression
  mvcgen [namedExpression, expression] <;> simp_all

@[spec] theorem faithful_comparison : Faithful (comparison rules) := by
  mvcgen [comparison] <;> simp_all

@[spec] theorem faithful_inversion : Faithful (inversion rules) := by
  mvcgen [inversion] <;> simp_all

@[spec] theorem faithful_conjunction : Faithful (conjunction rules) := by
  mvcgen [conjunction] <;> simp_all

@[spec] theorem faithful_disjunction : Faithful (disjunction rules) := by
  mvcgen [disjunction] <;> simp_all

@[spec] theorem faithful_starNamed : Faithful (starNamed rules) := by
  mvcgen [starNamed] <;> simp_all

@[spec] theorem faithful_starExpression : Faithful (starExpression rules) := by
  have expression := sound.expression
  mvcgen [starExpression, expression] <;> simp_all

@[spec] theorem faithful_starExpressions : Faithful (starExpressions rules) := by
  mvcgen [starExpressions] <;> simp_all

@[spec] theorem faithful_yieldExpression : Faithful (yieldExpression rules) := by
  have expression := sound.expression
  have expressions := sound.expressions
  mvcgen [yieldExpression, expression, expressions] <;> simp_all

/-! ### Calls, subscripts and comprehensions -/

omit sound in
/-- The names of an argument are its keyword and those of its value. -/
def Argument.IsNamed : Argument → Prop
  | .positional value => Source.IsNamed value
  | .starred value => Source.IsNamed value
  | .keyword name value => Source.IsNamed name ∧ Source.IsNamed value
  | .unpacked value => Source.IsNamed value

omit sound in
instance : Named Argument := ⟨Argument.IsNamed⟩

omit sound in
@[simp] theorem isNamed_argument (argument : Argument) :
    IsNamed argument ↔ argument.IsNamed := Iff.rfl

attribute [simp] Argument.IsNamed

@[spec] theorem faithful_argument : Faithful (argument rules) := by
  have expression := sound.expression
  mvcgen [argument, expression] <;> simp_all

omit sound in
theorem arrangeArguments_isNamed {keywordSeen mappingSeen : Bool} {arguments : List Argument}
    {arranged : List Expr × List (Option String × Expr)}
    (read : arrangeArguments keywordSeen mappingSeen arguments = some arranged)
    (named : IsNamed arguments) : IsNamed arranged := by
  induction arguments generalizing keywordSeen mappingSeen arranged with
  | nil =>
    cases read
    simp
  | cons first rest ih =>
    obtain ⟨here, others⟩ := (isNamed_cons first rest).1 named
    cases first with
    | positional value =>
      rw [arrangeArguments] at read
      split at read
      · cases read
      · obtain ⟨more, found, rfl⟩ := Option.map_eq_some_iff.1 read
        have behind := ih found others
        simp_all
    | starred value =>
      rw [arrangeArguments] at read
      split at read
      · cases read
      · obtain ⟨more, found, rfl⟩ := Option.map_eq_some_iff.1 read
        have behind := ih found others
        simp_all
    | keyword name value =>
      obtain ⟨more, found, rfl⟩ := Option.map_eq_some_iff.1 read
      have behind := ih found others
      simp_all
    | unpacked value =>
      obtain ⟨more, found, rfl⟩ := Option.map_eq_some_iff.1 read
      have behind := ih found others
      simp_all

@[spec] theorem faithful_furtherArguments {first : Argument} (named : IsNamed first) :
    Faithful (furtherArguments rules first) := by
  mvcgen [furtherArguments] <;> simp_all
  exact (isNamed_pair _).1 (arrangeArguments_isNamed ‹_› (by simp_all))

@[spec] theorem faithful_arguments : Faithful (arguments rules) := by
  mvcgen [arguments] <;> simp_all

omit sound in
@[spec] theorem faithful_atClause : Faithful atClause := by
  mvcgen [atClause]

@[spec] theorem faithful_sliceTail (lower : Option Expr) : Faithful (sliceTail rules lower) := by
  have expression := sound.expression
  mvcgen [sliceTail, expression] <;> simp_all

@[spec] theorem faithful_subscriptIndex : Faithful (subscriptIndex rules) := by
  have expression := sound.expression
  mvcgen [subscriptIndex, expression] <;> simp_all

/-! ### Comprehensions -/

@[spec] theorem faithful_starTarget : Faithful (starTarget rules) := by
  have primary := sound.primary
  mvcgen [starTarget, primary] <;> simp_all

@[spec] theorem faithful_starTargets : Faithful (starTargets rules) := by
  mvcgen [starTargets] <;> simp_all

@[spec] theorem faithful_clause : Faithful (clause rules) := by
  mvcgen [clause] <;> simp_all

omit sound in
/-- What becomes of the items between brackets has the names of the items. -/
def Gathers (whole : List Expr × Bool → Option Expr) : Prop :=
  ∀ items value, IsNamed items.1 → whole items = some value → IsNamed value

@[spec] theorem faithful_displayTail {first : Expr} (ending : Symbol) (kind : Collection)
    {whole : List Expr × Bool → Option Expr} (named : IsNamed first) (gathers : Gathers whole) :
    Faithful (displayTail rules first ending kind whole) := by
  mvcgen [displayTail] <;> simp_all
  refine gathers _ _ ?_ ‹_›
  simp_all

@[spec] theorem faithful_parenthesized : Faithful (parenthesized rules) := by
  mvcgen [parenthesized] <;> simp_all
  intro _ _ _ items value named found
  dsimp only at found
  split at found
  · cases found
  · cases found
    exact isNamed_tupleUnlessSingle named

@[spec] theorem faithful_listDisplay : Faithful (listDisplay rules) := by
  mvcgen [listDisplay] <;> simp_all
  rintro _ _ _ items _ _ ⟨⟩
  simp

@[spec] theorem faithful_dictEntry : Faithful (dictEntry rules) := by
  have expression := sound.expression
  mvcgen [dictEntry, expression] <;> simp_all

@[spec] theorem faithful_dictTail (first : Option Expr × Expr) : Faithful (dictTail rules first) := by
  mvcgen [dictTail] <;> simp_all

@[spec] theorem faithful_braceDisplay : Faithful (braceDisplay rules) := by
  have expression := sound.expression
  mvcgen [braceDisplay, expression] <;> simp_all
  rintro _ _ items _ _ ⟨⟩
  simp

/-! ### From atoms to expressions -/

@[spec] theorem faithful_atom : Faithful (atom rules) := by
  mvcgen [atom] <;> simp_all

@[spec] theorem faithful_callArguments : Faithful (callArguments rules) := by
  mvcgen [callArguments] <;> simp_all

omit sound in
/-- What follows an atom leaves the names of the expression before it as they should be. -/
instance : Named (Expr → Expr) := ⟨fun trailer => ∀ e, IsNamed e → IsNamed (trailer e)⟩

omit sound in
@[simp] theorem isNamed_trailer (trailer : Expr → Expr) :
    IsNamed trailer ↔ ∀ e, IsNamed e → IsNamed (trailer e) := Iff.rfl

@[spec] theorem faithful_trailer : Faithful (trailer rules) := by
  mvcgen [trailer] <;> simp_all

@[spec] theorem faithful_primary : Faithful (primary rules) := by
  mvcgen [primary] <;> simp_all
  rename_i first _ start trailers _ named
  exact isNamed_foldl (fun value trailer mem => named.1 trailer mem value) start.1

@[spec] theorem faithful_power : Faithful (power rules) := by
  have factor := sound.factor
  mvcgen [power, factor] <;> simp_all
  change IsNamed (if _ then _ else _)
  split <;> simp_all

@[spec] theorem faithful_factor : Faithful (factor rules) := by
  have factors := sound.factor
  mvcgen [factor, factors] <;> simp_all

@[spec] theorem faithful_lambdaExpression : Faithful (lambdaExpression rules) := by
  have expression := sound.expression
  mvcgen [lambdaExpression, expression] <;> simp_all

@[spec] theorem faithful_expression : Faithful (expression rules) := by
  have expressions := sound.expression
  mvcgen [expression, expressions] <;> simp_all

end EnumCodec.Source
