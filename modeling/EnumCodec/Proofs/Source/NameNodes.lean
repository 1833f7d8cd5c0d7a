import EnumCodec.Source.Stmt
import Mathlib.Data.List.Basic

/-!
# EnumCodec.Proofs.Source.NameNodes

**The name nodes of a module.** A name that stands for itself in an expression, or is bound by a target,
is a node of its own. All these nodes can be renamed at once, wherever they stand, and with them the names
that imports give to what they bind. The names of attributes, keywords, parameters, functions, classes and
the like are parts of other nodes and stay.
-/

namespace EnumCodec.Source

/-! ### Expressions -/

section

variable (change : String → String)

mutual

/-- Renames the name nodes of an expression. -/
def Expr.rename : Expr → Expr
  | .constant value => .constant value
  | .name id => .name (change id)
  | .attribute object attr => .attribute object.rename attr
  | .subscript object index => .subscript object.rename index.rename
  | .slice lower upper step =>
    .slice (renameOptional lower) (renameOptional upper) (renameOptional step)
  | .call callee args keywords => .call callee.rename (renameExprs args) (renameKeywords keywords)
  | .tuple items => .tuple (renameExprs items)
  | .list items => .list (renameExprs items)
  | .set items => .set (renameExprs items)
  | .dict entries => .dict (renameEntries entries)
  | .unary op operand => .unary op operand.rename
  | .binary left op right => .binary left.rename op right.rename
  | .compare first others => .compare first.rename (renameOperands others)
  | .all operands => .all (renameExprs operands)
  | .any operands => .any (renameExprs operands)
  | .conditional test body orElse => .conditional test.rename body.rename orElse.rename
  | .lambda parameters body => .lambda (renameParameters parameters) body.rename
  | .starred value => .starred value.rename
  | .named target value => .named (change target) value.rename
  | .await value => .await value.rename
  | .yield value => .yield (renameOptional value)
  | .yieldFrom value => .yieldFrom value.rename
  | .comprehension kind element value clauses =>
    .comprehension kind element.rename (renameOptional value) (renameClauses clauses)
  | .formatted fields => .formatted (renameExprs fields)

/-- Renames the name nodes of expressions. -/
def renameExprs : List Expr → List Expr
  | [] => []
  | e :: rest => e.rename :: renameExprs rest

/-- Renames the name nodes of an expression that may be left out. -/
def renameOptional : Option Expr → Option Expr
  | none => none
  | some e => some e.rename

/-- Renames the name nodes of keyword arguments. -/
def renameKeywords : List (Option String × Expr) → List (Option String × Expr)
  | [] => []
  | (keyword, value) :: rest => (keyword, value.rename) :: renameKeywords rest

/-- Renames the name nodes of the entries of a mapping. -/
def renameEntries : List (Option Expr × Expr) → List (Option Expr × Expr)
  | [] => []
  | (key, value) :: rest => (renameOptional key, value.rename) :: renameEntries rest

/-- Renames the name nodes of the operands of a comparison. -/
def renameOperands : List (CompareOp × Expr) → List (CompareOp × Expr)
  | [] => []
  | (op, operand) :: rest => (op, operand.rename) :: renameOperands rest

/-- Renames the name nodes in the annotation and the default value of a parameter. -/
def renameParameter : Parameter Expr → Parameter Expr
  | ⟨name, annotation, default⟩ => ⟨name, renameOptional annotation, renameOptional default⟩

/-- Renames the name nodes of parameters. -/
def renameParameterList : List (Parameter Expr) → List (Parameter Expr)
  | [] => []
  | parameter :: rest => renameParameter parameter :: renameParameterList rest

/-- Renames the name nodes of a parameter that may be left out. -/
def renameOptionalParameter : Option (Parameter Expr) → Option (Parameter Expr)
  | none => none
  | some parameter => some (renameParameter parameter)

/-- Renames the name nodes of the parameters of a function. -/
def renameParameters : Parameters Expr → Parameters Expr
  | ⟨positionalOnly, positional, variadic, keywordOnly, keywords⟩ =>
    ⟨renameParameterList positionalOnly, renameParameterList positional,
      renameOptionalParameter variadic, renameParameterList keywordOnly,
      renameOptionalParameter keywords⟩

/-- Renames the name nodes of the clauses of a comprehension. -/
def renameClauses : List (Clause Expr) → List (Clause Expr)
  | [] => []
  | ⟨isAsync, target, source, conditions⟩ :: rest =>
    ⟨isAsync, target.rename, source.rename, renameExprs conditions⟩ :: renameClauses rest

end

/-! ### Statements -/

mutual

/-- Renames the name nodes of a pattern. -/
def Pattern.rename : Pattern → Pattern
  | .value value => .value (value.rename change)
  | .capture name => .capture name
  | .rest name => .rest name
  | .sequence items => .sequence (renamePatterns items)
  | .mapping entries rest => .mapping (renamePatternEntries entries) rest
  | .instance type items attributes =>
    .instance (type.rename change) (renamePatterns items) (renamePatternAttributes attributes)
  | .bound pattern name => .bound pattern.rename name
  | .either patterns => .either (renamePatterns patterns)

/-- Renames the name nodes of patterns. -/
def renamePatterns : List Pattern → List Pattern
  | [] => []
  | pattern :: rest => pattern.rename :: renamePatterns rest

/-- Renames the name nodes of the entries of a mapping pattern. -/
def renamePatternEntries : List (Expr × Pattern) → List (Expr × Pattern)
  | [] => []
  | (key, pattern) :: rest => (key.rename change, pattern.rename) :: renamePatternEntries rest

/-- Renames the name nodes in the patterns of attributes. -/
def renamePatternAttributes : List (String × Pattern) → List (String × Pattern)
  | [] => []
  | (name, pattern) :: rest => (name, pattern.rename) :: renamePatternAttributes rest

end

/-- Renames the name that an import gives to what it binds. -/
def ImportedName.rename (imported : ImportedName) : ImportedName :=
  { imported with otherName := imported.otherName.map change }

mutual

/-- Renames the name nodes of a statement and the names given by imports. -/
def Stmt.rename : Stmt → Stmt
  | .assign line targets value => .assign line (renameExprs change targets) (value.rename change)
  | .annotated line target type value =>
    .annotated line (target.rename change) (type.rename change) (renameOptional change value)
  | .augmented target op value => .augmented (target.rename change) op (value.rename change)
  | .classDef line name decorators bases keywords body =>
    .classDef line name (renameExprs change decorators) (renameExprs change bases)
      (renameKeywords change keywords) (renameBody body)
  | .functionDef isAsync name decorators parameters returns body =>
    .functionDef isAsync name (renameExprs change decorators) (renameParameters change parameters)
      (renameOptional change returns) (renameBody body)
  | .importModules names => .importModules (names.map (·.rename change))
  | .importFrom module names level => .importFrom module (names.map (·.rename change)) level
  | .expression value => .expression (value.rename change)
  | .returns value => .returns (renameOptional change value)
  | .delete targets => .delete (renameExprs change targets)
  | .raises error cause => .raises (renameOptional change error) (renameOptional change cause)
  | .asserts test message => .asserts (test.rename change) (renameOptional change message)
  | .globalNames names => .globalNames names
  | .nonlocalNames names => .nonlocalNames names
  | .pass => .pass
  | .breaks => .breaks
  | .continues => .continues
  | .conditional test body orElse =>
    .conditional (test.rename change) (renameBody body) (renameBody orElse)
  | .whileLoop test body orElse =>
    .whileLoop (test.rename change) (renameBody body) (renameBody orElse)
  | .forLoop isAsync target source body orElse =>
    .forLoop isAsync (target.rename change) (source.rename change) (renameBody body)
      (renameBody orElse)
  | .withBlock isAsync items body =>
    .withBlock isAsync
      (items.map fun (context, target) => (context.rename change, renameOptional change target))
      (renameBody body)
  | .tryBlock grouped body handlers orElse finally_ =>
    .tryBlock grouped (renameBody body) (renameHandlers handlers) (renameBody orElse)
      (renameBody finally_)
  | .matchBlock subject branches => .matchBlock (subject.rename change) (renameBranches branches)

/-- Renames the name nodes of statements. -/
def renameBody : List Stmt → List Stmt
  | [] => []
  | statement :: rest => statement.rename :: renameBody rest

/-- Renames the name nodes of the handlers of errors. -/
def renameHandlers : List (Handler Stmt) → List (Handler Stmt)
  | [] => []
  | ⟨type, name, body⟩ :: rest =>
    ⟨renameOptional change type, name, renameBody body⟩ :: renameHandlers rest

/-- Renames the name nodes of the branches of a `match` statement. -/
def renameBranches : List (Branch Stmt) → List (Branch Stmt)
  | [] => []
  | ⟨pattern, guard, body⟩ :: rest =>
    ⟨pattern.rename change, renameOptional change guard, renameBody body⟩ :: renameBranches rest

end

/-! ### Renaming one by one -/

theorem renameExprs_eq_map (items : List Expr) :
    renameExprs change items = items.map (·.rename change) := by
  induction items with
  | nil => rfl
  | cons item rest ih => rw [renameExprs, ih, List.map_cons]

theorem renameKeywords_eq_map (keywords : List (Option String × Expr)) :
    renameKeywords change keywords =
      keywords.map fun (keyword, value) => (keyword, value.rename change) := by
  induction keywords with
  | nil => rfl
  | cons keyword rest ih => rw [renameKeywords, ih, List.map_cons]

theorem renameBody_eq_map (body : List Stmt) :
    renameBody change body = body.map (·.rename change) := by
  induction body with
  | nil => rfl
  | cons statement rest ih => rw [renameBody, ih, List.map_cons]

end

/-! ### One name -/

/-- The change of one name into another one. -/
def replaceName (old new : String) : String → String :=
  fun id => if id = old then new else id

@[simp] theorem replaceName_self (old new : String) : replaceName old new old = new := if_pos rfl

theorem replaceName_of_ne {old id : String} (new : String) (other : id ≠ old) :
    replaceName old new id = id := if_neg other

/-- **A name that no node has**: whatever it is renamed to, nothing changes. -/
def Avoids {α : Type} (rename : (String → String) → α → α) (id : String) (node : α) : Prop :=
  ∀ other, rename (replaceName id other) node = node

section

variable {id : String}

theorem Avoids.ne {other : String} (avoids : Avoids Expr.rename id (.name other)) : other ≠ id := by
  rintro rfl
  have changed : other ++ "x" = other := by simpa [Expr.rename] using avoids (other ++ "x")
  simp at changed

theorem Avoids.object {object : Expr} {attr : String}
    (avoids : Avoids Expr.rename id (.attribute object attr)) : Avoids Expr.rename id object :=
  fun other => (Expr.attribute.inj (avoids other)).1

theorem Avoids.call {callee : Expr} {args : List Expr} {keywords : List (Option String × Expr)}
    (avoids : Avoids Expr.rename id (.call callee args keywords)) :
    Avoids Expr.rename id callee ∧ Avoids renameExprs id args ∧ Avoids renameKeywords id keywords :=
  ⟨fun other => (Expr.call.inj (avoids other)).1, fun other => (Expr.call.inj (avoids other)).2.1,
    fun other => (Expr.call.inj (avoids other)).2.2⟩

/-- A list that a change of its items leaves alone has only items that it leaves alone. -/
theorem eq_of_map_eq_self {α : Type} {step : α → α} {items : List α} (same : items.map step = items)
    {item : α} (mem : item ∈ items) : step item = item :=
  List.map_inj_left.1 (same.trans (List.map_id' items).symm) item mem

theorem Avoids.mem {items : List Expr} (avoids : Avoids renameExprs id items) {item : Expr}
    (mem : item ∈ items) : Avoids Expr.rename id item := fun other =>
  eq_of_map_eq_self ((renameExprs_eq_map _ items).symm.trans (avoids other)) mem

theorem Avoids.mem_body {body : List Stmt} (avoids : Avoids renameBody id body) {statement : Stmt}
    (mem : statement ∈ body) : Avoids Stmt.rename id statement := fun other =>
  eq_of_map_eq_self ((renameBody_eq_map _ body).symm.trans (avoids other)) mem

theorem Avoids.mem_keywords {keywords : List (Option String × Expr)}
    (avoids : Avoids renameKeywords id keywords) {keyword : Option String × Expr}
    (mem : keyword ∈ keywords) : Avoids Expr.rename id keyword.2 := fun other =>
  congrArg Prod.snd
    (eq_of_map_eq_self ((renameKeywords_eq_map _ keywords).symm.trans (avoids other)) mem)

end

end EnumCodec.Source
