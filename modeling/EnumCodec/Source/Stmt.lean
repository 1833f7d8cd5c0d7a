import EnumCodec.Source.Expr

/-!
# EnumCodec.Source.Stmt

**Statements and modules.** Assignments and classes know the line on which they are: the line of the
first token of an assignment, and that of the keyword `class`.
-/

namespace EnumCodec.Source

/-- A pattern of a `match` statement. -/
inductive Pattern where
  /-- A literal or a dotted name, matched by its value. -/
  | value (value : Expr)
  /-- A name that takes the subject, or the underscore. -/
  | capture (name : Option String)
  /-- The rest of a sequence, in a name or not at all. -/
  | rest (name : Option String)
  /-- A sequence of patterns. -/
  | sequence (items : List Pattern)
  /-- Keys with patterns for their values, and a name for all other entries. -/
  | mapping (entries : List (Expr × Pattern)) (rest : Option String)
  /-- A type with patterns for its attributes. -/
  | instance (type : Expr) (items : List Pattern) (attributes : List (String × Pattern))
  /-- A pattern whose subject also gets a name. -/
  | bound (pattern : Pattern) (name : String)
  /-- Alternatives. -/
  | either (patterns : List Pattern)

/-- A name in an import, and the name it is bound to if that is another one. -/
structure ImportedName where
  name : String
  otherName : Option String
deriving DecidableEq, Repr

/-- A handler of a `try` statement. -/
structure Handler (α : Type) where
  type : Option Expr
  name : Option String
  body : List α

/-- A branch of a `match` statement. -/
structure Branch (α : Type) where
  pattern : Pattern
  guard : Option Expr
  body : List α

/-- A statement. -/
inductive Stmt where
  /-- `target = value`, with one or more targets. -/
  | assign (line : Nat) (targets : List Expr) (value : Expr)
  /-- `target: annotation`, with or without a value. -/
  | annotated (line : Nat) (target annotation : Expr) (value : Option Expr)
  /-- `target += value` and its like. -/
  | augmented (target : Expr) (op : BinaryOp) (value : Expr)
  /-- A class. -/
  | classDef (line : Nat) (name : String) (decorators bases : List Expr)
      (keywords : List (Option String × Expr)) (body : List Stmt)
  /-- A function. -/
  | functionDef (isAsync : Bool) (name : String) (decorators : List Expr)
      (parameters : Parameters Expr) (returns : Option Expr) (body : List Stmt)
  /-- `import` of modules. -/
  | importModules (names : List ImportedName)
  /-- `from` a module `import` names; `level` counts the dots before the module. -/
  | importFrom (module : Option String) (names : List ImportedName) (level : Nat)
  /-- An expression. -/
  | expression (value : Expr)
  /-- `return`. -/
  | returns (value : Option Expr)
  /-- `del`. -/
  | delete (targets : List Expr)
  /-- `raise`. -/
  | raises (error cause : Option Expr)
  /-- `assert`. -/
  | asserts (test : Expr) (message : Option Expr)
  /-- `global`. -/
  | globalNames (names : List String)
  /-- `nonlocal`. -/
  | nonlocalNames (names : List String)
  /-- `pass`. -/
  | pass
  /-- `break`. -/
  | breaks
  /-- `continue`. -/
  | continues
  /-- `if`, whose other branch may be empty. -/
  | conditional (test : Expr) (body orElse : List Stmt)
  /-- `while`. -/
  | whileLoop (test : Expr) (body orElse : List Stmt)
  /-- `for`. -/
  | forLoop (isAsync : Bool) (target source : Expr) (body orElse : List Stmt)
  /-- `with`; each context may have a target. -/
  | withBlock (isAsync : Bool) (items : List (Expr × Option Expr)) (body : List Stmt)
  /-- `try`; `grouped` tells that the handlers are for groups of errors. -/
  | tryBlock (grouped : Bool) (body : List Stmt) (handlers : List (Handler Stmt))
      (orElse finally_ : List Stmt)
  /-- `match`. -/
  | matchBlock (subject : Expr) (branches : List (Branch Stmt))

/-- A module is the list of its statements. -/
abbrev Module := List Stmt

end EnumCodec.Source
