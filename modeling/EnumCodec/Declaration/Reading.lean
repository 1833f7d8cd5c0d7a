import EnumCodec.Declaration.Basic
import EnumCodec.Declaration.Literal
import EnumCodec.Entries
import EnumCodec.Source.Stmt
import EnumCodec.Text.Blank
import EnumCodec.Text.Identifier

/-!
# EnumCodec.Declaration.Reading

**The enums that a module declares.** Classes at the top of the module and in the bodies of its classes
are looked at. A class is an enum if one of its bases is one of the four base classes of the library
`enum`, or an enum declared before it. Names are followed through the imports at the top of the module.
-/

namespace EnumCodec.Declaration

open Source

/-! ### Names and imports -/

/-- The names that the imports of a module bind, with what they stand for. -/
abbrev Aliases := List (String × String)

/-- What a name, or names joined by dots, stand for; other expressions name nothing. -/
def resolveName (aliases : Aliases) : Expr → Option String
  | .name id => some ((aliases.lookup id).getD id)
  | .attribute object attr =>
    match resolveName aliases object with
    | some base => if base = "" then none else some (base ++ "." ++ attr)
    | none => none
  | _ => none

/-- The module that an import names. Each dot before it leads one package up, and the package of a
module is its name without the last part. -/
def absoluteModule (here : String) (module : Option String) (level : Nat) : String :=
  if level = 0 then module.getD ""
  else
    let parts := if here = "" then [] else Text.dotPieces here
    let package := parts.take (parts.length - level)
    match module with
    | some name => Text.joinDots (package ++ [name])
    | none => Text.joinDots package

/-- The names that `import` binds: another name stands for the whole module, and a module without
one binds the first part of its own name. -/
def bindModule (aliases : Aliases) (imported : ImportedName) : Aliases :=
  match imported.otherName with
  | some other => Entries.put aliases other imported.name
  | none =>
    let top := Text.firstPiece imported.name
    Entries.put aliases top top

/-- The name that an import from a module binds. -/
def bindFrom (base : String) (aliases : Aliases) (imported : ImportedName) : Aliases :=
  Entries.put aliases (imported.otherName.getD imported.name)
    (if base = "" then imported.name else base ++ "." ++ imported.name)

/-- The names that a statement binds by an import, put to those before it. -/
def bindImports (here : String) (aliases : Aliases) : Stmt → Aliases
  | .importModules names => names.foldl bindModule aliases
  | .importFrom module names level =>
    names.foldl (bindFrom (absoluteModule here module level)) aliases
  | _ => aliases

/-- The names that the imports at the top of a module bind. -/
def importedAliases (here : String) (tree : Module) : Aliases :=
  tree.foldl (bindImports here) []

/-! ### Lists of names in the source -/

/-- Does one of the targets assign the name? -/
def assigns (id : String) (targets : List Expr) : Bool :=
  targets.any fun
    | .name other => other == id
    | _ => false

/-- The texts in a list or tuple that can be names. -/
def textsOf (items : List Value) : List String :=
  items.filterMap fun
    | .text value => some value
    | _ => none

/-- The value of an expression, or nothing if it is no literal. -/
def literal? (value : Expr) : Except LiteralError (Option Value) :=
  match literalValue value with
  | .ok value => .ok (some value)
  | .error .notLiteral => .ok none
  | .error .integerTooLarge => .error .integerTooLarge

/-- The names that a module exports: those in the first literal list or tuple that is assigned to
`__all__` at its top. An assignment of what is no literal ends the search, and without a list all names
are exported. -/
def exportedNames : Module → Except LiteralError (Option (List String))
  | [] => .ok none
  | .assign _ targets value :: rest =>
    if assigns "__all__" targets then do
      match ← literal? value with
      | none => return none
      | some (.list items) => return some (textsOf items)
      | some (.tuple items) => return some (textsOf items)
      | some _ => exportedNames rest
    else exportedNames rest
  | _ :: rest => exportedNames rest

/-- The words of a text between commas and blanks. -/
def namesIn (text : String) : List String :=
  let blanked := text.toList.map fun c => if c = ',' then ' ' else c
  (Text.blankWords blanked).map String.ofList

/-- The names that an enum leaves out of its members: those in the first literal that is assigned to
`_ignore_` and is a list, a tuple, or a text of names. An assignment of what is no literal ends the
search. -/
def ignoredNames : List Stmt → Except LiteralError (List String)
  | [] => .ok []
  | .assign _ targets value :: rest =>
    if assigns "_ignore_" targets then do
      match ← literal? value with
      | none => return []
      | some (.text names) => return namesIn names
      | some (.broken names) => return namesIn names.shown
      | some (.list items) => return textsOf items
      | some (.tuple items) => return textsOf items
      | some _ => ignoredNames rest
    else ignoredNames rest
  | _ :: rest => ignoredNames rest

/-! ### Attributes -/

/-- The value of an argument: a reference for a name, the value of a literal, and `none` for all
else. -/
def argumentValue (aliases : Aliases) (value : Expr) : Except LiteralError Value :=
  let reference := fun () =>
    match resolveName aliases value with
    | none => Value.none
    | some name =>
      let (path, short) := Text.splitLastDot name
      .ref { name := short, namespacePath := path }
  match value with
  | .name _ => .ok (reference ())
  | .attribute _ _ => .ok (reference ())
  | _ => (literal? value).map (·.getD .none)

/-- The keyword arguments with a name, put to those before them. -/
def keywordValues (aliases : Aliases) (known : List (String × Value)) :
    List (Option String × Expr) → Except LiteralError (List (String × Value))
  | [] => .ok known
  | (none, _) :: rest => keywordValues aliases known rest
  | (some key, value) :: rest => do
    let value ← argumentValue aliases value
    keywordValues aliases (Entries.put known key value) rest

/-- The attribute that a decorator or a call in an annotation is. -/
def attributeOf (aliases : Aliases) (node : Expr) : Except LiteralError Attribute :=
  let named := fun (callee : Expr) =>
    let qualifiedName := (resolveName aliases callee).getD ""
    (Text.lastPiece qualifiedName, qualifiedName)
  match node with
  | .call callee args keywords => do
    let (name, qualifiedName) := named callee
    let args ← args.mapM (argumentValue aliases)
    let keywords ← keywordValues aliases [] keywords
    return { name, qualifiedName, args, keywords }
  | _ =>
    let (name, qualifiedName) := named node
    .ok { name, qualifiedName }

/-- The names of the annotation that carries metadata. -/
def annotatedNames : List String :=
  ["typing.Annotated", "typing_extensions.Annotated", "Annotated"]

/-- The calls that an annotation carries besides the type, as attributes. -/
def annotationAttributes (aliases : Aliases) : Expr → Except LiteralError (List Attribute)
  | .subscript annotated (.tuple items) =>
    match resolveName aliases annotated with
    | some name =>
      if annotatedNames.contains name then
        ((items.drop 1).filter (· matches .call ..)).mapM (attributeOf aliases)
      else .ok []
    | none => .ok []
  | _ => .ok []

/-! ### Members -/

/-- A name that the class keeps to itself: one that begins with two underscores, or begins and ends
with one. -/
def isReserved (id : String) : Bool :=
  let chars := id.toList
  ['_', '_'].isPrefixOf chars || (chars.head? == some '_' && chars.getLast? == some '_')

/-- Does a value make the name it is assigned to a member? An unnamed function does not, and neither
does a call of `nonmember`. -/
def makesMember (aliases : Aliases) : Expr → Bool
  | .lambda _ _ => false
  | .call callee _ _ =>
    match resolveName aliases callee with
    | some name => Text.lastPiece name != "nonmember"
    | none => true
  | _ => true

/-- Does an assignment to a name in the body of an enum make a member? -/
def isMember (aliases : Aliases) (ignored : List String) (id : String) (value : Expr) : Bool :=
  !isReserved id && !ignored.contains id && makesMember aliases value

/-- The names that a statement in the body of an enum assigns. -/
def membersOf (aliases : Aliases) (ignored : List String) :
    Stmt → Except LiteralError (List Member)
  | .assign line targets value =>
    .ok (targets.filterMap fun
      | .name id => some { name := id, hasValue := isMember aliases ignored id value, line }
      | _ => none)
  | .annotated line (.name id) annotation value => do
    let attributes ← annotationAttributes aliases annotation
    let hasValue :=
      match value with
      | some value => isMember aliases ignored id value
      | none => false
    return [{ name := id, hasValue, attributes, line }]
  | _ => .ok []

/-! ### Enums -/

/-- The base classes of enums. -/
def enumBases : List String := ["Enum", "IntEnum", "StrEnum", "ReprEnum"]

/-- Does a resolved name stand for a base class of enums? It must be bare or belong to the library
`enum`. -/
def isEnumBase (name : String) : Bool :=
  let short := Text.lastPiece name
  enumBases.contains short && (name == short || "enum.".toList.isPrefixOf name.toList)

/-- What the declarations of a module have in common. -/
structure Surroundings where
  module : String
  aliases : Aliases
  exports : Option (List String)

/-- Is a class with these bases an enum, given the enums before it? -/
def isEnumClass (around : Surroundings) (enums : List EnumDeclaration) (bases : List Expr) : Bool :=
  bases.any fun base =>
    match resolveName around.aliases base with
    | none => false
    | some name =>
      isEnumBase name ||
        (ModuleDeclarations.find? ⟨around.module, enums⟩ (.text name)).isSome

/-- Can an enum be seen outside the module? No part of its name may begin with an underscore, and its
outermost class must be exported. -/
def isVisible (exports : Option (List String)) (path : List String) : Bool :=
  path.all (fun part => part.toList.head? != some '_') &&
    match exports with
    | none => true
    | some names => names.contains (path.headD "")

/-- The enum that a class declares. -/
def enumOf (around : Surroundings) (path : List String) (line : Nat) (decorators : List Expr)
    (body : List Stmt) : Except LiteralError EnumDeclaration := do
  let attributes ← decorators.mapM (attributeOf around.aliases)
  let ignored ← ignoredNames body
  let members ← body.mapM (membersOf around.aliases ignored)
  return {
    name := Text.joinDots path
    module := around.module
    isPublic := isVisible around.exports path
    members := members.flatten
    attributes
    line }

/-- What stops the reading of declarations, and the enums found before. -/
structure ReadFailure where
  cause : LiteralError
  found : List EnumDeclaration

mutual

/-- The enums of a statement, put to those before it. -/
def enumsOf (around : Surroundings) (scope : List String) (enums : List EnumDeclaration) :
    Stmt → Except ReadFailure (List EnumDeclaration)
  | .classDef line name decorators bases _ body =>
    let path := scope ++ [name]
    if isEnumClass around enums bases then
      match enumOf around path line decorators body with
      | .ok enum => enumsOfAll around path (enums ++ [enum]) body
      | .error cause => .error ⟨cause, enums⟩
    else enumsOfAll around path enums body
  | _ => .ok enums

/-- The enums of statements, put to those before them. -/
def enumsOfAll (around : Surroundings) (scope : List String) (enums : List EnumDeclaration) :
    List Stmt → Except ReadFailure (List EnumDeclaration)
  | [] => .ok enums
  | statement :: rest =>
    match enumsOf around scope enums statement with
    | .ok enums => enumsOfAll around scope enums rest
    | .error failure => .error failure

end

/-- The enums that a module declares. -/
def readDeclarations (module : String) (tree : Module) :
    Except ReadFailure ModuleDeclarations :=
  match exportedNames tree with
  | .error cause => .error ⟨cause, []⟩
  | .ok exports =>
    let around : Surroundings := { module, aliases := importedAliases module tree, exports }
    match enumsOfAll around [] [] tree with
    | .ok enums => .ok { module, enums }
    | .error failure => .error failure

end EnumCodec.Declaration
