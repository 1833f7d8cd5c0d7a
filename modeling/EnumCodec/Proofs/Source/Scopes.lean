import EnumCodec.Proofs.Source.Statements

/-!
# EnumCodec.Proofs.Source.Scopes

**What names stand for.** A name in a method of a class is a variable of the method, or else what the
module binds the name to last, or else a name of the language. Inside a class private names are changed
before they are looked up. Loops, contexts, handlers, patterns and functions in functions are left out,
since no converter has them.
-/

namespace EnumCodec.Source

open Text (dotPieces firstPiece)

/-! ### Bindings -/

/-- What a name stands for. -/
inductive Meaning where
  /-- A name that is imported from a module. -/
  | imported (module : Option String) (name : String)
  /-- A module. -/
  | module (name : String)
  /-- A class, a function or a value that the source makes. -/
  | made
  /-- A parameter or a variable of the method. -/
  | own
  /-- The class around the method. -/
  | surrounding
  /-- A constant of the language. -/
  | constant
  /-- A name of the language. -/
  | builtin
deriving DecidableEq, Repr

/-- The name that a target binds. -/
def Expr.boundName? : Expr → Option String
  | .name id => some id
  | _ => none

mutual

/-- The names that a statement binds, with what they stand for then. -/
def bindings : Stmt → List (String × Meaning)
  | .assign _ targets _ => targets.filterMap fun target => target.boundName?.map (·, .made)
  | .annotated _ target _ _ => target.boundName?.toList.map (·, .made)
  | .augmented target _ _ => target.boundName?.toList.map (·, .made)
  | .classDef _ name _ _ _ _ => [(name, .made)]
  | .functionDef _ name _ _ _ _ => [(name, .made)]
  | .importModules names => names.map fun entry =>
    (entry.otherName.getD (firstPiece entry.name),
      .module (if entry.otherName.isSome then entry.name else firstPiece entry.name))
  | .importFrom module names _ => names.map fun entry =>
    (entry.otherName.getD entry.name, .imported module entry.name)
  | .conditional _ body orElse => bindingsOf body ++ bindingsOf orElse
  | _ => []

/-- The names that statements bind, in their order. -/
def bindingsOf : List Stmt → List (String × Meaning)
  | [] => []
  | statement :: rest => bindings statement ++ bindingsOf rest

end

/-- What a name stands for behind the statements of a module: the last binding counts. -/
def globalMeaning (statements : List Stmt) (id : String) : Meaning :=
  ((bindingsOf statements).reverse.lookup id).getD .builtin

theorem bindingsOf_append (statements others : List Stmt) :
    bindingsOf (statements ++ others) = bindingsOf statements ++ bindingsOf others := by
  induction statements with
  | nil => rfl
  | cons statement rest ih => rw [List.cons_append, bindingsOf, ih, bindingsOf, List.append_assoc]

theorem bindingsOf_map_eq_nil {α : Type} {statement : α → Stmt}
    (none : ∀ item, bindings (statement item) = []) (items : List α) :
    bindingsOf (items.map statement) = [] := by
  induction items with
  | nil => rfl
  | cons item rest ih => rw [List.map_cons, bindingsOf, none, ih, List.append_nil]

/-! ### Dotted names that are looked up -/

/-- The name and the attributes that an expression consists of, if it is no more than these. -/
def Expr.path? : Expr → Option (String × List String)
  | .name id => some (id, [])
  | .attribute object attr => object.path?.map fun (id, attrs) => (id, attrs ++ [attr])
  | _ => none

mutual

/-- The dotted names that are looked up when an expression is evaluated, in their order. -/
def places : Expr → List Expr
  | .name id => [.name id]
  | .attribute object attr =>
    if object.path?.isSome then [.attribute object attr] else places object
  | .subscript object index => places object ++ places index
  | .call callee args keywords => places callee ++ placesOf args ++ placesOfKeywords keywords
  | .tuple items => placesOf items
  | .list items => placesOf items
  | .set items => placesOf items
  | .unary _ operand => places operand
  | .binary left _ right => places left ++ places right
  | .compare first others => places first ++ placesOfOperands others
  | .all operands => placesOf operands
  | .any operands => placesOf operands
  | .conditional test body orElse => places test ++ places body ++ places orElse
  | .starred value => places value
  | .formatted fields => placesOf fields
  | _ => []

/-- The dotted names in a list of expressions. -/
def placesOf : List Expr → List Expr
  | [] => []
  | value :: rest => places value ++ placesOf rest

/-- The dotted names in keyword arguments. -/
def placesOfKeywords : List (Option String × Expr) → List Expr
  | [] => []
  | (_, value) :: rest => places value ++ placesOfKeywords rest

/-- The dotted names in the operands of comparisons. -/
def placesOfOperands : List (CompareOp × Expr) → List Expr
  | [] => []
  | (_, value) :: rest => places value ++ placesOfOperands rest

end

mutual

/-- The dotted names that are looked up when a statement is carried out. -/
def stmtPlaces : Stmt → List Expr
  | .assign _ _ value => places value
  | .annotated _ _ _ value => (value.map places).getD []
  | .augmented target _ value => places target ++ places value
  | .expression value => places value
  | .returns value => (value.map places).getD []
  | .raises error cause => (error.map places).getD [] ++ (cause.map places).getD []
  | .conditional test body orElse => places test ++ bodyPlaces body ++ bodyPlaces orElse
  | _ => []

/-- The dotted names that are looked up when statements are carried out. -/
def bodyPlaces : List Stmt → List Expr
  | [] => []
  | statement :: rest => stmtPlaces statement ++ bodyPlaces rest

end

theorem bodyPlaces_append (statements others : List Stmt) :
    bodyPlaces (statements ++ others) = bodyPlaces statements ++ bodyPlaces others := by
  induction statements with
  | nil => rfl
  | cons statement rest ih => rw [List.cons_append, bodyPlaces, ih, bodyPlaces, List.append_assoc]

theorem bodyPlaces_map {α : Type} (statement : α → Stmt) (items : List α) :
    bodyPlaces (items.map statement) = items.flatMap fun item => stmtPlaces (statement item) := by
  induction items with
  | nil => rfl
  | cons item rest ih => rw [List.map_cons, bodyPlaces, ih, List.flatMap_cons]

/-- A dotted name is looked up as it stands. -/
theorem places_of_path? {place : Expr} {path : String × List String}
    (dotted : place.path? = some path) : places place = [place] := by
  cases place <;> try cases dotted
  · rfl
  · rename_i object attr
    obtain ⟨inner, found, -⟩ := Option.map_eq_some_iff.1 dotted
    rw [places, found]
    rfl

/-! ### Names in a method -/

/-- A name in a class with two underscores before it, and less than two behind it, belongs to the
class: the name of the class is put before it. -/
def privateName (owner id : String) : String :=
  let chars := id.toList
  let bare := owner.toList.dropWhile (· == '_')
  if ['_', '_'].isPrefixOf chars && !(['_', '_'].isSuffixOf chars) && !bare.isEmpty then
    String.ofList ('_' :: bare ++ chars)
  else id

theorem privateName_eq_self {id : String} (shared : ['_', '_'].isPrefixOf id.toList = false)
    (owner : String) : privateName owner id = id := by
  simp [privateName, shared]

/-- A method of a class of a module. -/
structure Method where
  /-- The name of the class. -/
  owner : String
  /-- What the names of the module and of the class stand for when the method is made, the last ones
  last. -/
  scope : List (String × Meaning)
  name : String
  decorators : List Expr
  parameters : List String
  body : List Stmt

/-- The methods among the statements of a class. -/
def methodsOf (owner : String) (scope : List (String × Meaning)) : List Stmt → List Method
  | [] => []
  | statement :: rest =>
    (match statement with
      | .functionDef _ name decorators parameters _ body =>
        [⟨owner, scope, name, decorators, parameters.positional.map (·.name), body⟩]
      | _ => []) ++
    methodsOf owner
      (scope ++ (bindings statement).map fun (id, meaning) => (privateName owner id, meaning)) rest

/-- The methods of the classes among statements of a module, behind others with some bindings. -/
def methodsFrom (scope : List (String × Meaning)) : List Stmt → List Method
  | [] => []
  | statement :: rest =>
    (match statement with
      | .classDef _ name _ _ _ body => methodsOf name scope body
      | _ => []) ++
    methodsFrom (scope ++ bindings statement) rest

/-- The methods of the classes of a module. -/
def methods (module : Module) : List Method :=
  methodsFrom [] module

/-- The variables of a method. -/
def Method.variables (method : Method) : List String :=
  (method.parameters ++ (bindingsOf method.body).map Prod.fst).map (privateName method.owner)

/-- What a name in a method stands for when the whole module has been carried out. -/
def Method.meaning (module : Module) (method : Method) (id : String) : Meaning :=
  let id := privateName method.owner id
  if id ∈ method.variables then .own
  else if id = "__class__" then .surrounding
  else if id = "__debug__" then .constant
  else globalMeaning module id

/-- A name without underscores before it is looked up as it is. -/
theorem Method.meaning_eq (module : Module) (method : Method) {id : String}
    (shared : ['_', '_'].isPrefixOf id.toList = false) :
    method.meaning module id = if id ∈ method.variables then .own else globalMeaning module id := by
  have names : ∀ other : String, ['_', '_'].isPrefixOf other.toList = true → id ≠ other := by
    rintro other hidden rfl
    rw [hidden] at shared
    cases shared
  rw [Method.meaning, privateName_eq_self shared]
  simp only [names "__class__" rfl, names "__debug__" rfl, if_false]

/-- A dotted name in a method starts at what is meant, and none of its attributes is changed. -/
def Method.Denotes (module : Module) (method : Method) (place : Expr) (meant : Meaning) : Prop :=
  ∃ id attrs, place.path? = some (id, attrs) ∧ method.meaning module id = meant ∧
    ∀ attr ∈ attrs, privateName method.owner attr = attr

theorem Method.denotes_iff {module : Module} {method : Method} {place : Expr} {id : String}
    {attrs : List String} (path : place.path? = some (id, attrs)) (meant : Meaning) :
    method.Denotes module place meant ↔ method.meaning module id = meant ∧
      ∀ attr ∈ attrs, privateName method.owner attr = attr := by
  constructor
  · rintro ⟨_, _, same, means⟩
    cases path.symm.trans same
    exact means
  · exact fun means => ⟨id, attrs, path, means⟩

/-- What a decorator of a method stands for, if it is a name. -/
def Method.decoratorMeaning? (method : Method) : Expr → Option Meaning
  | .name id => some ((method.scope.reverse.lookup (privateName method.owner id)).getD .builtin)
  | _ => none

/-- The path of a dotted name is its pieces. -/
theorem path?_referenceExpr (word : String) (words : List String) :
    (referenceExpr (word :: words)).path? = some (nameOf word, words.map nameOf) := by
  have from_ (value : Expr) (attrs : List String) (h : value.path? = some (nameOf word, attrs)) :
      (words.foldl (fun value attr => .attribute value (nameOf attr)) value).path? =
        some (nameOf word, attrs ++ words.map nameOf) := by
    induction words generalizing value attrs with
    | nil => simpa using h
    | cons other words ih =>
        have next : (Expr.attribute value (nameOf other)).path? =
            some (nameOf word, attrs ++ [nameOf other]) := by
          rw [Expr.path?, h]
          rfl
        rw [List.foldl_cons, ih _ _ next, List.map_cons, List.append_assoc, List.singleton_append]
  exact from_ (.name (nameOf word)) [] rfl

end EnumCodec.Source
