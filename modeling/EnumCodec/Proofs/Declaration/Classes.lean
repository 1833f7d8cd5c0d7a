import EnumCodec.Declaration.Reading
import EnumCodec.Proofs.Activity
import EnumCodec.Proofs.Source.StatementNames

/-!
# EnumCodec.Proofs.Declaration.Classes

**Declared classes, one after the other.** The reading of declarations comes to the classes of a module
and to those in their bodies in the order of the source, to an outer class before the inner ones. So it
is a walk along the list of all classes, and what holds of every enum follows from what one class adds.
-/

namespace EnumCodec.Declaration

open Source
open Activity (result_bind_eq_ok result_toOption_eq_some)
open Text (isIdentifier joinDots)

/-! ### The list of classes -/

/-- A class of a module. -/
structure DeclaredClass where
  /-- The names of the classes around the class, and its own. -/
  path : List String
  line : Nat
  decorators : List Expr
  bases : List Expr
  body : List Stmt

mutual

/-- The class that a statement declares, and behind it those in its body. -/
def classesIn (scope : List String) : Stmt → List DeclaredClass
  | .classDef line name decorators bases _ body =>
    ⟨scope ++ [name], line, decorators, bases, body⟩ :: classesOf (scope ++ [name]) body
  | _ => []

/-- The classes that statements declare, in the order of the source. -/
def classesOf (scope : List String) : List Stmt → List DeclaredClass
  | [] => []
  | statement :: rest => classesIn scope statement ++ classesOf scope rest

end

mutual

/-- The names of classes are identifiers, and so are those that their decorators, bases and bodies
hold. -/
theorem named_of_mem_classesIn {scope : List String}
    (inside : ∀ name ∈ scope, isIdentifier name.toList = true) {statement : Stmt}
    (named : IsNamed statement) {declared : DeclaredClass} (mem : declared ∈ classesIn scope statement) :
    declared.path ≠ [] ∧ (∀ name ∈ declared.path, isIdentifier name.toList = true) ∧
      IsNamed declared.decorators ∧ IsNamed declared.bases ∧ IsNamed declared.body := by
  cases statement with
  | classDef line name decorators bases keywords body =>
    obtain ⟨identifier, marked, based, within⟩ := isNamed_classDef.1 named
    have path : ∀ part ∈ scope ++ [name], isIdentifier part.toList = true :=
      List.forall_mem_append.2 ⟨inside, List.forall_mem_singleton.2 identifier⟩
    rw [classesIn] at mem
    rcases List.mem_cons.1 mem with rfl | mem
    · exact ⟨by simp, path, marked, based, within⟩
    · exact named_of_mem_classesOf path within mem
  | _ => simp [classesIn] at mem

theorem named_of_mem_classesOf {scope : List String}
    (inside : ∀ name ∈ scope, isIdentifier name.toList = true) {body : List Stmt}
    (named : IsNamed body) {declared : DeclaredClass} (mem : declared ∈ classesOf scope body) :
    declared.path ≠ [] ∧ (∀ name ∈ declared.path, isIdentifier name.toList = true) ∧
      IsNamed declared.decorators ∧ IsNamed declared.bases ∧ IsNamed declared.body := by
  cases body with
  | nil => simp [classesOf] at mem
  | cons statement rest =>
    obtain ⟨here, others⟩ := (isNamed_cons statement rest).1 named
    rw [classesOf] at mem
    rcases List.mem_append.1 mem with mem | mem
    · exact named_of_mem_classesIn inside here mem
    · exact named_of_mem_classesOf inside others mem

end

/-! ### The walk along the classes -/

variable {around : Surroundings} {enums found : List EnumDeclaration} {classes : List DeclaredClass}

/-- Puts the enum that a class is, if it is one, behind those before it. -/
def recordClass (around : Surroundings) (enums : List EnumDeclaration) (declared : DeclaredClass) :
    Except ReadFailure (List EnumDeclaration) :=
  if isEnumClass around enums declared.bases then
    match enumOf around declared.path declared.line declared.decorators declared.body with
    | .ok enum => .ok (enums ++ [enum])
    | .error cause => .error ⟨cause, enums⟩
  else .ok enums

mutual

theorem enumsOf_eq_foldlM (around : Surroundings) (scope : List String) (enums : List EnumDeclaration)
    (statement : Stmt) :
    enumsOf around scope enums statement =
      (classesIn scope statement).foldlM (recordClass around) enums := by
  cases statement with
  | classDef line name decorators bases keywords body =>
    rw [enumsOf, classesIn, List.foldlM_cons, recordClass]
    dsimp only
    split
    · cases enumOf around (scope ++ [name]) line decorators body with
      | ok enum => exact enumsOfAll_eq_foldlM around _ _ body
      | error cause => rfl
    · exact enumsOfAll_eq_foldlM around _ _ body
  | _ => rfl

/-- **The enums of statements are found class by class.** -/
theorem enumsOfAll_eq_foldlM (around : Surroundings) (scope : List String)
    (enums : List EnumDeclaration) (body : List Stmt) :
    enumsOfAll around scope enums body = (classesOf scope body).foldlM (recordClass around) enums := by
  cases body with
  | nil => rfl
  | cons statement rest =>
    rw [enumsOfAll, classesOf, List.foldlM_append, enumsOf_eq_foldlM around scope enums statement]
    cases (classesIn scope statement).foldlM (recordClass around) enums with
    | ok enums => exact enumsOfAll_eq_foldlM around scope enums rest
    | error failure => rfl

end

/-- What one class adds: nothing, or the enum that it is. -/
theorem recordClass_eq_ok {declared : DeclaredClass}
    (recorded : recordClass around enums declared = .ok found) :
    (isEnumClass around enums declared.bases = false ∧ found = enums) ∨
      (isEnumClass around enums declared.bases = true ∧ ∃ enum, found = enums ++ [enum] ∧
        enumOf around declared.path declared.line declared.decorators declared.body = .ok enum) := by
  unfold recordClass at recorded
  split at recorded
  · next isEnum =>
    split at recorded
    · next enum own =>
      cases recorded
      exact .inr ⟨isEnum, enum, rfl, own⟩
    · cases recorded
  · next isNone =>
    cases recorded
    exact .inl ⟨by simpa using isNone, rfl⟩

/-- **What a walk adds** behind the enums before it are enums of the classes that it comes to. -/
theorem foldlM_recordClass_eq_ok
    (walked : classes.foldlM (recordClass around) enums = .ok found) :
    ∃ more, found = enums ++ more ∧ ∀ enum ∈ more, ∃ declared ∈ classes,
      enumOf around declared.path declared.line declared.decorators declared.body = .ok enum := by
  induction classes generalizing enums with
  | nil =>
    cases walked
    exact ⟨[], by simp, by simp⟩
  | cons declared rest ih =>
    rw [List.foldlM_cons] at walked
    obtain ⟨middle, step, walked⟩ := result_bind_eq_ok.1 walked
    obtain ⟨more, rfl, each⟩ := ih walked
    have later : ∀ enum ∈ more, ∃ declared' ∈ declared :: rest, enumOf around declared'.path
        declared'.line declared'.decorators declared'.body = .ok enum := by
      intro enum mem
      obtain ⟨declared', there, own⟩ := each enum mem
      exact ⟨declared', List.mem_cons_of_mem _ there, own⟩
    rcases recordClass_eq_ok step with ⟨-, rfl⟩ | ⟨-, enum, rfl, own⟩
    · exact ⟨more, rfl, later⟩
    · exact ⟨enum :: more, by simp, List.forall_mem_cons.2 ⟨⟨declared, List.mem_cons_self, own⟩, later⟩⟩

/-- Two walks that do the same with each class do the same. -/
theorem foldlM_recordClass_congr {around' : Surroundings} {change : DeclaredClass → DeclaredClass}
    (each : ∀ declared ∈ classes, ∀ enums,
      recordClass around' enums (change declared) = recordClass around enums declared)
    (enums : List EnumDeclaration) :
    (classes.map change).foldlM (recordClass around') enums =
      classes.foldlM (recordClass around) enums := by
  induction classes generalizing enums with
  | nil => rfl
  | cons declared rest ih =>
    obtain ⟨here, others⟩ := List.forall_mem_cons.1 each
    rw [List.map_cons, List.foldlM_cons, List.foldlM_cons, here]
    simp only [ih others]

/-- What an enum takes from the place of its class. -/
theorem enumOf_eq_ok {path : List String} {line : Nat} {decorators : List Expr} {body : List Stmt}
    {enum : EnumDeclaration} (own : enumOf around path line decorators body = .ok enum) :
    enum.name = joinDots path ∧ enum.module = around.module ∧
      enum.isPublic = isVisible around.exports path := by
  obtain ⟨_, -, own⟩ := result_bind_eq_ok.1 own
  obtain ⟨_, -, own⟩ := result_bind_eq_ok.1 own
  obtain ⟨_, -, own⟩ := result_bind_eq_ok.1 own
  cases own
  exact ⟨rfl, rfl, rfl⟩

/-- **The enums of a module** come from a walk along its classes. -/
theorem readDeclarations_eq_ok {module : String} {tree : Module} {declarations : ModuleDeclarations}
    (read : readDeclarations module tree = .ok declarations) :
    ∃ exports, exportedNames tree = .ok exports ∧ declarations.module = module ∧
      (classesOf [] tree).foldlM (recordClass ⟨module, importedAliases module tree, exports⟩) [] =
        .ok declarations.enums := by
  unfold readDeclarations at read
  split at read
  · cases read
  · next exports exported =>
    dsimp only at read
    split at read
    · next walked =>
      cases read
      exact ⟨exports, exported, rfl, by rw [← enumsOfAll_eq_foldlM, walked]⟩
    · cases read

/-- What is known of the enums of a source is known of some module and its enums. -/
theorem exists_of_read {α : Type} {source module : String} {fact : α}
    {facts : Module → ModuleDeclarations → Option α}
    (known : ((readModule source).toOption.bind fun tree =>
      (readDeclarations module tree).toOption.bind (facts tree)) = some fact) :
    ∃ tree declarations, readModule source = .ok tree ∧
      readDeclarations module tree = .ok declarations ∧ facts tree declarations = some fact := by
  obtain ⟨tree, parsed, known⟩ := Option.bind_eq_some_iff.1 known
  obtain ⟨declarations, read, known⟩ := Option.bind_eq_some_iff.1 known
  exact ⟨tree, declarations, result_toOption_eq_some.1 parsed, result_toOption_eq_some.1 read, known⟩

/-- Each enum of a module is that of one of its classes. -/
theorem exists_class_of_mem {module : String} {tree : Module} {declarations : ModuleDeclarations}
    (read : readDeclarations module tree = .ok declarations) {enum : EnumDeclaration}
    (mem : enum ∈ declarations.enums) :
    ∃ exports, exportedNames tree = .ok exports ∧ ∃ declared ∈ classesOf [] tree,
      enumOf ⟨module, importedAliases module tree, exports⟩ declared.path declared.line
        declared.decorators declared.body = .ok enum := by
  obtain ⟨exports, exported, -, walked⟩ := readDeclarations_eq_ok read
  obtain ⟨more, same, each⟩ := foldlM_recordClass_eq_ok walked
  rw [same, List.nil_append] at mem
  exact ⟨exports, exported, each enum mem⟩

end EnumCodec.Declaration
