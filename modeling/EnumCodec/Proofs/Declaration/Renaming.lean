import EnumCodec.Proofs.Conversion.Naming

/-!
# EnumCodec.Proofs.Declaration.Renaming

**A name in the place of a text.** In the arguments of the decorators of classes, texts that are dotted
names become expressions that stand for these names. Nothing else in the source changes, so the same
enums are declared, and they differ only in how their attributes name types.
-/

namespace EnumCodec.Declaration

open Source
open Activity (result_bind_eq_ok)
open Text (IsDottedName)

/-! ### Results that agree -/

/-- Two results agree: both fail, or both are there. -/
inductive ResultsAgree {ε ε' α β : Type} (failed : ε → ε' → Prop) (related : α → β → Prop) :
    Except ε α → Except ε' β → Prop
  | error {cause : ε} {cause' : ε'} (alike : failed cause cause') :
    ResultsAgree failed related (.error cause) (.error cause')
  | ok {value : α} {value' : β} (alike : related value value') :
    ResultsAgree failed related (.ok value) (.ok value')

namespace ResultsAgree

variable {ε α β γ δ : Type} {related : α → β → Prop} {related' : γ → δ → Prop}

theorem rfl {result : Except ε α} : ResultsAgree Eq Eq result result := by
  cases result with
  | error cause => exact .error (.refl cause)
  | ok value => exact .ok (.refl value)

theorem bind {result : Except ε α} {result' : Except ε β} {next : α → Except ε γ}
    {next' : β → Except ε δ} (first : ResultsAgree Eq related result result')
    (others : ∀ value value', related value value' →
      ResultsAgree Eq related' (next value) (next' value')) :
    ResultsAgree Eq related' (result >>= next) (result' >>= next') := by
  cases first with
  | error alike => exact .error alike
  | ok alike => exact others _ _ alike

theorem mapM {items : List α} {items' : List β} {read : α → Except ε γ} {read' : β → Except ε δ}
    (alike : List.Forall₂ related items items')
    (each : ∀ item item', related item item' → ResultsAgree Eq related' (read item) (read' item')) :
    ResultsAgree Eq (List.Forall₂ related') (items.mapM read) (items'.mapM read') := by
  induction alike with
  | nil => exact .ok .nil
  | cons here _ ih =>
    rw [List.mapM_cons, List.mapM_cons]
    exact (each _ _ here).bind fun _ _ first => ih.bind fun _ _ rest => .ok (.cons first rest)

end ResultsAgree

/-! ### Sources -/

/-- An argument stays, or a text that is a dotted name becomes an expression that stands for the name. -/
inductive ArgumentRenamed (aliases : Aliases) : Expr → Expr → Prop
  | same (argument : Expr) : ArgumentRenamed aliases argument argument
  | named {name : String} {argument : Expr} (dotted : IsDottedName name)
    (stands : resolveName aliases argument = some name) :
    ArgumentRenamed aliases (.constant (.text name)) argument

/-- A decorator stays, or some of its arguments by position are renamed. -/
inductive DecoratorRenamed (aliases : Aliases) : Expr → Expr → Prop
  | same (decorator : Expr) : DecoratorRenamed aliases decorator decorator
  | call (callee : Expr) {args args' : List Expr} (keywords : List (Option String × Expr))
    (renamed : List.Forall₂ (ArgumentRenamed aliases) args args') :
    DecoratorRenamed aliases (.call callee args keywords) (.call callee args' keywords)

/-- A statement stays, or decorators of a class and of the classes in it are renamed. -/
inductive StmtRenamed (aliases : Aliases) : Stmt → Stmt → Prop
  | same (statement : Stmt) : StmtRenamed aliases statement statement
  | classDef (line : Nat) (name : String) {decorators decorators' : List Expr} (bases : List Expr)
    (keywords : List (Option String × Expr)) {body body' : List Stmt}
    (outer : List.Forall₂ (DecoratorRenamed aliases) decorators decorators')
    (inner : List.Forall₂ (StmtRenamed aliases) body body') :
    StmtRenamed aliases (.classDef line name decorators bases keywords body)
      (.classDef line name decorators' bases keywords body')

variable {aliases : Aliases} {statement statement' : Stmt} {body body' : List Stmt}

/-- Statements of which some are renamed. -/
abbrev BodyRenamed (aliases : Aliases) : List Stmt → List Stmt → Prop :=
  List.Forall₂ (StmtRenamed aliases)

/-- A renamed class is a class with renamed decorators and a renamed body. -/
theorem StmtRenamed.of_classDef {line : Nat} {name : String} {decorators bases : List Expr}
    {keywords : List (Option String × Expr)}
    (renamed : StmtRenamed aliases (.classDef line name decorators bases keywords body) statement) :
    ∃ decorators' body', statement = .classDef line name decorators' bases keywords body' ∧
      List.Forall₂ (DecoratorRenamed aliases) decorators decorators' ∧ BodyRenamed aliases body body' := by
  cases renamed with
  | same =>
    exact ⟨_, _, rfl, List.forall₂_same.2 fun decorator _ => .same decorator,
      List.forall₂_same.2 fun statement _ => .same statement⟩
  | classDef _ _ _ _ outer inner => exact ⟨_, _, rfl, outer, inner⟩

/-! ### What stays -/

theorem exportedNames_renamed (renamed : BodyRenamed aliases body body') :
    exportedNames body' = exportedNames body := by
  induction renamed with
  | nil => rfl
  | @cons first _ _ _ here _ ih =>
    cases here with
    | same => cases first <;> simp only [exportedNames, ih]
    | classDef => simpa only [exportedNames] using ih

theorem ignoredNames_renamed (renamed : BodyRenamed aliases body body') :
    ignoredNames body' = ignoredNames body := by
  induction renamed with
  | nil => rfl
  | @cons first _ _ _ here _ ih =>
    cases here with
    | same => cases first <;> simp only [ignoredNames, ih]
    | classDef => simpa only [ignoredNames] using ih

theorem importedAliases_renamed (here : String) (renamed : BodyRenamed aliases body body') :
    importedAliases here body' = importedAliases here body := by
  have each (known : Aliases) :
      body'.foldl (bindImports here) known = body.foldl (bindImports here) known := by
    induction renamed generalizing known with
    | nil => rfl
    | cons one _ ih => cases one <;> exact ih _
  exact each []

theorem membersOf_renamed (ignored : List String) (renamed : BodyRenamed aliases body body') :
    body'.mapM (membersOf aliases ignored) = body.mapM (membersOf aliases ignored) := by
  induction renamed with
  | nil => rfl
  | cons here _ ih =>
    rw [List.mapM_cons, List.mapM_cons, ih]
    cases here <;> rfl

/-! ### What is read -/

/-- The value of a renamed argument is the reference that the text names. -/
theorem argumentValue_renamed {argument argument' : Expr}
    (renamed : ArgumentRenamed aliases argument argument') :
    ResultsAgree Eq Value.NamesAlike (argumentValue aliases argument)
      (argumentValue aliases argument') := by
  cases renamed with
  | same =>
    cases argumentValue aliases argument with
    | error cause => exact .error rfl
    | ok value => exact .ok (.same value)
  | @named name _ dotted stands =>
    have text : argumentValue aliases (.constant (.text name)) = .ok (.text name) := rfl
    have reference : argumentValue aliases argument' = .ok (.ref (.ofDotted name)) := by
      unfold argumentValue
      simp only [stands]
      -- No other expression stands for a name.
      cases argument' with
      | name => rfl
      | «attribute» => rfl
      | _ => cases stands
    rw [text, reference]
    exact .ok (.reference dotted)

theorem attributeOf_renamed {decorator decorator' : Expr}
    (renamed : DecoratorRenamed aliases decorator decorator') :
    ResultsAgree Eq Attribute.NamesAlike (attributeOf aliases decorator)
      (attributeOf aliases decorator') := by
  cases renamed with
  | same =>
    cases attributeOf aliases decorator with
    | error cause => exact .error rfl
    | ok marker => exact .ok ⟨rfl, rfl, rfl, List.forall₂_same.2 fun value _ => .same value⟩
  | call callee keywords renamed =>
    have args := ResultsAgree.mapM renamed fun _ _ => argumentValue_renamed
    refine args.bind fun values values' alike => ?_
    cases keywordValues aliases [] keywords with
    | error cause => exact .error rfl
    | ok entries => exact .ok ⟨rfl, rfl, rfl, alike⟩

section

variable {around : Surroundings}

theorem enumOf_renamed (path : List String) (line : Nat) {decorators decorators' : List Expr}
    (outer : List.Forall₂ (DecoratorRenamed around.aliases) decorators decorators')
    (inner : BodyRenamed around.aliases body body') :
    ResultsAgree Eq EnumDeclaration.NamesAlike (enumOf around path line decorators body)
      (enumOf around path line decorators' body') := by
  have attributes := ResultsAgree.mapM outer fun _ _ => attributeOf_renamed
  refine attributes.bind fun markers markers' alike => ?_
  simp only [ignoredNames_renamed inner, membersOf_renamed _ inner]
  refine ResultsAgree.rfl.bind fun ignored _ same => ?_
  subst same
  refine ResultsAgree.rfl.bind fun members _ same => ?_
  subst same
  exact .ok ⟨rfl, alike⟩

/-- Whether a class is an enum does not depend on the attributes of those before it. -/
theorem isEnumClass_namesAlike (bases : List Expr) {enums enums' : List EnumDeclaration}
    (alike : List.Forall₂ EnumDeclaration.NamesAlike enums enums') :
    isEnumClass around enums' bases = isEnumClass around enums bases := by
  have found (name : String) :
      (ModuleDeclarations.find? ⟨around.module, enums'⟩ (.text name)).isSome =
        (ModuleDeclarations.find? ⟨around.module, enums⟩ (.text name)).isSome := by
    have same := find?_map_bare ⟨around.module, enums'⟩ (.text name)
    rw [map_bare_eq alike, ← find?_map_bare ⟨around.module, enums⟩] at same
    simpa using congrArg Option.isSome same
  simp only [isEnumClass, found]

/-- A reading fails in both sources for the same cause, behind the same enums. -/
structure FailsAlike (failure failure' : ReadFailure) : Prop where
  cause : failure'.cause = failure.cause
  found : List.Forall₂ EnumDeclaration.NamesAlike failure.found failure'.found

/-- The enums of two sources agree. -/
abbrev EnumsAgree : Except ReadFailure (List EnumDeclaration) →
    Except ReadFailure (List EnumDeclaration) → Prop :=
  ResultsAgree FailsAlike (List.Forall₂ EnumDeclaration.NamesAlike)

mutual

/-- **A renamed statement declares the same enums.** -/
theorem enumsOf_renamed (scope : List String) {enums enums' : List EnumDeclaration}
    (before : List.Forall₂ EnumDeclaration.NamesAlike enums enums') (original : Stmt) {renamed : Stmt}
    (step : StmtRenamed around.aliases original renamed) :
    EnumsAgree (enumsOf around scope enums original) (enumsOf around scope enums' renamed) := by
  cases original with
  | classDef line name decorators bases keywords body =>
    obtain ⟨decorators', body', rfl, outer, inner⟩ := step.of_classDef
    have own := enumOf_renamed (scope ++ [name]) line outer inner
    unfold enumsOf
    -- The class is an enum in both sources or in none, and its body is read behind the enums so far.
    simp only [isEnumClass_namesAlike bases before]
    generalize enumOf around (scope ++ [name]) line decorators body = enum at own ⊢
    generalize enumOf around (scope ++ [name]) line decorators' body' = enum' at own ⊢
    split
    · cases own with
      | error same => exact .error ⟨same.symm, before⟩
      | ok alike =>
        exact enumsOfAll_renamed (scope ++ [name]) (List.rel_append before (.cons alike .nil)) body inner
    · exact enumsOfAll_renamed (scope ++ [name]) before body inner
  | _ =>
    cases step
    exact .ok before

/-- **Renamed statements declare the same enums.** -/
theorem enumsOfAll_renamed (scope : List String) {enums enums' : List EnumDeclaration}
    (before : List.Forall₂ EnumDeclaration.NamesAlike enums enums') (originals : List Stmt)
    {renamed : List Stmt} (steps : BodyRenamed around.aliases originals renamed) :
    EnumsAgree (enumsOfAll around scope enums originals) (enumsOfAll around scope enums' renamed) := by
  cases originals with
  | nil =>
    cases steps
    exact .ok before
  | cons first rest =>
    cases steps with
    | @cons _ renamed _ _ step others =>
      have here := enumsOf_renamed scope before first step
      unfold enumsOfAll
      generalize enumsOf around scope enums first = found at here ⊢
      generalize enumsOf around scope enums' renamed = found' at here ⊢
      cases here with
      | error alike => exact .error alike
      | ok alike => exact enumsOfAll_renamed scope alike rest others

end

end

/-- **Renamed sources declare the same enums**, which differ only in how their attributes name types, or
neither of them can be read. -/
theorem readDeclarations_renamed {module : String} {tree tree' : Module}
    (renamed : BodyRenamed (importedAliases module tree) tree tree') :
    ResultsAgree FailsAlike ModuleDeclarations.NamesAlike (readDeclarations module tree)
      (readDeclarations module tree') := by
  unfold readDeclarations
  rw [exportedNames_renamed renamed, importedAliases_renamed module renamed]
  cases exportedNames tree with
  | error cause => exact .error ⟨rfl, .nil⟩
  | ok exports =>
    dsimp only
    generalize around : Surroundings.mk module (importedAliases module tree) exports = surroundings
    have agree : EnumsAgree (enumsOfAll surroundings [] [] tree) (enumsOfAll surroundings [] [] tree') :=
      enumsOfAll_renamed [] .nil tree (around ▸ renamed)
    generalize enumsOfAll surroundings [] [] tree = found at agree ⊢
    generalize enumsOfAll surroundings [] [] tree' = found' at agree ⊢
    cases agree with
    | error alike => exact .error alike
    | ok alike => exact .ok ⟨rfl, alike⟩

/-! ### Modules of enums -/

/-- A module is read under its name, and its enums know it. -/
theorem readDeclarations_module {module : String} {tree : Module} {declarations : ModuleDeclarations}
    (read : readDeclarations module tree = .ok declarations) :
    declarations.module = module ∧ ∀ enum ∈ declarations.enums, enum.module = declarations.module := by
  obtain ⟨-, -, own, -⟩ := readDeclarations_eq_ok read
  refine ⟨own, fun enum mem => ?_⟩
  obtain ⟨exports, -, declared, -, made⟩ := exists_class_of_mem read mem
  exact (enumOf_eq_ok made).2.1.trans own.symm

/-! ### Naming -/

/-- The enums of two modules are resolved to the same conversions with the same reports. -/
def ResolveAlike (declarations declarations' : ModuleDeclarations) : Prop :=
  ∀ providers, List.Forall₂ (fun declaration declaration' =>
    resolve providers declarations' declaration' = resolve providers declarations declaration)
      declarations.enums declarations'.enums

/-- Every reference denotes the enum that its full name denotes. -/
def DenotesByFullName (declarations : ModuleDeclarations) : Prop :=
  ∀ ref : TypeRef, ref.name ≠ "" → '.' ∉ ref.name.toList →
    declarations.find? (.ref ref) = declarations.find? (.text ref.fullName)

/-- **Naming by a text and by a name agree.** If arguments of decorators in a source come to name types
by expressions in the place of texts, every enum of the source is resolved as before, or neither source
can be read for the same cause. In particular a reference into any namespace denotes the enum that its
full name denotes. -/
theorem naming_agrees {module : String} {tree tree' : Module}
    (renamed : BodyRenamed (importedAliases module tree) tree tree') :
    ResultsAgree (fun failure failure' => failure'.cause = failure.cause)
      (fun declarations declarations' =>
        ResolveAlike declarations declarations' ∧ DenotesByFullName declarations ∧
          DenotesByFullName declarations')
      (readDeclarations module tree) (readDeclarations module tree') := by
  have agree := readDeclarations_renamed renamed
  cases read : readDeclarations module tree with
  | error failure =>
    rw [read] at agree
    generalize readDeclarations module tree' = result' at agree ⊢
    cases agree with
    | error alike => exact .error alike.cause
  | ok declarations =>
    rw [read] at agree
    cases read' : readDeclarations module tree' with
    | error failure =>
      rw [read'] at agree
      cases agree
    | ok declarations' =>
      rw [read'] at agree
      cases agree with
      | ok trees =>
        have own := (readDeclarations_module read).2
        have own' := (readDeclarations_module read').2
        refine .ok ⟨fun providers => ?_, fun ref => ModuleDeclarations.find?_ref own,
          fun ref => ModuleDeclarations.find?_ref own'⟩
        exact trees.enums.imp fun _ _ => resolve_namesAlike providers own trees

/-- A source that declares an enum in a class, and another class that asks for its converter. -/
def paletteTree (target converter : Expr) : Module := [
  .importModules [⟨"house", none⟩],
  .classDef 2 "Lamp" [] [] []
    [.classDef 3 "Color" [] [.name "Enum"] [] [.assign 4 [.name "RED"] (.constant (.int 1))]],
  .classDef 7 "Palette"
    [.call (.name "EnumJsonConverter") [target] [], .call (.name "JsonConverter") [converter] []]
    [.name "Enum"] [] [.pass]]

theorem naming_agrees_palette :
    let tree := paletteTree (.constant (.text "Lamp.Color")) (.constant (.text "house.ColorConverter"))
    let tree' := paletteTree (.attribute (.name "Lamp") "Color")
      (.attribute (.name "house") "ColorConverter")
    BodyRenamed (importedAliases "lamps" tree) tree tree' ∧
      (readDeclarations "lamps" tree).toOption.any (fun declarations => declarations.enums.any
        fun declaration => (resolve LabelProvider.standard declarations declaration).1.isSome) = true ∧
      ResultsAgree (fun failure failure' => failure'.cause = failure.cause)
        (fun declarations declarations' =>
          ResolveAlike declarations declarations' ∧ DenotesByFullName declarations ∧
            DenotesByFullName declarations')
        (readDeclarations "lamps" tree) (readDeclarations "lamps" tree') := by
  intro tree tree'
  have renamed : BodyRenamed (importedAliases "lamps" tree) tree tree' :=
    .cons (.same _) (.cons (.same _) (.cons (.classDef _ _ _ _
      (.cons (.call _ _ (.cons (.named (by decide +kernel) rfl) .nil))
        (.cons (.call _ _ (.cons (.named (by decide +kernel) rfl) .nil)) .nil))
      (.cons (.same _) .nil)) .nil))
  exact ⟨renamed, by decide +kernel, naming_agrees renamed⟩

end EnumCodec.Declaration
