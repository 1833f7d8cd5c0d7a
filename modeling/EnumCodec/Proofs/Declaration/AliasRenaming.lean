import EnumCodec.Proofs.Declaration.Classes
import EnumCodec.Proofs.Declaration.RelativeImports
import EnumCodec.Proofs.Source.NameNodes

/-!
# EnumCodec.Proofs.Declaration.AliasRenaming

**Names of imports are bound names.** An import may give a name to what it imports, and the module uses
that name wherever it means what was imported. If nothing else has the name, any other one does as well:
with the import all name nodes are renamed, and the same enums are read, with the same members and
attributes.
-/

namespace EnumCodec.Declaration

open Source
open Activity (mapM_congr)

/-! ### Values -/

section Values

variable {change : String → String}

theorem unsignedNumber_rename (e : Expr) : unsignedNumber (e.rename change) = unsignedNumber e := by
  cases e <;> rfl

theorem signedNumber_rename (e : Expr) : signedNumber (e.rename change) = signedNumber e := by
  cases e with
  | unary op operand =>
    cases op <;> simp only [Expr.rename, signedNumber, unsignedNumber_rename] <;> rfl
  | _ => rfl

/-- Of all calls only that of `set` can have a value. -/
theorem literalValue_call_of_ne {callee : Expr} (other : callee ≠ .name "set") (args : List Expr)
    (keywords : List (Option String × Expr)) :
    literalValue (.call callee args keywords) = .error .notLiteral := by
  rw [literalValue]
  · rfl
  all_goals simp [other]

/-- A change that keeps `set` apart from other names. -/
def KeepsSet (change : String → String) : Prop :=
  ∀ id, change id = "set" ↔ id = "set"

theorem literalValue_call_rename (keeps : KeepsSet change) (callee : Expr) (args : List Expr)
    (keywords : List (Option String × Expr)) :
    literalValue ((Expr.call callee args keywords).rename change) =
      literalValue (.call callee args keywords) := by
  rw [Expr.rename]
  by_cases isSet : callee = .name "set"
  · subst isSet
    rw [Expr.rename, (keeps "set").2 rfl]
    cases args <;> cases keywords <;> rfl
  · have other : callee.rename change ≠ .name "set" := by
      cases callee with
      | name id => simpa [Expr.rename, keeps id] using isSet
      | _ => simp [Expr.rename]
    rw [literalValue_call_of_ne isSet, literalValue_call_of_ne other]

mutual

/-- **The value of a literal** is the same after a renaming that keeps `set` apart. -/
theorem literalValue_rename (keeps : KeepsSet change) (e : Expr) :
    literalValue (e.rename change) = literalValue e := by
  -- An expression that is no literal remains none, whatever names are in it.
  cases e with
  | tuple items => rw [Expr.rename, literalValue, literalValue, literalValues_rename keeps items]
  | list items => rw [Expr.rename, literalValue, literalValue, literalValues_rename keeps items]
  | set items => rw [Expr.rename, literalValue, literalValue, literalItems_rename keeps [] items]
  | dict entries => rw [Expr.rename, literalValue, literalValue, literalEntries_rename keeps [] entries]
  | call callee args keywords => exact literalValue_call_rename keeps callee args keywords
  | unary op operand => exact signedNumber_rename (.unary op operand)
  | binary left op right =>
    cases op <;> simp only [Expr.rename, literalValue, signedNumber_rename, unsignedNumber_rename] <;>
      rfl
  | _ => rfl

theorem literalValues_rename (keeps : KeepsSet change) (items : List Expr) :
    literalValues (renameExprs change items) = literalValues items := by
  cases items with
  | nil => rfl
  | cons item rest =>
    rw [renameExprs, literalValues, literalValues, literalValue_rename keeps item,
      literalValues_rename keeps rest]

theorem literalItems_rename (keeps : KeepsSet change) (known : List Value) (items : List Expr) :
    literalItems known (renameExprs change items) = literalItems known items := by
  cases items with
  | nil => rfl
  | cons item rest =>
    rw [renameExprs, literalItems, literalItems, literalValue_rename keeps item]
    simp only [literalItems_rename keeps _ rest]

theorem literalEntries_rename (keeps : KeepsSet change) (known : List (Value × Value))
    (entries : List (Option Expr × Expr)) :
    literalEntries known (renameEntries change entries) = literalEntries known entries := by
  cases entries with
  | nil => rfl
  | cons entry rest =>
    obtain ⟨_ | key, value⟩ := entry
    · rfl
    · rw [renameEntries, renameOptional, literalEntries, literalEntries, literalValue_rename keeps key,
        literalValue_rename keeps value]
      simp only [literalEntries_rename keeps _ rest]

end

theorem literal?_rename (keeps : KeepsSet change) (e : Expr) : literal? (e.rename change) = literal? e := by
  rw [literal?, literalValue_rename keeps e, literal?]

end Values

/-! ### Names -/

section Names

variable {a b : String} {aliases aliases' : Aliases}

theorem keepsSet_replaceName (first : a ≠ "set") (second : b ≠ "set") : KeepsSet (replaceName a b) := by
  intro id
  unfold replaceName
  split
  · next same => simp [same, first, second]
  · exact Iff.rfl

/-- The new name stands for what the old one stood for, and every other name for what it did. -/
structure Corresponds (a b : String) (aliases aliases' : Aliases) : Prop where
  renamed : aliases'.lookup b = aliases.lookup a
  others : ∀ id, id ≠ a → id ≠ b → aliases'.lookup id = aliases.lookup id

/-- **The new name takes over** what the old one was bound to. -/
structure TakesOver (a b : String) (aliases aliases' : Aliases) : Prop extends
    Corresponds a b aliases aliases' where
  known : (aliases.lookup a).isSome

/-- **A renamed name stands for the same**, and so does a name within it. -/
theorem resolveName_rename (takes : TakesOver a b aliases aliases') {e : Expr}
    (avoids : Avoids Expr.rename b e) :
    resolveName aliases' (e.rename (replaceName a b)) = resolveName aliases e := by
  cases e with
  | name id =>
    rw [Expr.rename, resolveName, resolveName]
    by_cases old : id = a
    · -- A name that is bound to nothing stands for itself, so the old one has to be bound.
      obtain ⟨target, found⟩ := Option.isSome_iff_exists.1 takes.known
      rw [old, replaceName_self, takes.renamed, found]
      rfl
    · rw [replaceName_of_ne b old, takes.others id old avoids.ne]
  | «attribute» object attr =>
    rw [Expr.rename, resolveName, resolveName, resolveName_rename takes avoids.object]
  | _ => rfl

variable (takes : TakesOver a b aliases aliases') (keeps : KeepsSet (replaceName a b))
include takes keeps

theorem argumentValue_rename {e : Expr} (avoids : Avoids Expr.rename b e) :
    argumentValue aliases' (e.rename (replaceName a b)) = argumentValue aliases e := by
  have named := resolveName_rename takes avoids
  have value := literal?_rename keeps e
  cases e with
  | name id =>
    simp only [argumentValue, Expr.rename] at named ⊢
    rw [named]
  | «attribute» object attr =>
    simp only [argumentValue, Expr.rename] at named ⊢
    rw [named]
  | _ => exact congrArg (Except.map (·.getD .none)) value

theorem keywordValues_rename (earlier : List (String × Value)) {keywords : List (Option String × Expr)}
    (avoids : ∀ keyword ∈ keywords, Avoids Expr.rename b keyword.2) :
    keywordValues aliases' earlier (renameKeywords (replaceName a b) keywords) =
      keywordValues aliases earlier keywords := by
  induction keywords generalizing earlier with
  | nil => rfl
  | cons keyword rest ih =>
    obtain ⟨here, others⟩ := List.forall_mem_cons.1 avoids
    obtain ⟨_ | key, value⟩ := keyword
    · -- A mapping that is unpacked is passed over.
      exact ih earlier others
    · rw [renameKeywords, keywordValues, keywordValues, argumentValue_rename takes keeps here]
      simp only [fun earlier => ih earlier others]

/-- **An attribute stays as it is.** -/
theorem attributeOf_rename {e : Expr} (avoids : Avoids Expr.rename b e) :
    attributeOf aliases' (e.rename (replaceName a b)) = attributeOf aliases e := by
  cases e with
  | call callee args keywords =>
    obtain ⟨called, positional, named⟩ := avoids.call
    have values : (renameExprs (replaceName a b) args).mapM (argumentValue aliases') =
        args.mapM (argumentValue aliases) := by
      rw [renameExprs_eq_map, List.mapM_map]
      exact mapM_congr fun arg mem => argumentValue_rename takes keeps (positional.mem mem)
    simp only [Expr.rename, attributeOf, resolveName_rename takes called, values,
      keywordValues_rename takes keeps [] fun keyword => named.mem_keywords]
  | _ =>
    have same := resolveName_rename takes avoids
    simp only [Expr.rename] at same
    simp only [Expr.rename, attributeOf, same]

/-- The calls behind the first item of an annotation are the same attributes. -/
theorem annotatedCalls_rename {items : List Expr} (avoids : Avoids renameExprs b items) :
    (((renameExprs (replaceName a b) items).drop 1).filter (· matches .call ..)).mapM
        (attributeOf aliases') =
      ((items.drop 1).filter (· matches .call ..)).mapM (attributeOf aliases) := by
  rw [renameExprs_eq_map, ← List.map_drop, List.filter_map, List.mapM_map]
  refine Eq.trans ?_ (mapM_congr fun item mem => attributeOf_rename takes keeps
    (avoids.mem (List.mem_of_mem_drop (List.mem_of_mem_filter mem))))
  -- A call remains one, and nothing else becomes one.
  congr 1
  refine List.filter_congr fun item _ => ?_
  cases item <;> rfl

/-- **The attributes in an annotation stay as they are.** -/
theorem annotationAttributes_rename {e : Expr} (avoids : Avoids Expr.rename b e) :
    annotationAttributes aliases' (e.rename (replaceName a b)) = annotationAttributes aliases e := by
  cases e with
  | subscript object index =>
    cases index with
    | tuple items =>
      have named : Avoids Expr.rename b object := fun other => (Expr.subscript.inj (avoids other)).1
      have within : Avoids renameExprs b items := fun other =>
        Expr.tuple.inj (Expr.subscript.inj (avoids other)).2
      rw [Expr.rename, Expr.rename, annotationAttributes, annotationAttributes,
        resolveName_rename takes named]
      cases resolveName aliases object with
      | none => rfl
      | some name =>
        dsimp only
        split
        · exact annotatedCalls_rename takes keeps within
        · rfl
    | _ => rfl
  | _ => rfl

omit keeps in
theorem makesMember_rename {e : Expr} (avoids : Avoids Expr.rename b e) :
    makesMember aliases' (e.rename (replaceName a b)) = makesMember aliases e := by
  cases e with
  | call callee args keywords =>
    simp only [Expr.rename, makesMember, resolveName_rename takes avoids.call.1]
  | _ => rfl

end Names

/-! ### Statements -/

/-- Does a statement bind a name by an assignment, or by an annotation with or without a value? -/
def bindsName (id : String) : Stmt → Bool
  | .assign _ targets _ => assigns id targets
  | .annotated _ target _ _ => assigns id [target]
  | _ => false

section Statements

variable {a b : String} {aliases aliases' : Aliases}

theorem ne_of_not_assigns {targets : List Expr} (unassigned : assigns a targets = false) {id : String}
    (mem : .name id ∈ targets) : id ≠ a := by
  simpa using List.any_eq_false.1 unassigned _ mem

/-- The names that are assigned are the same, if the old name is none of them. -/
theorem assigns_rename (id : String) {targets : List Expr} (unassigned : assigns a targets = false) :
    assigns id (renameExprs (replaceName a b) targets) = assigns id targets := by
  induction targets with
  | nil => rfl
  | cons target rest ih =>
    have others : assigns a rest = false := (Bool.or_eq_false_iff.1 unassigned).2
    have here : assigns id [target.rename (replaceName a b)] = assigns id [target] := by
      cases target with
      | name own =>
        rw [Expr.rename, replaceName_of_ne b (ne_of_not_assigns unassigned List.mem_cons_self)]
      | _ => rfl
    simp only [assigns, List.any_cons, List.any_nil, Bool.or_false] at here ih ⊢
    rw [renameExprs, List.any_cons, here, ih others]

variable {body : List Stmt} (unassigned : ∀ statement ∈ body, bindsName a statement = false)
  (keeps : KeepsSet (replaceName a b))
include unassigned keeps

theorem exportedNames_rename : exportedNames (renameBody (replaceName a b) body) = exportedNames body := by
  induction body with
  | nil => rfl
  | cons statement rest ih =>
    obtain ⟨here, others⟩ := List.forall_mem_cons.1 unassigned
    cases statement with
    | assign line targets value =>
      rw [renameBody, Stmt.rename, exportedNames, exportedNames, assigns_rename _ here,
        literal?_rename keeps, ih others]
    | _ => exact ih others

theorem ignoredNames_rename : ignoredNames (renameBody (replaceName a b) body) = ignoredNames body := by
  induction body with
  | nil => rfl
  | cons statement rest ih =>
    obtain ⟨here, others⟩ := List.forall_mem_cons.1 unassigned
    cases statement with
    | assign line targets value =>
      rw [renameBody, Stmt.rename, ignoredNames, ignoredNames, assigns_rename _ here,
        literal?_rename keeps, ih others]
    | _ => exact ih others

omit unassigned in
/-- **The members that a statement makes stay as they are.** -/
theorem membersOf_rename (takes : TakesOver a b aliases aliases') (ignored : List String)
    {statement : Stmt} (unbound : bindsName a statement = false)
    (avoids : Avoids Stmt.rename b statement) :
    membersOf aliases' ignored (statement.rename (replaceName a b)) =
      membersOf aliases ignored statement := by
  cases statement with
  | assign line targets value =>
    have made : makesMember aliases' (value.rename (replaceName a b)) = makesMember aliases value :=
      makesMember_rename takes fun other => (Stmt.assign.inj (avoids other)).2.2
    rw [Stmt.rename, membersOf, membersOf, renameExprs_eq_map, List.filterMap_map]
    congr 1
    refine List.filterMap_congr fun target mem => ?_
    cases target with
    | name id =>
      simp only [Function.comp_apply, Expr.rename, isMember, made,
        replaceName_of_ne b (ne_of_not_assigns unbound mem)]
    | _ => rfl
  | annotated line target annotation value =>
    cases target with
    | name id =>
      have noted : Avoids Expr.rename b annotation := fun other =>
        (Stmt.annotated.inj (avoids other)).2.2.1
      simp only [Stmt.rename, Expr.rename, membersOf, annotationAttributes_rename takes keeps noted,
        replaceName_of_ne b (ne_of_not_assigns unbound List.mem_cons_self)]
      cases value with
      | none => rfl
      | some value =>
        have made : makesMember aliases' (value.rename (replaceName a b)) = makesMember aliases value :=
          makesMember_rename takes fun other =>
            Option.some.inj (Stmt.annotated.inj (avoids other)).2.2.2
        simp only [renameOptional, isMember, made]
    | _ => rfl
  | _ => rfl

end Statements

/-! ### Classes -/

section Classes

variable {a b : String} {aliases aliases' : Aliases} {exports : Option (List String)}
  {module : String} {enums : List EnumDeclaration}

/-- Renames the name nodes of a class. -/
def DeclaredClass.rename (change : String → String) (declared : DeclaredClass) : DeclaredClass :=
  { declared with
    decorators := renameExprs change declared.decorators
    bases := renameExprs change declared.bases
    body := renameBody change declared.body }

mutual

theorem classesIn_rename (change : String → String) (scope : List String) (statement : Stmt) :
    classesIn scope (statement.rename change) = (classesIn scope statement).map (·.rename change) := by
  cases statement with
  | classDef line name decorators bases keywords body =>
    rw [Stmt.rename, classesIn, classesIn, List.map_cons, classesOf_rename change _ body]
    rfl
  | _ => rfl

/-- The classes of a module are renamed with it. -/
theorem classesOf_rename (change : String → String) (scope : List String) (body : List Stmt) :
    classesOf scope (renameBody change body) = (classesOf scope body).map (·.rename change) := by
  cases body with
  | nil => rfl
  | cons statement rest =>
    rw [renameBody, classesOf, classesOf, List.map_append, classesIn_rename change scope statement,
      classesOf_rename change scope rest]

end

theorem isEnumClass_rename (takes : TakesOver a b aliases aliases') {bases : List Expr}
    (avoids : Avoids renameExprs b bases) :
    isEnumClass ⟨module, aliases', exports⟩ enums (renameExprs (replaceName a b) bases) =
      isEnumClass ⟨module, aliases, exports⟩ enums bases := by
  have names : (renameExprs (replaceName a b) bases).map (resolveName aliases') =
      bases.map (resolveName aliases) := by
    rw [renameExprs_eq_map, List.map_map]
    exact List.map_congr_left fun base mem => resolveName_rename takes (avoids.mem mem)
  -- Only what the bases stand for is looked at.
  have read (around : Surroundings) (bases : List Expr) : isEnumClass around enums bases =
      (bases.map (resolveName around.aliases)).any (Option.any fun name => isEnumBase name ||
        (ModuleDeclarations.find? ⟨around.module, enums⟩ (.text name)).isSome) := by
    rw [isEnumClass, List.any_map]
    congr 1
    funext base
    rw [Function.comp_apply]
    cases resolveName around.aliases base <;> rfl
  rw [read, read, names]

/-- **A class declares the same enum**, if it does not bind the old name and has no node of the new
one. -/
theorem recordClass_rename (takes : TakesOver a b aliases aliases')
    (keeps : KeepsSet (replaceName a b)) {declared : DeclaredClass}
    (unassigned : ∀ statement ∈ declared.body, bindsName a statement = false)
    (avoids : Avoids DeclaredClass.rename b declared) :
    recordClass ⟨module, aliases', exports⟩ enums (declared.rename (replaceName a b)) =
      recordClass ⟨module, aliases, exports⟩ enums declared := by
  obtain ⟨path, line, decorators, bases, body⟩ := declared
  have marked : Avoids renameExprs b decorators := fun other =>
    (DeclaredClass.mk.inj (avoids other)).2.2.1
  have based : Avoids renameExprs b bases := fun other =>
    (DeclaredClass.mk.inj (avoids other)).2.2.2.1
  have within : Avoids renameBody b body := fun other => (DeclaredClass.mk.inj (avoids other)).2.2.2.2
  have attributes : (renameExprs (replaceName a b) decorators).mapM (attributeOf aliases') =
      decorators.mapM (attributeOf aliases) := by
    rw [renameExprs_eq_map, List.mapM_map]
    exact mapM_congr fun decorator mem => attributeOf_rename takes keeps (marked.mem mem)
  have members (ignored : List String) :
      (renameBody (replaceName a b) body).mapM (membersOf aliases' ignored) =
        body.mapM (membersOf aliases ignored) := by
    rw [renameBody_eq_map, List.mapM_map]
    exact mapM_congr fun statement mem =>
      membersOf_rename keeps takes ignored (unassigned statement mem) (within.mem_body mem)
  simp only [recordClass, DeclaredClass.rename, isEnumClass_rename takes based, enumOf, attributes,
    ignoredNames_rename unassigned keeps, members]

end Classes

/-! ### Imports -/

/-- Does a statement that binds the name by an import always give it in the place of another name? -/
def GivesName (id : String) : Stmt → Prop
  | .importModules names =>
    ∀ imported ∈ names, imported.otherName = none → Text.firstPiece imported.name ≠ id
  | .importFrom _ names _ => ∀ imported ∈ names, imported.otherName = none → imported.name ≠ id
  | _ => True

section Imports

variable {a b id : String} {aliases aliases' : Aliases} {here : String}

theorem Corresponds.put (alike : Corresponds a b aliases aliases') (other : id ≠ b) (value : String) :
    Corresponds a b (Entries.put aliases id value) (Entries.put aliases' (replaceName a b id) value) where
  renamed := by
    rw [Entries.lookup_put, Entries.lookup_put, alike.renamed]
    by_cases old : id = a
    · simp [old]
    · simp [replaceName_of_ne b old, Ne.symm other, Ne.symm old]
  others := by
    intro name notOld notNew
    rw [Entries.lookup_put, Entries.lookup_put, alike.others name notOld notNew]
    by_cases old : id = a
    · simp [old, notOld, notNew]
    · rw [replaceName_of_ne b old]

theorem Corresponds.bindModule (alike : Corresponds a b aliases aliases') {imported : ImportedName}
    (given : imported.otherName = none → Text.firstPiece imported.name ≠ a)
    (other : imported.otherName.getD (Text.firstPiece imported.name) ≠ b) :
    Corresponds a b (bindModule aliases imported)
      (bindModule aliases' (imported.rename (replaceName a b))) := by
  obtain ⟨name, _ | id⟩ := imported
  · have bound := alike.put other (Text.firstPiece name)
    rwa [Option.getD_none, replaceName_of_ne b (given rfl)] at bound
  · exact alike.put other name

theorem Corresponds.bindFrom (alike : Corresponds a b aliases aliases') (base : String)
    {imported : ImportedName} (given : imported.otherName = none → imported.name ≠ a)
    (other : boundFrom imported ≠ b) :
    Corresponds a b (bindFrom base aliases imported)
      (bindFrom base aliases' (imported.rename (replaceName a b))) := by
  obtain ⟨name, _ | id⟩ := imported
  · have bound := alike.put other (if base = "" then name else base ++ "." ++ name)
    rwa [boundFrom, Option.getD_none, replaceName_of_ne b (given rfl)] at bound
  · exact alike.put other _

/-- Renaming a name that an import gives changes nothing else that it binds. -/
theorem Corresponds.bindImports (alike : Corresponds a b aliases aliases') {statement : Stmt}
    (given : GivesName a statement) (unbound : b ∉ boundNames statement) :
    Corresponds a b (bindImports here aliases statement)
      (bindImports here aliases' (statement.rename (replaceName a b))) := by
  cases statement with
  | importModules names =>
    rw [Stmt.rename, Declaration.bindImports, Declaration.bindImports, List.foldl_map]
    refine List.foldl_rel alike fun imported mem known known' alike => ?_
    exact alike.bindModule (given imported mem) fun same => unbound (List.mem_map.2 ⟨imported, mem, same⟩)
  | importFrom module names level =>
    rw [Stmt.rename, Declaration.bindImports, Declaration.bindImports, List.foldl_map]
    refine List.foldl_rel alike fun imported mem known known' alike => ?_
    exact alike.bindFrom _ (given imported mem) fun same => unbound (List.mem_map.2 ⟨imported, mem, same⟩)
  | _ => exact alike

/-- A name is known behind items that bind names, if one of them binds it or it was known before. -/
theorem isSome_lookup_foldl {α : Type} {step : Aliases → α → Aliases} {Binds : α → Prop}
    (each : ∀ aliases item,
      ((step aliases item).lookup id).isSome ↔ Binds item ∨ (aliases.lookup id).isSome)
    (items : List α) (aliases : Aliases) :
    ((items.foldl step aliases).lookup id).isSome ↔
      (∃ item ∈ items, Binds item) ∨ (aliases.lookup id).isSome := by
  induction items generalizing aliases with
  | nil => simp
  | cons item rest ih =>
    rw [List.foldl_cons, ih, each, List.exists_mem_cons_iff, or_assoc, or_left_comm]

theorem isSome_lookup_put (key value : String) :
    ((Entries.put aliases key value).lookup id).isSome ↔ key = id ∨ (aliases.lookup id).isSome := by
  rw [Entries.lookup_put]
  by_cases same : id = key
  · simp [same]
  · simp [same, Ne.symm same]

theorem isSome_lookup_bindImports (aliases : Aliases) (statement : Stmt) :
    ((bindImports here aliases statement).lookup id).isSome ↔
      id ∈ boundNames statement ∨ (aliases.lookup id).isSome := by
  cases statement with
  | importModules names =>
    have each (aliases : Aliases) (imported : ImportedName) :
        ((bindModule aliases imported).lookup id).isSome ↔
          imported.otherName.getD (Text.firstPiece imported.name) = id ∨ (aliases.lookup id).isSome := by
      obtain ⟨name, _ | other⟩ := imported <;> exact isSome_lookup_put _ _
    rw [bindImports, isSome_lookup_foldl each, boundNames, List.mem_map]
  | importFrom module names level =>
    have each (aliases : Aliases) (imported : ImportedName) :
        ((bindFrom (absoluteModule here module level) aliases imported).lookup id).isSome ↔
          boundFrom imported = id ∨ (aliases.lookup id).isSome := isSome_lookup_put _ _
    rw [bindImports, isSome_lookup_foldl each, boundNames, List.mem_map]
  | _ => simp [bindImports, boundNames]

/-- **The imports of a renamed module** bind the new name to what the old one was bound to. -/
theorem takesOver_importedAliases (here : String) {tree : Module}
    (bound : ∃ statement ∈ tree, a ∈ boundNames statement)
    (given : ∀ statement ∈ tree, GivesName a statement)
    (unbound : ∀ statement ∈ tree, b ∉ boundNames statement) :
    TakesOver a b (importedAliases here tree)
      (importedAliases here (renameBody (replaceName a b) tree)) where
  toCorresponds := by
    rw [importedAliases, importedAliases, renameBody_eq_map, List.foldl_map]
    exact List.foldl_rel ⟨rfl, fun _ _ _ => rfl⟩ fun statement mem known known' alike =>
      alike.bindImports (given statement mem) (unbound statement mem)
  known := (isSome_lookup_foldl isSome_lookup_bindImports tree []).2 (.inl bound)

end Imports

/-! ### Modules -/

/-- **A name that imports give.** Imports at the top of a module bind the name, always in the place of
another one, and no assignment or annotation binds it, neither at the top nor in the body of a class. -/
structure IsImportAlias (tree : Module) (id : String) : Prop where
  bound : ∃ statement ∈ tree, id ∈ boundNames statement
  given : ∀ statement ∈ tree, GivesName id statement
  unassigned : ∀ statement ∈ tree, bindsName id statement = false
  unassignedIn : ∀ declared ∈ classesOf [] tree, ∀ statement ∈ declared.body,
    bindsName id statement = false

/-- **A name that a module does not use**: no node has it, and no import at the top binds it. -/
structure IsUnused (tree : Module) (id : String) : Prop where
  nodes : Avoids renameBody id tree
  imports : ∀ statement ∈ tree, id ∉ boundNames statement

/-- **Renaming a name that imports give changes nothing.** With the name nodes and the imports renamed,
the same is read: the same enums with all that belongs to them, or the same failure. -/
theorem readDeclarations_renameAlias (module : String) {tree : Module} {a b : String}
    (given : IsImportAlias tree a) (unused : IsUnused tree b) (first : a ≠ "set") (second : b ≠ "set") :
    readDeclarations module (renameBody (replaceName a b) tree) = readDeclarations module tree := by
  have keeps := keepsSet_replaceName first second
  have takes := takesOver_importedAliases module given.bound given.given unused.imports
  -- What no node of the module has, no node of a class in it has.
  have avoids (declared : DeclaredClass) (mem : declared ∈ classesOf [] tree) :
      Avoids DeclaredClass.rename b declared := by
    intro other
    have same : (classesOf [] tree).map (·.rename (replaceName b other)) = classesOf [] tree := by
      rw [← classesOf_rename, unused.nodes other]
    exact eq_of_map_eq_self same mem
  have walk (exports : Option (List String)) :
      enumsOfAll ⟨module, importedAliases module (renameBody (replaceName a b) tree), exports⟩ [] []
          (renameBody (replaceName a b) tree) =
        enumsOfAll ⟨module, importedAliases module tree, exports⟩ [] [] tree := by
    rw [enumsOfAll_eq_foldlM, enumsOfAll_eq_foldlM, classesOf_rename]
    exact foldlM_recordClass_congr (fun declared mem _ =>
      recordClass_rename takes keeps (given.unassignedIn declared mem) (avoids declared mem)) []
  simp only [readDeclarations, exportedNames_rename given.unassigned keeps, walk]

/-- A module that uses the library `enum` under a name of its own. -/
def aliasingModule (id : String) : Module :=
  [.importModules [⟨"enum", some id⟩],
    .classDef 2 "Color" [] [.attribute (.name id) "Enum"] []
      [.assign 3 [.name "RED"] (.constant (.int 1)),
        .assign 4 [.name "hint"]
          (.call (.attribute (.name id) "nonmember") [.constant (.text "warm")] [])]]

/-- Under either name the enum is found, and the call makes no member. -/
theorem readDeclarations_renameAlias_enum :
    readDeclarations "m" (aliasingModule "py") = readDeclarations "m" (aliasingModule "e") ∧
      ((readDeclarations "m" (aliasingModule "e")).toOption.map fun declarations =>
          declarations.enums.map fun enum => (enum.name, enum.members.map fun member =>
            (member.name, member.hasValue))) =
        some [("Color", [("RED", true), ("hint", false)])] := by
  have given : IsImportAlias (aliasingModule "e") "e" := by
    refine ⟨⟨_, List.mem_cons_self, by decide⟩, ?_, ?_, ?_⟩
    · simp [aliasingModule, GivesName]
    · decide
    · decide
  have unused : IsUnused (aliasingModule "e") "py" := by
    refine ⟨fun other => ?_, by decide⟩
    simp [aliasingModule, renameBody, Stmt.rename, Expr.rename, renameExprs, renameKeywords,
      ImportedName.rename, replaceName]
  have renamed : renameBody (replaceName "e" "py") (aliasingModule "e") = aliasingModule "py" := by
    simp [aliasingModule, renameBody, Stmt.rename, Expr.rename, renameExprs, renameKeywords,
      ImportedName.rename, replaceName]
  refine ⟨?_, by decide +kernel⟩
  rw [← renamed]
  exact readDeclarations_renameAlias "m" given unused (by decide) (by decide)

end EnumCodec.Declaration
