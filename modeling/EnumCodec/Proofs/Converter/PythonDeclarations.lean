import EnumCodec.Declaration.Reading
import EnumCodec.Proofs.Converter.PythonTree

/-!
# EnumCodec.Proofs.Converter.PythonDeclarations

**A converter declares no enums.** A converter in Python lies among the sources of its package, so it may
be read as one. Its only class has no bases, and nothing but assignments and methods in its body, so there
is nothing in it for which a converter could be wanted.
-/

namespace EnumCodec.PythonConverter

open Source Declaration

/-- A statement that declares no enum, whatever the module and the enums before it. -/
def DeclaresNone (statement : Stmt) : Prop :=
  ∀ around scope enums, enumsOf around scope enums statement = .ok enums

theorem enumsOfAll_of_declaresNone {statements : List Stmt}
    (none : ∀ statement ∈ statements, DeclaresNone statement) (around : Surroundings)
    (scope : List String) (enums : List EnumDeclaration) :
    enumsOfAll around scope enums statements = .ok enums := by
  induction statements with
  | nil => rfl
  | cons statement rest ih =>
    obtain ⟨here, others⟩ := List.forall_mem_cons.1 none
    rw [enumsOfAll, here around scope enums]
    exact ih others

/-- A class without bases declares no enum if its body does not. -/
theorem declaresNone_classDef {line : Nat} {name : String} {decorators : List Expr}
    {keywords : List (Option String × Expr)} {body : List Stmt}
    (none : ∀ statement ∈ body, DeclaresNone statement) :
    DeclaresNone (.classDef line name decorators [] keywords body) := by
  intro around scope enums
  rw [enumsOf]
  exact enumsOfAll_of_declaresNone none around _ enums

variable (lines : NotedLines) (layout : Layout) (conversion : Conversion)

theorem declaresNone_valueStmts (propertyName values : Nat) :
    ∀ statement ∈ valueStmts propertyName values conversion, DeclaresNone statement := by
  simp only [valueStmts, List.forall_mem_cons]
  exact ⟨fun _ _ _ => rfl, fun _ _ _ => rfl, fun _ _ _ => rfl, nofun⟩

theorem declaresNone_methodStmts (lowered loaded : Nat) :
    ∀ statement ∈ methodStmts lowered loaded layout conversion, DeclaresNone statement := by
  unfold methodStmts helperStmts
  split
  · simp only [List.forall_mem_cons]
    exact ⟨fun _ _ _ => rfl, fun _ _ _ => rfl, fun _ _ _ => rfl, fun _ _ _ => rfl, fun _ _ _ => rfl,
      nofun⟩
  · simp only [List.forall_mem_cons]
    exact ⟨fun _ _ _ => rfl, fun _ _ _ => rfl, nofun⟩

theorem declaresNone_classStmt : DeclaresNone (classStmt lines layout conversion) :=
  declaresNone_classDef (List.forall_mem_append.2
    ⟨declaresNone_valueStmts conversion _ _, declaresNone_methodStmts layout conversion _ _⟩)

theorem declaresNone_tree :
    ∀ statement ∈ tree lines layout conversion, DeclaresNone statement := by
  have helpers : ∀ statement ∈ (if layout.jsonHelpers then helperImportStmts else []),
      DeclaresNone statement := by
    split
    · simp only [helperImportStmts, List.forall_mem_cons]
      exact ⟨fun _ _ _ => rfl, fun _ _ _ => rfl, nofun⟩
    · nofun
  have imports : ∀ statement ∈ (if conversion.target.enumModule = "" then []
      else [importStmt conversion.target]), DeclaresNone statement := by
    split
    · nofun
    · exact List.forall_mem_singleton.2 fun _ _ _ => rfl
  have exports : DeclaresNone (exportStmt lines.exported conversion.target) := by
    unfold exportStmt
    split <;> exact fun _ _ _ => rfl
  simp only [tree, List.forall_mem_append, List.forall_mem_cons]
  exact ⟨⟨fun _ _ _ => rfl, fun _ _ _ => rfl, nofun⟩, helpers, imports, exports,
    declaresNone_classStmt lines layout conversion, nofun⟩

/-- What a converter exports can be told: the list, if there is one, holds a literal text. -/
theorem exists_exportedNames_tree :
    ∃ exports, exportedNames (tree lines layout conversion) = .ok exports := by
  have listed : ∃ exports, exportedNames [exportStmt lines.exported conversion.target,
      classStmt lines layout conversion] = .ok exports := by
    unfold exportStmt
    split
    · exact ⟨some [literalText conversion.target.converterName], rfl⟩
    · exact ⟨none, rfl⟩
  -- Before what is exported stand a text and imports.
  unfold tree
  split <;> split <;> exact listed

/-- **A converter that is read as a source declares no enums.** -/
theorem readDeclarations_tree (module : String) :
    readDeclarations module (tree lines layout conversion) = .ok { module, enums := [] } := by
  obtain ⟨exports, exported⟩ := exists_exportedNames_tree lines layout conversion
  rw [readDeclarations, exported]
  dsimp only
  rw [enumsOfAll_of_declaresNone (declaresNone_tree lines layout conversion)]

end EnumCodec.PythonConverter
