import EnumCodec.Proofs.Declaration.Classes
import EnumCodec.Proofs.Text.DottedName

/-!
# EnumCodec.Proofs.Declaration.Visibility

**Which enums can be seen outside their module.** A module lists the names that it exports in `__all__`.
It may assign the list more than once, and with an annotation. When the module runs, the last list
counts; the reading of declarations takes the first one that has no annotation. Both agree about an enum
if one of its names is private, or if its outermost class stands in both lists or in none.
-/

namespace EnumCodec.Declaration

open Source
open Text (dotPieces firstPiece isIdentifier)

/-! ### Lists of exported names -/

/-- How a list of exported names is assigned. -/
inductive ExportForm where
  /-- `__all__ = value`, perhaps with more targets. -/
  | plain
  /-- `__all__: annotation = value`. -/
  | annotated
deriving DecidableEq, Repr

/-- What a statement assigns to `__all__`, if it does. An annotation without a value assigns nothing. -/
def exportValue? : Stmt → Option (ExportForm × Expr)
  | .assign _ targets value => if assigns "__all__" targets then some (.plain, value) else none
  | .annotated _ (.name id) _ (some value) => if id = "__all__" then some (.annotated, value) else none
  | _ => none

/-- The texts that are written in a list or tuple, if it holds nothing else. -/
def writtenTexts? : Expr → Option (List String)
  | .list items => items.mapM text?
  | .tuple items => items.mapM text?
  | _ => none
where
  /-- The text that an item is. -/
  text? : Expr → Option String
    | .constant (.text value) => some value
    | _ => none

/-- A list of names that is assigned to `__all__`. -/
structure ExportList where
  form : ExportForm
  names : List String
deriving DecidableEq, Repr

/-- The lists that a module assigns to `__all__` at its top, in the order of the source, if it assigns
nothing else to it. -/
def exportLists? (tree : Module) : Option (List ExportList) :=
  (tree.filterMap exportValue?).mapM fun (form, value) =>
    (writtenTexts? value).map fun names => ⟨form, names⟩

/-- The names in the last list: those that `__all__` has when the module has run. -/
def lastExports (lists : List ExportList) : Option (List String) :=
  lists.getLast?.map (·.names)

/-- The names in the first list that is assigned without an annotation. -/
def firstPlainExports (lists : List ExportList) : Option (List String) :=
  (lists.find? (·.form = .plain)).map (·.names)

/-- **Is the outermost class of an enum exported?** Without a list everything is. -/
def Exports (exports : Option (List String)) (name : String) : Prop :=
  ∀ names, exports = some names → firstPiece name ∈ names

/-- A name of which no part begins with an underscore. -/
def IsUnderscoreFree (name : String) : Prop :=
  ∀ part ∈ dotPieces name, part.toList.head? ≠ some '_'

instance (name : String) : Decidable (IsUnderscoreFree name) :=
  inferInstanceAs (Decidable (∀ part ∈ dotPieces name, _))

/-! ### The list that is read -/

theorem literalValues_of_texts {items : List Expr} {texts : List String}
    (written : items.mapM writtenTexts?.text? = some texts) :
    literalValues items = .ok (texts.map .text) := by
  induction items generalizing texts with
  | nil =>
    cases written
    rfl
  | cons item rest ih =>
    rw [List.mapM_cons] at written
    obtain ⟨first, here, written⟩ := Option.bind_eq_some_iff.1 written
    obtain ⟨others, there, written⟩ := Option.bind_eq_some_iff.1 written
    cases written
    unfold writtenTexts?.text? at here
    split at here
    · cases here
      rw [literalValues, ih there]
      rfl
    · cases here

theorem textsOf_map_text (texts : List String) : textsOf (texts.map .text) = texts := by
  simp [textsOf, List.filterMap_map]

/-- A list or tuple of texts is a literal from which the texts are taken. -/
theorem literal?_of_texts {value : Expr} {texts : List String}
    (written : writtenTexts? value = some texts) :
    literal? value = .ok (some (.list (texts.map .text))) ∨
      literal? value = .ok (some (.tuple (texts.map .text))) := by
  unfold writtenTexts? at written
  split at written
  · simp [literal?, literalValue, literalValues_of_texts written, Except.map]
  · simp [literal?, literalValue, literalValues_of_texts written, Except.map]
  · cases written

/-- A statement that assigns nothing to the name, or with an annotation, is passed over. -/
theorem exportedNames_cons_of_not_plain {statement : Stmt} (rest : List Stmt)
    (other : ∀ value, exportValue? statement ≠ some (.plain, value)) :
    exportedNames (statement :: rest) = exportedNames rest := by
  cases statement with
  | assign line targets value =>
    have unassigned : ¬ assigns "__all__" targets = true := fun assigned =>
      other value (by rw [exportValue?, if_pos assigned])
    rw [exportedNames, if_neg unassigned]
  | _ => rfl

/-- A list that is assigned without an annotation ends the search. -/
theorem exportedNames_cons_of_plain {statement : Stmt} {value : Expr} {texts : List String}
    (rest : List Stmt) (plain : exportValue? statement = some (.plain, value))
    (written : writtenTexts? value = some texts) :
    exportedNames (statement :: rest) = .ok (some texts) := by
  unfold exportValue? at plain
  split at plain
  · split at plain
    · next assigned =>
      cases plain
      rw [exportedNames, if_pos assigned]
      rcases literal?_of_texts written with read | read <;>
        simp [read, bind, Except.bind, textsOf_map_text, pure, Except.pure]
    · cases plain
  · split at plain <;> cases plain
  · cases plain

/-- **The list that is read** is the first one that is assigned without an annotation. -/
theorem exportedNames_eq {tree : Module} {lists : List ExportList}
    (written : exportLists? tree = some lists) :
    exportedNames tree = .ok (firstPlainExports lists) := by
  induction tree generalizing lists with
  | nil =>
    cases written
    rfl
  | cons statement rest ih =>
    unfold exportLists? at written
    rw [List.filterMap_cons] at written
    cases here : exportValue? statement with
    | none =>
      simp only [here] at written
      rw [exportedNames_cons_of_not_plain rest (by simp [here]), ih written]
    | some assigned =>
      obtain ⟨form, value⟩ := assigned
      simp only [here, List.mapM_cons] at written
      obtain ⟨first, this, written⟩ := Option.bind_eq_some_iff.1 written
      obtain ⟨others, there, written⟩ := Option.bind_eq_some_iff.1 written
      cases written
      obtain ⟨names, texts, rfl⟩ := Option.map_eq_some_iff.1 this
      cases form with
      | plain =>
        rw [exportedNames_cons_of_plain rest here texts]
        simp [firstPlainExports]
      | annotated =>
        rw [exportedNames_cons_of_not_plain rest (by simp [here]), ih there]
        simp [firstPlainExports]

/-! ### What can be seen -/

/-- Visibility in terms of the name of an enum. -/
theorem isVisible_iff {path : List String} (nonempty : path ≠ [])
    (named : ∀ name ∈ path, isIdentifier name.toList = true) (exports : Option (List String)) :
    isVisible exports path = true ↔
      IsUnderscoreFree (Text.joinDots path) ∧ Exports exports (Text.joinDots path) := by
  have pieces := Text.dotPieces_joinDots_of_isIdentifier nonempty named
  cases exports with
  | none => simp [isVisible, IsUnderscoreFree, Exports, pieces]
  | some names => simp [isVisible, IsUnderscoreFree, Exports, firstPiece, pieces]

/-- **An enum is public** if no part of its name begins with an underscore and its outermost class is in
the first list without an annotation. This is what the last list says if a part of the name begins with
an underscore or the two lists agree about the outermost class, and only then. -/
theorem isPublic_iff {source module : String} {tree : Module} {declarations : ModuleDeclarations}
    {lists : List ExportList} {enum : EnumDeclaration} (parsed : readModule source = .ok tree)
    (read : readDeclarations module tree = .ok declarations)
    (written : exportLists? tree = some lists) (mem : enum ∈ declarations.enums) :
    (enum.isPublic = true ↔
        IsUnderscoreFree enum.name ∧ Exports (firstPlainExports lists) enum.name) ∧
      ((enum.isPublic = true ↔ IsUnderscoreFree enum.name ∧ Exports (lastExports lists) enum.name) ↔
        ¬ IsUnderscoreFree enum.name ∨
          (Exports (firstPlainExports lists) enum.name ↔ Exports (lastExports lists) enum.name)) := by
  obtain ⟨exports, exported, declared, there, own⟩ := exists_class_of_mem read mem
  obtain rfl : firstPlainExports lists = exports :=
    Except.ok.inj ((exportedNames_eq written).symm.trans exported)
  obtain ⟨nonempty, named, -⟩ :=
    named_of_mem_classesOf (by simp) (readModule_isNamed parsed) there
  obtain ⟨name, -, seen⟩ := enumOf_eq_ok own
  have iff : enum.isPublic = true ↔
      IsUnderscoreFree enum.name ∧ Exports (firstPlainExports lists) enum.name := by
    rw [seen, name]
    exact isVisible_iff nonempty named _
  refine ⟨iff, ?_⟩
  rw [iff]
  tauto

/-- A module that exports one enum at first, and in the end the other one with an enum in it. -/
def exportingSource : String :=
  "__all__ = ['A']\n__all__: list[str] = ['B']\n\n" ++
    "class A(Enum):\n X = 1\n\nclass B(Enum):\n class C(Enum):\n  Y = 1\n"

set_option maxRecDepth 4000 in
/-- **The first list counts**: the enum in it is public, and those in the last one are not. -/
theorem isPublic_exporting : ∃ tree declarations lists first second third,
    readModule exportingSource = .ok tree ∧ readDeclarations "m" tree = .ok declarations ∧
      exportLists? tree = some lists ∧ declarations.enums = [first, second, third] ∧
      lastExports lists = some ["B"] ∧ (first.name = "A" ∧ first.isPublic = true) ∧
      (second.name = "B" ∧ second.isPublic = false) ∧ third.name = "B.C" ∧ third.isPublic = false := by
  have facts : ((readModule exportingSource).toOption.bind fun tree =>
      (readDeclarations "m" tree).toOption.bind fun declarations =>
        (exportLists? tree).map fun lists => (lists, declarations.enums.map (·.name))) =
      some ([⟨.plain, ["A"]⟩, ⟨.annotated, ["B"]⟩], ["A", "B", "B.C"]) := by decide +kernel
  obtain ⟨tree, ⟨module, enums⟩, parsed, read, facts⟩ := exists_of_read facts
  obtain ⟨lists, written, facts⟩ := Option.map_eq_some_iff.1 facts
  obtain ⟨rfl, names⟩ := Prod.mk.inj facts
  obtain ⟨first, enums, rfl, name, names⟩ := List.map_eq_cons_iff.1 names
  obtain ⟨second, enums, rfl, name', names⟩ := List.map_eq_cons_iff.1 names
  obtain ⟨third, enums, rfl, name'', names⟩ := List.map_eq_cons_iff.1 names
  obtain rfl := List.map_eq_nil_iff.1 names
  have one := (isPublic_iff parsed read written (List.mem_cons_self)).1
  have two := (isPublic_iff parsed read written (List.mem_cons_of_mem _ List.mem_cons_self)).1
  have three := (isPublic_iff parsed read written
    (List.mem_cons_of_mem _ (List.mem_cons_of_mem _ List.mem_cons_self))).1
  rw [name] at one
  rw [name'] at two
  rw [name''] at three
  have free : IsUnderscoreFree "A" := by decide
  refine ⟨tree, _, _, first, second, third, parsed, read, written, rfl, rfl, ⟨name, one.2 ⟨free, ?_⟩⟩,
    ⟨name', ?_⟩, name'', ?_⟩
  · rintro _ ⟨⟩
    decide
  · rw [← Bool.not_eq_true, two]
    rintro ⟨-, exported⟩
    exact absurd (exported ["A"] rfl) (by decide)
  · rw [← Bool.not_eq_true, three]
    rintro ⟨-, exported⟩
    exact absurd (exported ["A"] rfl) (by decide)

end EnumCodec.Declaration
