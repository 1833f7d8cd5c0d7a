import EnumCodec.Proofs.Declaration.Classes
import EnumCodec.Proofs.Text.DottedName
import Mathlib.Data.List.Nodup

/-!
# EnumCodec.Proofs.Declaration.EnumClasses

**Which classes are enums.** A class is an enum if one of its bases is a base class of the library `enum`
or an enum that was declared before. A base is a bare name, and the enums before are known by the names
of all classes around them. So a bare name can only lead to a class at the top of the module, though in
the body of a class it denotes another class of that body first.
-/

namespace EnumCodec.Declaration

open Source
open Text (dotPieces isIdentifier joinDots dotPieces_of_isIdentifier dotPieces_joinDots_of_isIdentifier)
open Activity (result_bind_eq_ok)

/-! ### Modules whose bases are bare names -/

/-- Does a statement import nothing, or base classes of enums under their own names? -/
def importsBases : Stmt → Bool
  | .importModules _ => false
  | .importFrom module names level =>
    module == some "enum" && level == 0 &&
      names.all fun imported => enumBases.contains imported.name && imported.otherName.isNone
  | _ => true

/-- The name that an expression is, if it is a bare one. -/
def bareName? : Expr → Option String
  | .name id => some id
  | _ => none

/-- The bases of a class that are bare names. -/
def DeclaredClass.baseNames (declared : DeclaredClass) : List String :=
  declared.bases.filterMap bareName?

/-- **A module whose bases are bare names**: it imports no more than base classes of enums, each class is
declared once in its place, and all bases are bare names. -/
structure HasBareBases (tree : Module) : Prop where
  imports : ∀ statement ∈ tree, importsBases statement = true
  once : ((classesOf [] tree).map (·.path)).Nodup
  bare : ∀ declared ∈ classesOf [] tree, ∀ base ∈ declared.bases, (bareName? base).isSome = true

instance (tree : Module) : Decidable (HasBareBases tree) :=
  decidable_of_iff
    ((∀ statement ∈ tree, importsBases statement = true) ∧
      ((classesOf [] tree).map (·.path)).Nodup ∧
      ∀ declared ∈ classesOf [] tree, ∀ base ∈ declared.bases, (bareName? base).isSome = true)
    ⟨fun ⟨imports, once, bare⟩ => ⟨imports, once, bare⟩,
      fun ⟨imports, once, bare⟩ => ⟨imports, once, bare⟩⟩

/-- Is a class among the enums? -/
def IsRecorded (enums : List EnumDeclaration) (declared : DeclaredClass) : Prop :=
  ∃ enum ∈ enums, enum.name = joinDots declared.path

/-- The class that a bare name denotes where a class is declared: among the classes whose declarations
have ended, the one in the body around the class, or else the one at the top of the module. -/
def denotedClass? (before : List DeclaredClass) (declared : DeclaredClass) (id : String) :
    Option DeclaredClass :=
  let ended := before.filter fun other => !other.path.isPrefixOf declared.path
  (ended.find? (·.path = declared.path.dropLast ++ [id])).or (ended.find? (·.path = [id]))

/-- **Is a class an enum in the scope in which it is declared?** One of its bases is a base class of
enums, or denotes an enum there. -/
def IsEnumInScope (enums : List EnumDeclaration) (before : List DeclaredClass)
    (declared : DeclaredClass) : Prop :=
  ∃ id ∈ declared.baseNames, id ∈ enumBases ∨
    ∃ other, denotedClass? before declared id = some other ∧ IsRecorded enums other

/-! ### What a bare name stands for -/

/-- Each name that is bound is that of a base class and stands for it. -/
def BindOnlyBases (aliases : Aliases) : Prop :=
  ∀ id target, aliases.lookup id = some target → id ∈ enumBases ∧ target = "enum." ++ id

theorem BindOnlyBases.bindFrom {aliases : Aliases} (known : BindOnlyBases aliases)
    {imported : ImportedName} (base : imported.name ∈ enumBases) (bare : imported.otherName = none) :
    BindOnlyBases (bindFrom "enum" aliases imported) := by
  intro id target found
  rw [Declaration.bindFrom, bare, Entries.lookup_put] at found
  split at found
  · next same =>
    cases same
    cases found
    exact ⟨base, by simp⟩
  · exact known id target found

theorem BindOnlyBases.bindImports {here : String} {aliases : Aliases} {statement : Stmt}
    (known : BindOnlyBases aliases) (imports : importsBases statement = true) :
    BindOnlyBases (bindImports here aliases statement) := by
  unfold importsBases at imports
  split at imports
  · cases imports
  · next module names level =>
    obtain ⟨⟨rfl, rfl⟩, plain⟩ : (module = some "enum" ∧ level = 0) ∧ _ := by
      simpa only [Bool.and_eq_true, beq_iff_eq] using imports
    refine List.foldlRecOn names _ known fun aliases known imported mem => ?_
    obtain ⟨base, bare⟩ := Bool.and_eq_true_iff.1 (List.all_eq_true.1 plain imported mem)
    exact known.bindFrom (List.contains_iff_mem.1 base) (Option.isNone_iff_eq_none.1 bare)
  · unfold Declaration.bindImports
    split
    · simp_all
    · simp_all
    · exact known

/-- Imports of base classes bind nothing else. -/
theorem bindOnlyBases_importedAliases {here : String} {tree : Module}
    (imports : ∀ statement ∈ tree, importsBases statement = true) :
    BindOnlyBases (importedAliases here tree) :=
  List.foldlRecOn tree _ (fun _ _ => nofun) fun _ known statement mem =>
    known.bindImports (imports statement mem)

/-- A bare name stands for a base class exactly if it is the name of one. -/
theorem isEnumBase_bare_iff {id : String} (named : isIdentifier id.toList = true) :
    isEnumBase id = true ↔ id ∈ enumBases := by
  have single : Text.lastPiece id = id := by simp [Text.lastPiece, dotPieces_of_isIdentifier named]
  simp [isEnumBase, single]

theorem isEnumBase_qualified {id : String} (base : id ∈ enumBases) : isEnumBase ("enum." ++ id) = true := by
  have each : ∀ id ∈ enumBases, isEnumBase ("enum." ++ id) = true := by decide +kernel
  exact each id base

/-- A text without dots denotes an enum exactly if it is its name in the module. -/
theorem isSome_find?_bare {module : String} {enums : List EnumDeclaration} {id : String}
    (named : isIdentifier id.toList = true) :
    (ModuleDeclarations.find? ⟨module, enums⟩ (.text id)).isSome = true ↔
      ∃ enum ∈ enums, enum.name = id := by
  have full (enum : EnumDeclaration) (same : enum.fullName = id) : enum.name = id := by
    unfold EnumDeclaration.fullName at same
    split at same
    · exact same
    · have dotted : '.' ∈ id.toList := by simp [← same]
      exact absurd dotted (Text.not_dot_of_isIdentifier named)
  simp only [ModuleDeclarations.find?, List.find?_isSome, ModuleDeclarations.goesBy,
    ModuleDeclarations.denotedNames, Text.ne_empty_of_isIdentifier named, if_false, Bool.or_eq_true,
    List.contains_iff_mem, List.mem_singleton]
  exact exists_congr fun enum => and_congr_right fun _ =>
    ⟨fun same => same.elim (fun own => own) (full enum), .inl⟩

/-- **A class with bare bases is taken for an enum** if one of them is the name of a base class, or the
name of an enum before it. -/
theorem isEnumClass_bare_iff {around : Surroundings} {enums : List EnumDeclaration} {bases : List Expr}
    (aliased : BindOnlyBases around.aliases)
    (bare : ∀ base ∈ bases, (bareName? base).isSome = true) (named : IsNamed bases) :
    isEnumClass around enums bases = true ↔
      ∃ id ∈ bases.filterMap bareName?, id ∈ enumBases ∨ ∃ enum ∈ enums, enum.name = id := by
  have each (id : String) (identifier : isIdentifier id.toList = true) :
      (isEnumBase ((around.aliases.lookup id).getD id) ||
        (ModuleDeclarations.find? ⟨around.module, enums⟩
          (.text ((around.aliases.lookup id).getD id))).isSome) = true ↔
      id ∈ enumBases ∨ ∃ enum ∈ enums, enum.name = id := by
    by_cases base : id ∈ enumBases
    · cases found : around.aliases.lookup id with
      | none => simp [base, (isEnumBase_bare_iff identifier).2 base]
      | some target =>
        obtain ⟨-, rfl⟩ := aliased id target found
        simp [base, isEnumBase_qualified base]
    · cases found : around.aliases.lookup id with
      | none =>
        rw [Option.getD_none, Bool.or_eq_true, isEnumBase_bare_iff identifier,
          isSome_find?_bare identifier]
      | some target => exact absurd (aliased id target found).1 base
  rw [isEnumClass, List.any_eq_true]
  constructor
  · rintro ⟨base, mem, isEnum⟩
    obtain ⟨id, same⟩ := Option.isSome_iff_exists.1 (bare base mem)
    cases base <;> cases same
    exact ⟨id, List.mem_filterMap.2 ⟨_, mem, rfl⟩, (each id (named _ mem).1).1 isEnum⟩
  · rintro ⟨id, mem, isEnum⟩
    obtain ⟨base, mem, same⟩ := List.mem_filterMap.1 mem
    cases base <;> cases same
    exact ⟨_, mem, (each id (named _ mem).1).2 isEnum⟩

/-! ### The enums that are recorded -/

section Walk

variable {around : Surroundings} {enums found : List EnumDeclaration}
  {classes before after : List DeclaredClass} {declared other : DeclaredClass} {id : String}

/-- The path of a class is one of names. -/
def HasNamedPath (declared : DeclaredClass) : Prop :=
  declared.path ≠ [] ∧ ∀ name ∈ declared.path, isIdentifier name.toList = true

theorem HasNamedPath.pieces (named : HasNamedPath declared) :
    dotPieces (joinDots declared.path) = declared.path :=
  dotPieces_joinDots_of_isIdentifier named.1 named.2

/-- Classes are told apart by their names. -/
theorem HasNamedPath.joinDots_inj (named : HasNamedPath declared) (named' : HasNamedPath other)
    (same : joinDots declared.path = joinDots other.path) : declared.path = other.path := by
  rw [← named.pieces, same, named'.pieces]

theorem not_isRecorded_nil : ¬ IsRecorded [] declared := by
  simp [IsRecorded]

/-- A walk along other classes does not matter to whether a class is recorded. -/
theorem isRecorded_of_walk (walked : classes.foldlM (recordClass around) enums = .ok found)
    (named : HasNamedPath declared) (others : ∀ other ∈ classes, HasNamedPath other)
    (apart : ∀ other ∈ classes, other.path ≠ declared.path) :
    IsRecorded found declared ↔ IsRecorded enums declared := by
  obtain ⟨more, rfl, each⟩ := foldlM_recordClass_eq_ok walked
  constructor
  · rintro ⟨enum, mem, name⟩
    rcases List.mem_append.1 mem with mem | mem
    · exact ⟨enum, mem, name⟩
    · obtain ⟨other, there, own⟩ := each enum mem
      have same : joinDots other.path = joinDots declared.path := (enumOf_eq_ok own).1.symm.trans name
      exact absurd ((others other there).joinDots_inj named same) (apart other there)
  · rintro ⟨enum, mem, name⟩
    exact ⟨enum, List.mem_append_left _ mem, name⟩

/-- A class that is not recorded yet is recorded if it is taken for an enum. -/
theorem isRecorded_step (step : recordClass around enums declared = .ok found)
    (fresh : ¬ IsRecorded enums declared) :
    IsRecorded found declared ↔ isEnumClass around enums declared.bases = true := by
  rcases recordClass_eq_ok step with ⟨isNone, rfl⟩ | ⟨isEnum, enum, rfl, own⟩
  · simp [isNone, fresh]
  · exact ⟨fun _ => isEnum, fun _ => ⟨enum, by simp, (enumOf_eq_ok own).1⟩⟩

/-- An enum with a bare name is a class at the top of the module. -/
theorem exists_enum_bare_iff (walked : before.foldlM (recordClass around) [] = .ok enums)
    (others : ∀ other ∈ before, HasNamedPath other) (identifier : isIdentifier id.toList = true) :
    (∃ enum ∈ enums, enum.name = id) ↔
      ∃ other ∈ before, other.path = [id] ∧ IsRecorded enums other := by
  have single : joinDots [id] = id := by simp [joinDots]
  constructor
  · rintro ⟨enum, mem, rfl⟩
    obtain ⟨more, rfl, each⟩ := foldlM_recordClass_eq_ok walked
    obtain ⟨other, there, own⟩ := each enum mem
    have name := (enumOf_eq_ok own).1
    refine ⟨other, there, ?_, enum, mem, name⟩
    rw [← (others other there).pieces, ← name, dotPieces_of_isIdentifier identifier]
  · rintro ⟨other, -, path, enum, mem, name⟩
    exact ⟨enum, mem, by rw [name, path, single]⟩

/-- **The class that a bare name denotes** is the one at the top of the module if the body around has
none before, and the class is not within the one that has the name. -/
theorem denotedClass?_eq_find?
    (free : declared.path.dropLast = [] ∨ ∀ other ∈ before, other.path ≠ declared.path.dropLast ++ [id])
    (outside : ∀ other ∈ before, other.path = [id] → ¬ [id] <+: declared.path) :
    denotedClass? before declared id = before.find? (·.path = [id]) := by
  have ended : (before.filter fun other => !other.path.isPrefixOf declared.path).find?
      (·.path = [id]) = before.find? (·.path = [id]) := by
    rw [List.find?_filter]
    refine List.find?_congr fun other mem => ?_
    by_cases path : other.path = [id]
    · simp [path, Bool.eq_false_iff.2 (mt List.isPrefixOf_iff_prefix.1 (outside other mem path))]
    · simp [path]
  unfold denotedClass?
  dsimp only
  rw [ended]
  rcases free with top | free
  · simp [top, ended]
  · have none : (before.filter fun other => !other.path.isPrefixOf declared.path).find?
        (·.path = declared.path.dropLast ++ [id]) = none :=
      List.find?_eq_none.2 fun other mem => by simpa using free other (List.mem_of_mem_filter mem)
    simp [none]

theorem exists_find?_iff : (∃ other, before.find? (·.path = [id]) = some other ∧ IsRecorded enums other) ↔
    ∃ other ∈ before, other.path = [id] ∧ IsRecorded enums other := by
  constructor
  · rintro ⟨other, first, recorded⟩
    exact ⟨other, List.mem_of_find?_eq_some first, by simpa using List.find?_some first, recorded⟩
  · rintro ⟨other, mem, path, recorded⟩
    have isSome : (before.find? (·.path = [id])).isSome :=
      List.find?_isSome.2 ⟨other, mem, by simpa using path⟩
    obtain ⟨first, found⟩ := Option.isSome_iff_exists.1 isSome
    have same : first.path = other.path := by simpa [path] using List.find?_some found
    rw [IsRecorded, ← same] at recorded
    exact ⟨first, found, recorded⟩

/-- **Whether a class is recorded** is decided where the walk comes to it, and remains so. -/
theorem isRecorded_iff_isEnumClass
    (walked : (before ++ declared :: after).foldlM (recordClass around) [] = .ok found)
    (once : ((before ++ declared :: after).map (·.path)).Nodup)
    (named : ∀ other ∈ before ++ declared :: after, HasNamedPath other) :
    ∃ first, before.foldlM (recordClass around) [] = .ok first ∧
      (IsRecorded found declared ↔ isEnumClass around first declared.bases = true) ∧
      ∀ other ∈ before, IsRecorded found other ↔ IsRecorded first other := by
  obtain ⟨earlier, behind⟩ := List.forall_mem_append.1 named
  obtain ⟨here, later⟩ := List.forall_mem_cons.1 behind
  rw [List.map_append, List.map_cons, List.nodup_append, List.nodup_cons] at once
  obtain ⟨-, ⟨single, -⟩, apart⟩ := once
  rw [List.foldlM_append] at walked
  obtain ⟨first, front, rest⟩ := result_bind_eq_ok.1 walked
  have walk := rest
  rw [List.foldlM_cons] at walk
  obtain ⟨second, step, back⟩ := result_bind_eq_ok.1 walk
  refine ⟨first, front, ?_, fun other mem => ?_⟩
  · -- No class before has the path, so the enum can only come from this one.
    have fresh : ¬ IsRecorded first declared := by
      rw [isRecorded_of_walk front here earlier fun other mem =>
        apart _ (List.mem_map_of_mem mem) _ List.mem_cons_self]
      exact not_isRecorded_nil
    rw [isRecorded_of_walk back here later fun other mem same => single (same ▸ List.mem_map_of_mem mem)]
    exact isRecorded_step step fresh
  · exact isRecorded_of_walk rest (earlier other mem) behind fun next there =>
      (apart _ (List.mem_map_of_mem mem) _ (List.mem_map_of_mem there)).symm

end Walk

/-- **A class is recorded as an enum** if one of its bases is a base class of the library or has the name
of an enum before it at the top of the module. In the scope of the class this is the same if the class is
at the top itself, or if no base has the name of a class before it in the body around it, or of the
outermost class around it. -/
theorem isRecorded_iff {source module : String} {tree : Module} {declarations : ModuleDeclarations}
    {before after : List DeclaredClass} {declared : DeclaredClass} (parsed : readModule source = .ok tree)
    (read : readDeclarations module tree = .ok declarations) (bases : HasBareBases tree)
    (order : classesOf [] tree = before ++ declared :: after) :
    (IsRecorded declarations.enums declared ↔
        ∃ id ∈ declared.baseNames, id ∈ enumBases ∨
          ∃ other ∈ before, other.path = [id] ∧ IsRecorded declarations.enums other) ∧
      ((declared.path.length = 1 ∨ ∀ id ∈ declared.baseNames, declared.path.head? ≠ some id ∧
          ∀ other ∈ before, other.path ≠ declared.path.dropLast ++ [id]) →
        (IsRecorded declarations.enums declared ↔
          IsEnumInScope declarations.enums before declared)) := by
  have named (other : DeclaredClass) (mem : other ∈ classesOf [] tree) :
      HasNamedPath other ∧ IsNamed other.bases := by
    obtain ⟨nonempty, path, -, bases, -⟩ :=
      named_of_mem_classesOf (by simp) (readModule_isNamed parsed) mem
    exact ⟨⟨nonempty, path⟩, bases⟩
  obtain ⟨imports, once, bare⟩ := bases
  obtain ⟨exports, -, -, walked⟩ := readDeclarations_eq_ok read
  rw [order] at walked once bare named
  have here : declared ∈ before ++ declared :: after := by simp
  obtain ⟨first, front, decided, kept⟩ :=
    isRecorded_iff_isEnumClass walked once fun other mem => (named other mem).1
  have earlier (other : DeclaredClass) (mem : other ∈ before) : HasNamedPath other :=
    (named other (List.mem_append_left _ mem)).1
  have recorded : IsRecorded declarations.enums declared ↔
      ∃ id ∈ declared.baseNames, id ∈ enumBases ∨
        ∃ other ∈ before, other.path = [id] ∧ IsRecorded declarations.enums other := by
    rw [decided, isEnumClass_bare_iff (bindOnlyBases_importedAliases imports) (bare _ here)
      (named _ here).2]
    refine exists_congr fun id => and_congr_right fun mem => or_congr_right ?_
    obtain ⟨base, there, same⟩ := List.mem_filterMap.1 mem
    have identifier : isIdentifier id.toList = true := by
      cases base <;> cases same
      exact ((named _ here).2 _ there).1
    rw [exists_enum_bare_iff front earlier identifier]
    exact exists_congr fun other => and_congr_right fun mem => and_congr_right fun _ =>
      (kept other mem).symm
  refine ⟨recorded, fun seen => recorded.trans ?_⟩
  refine exists_congr fun id => and_congr_right fun mem => or_congr_right ?_
  rw [denotedClass?_eq_find?, exists_find?_iff]
  · exact seen.imp (fun top => by simp [← List.length_eq_zero_iff, top]) fun free => (free id mem).2
  · intro other there path isPrefix
    rcases seen with top | free
    · -- A class at the top has no class around it, and no other one has its name.
      have same : declared.path = other.path := by
        rw [path]
        exact (isPrefix.eq_of_length top.symm).symm
      rw [List.map_append, List.map_cons, List.nodup_append] at once
      exact once.2.2 _ (List.mem_map_of_mem there) _ List.mem_cons_self same.symm
    · obtain ⟨rest, split⟩ := isPrefix
      exact (free id mem).1 (by rw [← split]; rfl)

/-- An enum in the body of a class, with a class behind it that has it for its base. -/
def nestedBaseSource : String :=
  "from enum import Enum\n\nclass Outer:\n class Base(Enum):\n  pass\n class Derived(Base):\n  A = 1\n"

set_option maxRecDepth 4000 in
/-- **A base in the same body is missed**: where the last class is declared its base is an enum, but the
class is not recorded. -/
theorem isRecorded_nestedBase : ∃ tree declarations outer base derived,
    readModule nestedBaseSource = .ok tree ∧ readDeclarations "m" tree = .ok declarations ∧
      HasBareBases tree ∧ classesOf [] tree = [outer, base] ++ derived :: [] ∧
      IsRecorded declarations.enums base ∧ ¬ IsRecorded declarations.enums derived ∧
      IsEnumInScope declarations.enums [outer, base] derived := by
  have facts : ((readModule nestedBaseSource).toOption.bind fun tree =>
      (readDeclarations "m" tree).toOption.bind fun _ => some (decide (HasBareBases tree),
        (classesOf [] tree).map fun declared => (declared.path, declared.baseNames))) =
      some (true, [(["Outer"], []), (["Outer", "Base"], ["Enum"]), (["Outer", "Derived"], ["Base"])]) := by
    decide +kernel
  obtain ⟨tree, declarations, parsed, read, facts⟩ := exists_of_read facts
  obtain ⟨bases, classes⟩ := Prod.mk.inj (Option.some.inj facts)
  obtain ⟨outer, rest, order, first, classes⟩ := List.map_eq_cons_iff.1 classes
  obtain ⟨base, rest, rfl, second, classes⟩ := List.map_eq_cons_iff.1 classes
  obtain ⟨derived, rest, rfl, third, classes⟩ := List.map_eq_cons_iff.1 classes
  obtain rfl := List.map_eq_nil_iff.1 classes
  obtain ⟨path, -⟩ := Prod.mk.inj first
  obtain ⟨path', names'⟩ := Prod.mk.inj second
  obtain ⟨path'', names''⟩ := Prod.mk.inj third
  have bases := of_decide_eq_true bases
  have enum : IsRecorded declarations.enums base := by
    have iff := (isRecorded_iff parsed read bases
      (show classesOf [] tree = [outer] ++ base :: [derived] from order)).1
    exact iff.2 ⟨"Enum", by simp [names'], .inl (by decide)⟩
  have missed : ¬ IsRecorded declarations.enums derived := by
    rw [(isRecorded_iff parsed read bases
      (show classesOf [] tree = [outer, base] ++ derived :: [] from order)).1]
    simp [names'', path, path', enumBases]
  refine ⟨tree, declarations, outer, base, derived, parsed, read, bases, order, enum, missed, "Base",
    by simp [names''], .inr ⟨base, ?_, enum⟩⟩
  simp [denotedClass?, path, path', path'']

end EnumCodec.Declaration
