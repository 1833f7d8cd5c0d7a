import EnumCodec.CommandLine.Sources
import EnumCodec.Conversion.Resolution
import EnumCodec.Declaration.Reading
import EnumCodec.Proofs.Text.DottedName
import Mathlib.Data.List.Basic
import Mathlib.Data.List.Infix

/-!
# EnumCodec.Proofs.Declaration.RelativeImports

**Where relative imports lead.** The module of a source is named by the directories below the root that
lead to it and by its own name. A relative import starts in the package of the source, which is that of
its directory, and leads one package up for each further dot. The package is found again from the name
of the module by leaving out its last part; the source of a package itself, which has no such part, is
taken for a module of the package above.
-/

namespace EnumCodec

open Source
open Text (isIdentifier IsDottedName dotPieces joinDots dotPieces_of_isIdentifier
  ne_empty_of_isIdentifier dotPieces_joinDots_of_isIdentifier)

/-! ### The module of a source -/

/-- The stem of a source is its name without the suffix. -/
theorem stemOf_source {stem : String} (nonempty : stem ≠ "") : Path.stemOf (stem ++ ".py") = stem := by
  have chars : stem.toList.reverse ≠ [] := by
    simpa using fun none => nonempty (String.toList_inj.1 none)
  obtain ⟨c, rest, reversed⟩ := List.exists_cons_of_ne_nil chars
  unfold Path.stemOf
  simp only [String.toList_append, List.reverse_append, reversed,
    show ".py".toList.reverse = ['y', 'p', '.'] from rfl]
  simp only [List.span, List.span.loop, List.cons_append, List.nil_append, ne_eq, Char.reduceEq,
    not_false_eq_true, decide_true, not_true_eq_false, decide_false, List.reverse_cons,
    List.reverse_nil]
  rw [← List.reverse_cons, ← reversed, List.reverse_reverse, String.ofList_toList]

/-- The parts of the name of the module in these directories. -/
def sourceParts (directories : List String) (stem : String) : List String :=
  if stem = "__init__" then directories else directories ++ [stem]

/-- **The module of a source below the root** is named by the directories that lead to it and its stem;
the stem `__init__` is left out. -/
theorem moduleName_below (root : Path) (directories : List String) {stem : String}
    (nonempty : stem ≠ "") :
    CommandLine.moduleName ⟨root.root, root.names ++ (directories ++ [stem ++ ".py"])⟩ (some root) =
      .ok (joinDots (sourceParts directories stem)) := by
  have below : Path.below? ⟨root.root, root.names ++ (directories ++ [stem ++ ".py"])⟩ root =
      some (directories ++ [stem ++ ".py"]) := by
    simp [Path.below?]
  have parts : CommandLine.moduleParts (directories ++ [stem ++ ".py"]) =
      sourceParts directories stem := by
    simp only [CommandLine.moduleParts, List.dropLast_concat, List.getLastD_eq_getLast?,
      List.getLast?_concat, Option.getD_some, stemOf_source nonempty, Option.some.injEq, sourceParts]
  obtain ⟨first, rest, split⟩ := List.exists_cons_of_ne_nil
    (List.append_ne_nil_of_right_ne_nil directories (List.cons_ne_nil (stem ++ ".py") []))
  rw [split] at below parts
  simp only [CommandLine.moduleName, split, below, parts]

/-! ### Aliases -/

namespace Declaration

variable {aliases : Aliases} {here id value : String}

/-- The name that an imported name is bound to. -/
def boundFrom (imported : ImportedName) : String :=
  imported.otherName.getD imported.name

/-- The names that a statement binds by an import. -/
def boundNames : Stmt → List String
  | .importModules names =>
    names.map fun imported => imported.otherName.getD (Text.firstPiece imported.name)
  | .importFrom _ names _ => names.map boundFrom
  | _ => []

/-- A step that leaves what a name stands for does so when it is repeated. -/
theorem lookup_foldl_of_kept {α : Type} {step : Aliases → α → Aliases} {items : List α}
    (kept : ∀ aliases, ∀ item ∈ items, (step aliases item).lookup id = aliases.lookup id)
    (aliases : Aliases) : (items.foldl step aliases).lookup id = aliases.lookup id := by
  induction items generalizing aliases with
  | nil => rfl
  | cons item rest ih =>
    rw [List.foldl_cons, ih fun aliases other mem => kept aliases other (List.mem_cons_of_mem item mem),
      kept aliases item List.mem_cons_self]

/-- A name that an import does not bind stands for what it stood for. -/
theorem lookup_bindFrom_of_ne (base : String) {imported : ImportedName}
    (other : id ≠ boundFrom imported) :
    (bindFrom base aliases imported).lookup id = aliases.lookup id := by
  rw [bindFrom, Entries.lookup_put]
  exact if_neg other

theorem lookup_bindImports_of_not_mem {statement : Stmt} (other : id ∉ boundNames statement) :
    (bindImports here aliases statement).lookup id = aliases.lookup id := by
  unfold bindImports
  split
  · next names =>
    refine lookup_foldl_of_kept (fun aliases imported mem => ?_) aliases
    have differs : id ≠ imported.otherName.getD (Text.firstPiece imported.name) :=
      fun same => other (List.mem_map.2 ⟨imported, mem, same.symm⟩)
    unfold bindModule
    split
    · next name => rw [Entries.lookup_put, if_neg (by simpa [name] using differs)]
    · next none => rw [Entries.lookup_put, if_neg (by simpa [none] using differs)]
  · next names _ =>
    exact lookup_foldl_of_kept (fun aliases imported mem => lookup_bindFrom_of_ne _
      fun same => other (List.mem_map.2 ⟨imported, mem, same.symm⟩)) aliases
  · rfl

/-- **The last import of a name** at the top of a module takes it from a module with so many dots before
it. -/
def IsLastImport (tree : Module) (module : Option String) (level : Nat) (id : String) : Prop :=
  ∃ before front back after,
    tree = before ++ .importFrom module (front ++ ⟨id, none⟩ :: back) level :: after ∧
      id ∉ back.map boundFrom ∧ ∀ statement ∈ after, id ∉ boundNames statement

/-- The last import of a name decides what it stands for. -/
theorem lookup_importedAliases {tree : Module} {module : Option String} {level : Nat}
    (last : IsLastImport tree module level id) :
    (importedAliases here tree).lookup id =
      some (if absoluteModule here module level = "" then id
        else absoluteModule here module level ++ "." ++ id) := by
  obtain ⟨before, front, back, after, rfl, unbound, later⟩ := last
  -- Neither a later statement nor a later name of the import binds the name again.
  rw [importedAliases, List.foldl_append, List.foldl_cons,
    lookup_foldl_of_kept fun aliases statement mem =>
      lookup_bindImports_of_not_mem (later statement mem),
    bindImports, List.foldl_append, List.foldl_cons,
    lookup_foldl_of_kept (fun aliases imported mem => lookup_bindFrom_of_ne _
      fun same => unbound (List.mem_map.2 ⟨imported, mem, same.symm⟩)),
    bindFrom, Entries.lookup_put]
  simp

/-! ### Packages -/

/-- The package in which a relative import with so many dots looks, in a source that is in these
directories: one dot stands for the directory of the source, and each further one leads up. -/
def packageOf (directories : List String) (level : Nat) : List String :=
  directories.take (directories.length - (level - 1))

/-- The package that the name of the module of a source leads to: it is the right one, but for the
source of a package itself it is the one above. -/
def packageFound (directories : List String) (stem : String) (level : Nat) : List String :=
  if stem = "__init__" then (packageOf directories level).dropLast else packageOf directories level

/-- Leaving out as many parts of a module's name as there are dots leads to that package. -/
theorem take_sourceParts {directories : List String} {stem : String} {level : Nat} (dotted : 1 ≤ level)
    (inside : level ≤ directories.length) :
    (sourceParts directories stem).take ((sourceParts directories stem).length - level) =
      packageFound directories stem level := by
  unfold sourceParts packageFound packageOf
  split
  · rw [List.dropLast_eq_take, List.length_take, List.take_take]
    congr 1
    omega
  · rw [List.length_append, List.length_singleton, List.take_append_of_le_length (by omega)]
    congr 1
    omega

/-- The module in which a relative import looks. -/
theorem absoluteModule_joinDots {parts : List String} (nonempty : parts ≠ [])
    (named : ∀ part ∈ parts, isIdentifier part.toList = true) (module : Option String) {level : Nat}
    (dotted : 1 ≤ level) :
    absoluteModule (joinDots parts) module level =
      joinDots (parts.take (parts.length - level) ++ module.toList) := by
  have said : joinDots parts ≠ "" := fun empty => nonempty
    ((Text.joinDots_eq_empty_iff fun part mem => ne_empty_of_isIdentifier (named part mem)).1 empty)
  unfold absoluteModule
  rw [if_neg (by omega)]
  simp only [if_neg said, dotPieces_joinDots_of_isIdentifier nonempty named]
  cases module <;> simp

section Sources

variable {directories : List String} {stem : String} {tree : Module} {module : Option String}
  {level : Nat} (inDirectories : ∀ name ∈ directories, isIdentifier name.toList = true)
  (named : isIdentifier stem.toList = true) (dotted : 1 ≤ level) (inside : level ≤ directories.length)
include inDirectories named dotted inside

theorem absoluteModule_source :
    absoluteModule (joinDots (sourceParts directories stem)) module level =
      joinDots (packageFound directories stem level ++ module.toList) := by
  have nonempty : sourceParts directories stem ≠ [] := by
    unfold sourceParts
    split
    · rintro rfl
      simp at inside
      omega
    · simp
  have identifiers : ∀ part ∈ sourceParts directories stem, isIdentifier part.toList = true := by
    intro part mem
    unfold sourceParts at mem
    split at mem
    · exact inDirectories part mem
    · rcases List.mem_append.1 mem with mem | mem
      · exact inDirectories part mem
      · rwa [List.mem_singleton.1 mem]
  rw [absoluteModule_joinDots nonempty identifiers module dotted, take_sourceParts dotted inside]

omit named dotted inside in
theorem isIdentifier_of_mem_packageFound {part : String}
    (mem : part ∈ packageFound directories stem level) : isIdentifier part.toList = true := by
  refine inDirectories part ?_
  unfold packageFound packageOf at mem
  split at mem
  · exact List.mem_of_mem_take (List.mem_of_mem_dropLast mem)
  · exact List.mem_of_mem_take mem

/-- What a relative import binds a name to. -/
theorem lookup_relativeImport (spelled : ∀ name, module = some name → IsDottedName name)
    (last : IsLastImport tree module level id) :
    (importedAliases (joinDots (sourceParts directories stem)) tree).lookup id =
      some (joinDots (packageFound directories stem level ++ module.toList ++ [id])) := by
  rw [lookup_importedAliases last, absoluteModule_source inDirectories named dotted inside]
  have said : ∀ part ∈ packageFound directories stem level ++ module.toList, part ≠ "" := by
    intro part mem
    rcases List.mem_append.1 mem with mem | mem
    · exact ne_empty_of_isIdentifier (isIdentifier_of_mem_packageFound inDirectories mem)
    · exact (spelled part (Option.mem_toList.1 mem)).ne_empty
  by_cases none : packageFound directories stem level ++ module.toList = []
  · rw [none]
    simp [joinDots]
  · rw [if_neg fun empty => none ((Text.joinDots_eq_empty_iff said).1 empty),
      Text.joinDots_append_singleton none]

/-- The package above is another one, and so is what is bound in it. -/
theorem joinDots_packageFound_eq_iff :
    joinDots (packageFound directories stem level ++ module.toList ++ [id]) =
        joinDots (packageOf directories level ++ module.toList ++ [id]) ↔ stem ≠ "__init__" := by
  constructor
  · rintro same rfl
    have pieces (package : List String) : dotPieces (joinDots (package ++ module.toList ++ [id])) =
        package.flatMap dotPieces ++ (module.toList ++ [id]).flatMap dotPieces := by
      rw [Text.dotPieces_joinDots (by simp), List.append_assoc, List.flatMap_append]
    -- The two names are told apart by the number of their pieces.
    have lengths := congrArg (fun text => (dotPieces text).length) same
    have size {package : List String} (below : ∀ part ∈ package, part ∈ directories) :
        (package.flatMap dotPieces).length = package.length := by
      rw [List.flatMap_congr (g := fun part => [part]) fun part mem =>
        dotPieces_of_isIdentifier (inDirectories part (below part mem)), List.flatMap_singleton']
    have above : ∀ part ∈ packageOf directories level, part ∈ directories :=
      fun part mem => List.mem_of_mem_take mem
    simp only [pieces, List.length_append, Nat.add_right_cancel_iff] at lengths
    rw [packageFound, if_pos rfl, size fun part mem => above part (List.mem_of_mem_dropLast mem),
      size above, List.length_dropLast, packageOf, List.length_take] at lengths
    omega
  · intro plain
    rw [packageFound, if_neg plain]

end Sources

end Declaration

open Declaration

/-- **Where relative imports lead.** In a source below the root, the last import of a name from a relative
module binds it in the package in which the import looks, and a marker with that name designates the
type there; only in the source of a package itself that package is the one above. -/
theorem relativeImports_lead (root : Path) {directories : List String} {stem : String}
    (inDirectories : ∀ name ∈ directories, isIdentifier name.toList = true)
    (named : isIdentifier stem.toList = true) :
    ∃ here, CommandLine.moduleName
        ⟨root.root, root.names ++ (directories ++ [stem ++ ".py"])⟩ (some root) = .ok here ∧
      ∀ (tree : Module) (module : Option String) (level : Nat) (id : String),
        IsLastImport tree module level id → 1 ≤ level → level ≤ directories.length →
        (∀ name, module = some name → IsDottedName name) → isIdentifier id.toList = true →
        let aliases := importedAliases here tree
        let found := packageFound directories stem level ++ module.toList
        aliases.lookup id = some (joinDots (found ++ [id])) ∧
          (∀ callee, ∃ marker, attributeOf aliases (.call callee [.name id] []) = .ok marker ∧
            marker.args.map converterType? =
              [some { name := id, namespacePath := joinDots found }]) ∧
          (aliases.lookup id = some (joinDots (packageOf directories level ++ module.toList ++ [id])) ↔
            stem ≠ "__init__") := by
  refine ⟨_, moduleName_below root directories (ne_empty_of_isIdentifier named), ?_⟩
  intro tree module level id last dotted inside spelled identifier aliases found
  have bound : aliases.lookup id = some (joinDots (found ++ [id])) :=
    lookup_relativeImport inDirectories named dotted inside spelled last
  refine ⟨bound, fun callee => ?_, ?_⟩
  · have value : argumentValue aliases (.name id) =
        .ok (.ref { name := id, namespacePath := joinDots found }) := by
      simp only [argumentValue, resolveName, bound, Option.getD_some,
        Text.splitLastDot_joinDots found (Text.not_dot_of_isIdentifier identifier)]
    refine ⟨_, by
      rw [attributeOf]
      simp only [List.mapM_cons, List.mapM_nil, value, keywordValues, bind, Except.bind, pure,
        Except.pure]
      rfl, ?_⟩
    simp [converterType?, ne_empty_of_isIdentifier identifier]
  · rw [bound, Option.some.injEq]
    exact joinDots_packageFound_eq_iff inDirectories named dotted inside

/-- An import of the converter of a lamp from a module beside the source, or above it. -/
def lampImport (level : Nat) : Module :=
  [.importFrom (some "types") [⟨"LampConverter", none⟩] level]

theorem lampImport_isLastImport (level : Nat) :
    IsLastImport (lampImport level) (some "types") level "LampConverter" :=
  ⟨[], [], [], [], rfl, by simp, by simp⟩

/-- In the source of a module two dots lead one package up; in that of a package one dot does. -/
theorem relativeImports_lead_lamp :
    (∃ here, CommandLine.moduleName ⟨.slash, ["src", "shop", "items", "lamps.py"]⟩
        (some ⟨.slash, ["src"]⟩) = .ok here ∧
      (importedAliases here (lampImport 2)).lookup "LampConverter" =
        some "shop.types.LampConverter") ∧
    ∃ here, CommandLine.moduleName ⟨.slash, ["src", "shop", "items", "__init__.py"]⟩
        (some ⟨.slash, ["src"]⟩) = .ok here ∧
      (importedAliases here (lampImport 1)).lookup "LampConverter" =
        some "shop.types.LampConverter" ∧
      (importedAliases here (lampImport 1)).lookup "LampConverter" ≠
        some "shop.items.types.LampConverter" := by
  have inDirectories : ∀ name ∈ ["shop", "items"], isIdentifier name.toList = true := by decide
  have dottedName : ∀ name, some "types" = some name → IsDottedName name := by
    rintro _ ⟨⟩
    decide
  constructor
  · obtain ⟨here, module, leads⟩ := relativeImports_lead ⟨.slash, ["src"]⟩ inDirectories
      (show isIdentifier "lamps".toList = true by decide)
    obtain ⟨bound, -, -⟩ := leads (lampImport 2) (some "types") 2 "LampConverter"
      (lampImport_isLastImport 2) (by decide) (by decide) dottedName (by decide)
    exact ⟨here, module, bound⟩
  · obtain ⟨here, module, leads⟩ := relativeImports_lead ⟨.slash, ["src"]⟩ inDirectories
      (show isIdentifier "__init__".toList = true by decide)
    obtain ⟨bound, -, right⟩ := leads (lampImport 1) (some "types") 1 "LampConverter"
      (lampImport_isLastImport 1) (by decide) (by decide) dottedName (by decide)
    exact ⟨here, module, bound, fun same => absurd rfl (right.1 same)⟩

end EnumCodec
