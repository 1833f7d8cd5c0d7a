import EnumCodec.Proofs.CommandLine.Generation
import EnumCodec.Proofs.Generator.Protection

/-!
# EnumCodec.Proofs.Generator.Containment

**Converters stay below their directory.** Whatever names, texts and aliases a decorator uses, a
converter has a path that neither begins at a root nor leads back, as long as the name of the module
itself has no slash and no null character. Writing converters with such paths changes nothing outside of
the directory for them, but for directories that are made on the way to it.
-/

namespace EnumCodec

open Activity FileTree
open Declaration (IsKind RefFits)

/-! ### Names of files -/

/-- A text that can be a name of a file as far as its characters are concerned. -/
def Nameable (text : String) : Prop :=
  Slashless text ∧ '\x00' ∉ text.toList

instance (text : String) : Decidable (Nameable text) :=
  inferInstanceAs (Decidable (_ ∧ _))

/-- Leaving out a character that is neither a dot nor a part of identifiers is a kind of names. -/
theorem isKind_not_mem {c : Char} (other : c ≠ '.') (outside : Text.isIdentifierPart c = false) :
    IsKind fun text => c ∉ text.toList where
  dotted dotted := Text.not_mem_of_isDottedName dotted other outside
  join free free' := by simp [free, free', other]
  piece free mem := by
    obtain ⟨chars, found, rfl⟩ := List.mem_map.1 mem
    rw [String.toList_ofList]
    exact fun inside => free (Text.mem_of_mem_splitDots found inside)

theorem isKind_nameable : IsKind Nameable := by
  have slash : IsKind fun text => '/' ∉ text.toList := isKind_not_mem (by decide) (by decide +kernel)
  have null : IsKind fun text => '\x00' ∉ text.toList :=
    isKind_not_mem (by decide) (by decide +kernel)
  exact ⟨fun dotted => ⟨slash.dotted dotted, null.dotted dotted⟩,
    fun one other => ⟨slash.join one.1 other.1, null.join one.2 other.2⟩,
    fun named mem => ⟨slash.piece named.1 mem, null.piece named.2 mem⟩⟩

/-- A conversion whose names are of one kind has names of every wider kind. -/
theorem Conversion.IsDeclared.mono {kind wide : String → Prop} {module : String}
    {conversion : Conversion} (declared : conversion.IsDeclared kind module)
    (weaker : ∀ text, kind text → wide text) : conversion.IsDeclared wide module where
  converter := ⟨weaker _ declared.converter.name, declared.converter.undotted,
    declared.converter.namespacePath.imp_right (weaker _)⟩
  enumModule := declared.enumModule
  enumName := declared.enumName
  enumFullName := declared.enumFullName
  identifiers := declared.identifiers

/-! ### The names in a path -/

/-- Leading on along texts adds no names but those in the texts. -/
theorem Path.mem_names_foldl {texts : List String} {name : String} {path : Path}
    (mem : name ∈ (texts.foldl (fun path text => path.append (Path.ofText text)) path).names) :
    name ∈ path.names ∨ ∃ text ∈ texts, name ∈ Path.namesOf text.toList := by
  induction texts generalizing path with
  | nil => exact .inl mem
  | cons text rest ih =>
    obtain here | ⟨other, inside, found⟩ := ih mem
    · dsimp only [Path.append] at here
      split at here
      · exact (List.mem_append.1 here).imp_right fun found => ⟨text, List.mem_cons_self, found⟩
      · exact .inr ⟨text, List.mem_cons_self, here⟩
    · exact .inr ⟨other, List.mem_cons_of_mem text inside, found⟩

/-- The names in the path of some texts are names, and their characters are those of the texts. -/
theorem Path.mem_names_ofTexts {texts : List String} {name : String}
    (mem : name ∈ (Path.ofTexts texts).names) :
    Path.IsName name ∧ ∀ c ∈ name.toList, ∃ text ∈ texts, c ∈ text.toList := by
  obtain none | ⟨text, inside, found⟩ := Path.mem_names_foldl mem
  · cases none
  · refine ⟨Path.isName_of_mem_namesOf found, fun c here => ⟨text, inside, ?_⟩⟩
    obtain ⟨piece, split, rfl⟩ := List.mem_map.1 (List.mem_filter.1 found).1
    exact Path.mem_of_mem_splitSlashes split (by simpa using here)

/-- The path of a converter is that of some texts that are made of its names and of the end of a
file's name. -/
theorem Conversion.IsDeclared.unitPath_nameable {conversion : Conversion} {module : String}
    (declared : conversion.IsDeclared Nameable module) (language : Language) :
    ∃ texts, conversion.unitPath language = Path.ofTexts texts ∧ ∀ text ∈ texts, Nameable text := by
  have named : Nameable conversion.target.converterName := declared.converter.name
  cases language with
  | cSharp =>
    refine ⟨[conversion.target.converterName ++ ".g.cs"], (Path.ofTexts_singleton _).symm, ?_⟩
    simpa [Nameable, Slashless] using named
  | python =>
    have file : Nameable (Text.snakeCase conversion.target.converterName ++ ".py") := by
      have null : '\x00' ∉ (Text.snakeCase conversion.target.converterName).toList := fun mem =>
        (Text.mem_snakeCase mem).elim (absurd · (by decide)) (absurd · (by decide))
      simpa [Nameable, Slashless, null] using Text.slashless_snakeCase _
    unfold Conversion.unitPath
    dsimp only
    split
    · exact ⟨[_], (Path.ofTexts_singleton _).symm, by simpa using file⟩
    · next based =>
      refine ⟨_, rfl, List.forall_mem_append.2 ⟨fun piece mem => ?_, by simpa using file⟩⟩
      exact isKind_nameable.piece (declared.converter.namespacePath.resolve_left based) mem

/-! ### Paths that stay below -/

/-- **A path that stays below where it begins**: it leads to a file by proper names, of which none
leads back. -/
structure Path.StaysBelow (path : Path) : Prop where
  root : path.root = .current
  nonempty : path.names ≠ []
  isName : ∀ name ∈ path.names, Path.IsName name
  forward : ".." ∉ path.names
  unterminated : ∀ name ∈ path.names, '\x00' ∉ name.toList

theorem Conversion.IsDeclared.staysBelow {conversion : Conversion} {module : String}
    (declared : conversion.IsDeclared Nameable module) (language : Language) :
    (conversion.unitPath language).StaysBelow := by
  have isUnit := (declared.mono fun _ named => named.1.isRelative).isUnit language
  obtain ⟨texts, path, nameable⟩ := declared.unitPath_nameable language
  obtain ⟨directories, file, names, -⟩ := isUnit.names
  refine ⟨isUnit.root, by simp [names], fun name mem => ?_, isUnit.forward, fun name mem null => ?_⟩
  · exact (Path.mem_names_ofTexts (path ▸ mem)).1
  · obtain ⟨text, inside, here⟩ := (Path.mem_names_ofTexts (path ▸ mem)).2 _ null
    exact (nameable text inside).2 here

/-- The file of one converter is no directory of another one: only the name of a file has a dot. -/
theorem Conversion.IsDeclared.names_eq_of_below {conversion other : Conversion} {module : String}
    (declared : conversion.IsDeclared IsRelative module) (declared' : other.IsDeclared IsRelative module)
    (language : Language)
    (sub : (conversion.unitPath language).names <+: (other.unitPath language).names) :
    conversion.unitPath language = other.unitPath language := by
  obtain ⟨directories, stem, path, -⟩ := declared.unitPath_eq language
  obtain ⟨directories', stem', path', dotless⟩ := declared'.unitPath_eq language
  rw [path, path'] at sub ⊢
  dsimp only at sub
  obtain same | shorter := List.prefix_concat_iff.1 sub
  · rw [same]
  · -- The file would be one of the directories, whose names have no dot.
    have mem : stem ++ language.fileSuffix ∈ directories' :=
      shorter.subset (List.mem_append_right directories (List.mem_singleton_self _))
    have dot : '.' ∈ (stem ++ language.fileSuffix).toList := by
      cases language <;> simp [Language.fileSuffix]
    exact absurd dot (dotless _ mem)

/-! ### Places below a directory -/

/-- Is a place below another one? -/
def IsBelow (above place : Place) : Prop :=
  ∃ names, names ≠ [] ∧ place = above ++ names

variable {tree : FileTree} {output path : Path} {files : List ConverterFile} {config : Config}
  {language : Language} {state : WriteState}

/-- The place of a path that stays below is below the directory from which the path leads. -/
theorem Path.StaysBelow.placeOf_append (below : path.StaysBelow) :
    tree.placeOf (output.append path) = tree.placeOf output ++ path.names := by
  rw [placeOf, placeOf, Path.append, if_pos below.root]
  dsimp only
  rw [follow_append, follow_eq_append below.forward]
  rfl

/-- What is passed on the way to such a path is below the directory, or passed on the way to it. -/
theorem Path.StaysBelow.passes {place : Place} (below : path.StaysBelow)
    (passes : tree.Passes (output.append path) place) :
    IsBelow (tree.placeOf output) place ∨ tree.Passes output place := by
  obtain ⟨names, sub, rfl⟩ := passes
  rw [Path.append, if_pos below.root] at sub ⊢
  dsimp only at sub
  obtain before | ⟨more, rfl⟩ := List.prefix_or_prefix_of_prefix sub (List.prefix_append _ _)
  · exact .inr ⟨names, before, rfl⟩
  · have behind : more <+: path.names := (List.prefix_append_right_inj _).1 sub
    have forward : ".." ∉ more := fun mem => below.forward (behind.subset mem)
    by_cases none : more = []
    · exact .inr ⟨output.names, List.prefix_rfl, by rw [none, List.append_nil]; rfl⟩
    · refine .inl ⟨more, none, ?_⟩
      rw [follow_append, follow_eq_append forward]
      rfl

/-- A temporary file for such a path is below the directory too. -/
theorem Path.StaysBelow.temporary {temporary : Path} (below : path.StaysBelow)
    (chosen : temporaryPath tree (output.append path) = .ok temporary) :
    IsBelow (tree.placeOf output) (tree.placeOf temporary) := by
  obtain ⟨⟨number, rfl⟩, -⟩ := temporaryPath_eq_ok chosen
  obtain ⟨front, last, names⟩ : ∃ front last, path.names = front ++ [last] :=
    (List.eq_nil_or_concat' path.names).resolve_left below.nonempty
  have forward : ".." ∉ front := fun mem => below.forward (names ▸ List.mem_append_left [last] mem)
  have above : (output.append path).names.dropLast = output.names ++ front := by
    rw [Path.append, if_pos below.root, names, ← List.append_assoc, List.dropLast_concat]
  have start : tree.start ((output.append path).beside
      (temporaryName (output.append path).name number)) = tree.start output := by
    simp [FileTree.start, Path.beside, Path.append, below.root]
  refine ⟨front ++ [temporaryName (output.append path).name number], by simp, ?_⟩
  rw [placeOf, placeOf, names_beside, above, start, follow_append, follow_append,
    follow_eq_append forward, follow_singleton, if_neg (temporaryName_ne_dots _ _),
    List.append_assoc]

/-! ### Writing -/

/-- **What writing converters comes to**: a failure that changes nothing, or the writing of the files
one after the other. -/
theorem outcome_writeConverters_cases (config : Config) (language : Language) (output : Path)
    (files : List ConverterFile) (state : WriteState) :
    (∃ failure, outcome (writeConverters config language output files) state =
      (.error failure, state)) ∨
    ∃ settings, config.output = .settings settings ∧
      ¬ Refused settings state.tree ((targetPaths output files).map (·.1)) ∧
      outcome (writeConverters config language output files) state =
        match outcome (writeFiles settings language (targetPaths output files)) state with
        | (.ok (), after) => (.ok ((targetPaths output files).map (·.1)), after)
        | (.error failure, after) => (.error failure, after) := by
  cases read : config.output.read with
  | error cause => exact .inl (outcome_writeConverters_of_noSettings read)
  | ok settings =>
    have given := Section.read_eq_ok_iff.1 read
    rw [outcome_writeConverters config language given]
    by_cases refused : Refused settings state.tree ((targetPaths output files).map (·.1))
    · exact .inl (writeOutcome_of_refused config language refused)
    · exact .inr ⟨settings, given, refused, writeOutcome_of_not_refused config language refused⟩

/-- Writing changes a place only if a target leads there or, on the way to a target, a directory is made
where nothing was. -/
theorem Holds.get?_cases {before after : FileTree} {near : Place → Prop}
    {targets : List (Path × ConverterFile)} (holds : Holds before after near targets) (place : Place) :
    after.get? place = before.get? place ∨
      (∃ target ∈ targets, before.placeOf target.1 = place) ∨
      before.get? place = none ∧ after.get? place = some .directory ∧ near place := by
  cases known : lastContent? before targets place with
  | some content =>
    refine .inr (.inl (Classical.byContradiction fun none => ?_))
    have away : ∀ target ∈ targets, before.placeOf target.1 ≠ place :=
      fun target mem same => none ⟨target, mem, same⟩
    rw [lastContent?_eq_none away] at known
    cases known
  | none =>
    obtain same | ⟨absent, made⟩ := holds.writes.kept place known
    · exact .inl same
    · exact .inr (.inr ⟨absent, made, holds.writes.near_of_new absent (by simp [made])⟩)

/-- **The writing of converters keeps to their directory**: outside of it nothing changes but for new
directories on the way to it, and the temporary files are inside. -/
structure KeepsBelow (config : Config) (language : Language) (output : Path)
    (files : List ConverterFile) (state : WriteState) : Prop where
  changes : ∀ place,
    let after := (outcome (writeConverters config language output files) state).2.tree
    after.get? place = state.tree.get? place ∨ IsBelow (state.tree.placeOf output) place ∨
      state.tree.get? place = none ∧ after.get? place = some .directory ∧
        state.tree.Passes output place
  temporary : ∀ file ∈ files, ∀ tree temporary,
    temporaryPath tree (output.append file.path) = .ok temporary →
      IsBelow (tree.placeOf output) (tree.placeOf temporary)

theorem keepsBelow_of_staysBelow (below : ∀ file ∈ files, file.path.StaysBelow) :
    KeepsBelow config language output files state where
  temporary file mem _ _ := (below file mem).temporary
  changes place := by
    -- Some of the targets are written, and all of them are below.
    have written {targets : List (Path × ConverterFile)} {after : FileTree}
        (sub : ∀ target ∈ targets, target ∈ targetPaths output files)
        (holds : Holds state.tree after (OnTheWay state.tree (targetPaths output files)) targets) :
        after.get? place = state.tree.get? place ∨ IsBelow (state.tree.placeOf output) place ∨
          state.tree.get? place = none ∧ after.get? place = some .directory ∧
            state.tree.Passes output place := by
      obtain same | ⟨target, mem, rfl⟩ | ⟨absent, made, target, mem, passes⟩ := holds.get?_cases place
      · exact .inl same
      · obtain ⟨file, there, rfl⟩ := List.mem_map.1 (sub target mem)
        exact .inr (.inl ⟨file.path.names, (below file there).nonempty,
          (below file there).placeOf_append⟩)
      · obtain ⟨file, there, rfl⟩ := List.mem_map.1 mem
        exact .inr (((below file there).passes passes).imp_right fun way => ⟨absent, made, way⟩)
    dsimp only
    obtain ⟨failure, ran⟩ | ⟨settings, -, -, ran⟩ :=
      outcome_writeConverters_cases config language output files state
    · exact .inl (by rw [ran])
    · obtain ⟨first, sub, holds⟩ :=
        writeFiles_holds settings language (targetPaths output files) state
      have left : (outcome (writeConverters config language output files) state).2.tree =
          (outcome (writeFiles settings language (targetPaths output files)) state).2.tree := by
        rw [ran]
        rcases outcome (writeFiles settings language (targetPaths output files)) state with
          ⟨_ | _, after⟩ <;> rfl
      rw [left]
      exact written (fun _ mem => sub.subset mem) holds

/-- **The converters of a module stay below their directory.** If the name of the module has no slash
and no null character, the paths of its converters are made of proper names and do not lead back, none
of them leads through another one, and writing the converters keeps to the directory, with whatever
configuration they are written, whether this succeeds or not. -/
theorem generateModule_keepsBelow {generator : Generator} {source module : String}
    (nameable : Nameable module) {before last : GeneratorState}
    (ran : outcome (generator.generateModule source module) before = (.ok files, last)) :
    (∀ file ∈ files, file.path.StaysBelow) ∧
      (∀ one ∈ files, ∀ other ∈ files, one.path.names <+: other.path.names →
        one.path = other.path) ∧
      ∀ config language output state, KeepsBelow config language output files state := by
  have declared := Generator.isDeclared_of_generateModule isKind_nameable (.inr nameable) ran
  have below : ∀ file ∈ files, file.path.StaysBelow := by
    intro file mem
    obtain ⟨conversion, named, path⟩ := declared file mem
    rw [path]
    exact named.staysBelow generator.language
  refine ⟨below, fun one mem other mem' sub => ?_, fun _ _ _ _ => keepsBelow_of_staysBelow below⟩
  obtain ⟨conversion, named, path⟩ := declared one mem
  obtain ⟨conversion', named', path'⟩ := declared other mem'
  have relative (text : String) (named : Nameable text) : IsRelative text := named.1.isRelative
  rw [path, path'] at sub ⊢
  exact (named.mono relative).names_eq_of_below (named'.mono relative) generator.language sub

/-- An enum with a converter in a package beside its own module. -/
def packagedSource : String :=
  "from ..io import codecs as c\n@EnumJsonConverter('Lamp')\n@JsonConverter(c.LampConverter)\n" ++
  "class Lamp(Enum):\n ON = 1\n"

set_option maxRecDepth 4000 in
/-- An alias of a relative import leads to directories below that for converters. -/
theorem generateModule_keepsBelow_packaged :
    ∃ generator files last, Generator.make "python" {} (.ok "") = .ok generator ∧ Nameable "app.ui.lamps" ∧
      outcome (generator.generateModule packagedSource "app.ui.lamps") {} = (.ok files, last) ∧
      files.map (·.path.names) = [["app", "io", "codecs", "lamp_converter.py"]] ∧
      (∀ file ∈ files, file.path.StaysBelow) ∧
      (∀ one ∈ files, ∀ other ∈ files, one.path.names <+: other.path.names →
        one.path = other.path) ∧
      ∀ config language output state, KeepsBelow config language output files state := by
  let generator : Generator := { language := .python, config := {}, tool := none, commandLine := .ok "" }
  have made : Generator.make "python" {} (.ok "") = .ok generator := rfl
  have generated : ((outcome (generator.generateModule packagedSource "app.ui.lamps") {}).1.toOption.map
      fun files => files.map (·.path.names)) = some [["app", "io", "codecs", "lamp_converter.py"]] := by
    decide +kernel
  rcases ran : outcome (generator.generateModule packagedSource "app.ui.lamps") {} with ⟨result, last⟩
  rw [ran] at generated
  obtain ⟨files, given, names⟩ := Option.map_eq_some_iff.1 generated
  obtain rfl := result_toOption_eq_some.1 given
  have nameable : Nameable "app.ui.lamps" := by decide
  exact ⟨_, files, last, made, nameable, ran, names, generateModule_keepsBelow nameable ran⟩

end EnumCodec
