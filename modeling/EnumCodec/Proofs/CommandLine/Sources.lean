import EnumCodec.Proofs.CommandLine.Generation
import EnumCodec.Proofs.Converter.PythonDeclarations

/-!
# EnumCodec.Proofs.CommandLine.Sources

**What a command reads once converters have been written.** Where no formatter can be used, the converters
of a source follow from its text. Of the sources of a command those stay as they are that no converter is
written over, and new ones come only where a converter or a directory on the way to one is new. A converter
that is itself read as a source asks for no converter.
-/

namespace EnumCodec

open Activity FileTree
open Declaration (readDeclarations)

/-! ### A converter as a source -/

/-- **A converter in Python asks for no converter** when it is read as a source, whatever its module. -/
theorem PythonConverter.convertersOf_text {layout : Layout} {conversion : Conversion}
    (whole : layout.IsUnbroken .python) (names : conversion.IsWellNamed)
    (labels : conversion.HasEscapedLabels) (python : conversion.HasPythonNames)
    (generator : Generator) (module : String) :
    generator.convertersOf (PythonConverter.text layout conversion) module = .ok [] := by
  obtain ⟨lines, read⟩ := PythonConverter.readModule_text whole names labels python
  rw [Generator.convertersOf, read]
  dsimp only
  rw [PythonConverter.readDeclarations_tree]
  rfl

namespace CommandLine

variable {tree before after : FileTree} {invocation : Invocation} {generator : Generator} {path : Path}
  {state : GeneratorState}

/-! ### The converters of a source -/

/-- The converters of a source where no formatter can be used. -/
def sourceConverters (tree : FileTree) (generator : Generator) (invocation : Invocation) (path : Path) :
    Except Abort (List ConverterFile) :=
  match invocation.moduleOf path with
  | .error cause => .error (.usage cause)
  | .ok module =>
    match readText tree path with
    | .error (.storage cause) => .error (.crash (.failure (.storage cause)))
    | .error .notText => .error (.reported (path.text ++ ": " ++ notTextMessage))
    | .ok text => (generator.convertersOf text module).mapError (sourceAbort path)

/-- A generator without formatters begins with nothing to remember. -/
theorem isFresh_of_make {language : String} {config : Config} {commandLine : Except StorageError String}
    (makes : Generator.make language config commandLine = .ok generator) :
    IsFresh generator ({} : GeneratorState).toMemory := by
  refine .start ?_
  rw [(Generator.of_make makes).2.2.2]
  exact Tools.unusable_absent

theorem generateSource_does (fresh : IsFresh generator state.toMemory) (path : Path) :
    ∃ last, outcome (generateSource tree generator invocation path) state =
        (sourceConverters tree generator invocation path, last) ∧ IsFresh generator last.toMemory := by
  rw [generateSource_eq]
  unfold sourceConverters
  cases invocation.moduleOf path with
  | error cause => exact ⟨state, rfl, fresh⟩
  | ok module =>
    dsimp only
    unfold generateText
    rcases readText tree path with ⟨_ | _⟩ | text
    · exact ⟨state, rfl, fresh⟩
    · exact ⟨state, rfl, fresh⟩
    · -- What the generator remembers makes no difference to what it gives.
      obtain ⟨same, still⟩ := fresh.files text module
      obtain ⟨log, does⟩ := generator.generateModule_does text module state.toMemory state.log
      have run : (generator.generateModule text module).run.run state =
          ((generator.files text module state.toMemory).1,
            ⟨(generator.files text module state.toMemory).2, log⟩) := does
      rw [same] at run
      refine ⟨⟨(generator.files text module state.toMemory).2, log⟩, ?_, still⟩
      rw [outcome_bind, outcome_get]
      dsimp only
      rw [run]
      cases generator.convertersOf text module <;> rfl

/-- The converters of several sources are those of each. -/
theorem mapM_generateSource_does (fresh : IsFresh generator state.toMemory) (paths : List Path) :
    ∃ last, outcome (paths.mapM (generateSource tree generator invocation)) state =
      (paths.mapM (sourceConverters tree generator invocation), last) := by
  induction paths generalizing state with
  | nil => exact ⟨state, rfl⟩
  | cons path rest ih =>
    obtain ⟨between, first, still⟩ := @generateSource_does tree invocation generator state fresh path
    rw [List.mapM_cons, List.mapM_cons, outcome_bind, first]
    cases sourceConverters tree generator invocation path with
    | error abort => exact ⟨between, rfl⟩
    | ok files =>
      obtain ⟨last, others⟩ := ih still
      refine ⟨last, ?_⟩
      dsimp only
      rw [outcome_bind, others]
      cases rest.mapM (sourceConverters tree generator invocation) <;> rfl

/-- A source with the same text gives the same converters. -/
theorem sourceConverters_of_read (same : after.read path = before.read path) :
    sourceConverters after generator invocation path =
      sourceConverters before generator invocation path := by
  rw [sourceConverters, sourceConverters, readText, readText, same]

/-! ### The conversions that a command asks for -/

/-- The converters of a source are those of the conversions that its declarations ask for. -/
theorem sourceConverters_eq_ok_iff {files : List ConverterFile} :
    sourceConverters tree generator invocation path = .ok files ↔
      ∃ module text parsed declarations, invocation.moduleOf path = .ok module ∧
        readText tree path = .ok text ∧ Source.readModule text = .ok parsed ∧
        readDeclarations module parsed = .ok declarations ∧
        (Generator.conversionsOf declarations).mapM generator.converterOf = .ok files := by
  unfold sourceConverters
  cases invocation.moduleOf path with
  | error cause => simp
  | ok module =>
    rcases readText tree path with ⟨_ | _⟩ | text
    · simp
    · simp
    · dsimp only
      unfold Generator.convertersOf
      cases parses : Source.readModule text with
      | error cause => simp [Except.mapError, parses]
      | ok parsed =>
        dsimp only
        cases declares : readDeclarations module parsed with
        | error cause => simp [Except.mapError, parses, declares]
        | ok declarations =>
          cases made : (Generator.conversionsOf declarations).mapM generator.converterOf <;>
            simp [Except.mapError, parses, declares, made]

/-- **A conversion that a command asks for**, and the module of its enum: a declaration in one of the
sources asks for it. -/
inductive Invocation.Asks (tree : FileTree) (invocation : Invocation) (module : String)
    (conversion : Conversion) : Prop where
  | intro {path : Path} {text : String} {parsed : Source.Module} {declarations : ModuleDeclarations}
      (source : path ∈ invocation.sources tree) (named : invocation.moduleOf path = .ok module)
      (read : readText tree path = .ok text) (parses : Source.readModule text = .ok parsed)
      (declares : readDeclarations module parsed = .ok declarations)
      (mem : conversion ∈ Generator.conversionsOf declarations)

section

variable {groups : List (List ConverterFile)}
  (all : (invocation.sources tree).mapM (sourceConverters tree generator invocation) = .ok groups)

include all

/-- Every converter is made of a conversion that the command asks for. -/
theorem asks_of_sourceConverters :
    ∀ file ∈ groups.flatten, ∃ module conversion, invocation.Asks tree module conversion ∧
      generator.converterOf conversion = .ok file := by
  intro file mem
  obtain ⟨group, there, mem⟩ := List.mem_flatten.1 mem
  obtain ⟨path, source, one⟩ := mem_of_mapM_eq_ok all there
  obtain ⟨module, text, parsed, declarations, named, read, parses, declares, made⟩ :=
    sourceConverters_eq_ok_iff.1 one
  obtain ⟨conversion, asked, made⟩ := mem_of_mapM_eq_ok made mem
  exact ⟨module, conversion, ⟨source, named, read, parses, declares, asked⟩, made⟩

/-- A converter is made of every conversion that the command asks for. -/
theorem exists_file_of_asks {module : String} {conversion : Conversion}
    (asks : invocation.Asks tree module conversion) :
    ∃ file ∈ groups.flatten, generator.converterOf conversion = .ok file := by
  obtain ⟨source, named, read, parses, declares, mem⟩ := asks
  obtain ⟨group, there, one⟩ := exists_of_mapM_eq_ok all source
  obtain ⟨_, _, _, _, named', read', parses', declares', made⟩ := sourceConverters_eq_ok_iff.1 one
  cases named.symm.trans named'
  cases read.symm.trans read'
  cases parses.symm.trans parses'
  cases declares.symm.trans declares'
  obtain ⟨file, inside, made⟩ := exists_of_mapM_eq_ok made mem
  exact ⟨file, List.mem_flatten.2 ⟨group, there, inside⟩, made⟩

end

/-- The text of a file that holds the form of a text with line feeds only. -/
theorem readText_of_read {text : String} (read : tree.read path = .ok text.toUTF8)
    (unified : '\r' ∉ text.toList) : readText tree path = .ok text := by
  have decoded : String.fromUTF8? text.toUTF8 = some text := dif_pos text.isValidUTF8
  rw [readText, read]
  dsimp only
  rw [decoded]
  dsimp only
  rw [Source.unifyNewlines_eq unified, String.ofList_toList]

/-! ### Sources in a later tree -/

/-- **What a command reads as a source**: a file that is given, or what lies below a directory that is
given and has the name of a source. -/
def Invocation.Reads (tree : FileTree) (invocation : Invocation) (place : Place) : Prop :=
  ∃ path ∈ invocation.paths,
    if tree.isDirectory path then
      path.names <+: place ∧ place ≠ path.names ∧ isSourceName (place.getLastD "") = true
    else place = path.names

/-- Is a place below a directory, and has it the name of a source? -/
def isSourceBelow (directory : Path) (place : Place) : Bool :=
  isSourceName (place.getLastD "") &&
    (directory.names.isPrefixOf place && decide (place ≠ directory.names))

theorem isSourceBelow_iff {place : Place} : isSourceBelow path place = true ↔
    path.names <+: place ∧ place ≠ path.names ∧ isSourceName (place.getLastD "") = true := by
  simp only [isSourceBelow, Bool.and_eq_true, List.isPrefixOf_iff_prefix, decide_eq_true_eq]
  exact ⟨fun ⟨source, sub, other⟩ => ⟨sub, other, source⟩,
    fun ⟨sub, other, source⟩ => ⟨source, sub, other⟩⟩

/-- The sources in a directory are the places below it with the names of sources. -/
theorem sourcesAt_perm (directory : tree.isDirectory path = true) :
    (sourcesAt tree path).Perm
      ((tree.places.filter (isSourceBelow path)).map fun place => ⟨.slash, place⟩) := by
  rw [sourcesAt, if_pos directory]
  unfold isSourceBelow
  rw [← List.filter_filter]
  exact ((placesBelow_perm tree path.names).filter _).map _

variable {near : Place → Prop} {contents : Place → Option ByteArray}

/-- A path that is given leads to a directory in a later tree if it did before. -/
theorem isDirectory_of_writes (writes : Writes before after near contents) (given : IsGiven before path) :
    after.isDirectory path = before.isDirectory path := by
  obtain ⟨place, located⟩ := isThere_iff.1 given.there
  have located' := writes.keeps.locate located
  unfold isDirectory
  rw [located, located']
  dsimp only
  cases found : before.get? place with
  | none =>
    -- Only the root could be missing where a path leads, and it is always there.
    rcases List.eq_nil_or_concat' path.names with none | ⟨front, name, names⟩
    · unfold locate FileTree.start at located
      rw [none, given.absolute.root] at located
      split at located
      · cases located
      · cases located
        cases found
    · refine absurd found (get?_of_locate names ?_ located)
      exact (given.absolute.names name (by simp [names])).2
  | some entry =>
    -- A directory is kept, and a file has other contents at most.
    cases entry with
    | directory => rw [writes.keeps.directory place found]
    | file content =>
      cases known : contents place with
      | none => rw [writes.get?_file known found]
      | some new => rw [(writes.written place new known).2]; rfl

/-- The sources of a command in a later tree are read as they were before. -/
theorem reads_of_mem_sources (writes : Writes before after near contents)
    (given : ∀ path ∈ invocation.paths, IsGiven before path) {source : Path}
    (mem : source ∈ invocation.sources after) :
    source.root = .slash ∧ invocation.Reads before source.names := by
  obtain ⟨path, there, mem⟩ := List.mem_flatMap.1 mem
  have same := isDirectory_of_writes writes (given path there)
  cases directory : before.isDirectory path with
  | false =>
    rw [sourcesAt, same, directory] at mem
    rw [List.mem_singleton.1 mem]
    refine ⟨(given path there).absolute.root, path, there, ?_⟩
    rw [directory]
    rfl
  | true =>
    obtain ⟨place, below, rfl⟩ := List.mem_map.1
      ((sourcesAt_perm (same.trans directory)).mem_iff.1 mem)
    refine ⟨rfl, path, there, ?_⟩
    rw [if_pos directory]
    exact isSourceBelow_iff.1 (List.mem_filter.1 below).2

/-- **The sources of a command in a later tree.** Apart from those that are left out of account, they are
the ones that were there before, if the new ones are left out of account. -/
theorem filter_sources_perm (writes : Writes before after near contents)
    (given : ∀ path ∈ invocation.paths, IsGiven before path) (keep : Path → Bool)
    (dropped : ∀ place, near place → before.get? place = none → invocation.Reads before place →
      keep ⟨.slash, place⟩ = false) :
    ((invocation.sources after).filter keep).Perm ((invocation.sources before).filter keep) := by
  rw [Invocation.sources, Invocation.sources, List.filter_flatMap, List.filter_flatMap]
  refine List.Perm.flatMap_left _ fun path mem => ?_
  have same := isDirectory_of_writes writes (given path mem)
  cases directory : before.isDirectory path with
  | false =>
    rw [directory] at same
    rw [sourcesAt, sourcesAt, same, directory]
    exact .refl _
  | true =>
    rw [directory] at same
    refine ((sourcesAt_perm same).filter keep).trans
      (.trans ?_ ((sourcesAt_perm directory).filter keep).symm)
    obtain ⟨added, places, close⟩ := writes.places
    rw [places, List.filter_append, List.map_append, List.filter_append]
    -- Each of the new sources is left out of account.
    have new : ((added.filter (isSourceBelow path)).map
        fun place => (⟨.slash, place⟩ : Path)).filter keep = [] := by
      rw [List.filter_eq_nil_iff]
      intro source mem'
      obtain ⟨place, found, rfl⟩ := List.mem_map.1 mem'
      obtain ⟨here, below⟩ := List.mem_filter.1 found
      obtain ⟨sub, other, source⟩ := isSourceBelow_iff.1 below
      have nonempty : place ≠ [] := fun none => other (none ▸ (List.prefix_nil.1 (none ▸ sub)).symm)
      obtain ⟨way, fresh⟩ := close place here
      rw [dropped place way (get?_eq_none_iff.2 ⟨nonempty, fresh⟩)
        ⟨path, mem, by rw [if_pos directory]; exact ⟨sub, other, source⟩⟩]
      exact Bool.false_ne_true
    rw [new, List.append_nil]

/-- A file to which nothing is written is read as before. -/
theorem read_of_unwritten (writes : Writes before after near contents) {bytes : ByteArray}
    (read : before.read path = .ok bytes) (unwritten : contents (before.placeOf path) = none) :
    after.read path = .ok bytes := by
  unfold FileTree.read at read ⊢
  split at read
  · cases read
  · next place located =>
    have here : place = before.placeOf path := by
      unfold locate at located
      split at located
      · cases located
      · exact eq_follow_of_walk located
    rw [writes.keeps.locate located]
    dsimp only
    split at read
    · next content found =>
      rw [writes.get?_file (here ▸ unwritten) found]
      exact read
    · cases read
    · cases read

end CommandLine

end EnumCodec
