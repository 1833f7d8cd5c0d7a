import EnumCodec.CommandLine.Run
import EnumCodec.Proofs.CommandLine.Reading
import EnumCodec.Proofs.Generator.Targets
import EnumCodec.Proofs.Generator.Validity

/-!
# EnumCodec.Proofs.CommandLine.Generation

**What a command generates.** Of the files that are there, a command looks at its configuration and its
sources, and at those whose paths it mentions in the converters. Where no formatter can be used, the
converters of a source are a function of its text alone. Unless a module is given a name that leads away,
the converters have paths below the directory for them.
-/

namespace EnumCodec

open Activity FileTree
open Declaration (readDeclarations)

/-! ### The command line that converters mention -/

namespace Generator

/-- The generator whose converters mention another command line. -/
def mentioning (generator : Generator) (commandLine : Except StorageError String) : Generator :=
  { generator with commandLine }

theorem make_mentioning (language : String) (config : Config) (one other : Except StorageError String)
    (tools : Tools) :
    make language config other tools = (make language config one tools).map (·.mentioning other) := by
  unfold make
  split
  · rfl
  · rfl
  · cases FormatterTool.choose config.formatter <;> rfl

variable {generator : Generator}

/-- Without comments the command line does not matter. -/
theorem render_mentioning (off : generator.config.generationComment.truthy = false)
    (commandLine : Except StorageError String) :
    (generator.mentioning commandLine).render = generator.render := by
  funext conversion
  have silent : (generator.mentioning commandLine).comment = generator.comment := by
    simp [comment, mentioning, off]
  rw [render, render, layout, layout, silent]
  rfl

theorem convertersOf_mentioning (off : generator.config.generationComment.truthy = false)
    (commandLine : Except StorageError String) :
    (generator.mentioning commandLine).convertersOf = generator.convertersOf := by
  have unformatted : (generator.mentioning commandLine).unformatted = generator.unformatted := by
    funext conversion
    rw [Generator.unformatted, Generator.unformatted, render_mentioning off]
    rfl
  have each : (generator.mentioning commandLine).converterOf = generator.converterOf := by
    funext conversion
    rw [converterOf, converterOf, unformatted]
    rfl
  funext source module
  rw [convertersOf, convertersOf, each]

end Generator

theorem Section.read_eq_ok_iff {α : Type} {place : Section α} {value : α} :
    place.read = .ok value ↔ place = .settings value := by
  cases place <;> simp [Section.read]

namespace CommandLine

variable {before after tree : FileTree} {invocation : Invocation}

/-! ### Flags -/

/-- Flags are applied one after the other. -/
theorem applyFlags_eq_bind (invocation : Invocation) (config : Config) :
    applyFlags invocation config =
      (if invocation.force then config.setMode .force else .ok config) >>= fun forced =>
        if invocation.format then forced.enableFormatter else .ok forced := by
  unfold applyFlags
  split <;> split <;> rfl

/-- Forcing changes the mode of writing. -/
theorem setMode_eq_ok {config next : Config} {mode : OutputMode}
    (set : config.setMode mode = .ok next) :
    ∃ settings, config.output = .settings settings ∧
      next = { config with output := .settings { settings with mode := .known mode } } := by
  obtain ⟨output, modified, eq⟩ := result_bind_eq_ok.1 set
  cases eq
  obtain ⟨settings, read, rfl⟩ := result_map_eq_ok.1 modified
  exact ⟨settings, Section.read_eq_ok_iff.1 read, rfl⟩

/-- Formatting changes how converters are formatted. -/
theorem enableFormatter_eq_ok {config next : Config} (enabled : config.enableFormatter = .ok next) :
    ∃ formatter, next = { config with formatter } := by
  obtain ⟨formatter, -, eq⟩ := result_bind_eq_ok.1 enabled
  cases eq
  exact ⟨formatter, rfl⟩

/-- What flags leave of a configuration: nothing changes but the mode of writing and the formatter. -/
theorem applyFlags_eq_ok {config applied : Config}
    (flags : applyFlags invocation config = .ok applied) :
    ∃ output formatter, applied = { config with output, formatter } ∧
      if invocation.force then
        ∃ settings : OutputSettings, output = .settings { settings with mode := .known .force }
      else output = config.output := by
  rw [applyFlags_eq_bind] at flags
  obtain ⟨forced, first, second⟩ := result_bind_eq_ok.1 flags
  obtain ⟨output, same, mode⟩ : ∃ output, forced = { config with output } ∧
      if invocation.force then
        ∃ settings : OutputSettings, output = .settings { settings with mode := .known .force }
      else output = config.output := by
    split at first
    · next force =>
      obtain ⟨settings, -, rfl⟩ := setMode_eq_ok first
      exact ⟨_, rfl, by rw [if_pos force]; exact ⟨settings, rfl⟩⟩
    · next free =>
      cases first
      exact ⟨_, rfl, by rw [if_neg free]⟩
  subst same
  split at second
  · obtain ⟨formatter, rfl⟩ := enableFormatter_eq_ok second
    exact ⟨output, formatter, rfl, mode⟩
  · cases second
    exact ⟨output, _, rfl, mode⟩

/-! ### The parts of a generation -/

/-- The generation with a configuration to which the flags have been applied. -/
def generateFrom (tree : FileTree) (invocation : Invocation) (tools : Tools) (config : Config) :
    CommandM (Config × Language × List ConverterFile) := do
  let sources := invocation.sources tree
  if invocation.module.isSome && sources.length != 1 then throw (.usage .moduleNeedsOneSource)
  match Generator.make invocation.language config (invocation.mention tree) tools with
  | .error failure => throw (.crash (.failure failure))
  | .ok generator =>
    let files ← sources.mapM (generateSource tree generator invocation)
    return (config, generator.language, files.flatten)

theorem generateAll_eq (tree : FileTree) (invocation : Invocation) (tools : Tools) :
    generateAll tree invocation tools =
      match readConfig tree invocation with
      | .error abort => throw abort
      | .ok config =>
        match applyFlags invocation config with
        | .error cause => throw (.crash (.failure (.config cause)))
        | .ok applied => generateFrom tree invocation tools applied := by
  unfold generateAll
  cases readConfig tree invocation with
  | error abort => rfl
  | ok config =>
    dsimp only
    rw [generateAll.liftExcept, pure_bind]
    cases applyFlags invocation config with
    | error cause => rfl
    | ok applied => rfl

/-! ### The names of modules -/

theorem slashless_stemOf {name : String} (slashless : Slashless name) :
    Slashless (Path.stemOf name) := by
  unfold Path.stemOf
  rw [List.span_eq_takeWhile_dropWhile]
  dsimp only
  split
  · next front =>
    intro slash
    rw [String.toList_ofList, List.mem_reverse] at slash
    have inside := front ▸ List.mem_cons_of_mem _ slash
    exact slashless (List.mem_reverse.1 ((List.dropWhile_sublist _).subset inside))
  · exact slashless

theorem slashless_getLastD {names : List String} (slashless : ∀ name ∈ names, Slashless name) :
    Slashless (names.getLastD "") := by
  rcases List.eq_nil_or_concat names with rfl | ⟨front, last, rfl⟩
  · decide
  · rw [List.concat_eq_append, List.getLastD_concat]
    exact slashless last (by simp)

/-- The name of a module is made up of names that lead to its source. -/
theorem isRelative_moduleName {path : Path} {root : Option Path} {module : String}
    (names : ∀ name ∈ path.names, Slashless name) (named : moduleName path root = .ok module) :
    module = "" ∨ IsRelative module := by
  unfold moduleName at named
  split at named
  · cases named
    exact .inr (slashless_stemOf (slashless_getLastD names)).isRelative
  · split at named
    · next first rest below =>
      cases named
      refine isKind_relative.joinDots fun part mem => Slashless.isRelative ?_
      have each : ∀ name ∈ first :: rest, Slashless name := by
        unfold Path.below? at below
        split at below
        · rw [← Option.some.inj below]
          exact fun name mem => names name ((List.drop_sublist _ _).subset mem)
        · cases below
      have parts : part ∈ (first :: rest).dropLast ++ [Path.stemOf ((first :: rest).getLastD "")] := by
        unfold moduleParts at mem
        dsimp only at mem
        split at mem
        · exact (List.dropLast_sublist _).subset mem
        · exact mem
      rcases List.mem_append.1 parts with inside | last
      · exact each part ((List.dropLast_sublist _).subset inside)
      · rw [List.mem_singleton.1 last]
        exact slashless_stemOf (slashless_getLastD each)
    · cases named

/-- The sources of a command have paths from the root. -/
theorem isAbsolute_of_mem_sources (real : tree.IsReal) (isRead : invocation.IsRead tree) {path : Path}
    (mem : path ∈ invocation.sources tree) : IsAbsolute path := by
  obtain ⟨given, there, mem⟩ := List.mem_flatMap.1 mem
  unfold sourcesAt at mem
  split at mem
  · obtain ⟨place, found, rfl⟩ := List.mem_map.1 mem
    have below := (List.mem_filter.1 found).1
    rw [(placesBelow_perm tree given.names).mem_iff] at below
    exact ⟨rfl, real.names place (List.mem_cons_of_mem _ (List.mem_filter.1 below).1)⟩
  · rw [List.mem_singleton.1 mem]
    exact (isRead.paths given there).absolute

end CommandLine

/-! ### The paths of what is generated -/

namespace Generator

variable {generator : Generator} {memory : Memory}

/-- The files of some conversions have the paths of the conversions. -/
theorem path_of_giveAll {conversions : List Conversion} {files : List ConverterFile}
    (given : (generator.giveAll conversions memory).1 = .ok files) :
    ∀ file ∈ files, ∃ conversion ∈ conversions,
      file.path = conversion.unitPath generator.language := by
  induction conversions generalizing memory files with
  | nil =>
    cases given
    simp
  | cons conversion rest ih =>
    rw [giveAll] at given
    split at given
    · cases given
    · split at given
      · cases given
      · obtain ⟨others, later, rfl⟩ := result_map_eq_ok.1 given
        refine List.forall_mem_cons.2 ⟨⟨conversion, List.mem_cons_self, rfl⟩, fun file mem => ?_⟩
        obtain ⟨other, inside, path⟩ := ih later file mem
        exact ⟨other, List.mem_cons_of_mem conversion inside, path⟩

/-- The files of a module have the paths of conversions whose names come from its source. -/
theorem isDeclared_of_generateModule {kind : String → Prop} (isKind : Declaration.IsKind kind)
    {source module : String} (own : module = "" ∨ kind module) {state last : GeneratorState}
    {files : List ConverterFile}
    (ran : outcome (generator.generateModule source module) state = (.ok files, last)) :
    ∀ file ∈ files, ∃ conversion : Conversion, conversion.IsDeclared kind module ∧
      file.path = conversion.unitPath generator.language := by
  obtain ⟨log, does⟩ := generator.generateModule_does source module state.toMemory state.log
  have given : (generator.files source module state.toMemory).1 = .ok files := by
    have same := does.symm.trans ran
    exact congrArg Prod.fst same
  unfold Generator.files at given
  split at given
  · cases given
  · next tree parsed =>
    split at given
    · cases given
    · next declarations read =>
      intro file mem
      obtain ⟨conversion, asked, path⟩ := path_of_giveAll given file mem
      exact ⟨conversion, (conversionsOf_isDeclared isKind own parsed read conversion asked).1, path⟩

theorem isUnit_of_generateModule {source module : String} (own : module = "" ∨ IsRelative module)
    {state last : GeneratorState} {files : List ConverterFile}
    (ran : outcome (generator.generateModule source module) state = (.ok files, last)) :
    ∀ file ∈ files, file.path.IsUnit := by
  intro file mem
  obtain ⟨conversion, declared, path⟩ := isDeclared_of_generateModule isKind_relative own ran file mem
  rw [path]
  exact declared.isUnit _

end Generator

namespace CommandLine

variable {tree : FileTree} {invocation : Invocation} {generator : Generator} {path : Path}
  {state last : GeneratorState} {files : List ConverterFile}

/-- The name of the module of a source. -/
def Invocation.moduleOf (invocation : Invocation) (path : Path) : Except UsageError String :=
  match invocation.module with
  | some module => .ok module
  | none => moduleName path invocation.root

/-- The generation from a source whose module has a name. -/
def generateText (tree : FileTree) (generator : Generator) (path : Path) (module : String) :
    CommandM (List ConverterFile) := do
  match readText tree path with
  | .error (.storage cause) => throw (.crash (.failure (.storage cause)))
  | .error .notText => throw (.reported (path.text ++ ": " ++ notTextMessage))
  | .ok text =>
    let (result, state) := (generator.generateModule text module).run.run (← get)
    set state
    match result with
    | .ok files => return files
    | .error failure => throw (sourceAbort path failure)

theorem generateSource_eq (tree : FileTree) (generator : Generator) (invocation : Invocation)
    (path : Path) :
    generateSource tree generator invocation path =
      match invocation.moduleOf path with
      | .error cause => throw (.usage cause)
      | .ok module => generateText tree generator path module := by
  unfold generateSource Invocation.moduleOf
  cases invocation.module with
  | some module => rfl
  | none => cases moduleName path invocation.root <;> rfl

theorem generateText_eq_ok {module : String}
    (ran : outcome (generateText tree generator path module) state = (.ok files, last)) :
    ∃ text, readText tree path = .ok text ∧
      outcome (generator.generateModule text module) state = (.ok files, last) := by
  unfold generateText at ran
  split at ran
  · cases ran
  · cases ran
  · next text read =>
    refine ⟨text, read, ?_⟩
    rw [outcome_bind, outcome_get] at ran
    dsimp only at ran
    rcases made : outcome (generator.generateModule text module) state with ⟨result, after⟩
    have run : (generator.generateModule text module).run.run state = (result, after) := made
    rw [run] at ran
    cases result <;> cases ran
    rfl

theorem generateSource_eq_ok
    (ran : outcome (generateSource tree generator invocation path) state = (.ok files, last)) :
    ∃ module text, invocation.moduleOf path = .ok module ∧ readText tree path = .ok text ∧
      outcome (generator.generateModule text module) state = (.ok files, last) := by
  rw [generateSource_eq] at ran
  split at ran
  · cases ran
  · next module named =>
    obtain ⟨text, read, made⟩ := generateText_eq_ok ran
    exact ⟨module, text, named, read, made⟩

variable {tools : Tools} {config applied : Config} {language : Language}

theorem generateFrom_eq_ok_iff :
    outcome (generateFrom tree invocation tools applied) state = (.ok (config, language, files), last) ↔
      applied = config ∧ (invocation.module.isSome = true → (invocation.sources tree).length = 1) ∧
      ∃ generator groups,
        Generator.make invocation.language applied (invocation.mention tree) tools = .ok generator ∧
        outcome ((invocation.sources tree).mapM (generateSource tree generator invocation)) state =
          (.ok groups, last) ∧
        generator.language = language ∧ groups.flatten = files := by
  unfold generateFrom
  dsimp only
  by_cases one : invocation.module.isSome = true → (invocation.sources tree).length = 1
  · rw [if_neg (by simpa using one)]
    cases Generator.make invocation.language applied (invocation.mention tree) tools with
    | error failure => simp
    | ok generator =>
      simp only [outcome_bind_eq_ok, outcome_pure, Prod.mk.injEq, Except.ok.injEq]
      constructor
      · rintro ⟨groups, _, all, ⟨rfl, rfl, rfl⟩, rfl⟩
        exact ⟨rfl, one, generator, groups, rfl, all, rfl, rfl⟩
      · rintro ⟨rfl, -, _, groups, rfl, all, rfl, rfl⟩
        exact ⟨groups, last, all, ⟨rfl, rfl, rfl⟩, rfl⟩
  · rw [if_pos (by simpa using one), outcome_bind, outcome_throw]
    simp [one]

/-- What a command has done that generates converters. -/
theorem generateAll_eq_ok_iff :
    outcome (generateAll tree invocation tools) state = (.ok (config, language, files), last) ↔
      ∃ given, readConfig tree invocation = .ok given ∧ applyFlags invocation given = .ok config ∧
        (invocation.module.isSome = true → (invocation.sources tree).length = 1) ∧
        ∃ generator groups,
          Generator.make invocation.language config (invocation.mention tree) tools = .ok generator ∧
          outcome ((invocation.sources tree).mapM (generateSource tree generator invocation)) state =
            (.ok groups, last) ∧
          generator.language = language ∧ groups.flatten = files := by
  rw [generateAll_eq]
  cases readConfig tree invocation with
  | error abort => simp
  | ok given =>
    dsimp only
    cases flags : applyFlags invocation given with
    | error cause => simp [flags]
    | ok applied =>
      dsimp only
      rw [generateFrom_eq_ok_iff]
      constructor
      · rintro ⟨rfl, rest⟩
        exact ⟨given, rfl, flags, rest⟩
      · rintro ⟨_, same, flags', rest⟩
        cases same
        cases flags.symm.trans flags'
        exact ⟨rfl, rest⟩

/-- **The converters of a command have paths below the directory for converters**, unless the module is
given a name that leads away. -/
theorem isUnit_of_generateAll (real : tree.IsReal) (isRead : invocation.IsRead tree)
    (module : ∀ module, invocation.module = some module → IsRelative module)
    (ran : outcome (generateAll tree invocation tools) state =
      (.ok (config, language, files), last)) :
    ∀ file ∈ files, file.path.IsUnit := by
  obtain ⟨given, -, -, -, generator, groups, -, all, -, rfl⟩ := generateAll_eq_ok_iff.1 ran
  intro file mem
  obtain ⟨group, there, mem⟩ := List.mem_flatten.1 mem
  obtain ⟨path, source, _, _, one⟩ := mem_of_outcome_mapM all there
  obtain ⟨name, text, named, -, made⟩ := generateSource_eq_ok one
  refine Generator.isUnit_of_generateModule ?_ made file mem
  unfold Invocation.moduleOf at named
  split at named
  · next own =>
    cases named
    exact .inr (module name own)
  · exact isRelative_moduleName (fun part inside =>
      ((isAbsolute_of_mem_sources real isRead source).names part inside).1.slashless) named

/-! ### How a command ends -/

theorem exitCode_ofAbort (tree : FileTree) (log : String) (abort : Abort) :
    (Outcome.ofAbort tree log abort).exitCode ≠ 0 := by
  cases abort <;> simp [Outcome.ofAbort]

theorem tree_ofAbort (tree : FileTree) (log : String) (abort : Abort) :
    (Outcome.ofAbort tree log abort).tree = tree := by
  cases abort <;> rfl

section

variable {arguments : List String} {made : GeneratorState} {last : WriteState}
  (read : Invocation.read tree arguments = .ok invocation)
  (generated : outcome (generateAll tree invocation tools) {} = (.ok (config, language, files), made))

include read generated

/-- A command ends well if its parts do. -/
theorem run_of_outcomes {paths : List Path}
    (written : outcome (writeConverters config language invocation.output files) ⟨tree, made.log⟩ =
      (.ok paths, last)) :
    (run tree arguments tools).exitCode = 0 ∧ (run tree arguments tools).tree = last.tree := by
  have generates : (generateAll tree invocation tools).run.run {} =
      (.ok (config, language, files), made) := generated
  have writes : (writeConverters config language invocation.output files).run.run ⟨tree, made.log⟩ =
      (.ok paths, last) := written
  simp only [run, read, Invocation.run, generates, writeAll, writes, and_self]

/-- A failure to write ends a command with the files as the writing has left them. -/
theorem run_of_failed {failure : Failure}
    (failed : outcome (writeConverters config language invocation.output files) ⟨tree, made.log⟩ =
      (.error failure, last)) :
    (run tree arguments tools).exitCode ≠ 0 ∧ (run tree arguments tools).tree = last.tree := by
  have generates : (generateAll tree invocation tools).run.run {} =
      (.ok (config, language, files), made) := generated
  have writes : (writeConverters config language invocation.output files).run.run ⟨tree, made.log⟩ =
      (.error failure, last) := failed
  simp only [run, read, Invocation.run, generates, writeAll, writes]
  split
  · next same => cases same
  · exact ⟨exitCode_ofAbort _ _ _, tree_ofAbort _ _ _⟩
  · next same =>
    cases same
    exact ⟨exitCode_ofAbort _ _ _, tree_ofAbort _ _ _⟩

end

end CommandLine

end EnumCodec
