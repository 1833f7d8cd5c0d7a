import EnumCodec.Proofs.Generator.Containment

/-!
# EnumCodec.Proofs.CommandLine.Failing

**A command that fails has written nothing, unless one file cannot be written.** All sources are read
and all converters generated before the first file is touched, and the checks of the targets come before
that, too. So a fault in any source, whatever its place among them, ends the command with the files as
they were. Only when the files are written one after the other can a failure come too late: that of the
check of one converter, that of its encoding, or that of the storage. What the formatters do makes no
difference.
-/

namespace EnumCodec

open Activity FileTree
open Declaration (readDeclarations)

/-! ### What the writing of one file fails of -/

section Writing

variable {α β : Type} {allowed : Failure → Prop}

/-- The activity fails only in ways that are allowed. -/
def FailsOnly (allowed : Failure → Prop) (action : WriteM α) : Prop :=
  ∀ state failure after, outcome action state = (.error failure, after) → allowed failure

theorem FailsOnly.bind {action : WriteM α} {next : α → WriteM β} (first : FailsOnly allowed action)
    (second : ∀ value, FailsOnly allowed (next value)) : FailsOnly allowed (action >>= next) := by
  intro state failure after failed
  rw [outcome_bind] at failed
  split at failed
  · next value between _ => exact second value between failure after failed
  · next cause between ran =>
    cases failed
    exact first state failure after ran

/-- A handler comes into play only with a failure that is allowed. -/
theorem FailsOnly.tryCatch {action : WriteM α} {handler : Failure → WriteM α}
    (first : FailsOnly allowed action)
    (handled : ∀ cause, allowed cause → FailsOnly allowed (handler cause)) :
    FailsOnly allowed (tryCatch action handler) := by
  intro state failure after failed
  rw [outcome_tryCatch] at failed
  split at failed
  · cases failed
  · next cause between ran =>
    exact handled cause (first state cause between ran) between failure after failed

theorem failsOnly_ofExcept {result : Except Failure α}
    (known : ∀ failure, result = .error failure → allowed failure) :
    FailsOnly allowed (WriteM.ofExcept result) := by
  intro state failure after failed
  rw [WriteM.outcome_ofExcept] at failed
  exact known failure (congrArg Prod.fst failed)

theorem failsOnly_throw {failure : Failure} (known : allowed failure) :
    FailsOnly allowed (throw failure : WriteM α) := by
  intro state failure' after failed
  cases failed
  exact known

theorem failsOnly_pure {value : α} : FailsOnly allowed (pure value : WriteM α) :=
  fun _ _ _ failed => by cases failed

theorem failsOnly_modify (change : WriteState → WriteState) :
    FailsOnly allowed (modify change : WriteM PUnit) :=
  fun _ _ _ failed => by cases failed

section Storage

variable {target temporary : Path} {content : Content} {check : Except Failure Unit}
  (checked : ∀ failure, check = .error failure → allowed failure)
  (encoded : content.isWhole = false → allowed .notEncodable)
  (stored : ∀ cause, allowed (.storage cause))

include stored

theorem failsOnly_ofStorage (action : StorageM α) : FailsOnly allowed (WriteM.ofStorage action) := by
  intro state failure after failed
  rw [WriteM.outcome_ofStorage] at failed
  cases ran : (outcome action state.tree).1 with
  | error cause =>
    rw [ran] at failed
    cases failed
    exact stored cause
  | ok value =>
    rw [ran] at failed
    cases failed

include checked encoded

theorem writeDirectly_failsOnly : FailsOnly allowed (writeDirectly target content check) := by
  refine (failsOnly_ofExcept checked).bind fun _ => (failsOnly_ofStorage stored _).bind fun _ => ?_
  split
  · next broken => exact failsOnly_throw (encoded (by simpa using broken))
  · exact failsOnly_pure

theorem replaceBy_failsOnly : FailsOnly allowed (replaceBy temporary target content check) := by
  have encodes : ∀ failure, content.encode = .error failure → allowed failure := by
    intro failure failed
    cases whole : content.isWhole with
    | true =>
      rw [Content.encode_of_isWhole whole] at failed
      cases failed
    | false =>
      rw [Content.encode_of_not_isWhole whole] at failed
      cases failed
      exact encoded whole
  exact (failsOnly_ofExcept encodes).bind fun _ => (failsOnly_ofStorage stored _).bind fun _ =>
    (failsOnly_ofExcept checked).bind fun _ => failsOnly_ofStorage stored _

theorem writeAtomically_failsOnly : FailsOnly allowed (writeAtomically target content check) := by
  refine (failsOnly_ofStorage stored _).bind fun _ => FailsOnly.bind nofun fun state => ?_
  split
  · next cause _ => exact failsOnly_throw (stored cause)
  · next temporary _ =>
    refine (failsOnly_ofStorage stored _).bind fun _ => ?_
    -- The failure of the replacement is passed on when the temporary file has been taken away.
    refine FailsOnly.bind ?_ fun _ => failsOnly_modify _
    refine (replaceBy_failsOnly checked encoded stored).tryCatch fun cause known => ?_
    exact (failsOnly_modify _).bind fun _ => failsOnly_throw known

end Storage

/-- A file is not written because its check fails, because its text cannot be encoded, or because the
storage fails. -/
inductive WriteFails (settings : OutputSettings) (language : Language) (content : Content)
    (failure : Failure) : Prop where
  | check (on : settings.validate.truthy = true)
      (failed : validate language.name content = .error failure)
  | encoding (broken : content.isWhole = false) (same : failure = .notEncodable)
  | storage (cause : StorageError) (same : failure = .storage cause)

theorem writeFile_fails (settings : OutputSettings) (language : Language) (path : Path)
    (content : Content) :
    FailsOnly (WriteFails settings language content) (writeFile settings language path content) := by
  have checked (failure : Failure)
      (failed : (if settings.validate.truthy then validate language.name content else .ok ()) =
        .error failure) : WriteFails settings language content failure := by
    split at failed
    · next on => exact .check on failed
    · cases failed
  have encoded (broken : content.isWhole = false) : WriteFails settings language content .notEncodable :=
    .encoding broken rfl
  have stored (cause : StorageError) : WriteFails settings language content (.storage cause) :=
    .storage cause rfl
  unfold writeFile
  dsimp only
  split
  · exact writeAtomically_failsOnly checked encoded stored
  · exact writeDirectly_failsOnly checked encoded stored

end Writing

namespace CommandLine

variable {tree : FileTree} {arguments : List String} {tools : Tools} {invocation : Invocation}

/-! ### How a command ends -/

/-- A command that ends before the files are touched. -/
structure EndsUntouched (tree : FileTree) (arguments : List String) (tools : Tools) : Prop where
  exitCode : (run tree arguments tools).exitCode ≠ 0
  tree : (run tree arguments tools).tree = tree

/-- **A command that stops at one file**: everything has been generated and no target is refused; some
first files have been written, and the next one fails by its check, by its encoding or by the storage. -/
inductive StopsAtFile (tree : FileTree) (invocation : Invocation) (tools : Tools) (left : FileTree) :
    Prop where
  | intro {config : Config} {settings : OutputSettings} {language : Language}
      {files : List ConverterFile} {made : GeneratorState} {front back : List (Path × ConverterFile)}
      {path : Path} {file : ConverterFile} {between last : WriteState} {failure : Failure}
      (generated : outcome (generateAll tree invocation tools) {} =
        (.ok (config, language, files), made))
      (given : config.output = .settings settings)
      (allowed : ¬ Refused settings tree ((targetPaths invocation.output files).map (·.1)))
      (targets : targetPaths invocation.output files = front ++ (path, file) :: back)
      (written : outcome (writeFiles settings language front) ⟨tree, made.log⟩ = (.ok (), between))
      (failed : outcome (writeFile settings language path file.content) between =
        (.error failure, last))
      (cause : WriteFails settings language file.content failure)
      (left : last.tree = left)

theorem endsUntouched_of_usage {cause : UsageError}
    (read : Invocation.read tree arguments = .error cause) : EndsUntouched tree arguments tools := by
  constructor <;> simp only [run, read]
  · exact exitCode_ofAbort _ _ _
  · exact tree_ofAbort _ _ _

/-- A failure to generate ends a command with the files as they were. -/
theorem endsUntouched_of_generateAll (read : Invocation.read tree arguments = .ok invocation)
    (failed : ∀ result made, outcome (generateAll tree invocation tools) {} ≠ (.ok result, made)) :
    EndsUntouched tree arguments tools := by
  rcases ran : outcome (generateAll tree invocation tools) {} with ⟨abort | result, made⟩
  · have generates : (generateAll tree invocation tools).run.run {} = (.error abort, made) := ran
    constructor <;> simp only [run, read, Invocation.run, generates]
    · exact exitCode_ofAbort _ _ _
    · exact tree_ofAbort _ _ _
  · exact absurd ran (failed result made)

/-- **All ways in which a command ends**: with the files as they were, at one file, or well. -/
theorem run_cases (tree : FileTree) (arguments : List String) (tools : Tools) :
    EndsUntouched tree arguments tools ∨
      (∃ invocation, Invocation.read tree arguments = .ok invocation ∧
        StopsAtFile tree invocation tools (run tree arguments tools).tree) ∨
      (run tree arguments tools).exitCode = 0 := by
  cases read : Invocation.read tree arguments with
  | error cause => exact .inl (endsUntouched_of_usage read)
  | ok invocation =>
    rcases generated : outcome (generateAll tree invocation tools) {} with
      ⟨abort | ⟨config, language, files⟩, made⟩
    · refine .inl (endsUntouched_of_generateAll read fun result made' ran => ?_)
      rw [generated] at ran
      cases ran
    · obtain ⟨failure, refused⟩ | ⟨settings, given, allowed, writes⟩ :=
        outcome_writeConverters_cases config language invocation.output files ⟨tree, made.log⟩
      · obtain ⟨exitCode, left⟩ := run_of_failed read generated refused
        exact .inl ⟨exitCode, left⟩
      · -- From here on the files are written one after the other.
        obtain ⟨after, ran, -⟩ | ⟨failure, after, front, path, file, back, between, targets, ran,
          written, failed, -⟩ := writeFiles_run settings language
            (targetPaths invocation.output files) ⟨tree, made.log⟩
        · rw [ran] at writes
          exact .inr (.inr (run_of_outcomes read generated writes).1)
        · rw [ran] at writes
          obtain ⟨-, left⟩ := run_of_failed read generated writes
          refine .inr (.inl ⟨invocation, rfl, ?_⟩)
          exact .intro generated given allowed targets written failed
            (writeFile_fails settings language path file.content between failure after failed)
            left.symm

/-! ### Faults that end a command in time -/

/-- **A source that ends every command that reads it**: it is no text or no module, it is not below the
root of sources, or a conversion for Python has no module to import its enum from. -/
inductive FaultySource (tree : FileTree) (invocation : Invocation) (path : Path) : Prop where
  | unreadable {cause : ReadError} (read : readText tree path = .error cause)
  | malformed {text : String} {cause : Source.SourceError} (read : readText tree path = .ok text)
      (parsed : Source.readModule text = .error cause)
  | outside {root : Path} (module : invocation.module = none) (given : invocation.root = some root)
      (away : ∀ names, path ≠ ⟨root.root, root.names ++ names⟩)
  | nameless {text : String} {parsed : Source.Module} {declarations : ModuleDeclarations}
      (language : invocation.language = "python")
      (module : invocation.moduleOf path = .ok "")
      (read : readText tree path = .ok text) (parses : Source.readModule text = .ok parsed)
      (declares : readDeclarations "" parsed = .ok declarations)
      (asks : Generator.conversionsOf declarations ≠ [])

/-- **A fault that ends a command before a file is touched**: a faulty source, two converters with one
path, or a target at which something is while existing files are protected. -/
inductive Faulty (tree : FileTree) (invocation : Invocation) (tools : Tools) : Prop where
  | source {path : Path} (mem : path ∈ invocation.sources tree)
      (faulty : FaultySource tree invocation path)
  | shared {config : Config} {language : Language} {files : List ConverterFile}
      {made : GeneratorState}
      (generated : outcome (generateAll tree invocation tools) {} =
        (.ok (config, language, files), made))
      (shared : ¬ (files.map (·.path)).Nodup)
  | taken {config : Config} {settings : OutputSettings} {language : Language}
      {files : List ConverterFile} {made : GeneratorState} {file : ConverterFile}
      (generated : outcome (generateAll tree invocation tools) {} =
        (.ok (config, language, files), made))
      (given : config.output = .settings settings) (protects : settings.mode.protectsFiles = true)
      (mem : file ∈ files) (there : tree.contains (invocation.output.append file.path) = .ok true)

/-- What has a path below a root leads there by further names. -/
theorem exists_names_of_moduleName {path root : Path} {module : String}
    (named : moduleName path (some root) = .ok module) :
    ∃ names, path = ⟨root.root, root.names ++ names⟩ := by
  unfold moduleName at named
  dsimp only at named
  split at named
  · next below =>
    unfold Path.below? at below
    split at below
    · next inside =>
      obtain ⟨names, eq⟩ := List.isPrefixOf_iff_prefix.1 inside.2
      refine ⟨names, ?_⟩
      rw [eq, ← inside.1]
    · cases below
  · cases named

/-- None of the conversions that are all given a text lacks a module. -/
theorem not_lacksModule_of_giveAll {generator : Generator} {conversions : List Conversion}
    {memory : Memory} {files : List ConverterFile}
    (given : (generator.giveAll conversions memory).1 = .ok files) :
    ∀ conversion ∈ conversions, generator.lacksModule conversion = false := by
  induction conversions generalizing memory files with
  | nil => nofun
  | cons conversion rest ih =>
    rw [Generator.giveAll] at given
    split at given
    · cases given
    · next has =>
      split at given
      · cases given
      · obtain ⟨others, later, -⟩ := result_map_eq_ok.1 given
        exact List.forall_mem_cons.2 ⟨Bool.eq_false_iff.2 has, ih later⟩

/-- A faulty source gives no converters. -/
theorem FaultySource.not_generated {path : Path} (faulty : FaultySource tree invocation path)
    {config : Config} {generator : Generator}
    (made : Generator.make invocation.language config (invocation.mention tree) tools = .ok generator)
    {before after : GeneratorState} {files : List ConverterFile} :
    outcome (generateSource tree generator invocation path) before ≠ (.ok files, after) := by
  intro ran
  obtain ⟨module, text, named, read, ran⟩ := generateSource_eq_ok ran
  obtain ⟨log, does⟩ := generator.generateModule_does text module before.toMemory before.log
  have given : (generator.files text module before.toMemory).1 = .ok files :=
    congrArg Prod.fst (does.symm.trans ran)
  unfold Generator.files at given
  cases faulty with
  | unreadable unread =>
    rw [read] at unread
    cases unread
  | malformed read' parsed =>
    cases read.symm.trans read'
    rw [parsed] at given
    cases given
  | outside unnamed root away =>
    rw [Invocation.moduleOf, unnamed, root] at named
    obtain ⟨names, below⟩ := exists_names_of_moduleName named
    exact away names below
  | nameless language module' read' parses declares asks =>
    -- The name of the module is the empty one, and so is that of each conversion.
    obtain rfl : module = "" := Except.ok.inj (named.symm.trans module')
    cases read.symm.trans read'
    rw [parses] at given
    dsimp only at given
    rw [declares] at given
    dsimp only at given
    obtain ⟨conversion, mem⟩ := List.exists_mem_of_ne_nil _ asks
    have has := not_lacksModule_of_giveAll given conversion mem
    have python : Language.python = generator.language := by
      have known := (Generator.of_make made).1
      rw [language] at known
      exact Option.some.inj known
    have declared := (conversionsOf_isDeclared isKind_relative (.inl rfl) parses declares conversion
      mem).1
    simp [Generator.lacksModule, ← python, declared.enumModule] at has

/-- **A fault ends a command with the files as they were.** -/
theorem Faulty.endsUntouched (faulty : Faulty tree invocation tools)
    (read : Invocation.read tree arguments = .ok invocation) : EndsUntouched tree arguments tools := by
  -- The checks of the targets are made before the first of them is written.
  have refused {config : Config} {language : Language} {files : List ConverterFile}
      {made : GeneratorState}
      (generated : outcome (generateAll tree invocation tools) {} =
        (.ok (config, language, files), made))
      (fault : ∀ settings, config.output = .settings settings →
        Refused settings tree ((targetPaths invocation.output files).map (·.1))) :
      EndsUntouched tree arguments tools := by
    obtain ⟨failure, refused⟩ | ⟨settings, given, allowed, -⟩ :=
      outcome_writeConverters_cases config language invocation.output files ⟨tree, made.log⟩
    · obtain ⟨exitCode, left⟩ := run_of_failed read generated refused
      exact ⟨exitCode, left⟩
    · exact absurd (fault settings given) allowed
  cases faulty with
  | source mem faulty =>
    refine endsUntouched_of_generateAll read fun result made ran => ?_
    obtain ⟨given, -, -, -, generator, groups, makes, all, -⟩ := generateAll_eq_ok_iff.1 ran
    obtain ⟨before, files, after, one⟩ := outcome_mapM_of_mem all mem
    exact faulty.not_generated makes one
  | shared generated shared =>
    refine refused generated fun settings _ => .inl fun nodup => shared ?_
    rw [targetPaths, List.map_map] at nodup
    rw [List.Nodup, List.pairwise_map] at nodup ⊢
    exact nodup.imp fun differ same => differ (congrArg invocation.output.append same)
  | @taken config settings language files made file generated given protects mem there =>
    refine refused generated fun settings' given' => .inr ?_
    cases given.symm.trans given'
    exact ⟨protects, invocation.output.append file.path,
      List.mem_map.2 ⟨_, List.mem_map.2 ⟨file, mem, rfl⟩, rfl⟩, by simp [there]⟩

/-- **A command that fails has written nothing**, unless it stops at a file that cannot be written when
everything has been generated and checked. A fault in a source, two converters with one path or a
protected target always end it before. This is so whatever the formatters do. -/
theorem run_fails (tree : FileTree) (arguments : List String) (tools : Tools) :
    ((run tree arguments tools).exitCode ≠ 0 →
      (run tree arguments tools).tree = tree ∨
        ∃ invocation, Invocation.read tree arguments = .ok invocation ∧
          StopsAtFile tree invocation tools (run tree arguments tools).tree) ∧
    ∀ invocation, Invocation.read tree arguments = .ok invocation → Faulty tree invocation tools →
      EndsUntouched tree arguments tools := by
  refine ⟨fun failed => ?_, fun invocation read faulty => faulty.endsUntouched read⟩
  obtain untouched | stops | ended := run_cases tree arguments tools
  · exact .inl untouched.tree
  · exact .inr stops
  · exact absurd ended failed

/-- A source with an enum for which a converter is wanted, and other files. -/
def lampTree (more : List (String × String)) : FileTree where
  entries := (["lamp.py"], .file
      "@EnumJsonConverter('L')\n@JsonConverter('B')\nclass L(Enum):\n A = 1\n".toUTF8) ::
    more.map fun (name, text) => ([name], .file text.toUTF8)

set_option maxRecDepth 100000 in
/-- A second source that is no module keeps the converter of the first one from being written. -/
theorem run_fails_broken :
    let tree := lampTree [("broken.py", "class")]
    let arguments := ["lamp.py", "broken.py", "out"]
    ∃ invocation, Invocation.read tree arguments = .ok invocation ∧ Faulty tree invocation .absent ∧
      EndsUntouched tree arguments .absent := by
  dsimp only
  generalize known : lampTree [("broken.py", "class")] = tree
  have asked : (Invocation.read tree ["lamp.py", "broken.py", "out"]).toOption.map
      (fun invocation => decide (⟨.slash, ["broken.py"]⟩ ∈ invocation.sources tree)) = some true := by
    subst known
    decide +kernel
  have text : readText tree ⟨.slash, ["broken.py"]⟩ = .ok "class" := by
    subst known
    decide +kernel
  have parsed : (Source.readModule "class").toOption.isNone = true := by decide +kernel
  obtain ⟨invocation, reads, mem⟩ := Option.map_eq_some_iff.1 asked
  have read := result_toOption_eq_some.1 reads
  have faulty : Faulty tree invocation .absent := by
    cases broken : Source.readModule "class" with
    | ok module =>
      rw [broken] at parsed
      cases parsed
    | error cause => exact .source (of_decide_eq_true mem) (.malformed text broken)
  exact ⟨invocation, read, faulty, (run_fails tree _ .absent).2 invocation read faulty⟩

set_option maxRecDepth 100000 in
/-- That a label of the second source is half of a surrogate pair is found out only when its converter is
to be encoded. Then the one of the first source has been written. -/
theorem run_fails_unlike :
    let tree := lampTree [
      ("torch.py", "@EnumJsonConverter('T')\n@JsonConverter('C')\nclass T(Enum):\n" ++
        " A: Annotated[int, Display(Name='\\ud800')] = 1\n"),
      ("plain.json", "\x7b\"output\": \x7b\"validate_before_write\": false\x7d\x7d")]
    let outcome := run tree ["lamp.py", "torch.py", "out", "-lcs", "-cplain.json"]
    outcome.exitCode ≠ 0 ∧ (outcome.crash matches some (.failure .notEncodable)) ∧
      isThere tree (.ofText "out/B.g.cs") = false ∧
      isThere outcome.tree (.ofText "out/B.g.cs") = true := by
  decide +kernel

end CommandLine

end EnumCodec
