import EnumCodec.CommandLine.Mention
import EnumCodec.Proofs.Converter.PythonTree
import EnumCodec.Proofs.Declaration.Names
import EnumCodec.Proofs.Generator.Caching

/-!
# EnumCodec.Proofs.Generator.Validity

**What is generated in Python can be read.** The names of a converter come from the source that it is
generated from, as identifiers; as far as none of them is a keyword, the text is a module of the
language. This holds for every text that a generator gives out, those that it has kept among them.
-/

namespace EnumCodec

open Activity (result_bind_eq_ok result_map_eq_ok result_toOption_eq_some)
open Source (IsName IsReference Keyword)
open Declaration (readDeclarations)
open Text (dotPieces isIdentifier IsDottedName)

/-! ### Names of converters -/

/-- No name that a converter in Python has to write as code is a keyword. -/
structure Conversion.AvoidsKeywords (conversion : Conversion) : Prop where
  converterName : Keyword.spellings.lookup conversion.target.converterName = none
  enumName : ∀ piece ∈ dotPieces conversion.target.enumName, Keyword.spellings.lookup piece = none
  identifiers : ∀ member ∈ conversion.members, Keyword.spellings.lookup member.identifier = none

instance (conversion : Conversion) : Decidable conversion.AvoidsKeywords :=
  decidable_of_iff (Keyword.spellings.lookup conversion.target.converterName = none ∧
      (∀ piece ∈ dotPieces conversion.target.enumName, Keyword.spellings.lookup piece = none) ∧
      ∀ member ∈ conversion.members, Keyword.spellings.lookup member.identifier = none)
    ⟨fun ⟨converter, enum, members⟩ => ⟨converter, enum, members⟩,
      fun ⟨converter, enum, members⟩ => ⟨converter, enum, members⟩⟩

theorem Source.IsReference.isDottedName {text : String} (reference : IsReference text) :
    IsDottedName text := by
  rw [IsDottedName, List.all_eq_true]
  intro piece mem
  simpa using (reference _ (List.mem_map_of_mem mem)).1

theorem Text.IsDottedName.isIdentifier {text : String} (dotted : IsDottedName text)
    (undotted : '.' ∉ text.toList) : isIdentifier text.toList = true := by
  rw [IsDottedName, Text.splitDots_of_not_mem undotted] at dotted
  simpa using dotted

namespace Conversion.IsDeclared

variable {module : String} {conversion : Conversion}

theorem isWellNamed (declared : conversion.IsDeclared IsDottedName module)
    (own : module = "" ∨ IsDottedName module) : conversion.IsWellNamed where
  converterName := declared.converter.name
  converterNamespace := declared.converter.namespacePath
  enumFullName := by
    rw [declared.enumFullName]
    split
    · exact declared.enumName
    · rename_i named
      exact (own.resolve_left named).join declared.enumName
  enumModule := by rwa [declared.enumModule]
  enumName := Or.inr declared.enumName
  identifiers member mem := by
    simpa using Text.isDottedName_of_isIdentifier (declared.identifiers member mem).1

theorem enumName_ne (declared : conversion.IsDeclared IsDottedName module) :
    conversion.target.enumName ≠ "" := by
  intro empty
  have dotted := declared.enumName
  rw [empty] at dotted
  exact absurd dotted (by decide)

theorem hasPythonNames (declared : conversion.IsDeclared IsDottedName module)
    (own : IsReference module) (avoids : conversion.AvoidsKeywords) :
    conversion.HasPythonNames where
  converterName := ⟨declared.converter.name.isIdentifier declared.converter.undotted,
    avoids.converterName⟩
  enumModule := Or.inr (declared.enumModule ▸ own)
  enumName := by
    rw [PythonConverter.enumName, if_neg declared.enumName_ne]
    intro piece mem
    refine ⟨?_, avoids.enumName piece mem⟩
    obtain ⟨chars, found, rfl⟩ := List.mem_map.1 mem
    simpa using List.all_eq_true.1 declared.enumName chars found
  identifiers member mem piece found := by
    have identifier := (declared.identifiers member mem).1
    rw [dotPieces, Text.splitDots_of_not_mem (Text.not_dot_of_isIdentifier identifier)] at found
    obtain rfl : piece = member.identifier := by simpa using found
    exact ⟨identifier, avoids.identifiers member mem⟩

end Conversion.IsDeclared

/-- **The names of the conversions of a module** come from its source. -/
theorem conversionsOf_isDeclared {kind : String → Prop} (isKind : Declaration.IsKind kind)
    {source module : String} {tree : Source.Module} {declarations : ModuleDeclarations}
    (own : module = "" ∨ kind module) (parsed : Source.readModule source = .ok tree)
    (read : readDeclarations module tree = .ok declarations) :
    ∀ conversion ∈ Generator.conversionsOf declarations,
      conversion.IsDeclared kind module ∧ conversion.HasEscapedLabels := by
  intro conversion mem
  obtain ⟨declaration, declared, found⟩ := List.mem_filterMap.1 mem
  have fit := Declaration.readDeclarations_fit isKind own (Source.readModule_isNamed parsed) read
  exact ⟨resolve_isDeclared isKind fit declared found, resolve_hasEscapedLabels found⟩

/-! ### Texts of converters -/

/-- The text is that of a converter in Python, whatever the choices about it. -/
def Conversion.IsPythonText (conversion : Conversion) (text : Content) : Prop :=
  ∃ layout : Layout, layout.IsUnbroken .python ∧ layout.isWhole = true ∧
    text = conversion.converterText .python layout

theorem Conversion.IsPythonText.validate {conversion : Conversion} {text : Content}
    (python : conversion.IsPythonText text) (names : conversion.IsWellNamed)
    (labels : conversion.HasEscapedLabels) (words : conversion.HasPythonNames) :
    validate Language.python.name text =
      if conversion.isWhole then .ok () else .error .notEncodable := by
  obtain ⟨layout, unbroken, whole, rfl⟩ := python
  obtain ⟨lines, read⟩ := PythonConverter.readModule_text unbroken names labels words
  simp [EnumCodec.validate, Conversion.converterText, whole, read]

/-- A generator whose comments, if it makes any, mention a command on one line. -/
def Generator.MentionsOneLine (generator : Generator) : Prop :=
  generator.config.generationComment.truthy = false ∨
    ∃ line, generator.commandLine = .ok line ∧ Reading.isUnbroken line = true

/-- What such a generator renders in Python is the text of a converter. -/
theorem Generator.MentionsOneLine.isPythonText {generator : Generator} {conversion : Conversion}
    {text : Content} (oneLine : generator.MentionsOneLine) (python : generator.language = .python)
    (rendered : generator.render conversion = .ok text) : conversion.IsPythonText text := by
  obtain ⟨layout, chosen, rendered⟩ := result_bind_eq_ok.1 rendered
  obtain ⟨comment, commented, chosen⟩ := result_bind_eq_ok.1 chosen
  obtain ⟨usings, opened, chosen⟩ := result_bind_eq_ok.1 chosen
  cases rendered
  cases chosen
  rw [Generator.usings, python] at opened
  cases opened
  rw [python]
  refine ⟨_, ⟨fun mention some => ?_, by simp⟩, rfl, rfl⟩
  unfold Generator.comment at commented
  split at commented
  · next on =>
    obtain ⟨line, given, unbroken⟩ := oneLine.resolve_left (by simp [on])
    rw [given, python] at commented
    cases commented
    cases some
    exact ⟨line, unbroken, rfl⟩
  · cases commented
    cases some

/-- A generator of converters in Python that runs without a command and cannot use any formatter, with its
memory. -/
structure Generator.GivesPython (generator : Generator) (memory : Memory) : Prop where
  language : generator.language = .python
  commandLine : generator.commandLine = .ok CommandLine.bareMention
  unusable : generator.tools.Unusable
  idle : memory.formatters.IsIdle
  texts : ∀ conversion text, memory.cache.lookup conversion = some text →
    conversion.IsPythonText text

theorem isUnbroken_bareMention : Reading.isUnbroken CommandLine.bareMention = true := by
  decide

namespace Generator.GivesPython

variable {generator : Generator} {memory kept : Memory} {conversion : Conversion} {text : Content}

/-- A text that is made anew is one of a converter in Python. -/
theorem render (python : generator.GivesPython memory)
    (rendered : generator.render conversion = .ok text) : conversion.IsPythonText text :=
  MentionsOneLine.isPythonText (.inr ⟨_, python.commandLine, isUnbroken_bareMention⟩) python.language
    rendered

/-- A text that is given is one of a converter in Python, and so are those that are kept then. -/
theorem give (python : generator.GivesPython memory) (conversion : Conversion) :
    (∀ text, (generator.give conversion memory).1 = .ok text → conversion.IsPythonText text) ∧
      generator.GivesPython (generator.give conversion memory).2 := by
  obtain ⟨language, commandLine, unusable, idle, texts⟩ := python
  obtain ⟨formatters, still, given⟩ := generator.give_of_unusable unusable conversion idle
  rw [given]
  cases found : generator.kept? conversion memory with
  | some kept =>
    refine ⟨fun text same => ?_, language, commandLine, unusable, still, texts⟩
    cases same
    unfold Generator.kept? at found
    split at found
    · exact texts conversion _ found
    · cases found
  | none =>
    cases unformatted : generator.unformatted conversion with
    | error failure => exact ⟨nofun, language, commandLine, unusable, still, texts⟩
    | ok rendered =>
      have made : conversion.IsPythonText rendered :=
        render ⟨language, commandLine, unusable, idle, texts⟩
          (Generator.render_of_unformatted unformatted)
      refine ⟨fun text same => ?_, language, commandLine, unusable, still,
        fun other known found => ?_⟩
      · cases same
        exact made
      · dsimp only at found
        split at found
        · rw [Entries.lookup_cons_eq] at found
          split at found
          · rename_i same
            cases found
            rwa [same]
          · exact texts other known found
        · exact texts other known found

/-- The texts of several conversions. -/
theorem giveAll (python : generator.GivesPython memory) {conversions : List Conversion}
    {files : List ConverterFile}
    (given : (generator.giveAll conversions memory).1 = .ok files) :
    List.Forall₂ (fun conversion file => file.name = conversion.target.converterName ∧
      conversion.IsPythonText file.content) conversions files := by
  induction conversions generalizing memory files with
  | nil =>
    cases given
    exact .nil
  | cons conversion rest ih =>
    rw [Generator.giveAll] at given
    split at given
    · cases given
    · split at given
      · cases given
      · rename_i text kept one
        obtain ⟨made, python⟩ := python.give conversion
        rw [one] at made python
        obtain ⟨others, later, rfl⟩ := result_map_eq_ok.1 given
        exact .cons ⟨rfl, made text rfl⟩ (ih python later)

/-- Emitting some conversions keeps to texts of converters in Python. -/
theorem emitAll {session : Session} (python : session.generator.GivesPython session.toMemory)
    (conversions : List Conversion) :
    session.generator.GivesPython (session.emitAll conversions).2.toMemory := by
  induction conversions generalizing session with
  | nil => exact python
  | cons conversion rest ih =>
    have later := (python.give conversion).2
    rw [Session.emitAll_cons]
    rcases given : session.generator.give conversion session.toMemory with ⟨failure | text, kept⟩ <;>
      rw [given] at later
    · exact later
    · exact @ih { session with toMemory := kept } later

end Generator.GivesPython

/-- **A step** of a session keeps to texts of converters in Python, whatever is configured. -/
theorem givesPython_step {session : Session}
    (python : session.generator.GivesPython session.toMemory) (step : Session.Step) :
    (session.step step).2.generator.GivesPython (session.step step).2.toMemory := by
  rw [session.generator_step, session.toMemory_step]
  obtain ⟨language, commandLine, unusable, idle, texts⟩ := python.emitAll (session.requests step)
  exact ⟨language, commandLine, unusable, idle, texts⟩

theorem givesPython_run {session : Session}
    (python : session.generator.GivesPython session.toMemory) (steps : List Session.Step) :
    (session.run steps).generator.GivesPython (session.run steps).toMemory := by
  induction steps generalizing session with
  | nil => exact python
  | cons step rest ih => exact ih (givesPython_step python step)

theorem givesPython_start {config : Config} {tree : FileTree} {tools : Tools} {session : Session}
    (unusable : tools.Unusable)
    (started : Session.start "python" config (.ok CommandLine.bareMention) tree tools =
      .ok session) : session.generator.GivesPython session.toMemory := by
  obtain ⟨generator, made, rfl⟩ := result_map_eq_ok.1 started
  obtain ⟨known, -, commandLine, tools⟩ := Generator.of_make made
  exact ⟨(Option.some.inj known).symm, commandLine, tools ▸ unusable,
    FormatterState.isIdle_default, nofun⟩

/-- The answer to the generation of a module is its converters. -/
theorem Session.exists_files_of_generate {session : Session} {source module : String} {answer : Answer}
    (answered : (session.step (.generate source module)).1 = .ok answer) :
    ∃ files, answer = .files files := by
  rw [Session.step, (session.generator.generateModule_does source module session.toMemory).perform]
    at answered
  obtain ⟨files, -, rfl⟩ := result_map_eq_ok.1 answered
  exact ⟨files, rfl⟩

/-- **Generated converters in Python are modules of the language.** After any steps of a session that
runs without a command and where no formatter can be used, every converter that a module asks for is
given a text that passes the check for Python, provided that none of its names is a keyword: the name of
the converter, the parts of the name of the enum, and the names of the members. Neither the options nor
the characters of the labels matter; a label or a name for messages with half of a surrogate pair cannot be
encoded, which is where the check fails. -/
theorem generate_validates {config : Config} {tree : FileTree} {tools : Tools} {start : Session}
    (unusable : tools.Unusable)
    (started : Session.start "python" config (.ok CommandLine.bareMention) tree tools = .ok start)
    (steps : List Session.Step) {source module : String} (named : IsReference module)
    {files : List ConverterFile}
    (answered : ((start.run steps).step (.generate source module)).1 = .ok (.files files)) :
    ∃ parsed declarations, Source.readModule source = .ok parsed ∧
      readDeclarations module parsed = .ok declarations ∧
      List.Forall₂ (fun conversion file => file.name = conversion.target.converterName ∧
          (conversion.AvoidsKeywords → validate Language.python.name file.content =
            if conversion.isWhole then .ok () else .error .notEncodable))
        (Generator.conversionsOf declarations) files := by
  have python := givesPython_run (givesPython_start unusable started) steps
  generalize start.run steps = session at python answered
  rw [Session.step, (session.generator.generateModule_does source module session.toMemory).perform]
    at answered
  obtain ⟨made, given, ⟨⟩⟩ := result_map_eq_ok.1 answered
  unfold Generator.files at given
  split at given
  · cases given
  · rename_i parsed read
    split at given
    · cases given
    · rename_i declarations declared
      refine ⟨parsed, declarations, read, declared, ?_⟩
      have names := conversionsOf_isDeclared Declaration.isKind_dottedName
        (Or.inr named.isDottedName) read declared
      refine (List.forall₂_iff_get.1 (python.giveAll given)).elim fun length each => ?_
      refine List.forall₂_iff_get.2 ⟨length, fun i before behind => ?_⟩
      obtain ⟨name, text⟩ := each i before behind
      obtain ⟨isDeclared, labels⟩ := names _ (List.get_mem _ ⟨i, before⟩)
      refine ⟨name, fun avoids => text.validate ?_ labels (isDeclared.hasPythonNames named avoids)⟩
      exact isDeclared.isWellNamed (Or.inr named.isDottedName)

/-- The source of an enum with two members and a converter. -/
def lampSource : String :=
  "@EnumJsonConverter('Lamp')\n@JsonConverter('LampConverter')\nclass Lamp(Enum):\n ON = 1\n OFF = 2\n"

set_option maxRecDepth 4000 in
/-- The converter of the lamp is generated, and it passes the check. -/
theorem generate_validates_lamp :
    Tools.absent.Unusable ∧ ∃ start files,
      Session.start "python" {} (.ok CommandLine.bareMention) {} = .ok start ∧
      ((start.run []).step (.generate lampSource "lamps")).1 = .ok (.files files) ∧
      ∃ parsed declarations, Source.readModule lampSource = .ok parsed ∧
        readDeclarations "lamps" parsed = .ok declarations ∧
        List.Forall₂ (fun conversion file => file.name = conversion.target.converterName ∧
            (conversion.AvoidsKeywords → validate Language.python.name file.content =
              if conversion.isWhole then .ok () else .error .notEncodable))
          (Generator.conversionsOf declarations) files := by
  have generated : ((Session.start "python" {} (.ok CommandLine.bareMention) {}).toOption.bind
      fun start => ((start.run []).step (.generate lampSource "lamps")).1.toOption).isSome =
        true := by decide +kernel
  obtain ⟨answer, generated⟩ := Option.isSome_iff_exists.1 generated
  obtain ⟨start, starts, answers⟩ := Option.bind_eq_some_iff.1 generated
  have started := result_toOption_eq_some.1 starts
  have answered := result_toOption_eq_some.1 answers
  obtain ⟨files, rfl⟩ := Session.exists_files_of_generate answered
  exact ⟨Tools.unusable_absent, start, files, started, answered,
    generate_validates Tools.unusable_absent started [] (by decide) answered⟩

end EnumCodec
