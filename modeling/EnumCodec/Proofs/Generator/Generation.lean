import EnumCodec.Generator.Session
import EnumCodec.Proofs.Activity

/-!
# EnumCodec.Proofs.Generator.Generation

**What a generator does to its memory.** Generating a module is giving texts to the conversions that its
enums ask for, one after the other. What has been reported plays no part in it, so each activity is
described as a function from the memory of the generator to a result and the memory after it. The
formatters may do anything; where none of them can be used, texts are given as they are rendered.
-/

namespace EnumCodec

open Activity
open Declaration (readDeclarations)

variable {α β : Type} {memory kept : Memory}

/-- What a generator is made of. -/
theorem Generator.of_make {language : String} {config : Config} {commandLine : Except StorageError String}
    {tools : Tools} {generator : Generator}
    (made : make language config commandLine tools = .ok generator) :
    Language.ofName? language = some generator.language ∧ generator.config = config ∧
      generator.commandLine = commandLine ∧ generator.tools = tools := by
  unfold make at made
  split at made
  · cases made
  · next known =>
    cases made
    exact ⟨known, rfl, rfl, rfl⟩
  · next known =>
    split at made <;> cases made
    exact ⟨known, rfl, rfl, rfl⟩

/-! ### Activities of a generator -/

/-- Whatever has been reported, the activity has the result and leaves the memory. -/
def Does (action : GeneratorM α) (memory : Memory) (result : Except Failure α × Memory) : Prop :=
  ∀ log, ∃ log', outcome action ⟨memory, log⟩ = (result.1, ⟨result.2, log'⟩)

theorem does_pure (value : α) (memory : Memory) : Does (pure value) memory (.ok value, memory) :=
  fun log => ⟨log, rfl⟩

theorem does_throw (failure : Failure) (memory : Memory) :
    Does (throw failure : GeneratorM α) memory (.error failure, memory) :=
  fun log => ⟨log, rfl⟩

theorem does_report (records : List LogRecord) (memory : Memory) :
    Does (report records) memory (.ok (), memory) :=
  fun log => ⟨log ++ records, rfl⟩

theorem does_useFormatters (action : StateM FormatterState α) (memory : Memory) :
    Does (Generator.useFormatters action) memory
      (.ok (action.run memory.formatters).1,
        { memory with formatters := (action.run memory.formatters).2 }) :=
  fun log => ⟨log, rfl⟩

/-- What is done with the state does not depend on the reports in it. -/
theorem Does.get {next : GeneratorState → GeneratorM β} {result : Except Failure β × Memory}
    (does : ∀ log, Does (next ⟨memory, log⟩) memory result) : Does (MonadState.get >>= next) memory result :=
  fun log => does log log

theorem does_modifyCache (change : List (Conversion × Content) → List (Conversion × Content))
    (memory : Memory) :
    Does (modify fun state => { state with cache := change state.cache }) memory
      (.ok ⟨⟩, { memory with cache := change memory.cache }) :=
  fun log => ⟨log, rfl⟩

theorem Does.bind_ok {action : GeneratorM α} {next : α → GeneratorM β} {value : α}
    {result : Except Failure β × Memory} (first : Does action memory (.ok value, kept))
    (second : Does (next value) kept result) : Does (action >>= next) memory result := by
  intro log
  obtain ⟨between, ran⟩ := first log
  obtain ⟨after, ran'⟩ := second between
  exact ⟨after, by rw [outcome_bind, ran]; exact ran'⟩

theorem Does.bind_error {action : GeneratorM α} {next : α → GeneratorM β} {failure : Failure}
    (first : Does action memory (.error failure, kept)) :
    Does (action >>= next) memory (.error failure, kept) := by
  intro log
  obtain ⟨after, ran⟩ := first log
  exact ⟨after, by rw [outcome_bind, ran]⟩

/-- A session performs what the activity does. -/
theorem Does.perform {action : GeneratorM α} {session : Session}
    {result : Except Failure α × Memory} (does : Does action session.toMemory result) :
    session.perform action = (result.1, { session with toMemory := result.2 }) := by
  obtain ⟨log, ran⟩ := does []
  have run : StateT.run (ExceptT.run action) { toMemory := session.toMemory } =
      (result.1, { toMemory := result.2, log }) := ran
  rw [Session.perform, run]

/-! ### Formatting -/

namespace Generator

variable (generator : Generator)

/-- What the chosen formatter makes of a text, and what the formatters know and have done after it. -/
def finished (text : Content) (formatters : FormatterState) :
    Except Failure Content × FormatterState :=
  match generator.tool with
  | none => (.ok text, formatters)
  | some tool =>
    if generator.config.formatter.isPresent then
      let (available, asked) := (tool.isAvailable generator.tools).run formatters
      if available then
        match generator.config.formatter.read with
        | .error cause => (.error (.config cause), asked)
        | .ok settings =>
          let (formatted, done) := (tool.formatConverter generator.tools settings text).run asked
          (formatted.mapError .formatter, done)
      else (.ok text, asked)
    else (.error (.config .noSetting), formatters)

theorem finish_does (text : Content) (memory : Memory) :
    Does (generator.finish text) memory
      ((generator.finished text memory.formatters).1,
        { memory with formatters := (generator.finished text memory.formatters).2 }) := by
  unfold finish finished
  cases generator.tool with
  | none => exact does_pure text memory
  | some tool =>
    dsimp only
    by_cases present : generator.config.formatter.isPresent
    · simp only [present, Bool.not_true, Bool.false_eq_true, if_false, if_true]
      refine (does_useFormatters _ memory).bind_ok ?_
      rcases (tool.isAvailable generator.tools).run memory.formatters with ⟨_ | _, asked⟩
      · exact (does_report _ _).bind_ok (does_pure text _)
      · dsimp only
        cases generator.config.formatter.read with
        | error cause => exact does_throw _ _
        | ok settings =>
          refine (does_useFormatters _ _).bind_ok ?_
          dsimp only
          rcases (tool.formatConverter generator.tools settings text).run asked with ⟨_ | _, done⟩
          · exact does_throw _ _
          · exact does_pure _ _
    · simp only [present, Bool.not_false, if_true, Bool.false_eq_true, if_false]
      exact (does_throw _ memory).bind_error

/-! ### Giving texts to conversions -/

/-- The text of a conversion, and the memory after it has been given. -/
def give (conversion : Conversion) (memory : Memory) : Except Failure Content × Memory :=
  match generator.kept? conversion memory with
  | some text => (.ok text, memory)
  | none =>
    match generator.render conversion with
    | .error failure => (.error failure, memory)
    | .ok rendered =>
      match generator.finished rendered memory.formatters with
      | (.error failure, formatters) => (.error failure, { memory with formatters })
      | (.ok text, formatters) =>
        (.ok text,
          { cache :=
              if generator.config.cacheOutput.truthy then (conversion, text) :: memory.cache
              else memory.cache
            formatters })

/-- A text is given by emitting. -/
theorem emit_does (conversion : Conversion) (memory : Memory) :
    Does (generator.emit conversion) memory (generator.give conversion memory) := by
  unfold emit give
  refine .get fun log => ?_
  dsimp only
  cases generator.kept? conversion memory with
  | some text => exact does_pure text memory
  | none =>
    dsimp only
    cases generator.render conversion with
    | error failure => exact (does_throw failure memory).bind_error
    | ok rendered =>
      refine (does_pure rendered memory).bind_ok ?_
      have formats := generator.finish_does rendered memory
      dsimp only
      rcases made : generator.finished rendered memory.formatters with ⟨failure | text, formatters⟩ <;>
        rw [made] at formats
      · exact formats.bind_error
      · refine formats.bind_ok ?_
        by_cases keeps : generator.config.cacheOutput.truthy
        · simp only [keeps, if_true]
          refine (does_modifyCache _ _).bind_ok ?_
          exact (does_report _ _).bind_ok (does_pure text _)
        · simp only [keeps, Bool.false_eq_true, if_false]
          exact (does_report _ _).bind_ok (does_pure text _)

/-! ### Where no formatter can be used -/

/-- The text of a conversion as it is rendered. A formatter that has been chosen has to have a place for
its settings, even if it is not there. -/
def unformatted (conversion : Conversion) : Except Failure Content :=
  match generator.render conversion with
  | .error failure => .error failure
  | .ok text =>
    if generator.tool.isSome && !generator.config.formatter.isPresent then .error (.config .noSetting)
    else .ok text

theorem render_of_unformatted {generator : Generator} {conversion : Conversion} {text : Content}
    (made : generator.unformatted conversion = .ok text) : generator.render conversion = .ok text := by
  unfold unformatted at made
  split at made
  · cases made
  · next rendered =>
    split at made
    · cases made
    · rw [rendered, made]

end Generator

/-- **No formatter can be used**: the program does not answer well when it is asked for its version, and
the library is not there. -/
structure Tools.Unusable (tools : Tools) : Prop where
  ruff : Ruff.succeeds tools.ruff.version = false
  black : tools.black.installed = false

theorem Tools.unusable_absent : Tools.absent.Unusable := ⟨rfl, rfl⟩

/-- The program is not known to be of use. -/
def FormatterState.IsIdle (formatters : FormatterState) : Prop :=
  formatters.ruff.available ≠ some true

theorem FormatterState.isIdle_default : IsIdle {} := nofun

/-- Formatters that cannot be used are not available, and stay so. -/
theorem FormatterTool.isAvailable_of_unusable {tools : Tools} (unusable : tools.Unusable)
    (tool : FormatterTool) {formatters : FormatterState} (idle : formatters.IsIdle) :
    ∃ asked, asked.IsIdle ∧ (tool.isAvailable tools).run formatters = (false, asked) := by
  cases tool with
  | black => exact ⟨formatters, idle, congrArg (·, formatters) unusable.black⟩
  | ruff =>
    obtain ⟨⟨_ | _ | _, calls⟩, black⟩ := formatters
    · have asked : (FormatterTool.isAvailable tools .ruff).run ⟨⟨none, calls⟩, black⟩ =
          (Ruff.succeeds tools.ruff.version,
            ⟨⟨some (Ruff.succeeds tools.ruff.version), calls ++ [Ruff.versionCall]⟩, black⟩) := rfl
      rw [unusable.ruff] at asked
      exact ⟨_, by simp [FormatterState.IsIdle], asked⟩
    · exact ⟨_, by simp [FormatterState.IsIdle], rfl⟩
    · exact absurd rfl idle

namespace Generator

variable (generator : Generator)

/-- **Where no formatter can be used**, a conversion is given the text that is kept for it, or the one that
is rendered. -/
theorem give_of_unusable (unusable : generator.tools.Unusable) (conversion : Conversion)
    {memory : Memory} (idle : memory.formatters.IsIdle) :
    ∃ formatters, formatters.IsIdle ∧ generator.give conversion memory =
      match generator.kept? conversion memory with
      | some text => (.ok text, { memory with formatters })
      | none =>
        match generator.unformatted conversion with
        | .error failure => (.error failure, { memory with formatters })
        | .ok text =>
          (.ok text,
            { cache :=
                if generator.config.cacheOutput.truthy then (conversion, text) :: memory.cache
                else memory.cache
              formatters }) := by
  unfold give unformatted
  cases generator.kept? conversion memory with
  | some text => exact ⟨memory.formatters, idle, rfl⟩
  | none =>
    cases generator.render conversion with
    | error failure => exact ⟨memory.formatters, idle, rfl⟩
    | ok rendered =>
      dsimp only
      unfold finished
      cases generator.tool with
      | none => exact ⟨memory.formatters, idle, rfl⟩
      | some tool =>
        by_cases present : generator.config.formatter.isPresent
        · obtain ⟨asked, still, refused⟩ := tool.isAvailable_of_unusable unusable idle
          refine ⟨asked, still, ?_⟩
          simp only [present, refused, Option.isSome_some, Bool.not_true, Bool.and_false,
            Bool.false_eq_true, if_false, if_true]
        · refine ⟨memory.formatters, idle, ?_⟩
          simp only [present, Option.isSome_some, Bool.not_false, Bool.and_true, Bool.false_eq_true,
            if_false, if_true]

/-! ### Giving texts in order -/

/-- The file of a conversion with a text. -/
def fileOf (conversion : Conversion) (text : Content) : ConverterFile where
  name := conversion.target.converterName
  path := conversion.unitPath generator.language
  content := text

/-- Is the conversion one whose converter would import its enum from nowhere? -/
def lacksModule (conversion : Conversion) : Bool :=
  generator.language = .python && conversion.target.enumModule = ""

/-- The files of some conversions in order, up to the first that cannot be made. -/
def giveAll : List Conversion → Memory → Except Failure (List ConverterFile) × Memory
  | [], memory => (.ok [], memory)
  | conversion :: rest, memory =>
    if generator.lacksModule conversion then
      (.error (.missingModule conversion.target.enumName), memory)
    else
      match generator.give conversion memory with
      | (.error failure, kept) => (.error failure, kept)
      | (.ok text, kept) =>
        let (files, last) := giveAll rest kept
        (files.map (generator.fileOf conversion text :: ·), last)

/-- The conversions that the enums of a module ask for. -/
def conversionsOf (declarations : ModuleDeclarations) : List Conversion :=
  declarations.enums.filterMap fun declaration =>
    (resolve LabelProvider.standard declarations declaration).1

/-- One declaration is generated by giving its conversion a text, if it asks for one. -/
theorem generate_does (declarations : ModuleDeclarations) (declaration : EnumDeclaration)
    (memory : Memory) :
    Does (generator.generate declarations declaration) memory
      (match (resolve LabelProvider.standard declarations declaration).1 with
      | none => (.ok none, memory)
      | some conversion =>
        if generator.lacksModule conversion then
          (.error (.missingModule conversion.target.enumName), memory)
        else
          match generator.give conversion memory with
          | (.error failure, kept) => (.error failure, kept)
          | (.ok text, kept) => (.ok (some (generator.fileOf conversion text)), kept)) := by
  have resolved : Does (resolveDeclaration LabelProvider.standard declarations declaration) memory
      (.ok (resolve LabelProvider.standard declarations declaration).1, memory) :=
    (does_report _ memory).bind_ok (does_pure _ memory)
  refine resolved.bind_ok ?_
  cases (resolve LabelProvider.standard declarations declaration).1 with
  | none => exact does_pure none memory
  | some conversion =>
    dsimp only
    by_cases lacks : generator.lacksModule conversion
    · rw [if_pos lacks]
      have lacks' := lacks
      unfold lacksModule at lacks'
      simp only [lacks', if_true]
      exact (does_throw _ memory).bind_error
    · rw [if_neg lacks]
      have lacks' := lacks
      unfold lacksModule at lacks'
      simp only [lacks', Bool.false_eq_true, if_false]
      have emitted := generator.emit_does conversion memory
      rcases given : generator.give conversion memory with ⟨_ | text, kept⟩
      · rw [given] at emitted
        exact emitted.bind_error
      · rw [given] at emitted
        exact emitted.bind_ok (does_pure _ kept)

/-- The declarations of a module are generated one after the other. -/
theorem mapM_generate_does (declarations : ModuleDeclarations) (enums : List EnumDeclaration)
    (memory : Memory) :
    ∃ result, Does (enums.mapM (generator.generate declarations)) memory
        (result, (generator.giveAll (enums.filterMap fun declaration =>
          (resolve LabelProvider.standard declarations declaration).1) memory).2) ∧
      result.map (·.filterMap id) =
        (generator.giveAll (enums.filterMap fun declaration =>
          (resolve LabelProvider.standard declarations declaration).1) memory).1 := by
  induction enums generalizing memory with
  | nil => exact ⟨.ok [], does_pure [] memory, rfl⟩
  | cons declaration rest ih =>
    have one := generator.generate_does declarations declaration memory
    rw [List.mapM_cons, List.filterMap_cons]
    cases resolved : (resolve LabelProvider.standard declarations declaration).1 with
    | none =>
      rw [resolved] at one
      obtain ⟨result, later, same⟩ := ih memory
      dsimp only at one ⊢
      rw [← same]
      cases result with
      | error failure => exact ⟨.error failure, one.bind_ok later.bind_error, rfl⟩
      | ok files => exact ⟨.ok (none :: files), one.bind_ok (later.bind_ok (does_pure _ _)), rfl⟩
    | some conversion =>
      rw [resolved] at one
      dsimp only at one ⊢
      rw [giveAll]
      by_cases lacks : generator.lacksModule conversion
      · simp only [if_pos lacks] at one ⊢
        exact ⟨_, one.bind_error, rfl⟩
      · simp only [if_neg lacks] at one ⊢
        rcases given : generator.give conversion memory with ⟨failure | text, kept⟩
        · rw [given] at one
          exact ⟨_, one.bind_error, rfl⟩
        · rw [given] at one
          obtain ⟨result, later, same⟩ := ih kept
          dsimp only at one ⊢
          rw [← same]
          cases result with
          | error failure => exact ⟨.error failure, one.bind_ok later.bind_error, rfl⟩
          | ok files =>
            exact ⟨.ok (some _ :: files), one.bind_ok (later.bind_ok (does_pure _ _)), rfl⟩

/-- The files of a module, and the memory after they have been made. -/
def files (source module : String) (memory : Memory) : Except Failure (List ConverterFile) × Memory :=
  match Source.readModule source with
  | .error cause => (.error (.source cause), memory)
  | .ok tree =>
    match readDeclarations module tree with
    | .error _ => (.error .integerTooLarge, memory)
    | .ok declarations => generator.giveAll (conversionsOf declarations) memory

/-- A module is generated by giving texts to the conversions that its enums ask for. -/
theorem generateModule_does (source module : String) (memory : Memory) :
    Does (generator.generateModule source module) memory (generator.files source module memory) := by
  have read : Does (readSource source module) memory
      (match Source.readModule source with
        | .error cause => .error (.source cause)
        | .ok tree =>
          match readDeclarations module tree with
          | .error _ => .error .integerTooLarge
          | .ok declarations => .ok declarations, memory) := by
    unfold readSource
    cases Source.readModule source with
    | error cause => exact does_throw _ memory
    | ok tree =>
      dsimp only
      cases readDeclarations module tree with
      | error failure => exact (does_report _ memory).bind_ok (does_throw _ memory)
      | ok declarations => exact (does_report _ memory).bind_ok (does_pure _ memory)
  unfold generateModule files
  cases parsed : Source.readModule source with
  | error cause =>
    rw [parsed] at read
    exact read.bind_error
  | ok tree =>
    rw [parsed] at read
    dsimp only at read ⊢
    cases declared : readDeclarations module tree with
    | error failure =>
      rw [declared] at read
      exact read.bind_error
    | ok declarations =>
      rw [declared] at read
      refine read.bind_ok ?_
      obtain ⟨result, made, same⟩ :=
        generator.mapM_generate_does declarations declarations.enums memory
      have all : generator.giveAll (conversionsOf declarations) memory =
          (result.map (·.filterMap id), (generator.giveAll (conversionsOf declarations) memory).2) :=
        Prod.ext same.symm rfl
      dsimp only
      rw [all]
      cases result with
      | error failure => exact made.bind_error
      | ok files => exact made.bind_ok (does_pure _ _)

end Generator

end EnumCodec
