import EnumCodec.Config.Document
import EnumCodec.Conversion.Resolution
import EnumCodec.Converter.File
import EnumCodec.Declaration.Reading
import EnumCodec.Failure
import EnumCodec.Formatter.Tools

/-!
# EnumCodec.Generator.Basic

**From sources to converters.** A generator has a language and a configuration. The declarations of a
module are read, each is resolved, and each conversion is given its text, which the chosen formatter
goes over. The text of a conversion is kept, so that equal conversions are given the same text, unless
the configuration turns that off.
-/

namespace EnumCodec

open Declaration (readDeclarations)

/-- A generator of converters. -/
structure Generator where
  language : Language
  config : Config
  /-- The formatter that was chosen when the generator was made. -/
  tool : Option FormatterTool
  /-- The command line that converters mention, if it can be told. -/
  commandLine : Except StorageError String
  /-- What the formatters do. -/
  tools : Tools := .absent
deriving Inhabited

/-- What a generator keeps from one conversion to the next. -/
structure Memory where
  /-- The texts of conversions, the latest first. -/
  cache : List (Conversion × Content) := []
  formatters : FormatterState := {}
deriving Inhabited

/-- What a generator keeps, and the reports of a run. -/
structure GeneratorState extends Memory where
  log : List LogRecord := []
deriving Inhabited

/-- An activity of a generator. -/
abbrev GeneratorM := ExceptT Failure (StateM GeneratorState)

/-- Reports. -/
def report (records : List LogRecord) : GeneratorM Unit :=
  modify fun state => { state with log := state.log ++ records }

/-- The report of an enum that has been found. -/
def foundRecord (enum : EnumDeclaration) : LogRecord :=
  ⟨.declarations,
    "Found enum " ++ enum.fullName ++ " with " ++ toString enum.members.length ++ " members"⟩

/-- The declarations of a source. -/
def readSource (source module : String) : GeneratorM ModuleDeclarations := do
  match Source.readModule source with
  | .error cause => throw (.source cause)
  | .ok tree =>
    match readDeclarations module tree with
    | .ok declarations =>
      report (declarations.enums.map foundRecord)
      return declarations
    | .error failure =>
      report (failure.found.map foundRecord)
      throw .integerTooLarge

/-- The conversion of a declaration, if it asks for one. -/
def resolveDeclaration (providers : List LabelProvider) (declarations : ModuleDeclarations)
    (declaration : EnumDeclaration) : GeneratorM (Option Conversion) := do
  let (conversion, records) := resolve providers declarations declaration
  report records
  return conversion

/-- Additional values without those that are there, or come before; all as texts. -/
def usingTexts (additional : List Value) : List Text.CodeText :=
  let standard := CSharpConverter.standardUsings.map Value.text
  (additional.foldl Value.insertItem standard).map Value.displayText

namespace Generator

/-- The generator of a language. -/
def make (language : String) (config : Config) (commandLine : Except StorageError String)
    (tools : Tools := .absent) : Except Failure Generator := do
  match Language.ofName? language with
  | none => .error (.unsupportedLanguage language)
  | some .cSharp => return { language := .cSharp, config, tool := none, commandLine, tools }
  | some .python =>
    match FormatterTool.choose config.formatter with
    | .ok tool => return { language := .python, config, tool, commandLine, tools }
    | .error cause => .error (.config cause)

/-- The comment of converters. -/
def comment (generator : Generator) : Except Failure (Option String) :=
  if generator.config.generationComment.truthy then
    match generator.commandLine with
    | .ok commandLine => .ok (some (generationComment generator.language commandLine))
    | .error cause => .error (.storage cause)
  else .ok none

/-- The namespaces that converters open. -/
def usings (generator : Generator) : Except Failure (List Text.CodeText) :=
  match generator.language with
  | .python => .ok []
  | .cSharp =>
    match generator.config.additionalUsings with
    | none => .error (.config .noSetting)
    | some additional =>
      match sequenceItems additional with
      | .ok items => .ok (usingTexts items)
      | .error cause => .error (.config cause)

/-- The layout of converters. -/
def layout (generator : Generator) : Except Failure Layout := do
  let comment ← generator.comment
  let usings ← generator.usings
  return {
    comment
    jsonHelpers := generator.config.jsonHelpers.truthy
    usings := usings.map (·.shown)
    isWhole := usings.all (·.isWhole) }

/-- The text of a converter, as it is made anew. -/
def render (generator : Generator) (conversion : Conversion) : Except Failure Content := do
  let layout ← generator.layout
  return conversion.converterText generator.language layout

/-- The report of a formatter that cannot be used. -/
def unformattedRecord (tool : FormatterTool) : LogRecord :=
  ⟨.formatting, tool.name ++ " is not installed, keeping converter unformatted"⟩

/-- The report of a converter that has been made. -/
def emittedRecord (conversion : Conversion) : LogRecord :=
  ⟨.generator,
    "Emitted " ++ conversion.target.converterName ++ " for " ++ conversion.target.enumFullName⟩

/-- An activity of the formatters. -/
def useFormatters {α : Type} (action : StateM FormatterState α) : GeneratorM α := do
  let state ← get
  let (value, formatters) := action.run state.formatters
  set { state with formatters }
  return value

/-- The text that the chosen formatter makes of a text. One that cannot be used leaves it as it is. -/
def finish (generator : Generator) (text : Content) : GeneratorM Content := do
  match generator.tool with
  | none => return text
  | some tool =>
    if !generator.config.formatter.isPresent then throw (.config .noSetting)
    if ← useFormatters (tool.isAvailable generator.tools) then
      match generator.config.formatter.read with
      | .error cause => throw (.config cause)
      | .ok settings =>
        match ← useFormatters (tool.formatConverter generator.tools settings text) with
        | .ok formatted => return formatted
        | .error cause => throw (.formatter cause)
    else
      report [unformattedRecord tool]
      return text

/-- The text that is kept for a conversion. -/
def kept? (generator : Generator) (conversion : Conversion) (memory : Memory) : Option Content :=
  if generator.config.cacheOutput.truthy then memory.cache.lookup conversion else none

/-- The text of a converter. -/
def emit (generator : Generator) (conversion : Conversion) : GeneratorM Content := do
  match generator.kept? conversion (← get).toMemory with
  | some text => return text
  | none =>
    let rendered ←
      match generator.render conversion with
      | .ok text => pure text
      | .error failure => throw failure
    let text ← generator.finish rendered
    if generator.config.cacheOutput.truthy then
      modify fun state => { state with cache := (conversion, text) :: state.cache }
    report [emittedRecord conversion]
    return text

/-- The converter that a declaration asks for. -/
def generate (generator : Generator) (declarations : ModuleDeclarations)
    (declaration : EnumDeclaration) : GeneratorM (Option ConverterFile) := do
  match ← resolveDeclaration LabelProvider.standard declarations declaration with
  | none => return none
  | some conversion =>
    let target := conversion.target
    if generator.language = .python && target.enumModule = "" then
      throw (.missingModule target.enumName)
    let content ← generator.emit conversion
    return some {
      name := target.converterName
      path := conversion.unitPath generator.language
      content }

/-- The converters that a module asks for, in the order of declaration. -/
def generateModule (generator : Generator) (source module : String) :
    GeneratorM (List ConverterFile) := do
  let declarations ← readSource source module
  let files ← declarations.enums.mapM (generator.generate declarations)
  return files.filterMap id

end Generator

end EnumCodec
