import EnumCodec.CommandLine.Mention
import EnumCodec.CommandLine.Sources
import EnumCodec.Generator.Basic
import EnumCodec.Generator.Writing
import EnumCodec.Json.Reader

/-!
# EnumCodec.CommandLine.Run

**Running the command.** All converters are generated before the first is written. What the user can
mend is reported on the error output; anything else ends the command with the failure itself.
-/

namespace EnumCodec.CommandLine

/-- Why a command ends without a report of its own. -/
inductive Crash where
  | failure (cause : Failure)
  /-- The configuration is no JSON document. -/
  | malformedConfig
  /-- The configuration is not UTF-8. -/
  | configNotText
deriving Inhabited

/-- The wording of a crash. -/
def Crash.message : Crash → String
  | .failure cause => cause.message
  | .malformedConfig => "the configuration is not a JSON document"
  | .configNotText => "the configuration is not UTF-8"

/-- How a command ends before its work is done. -/
inductive Abort where
  /-- The command line is refused. -/
  | usage (cause : UsageError)
  /-- A fault of the input is reported. -/
  | reported (message : String)
  | crash (cause : Crash)
deriving Inhabited

/-- What a command leaves behind. -/
structure Outcome where
  exitCode : Nat
  output : String := ""
  errors : String := ""
  crash : Option Crash := none
  tree : FileTree
deriving Inhabited

/-- The configuration of an invocation. -/
def readConfig (tree : FileTree) (invocation : Invocation) : Except Abort Config :=
  match invocation.config with
  | none => .ok {}
  | some path =>
    match readText tree path with
    | .error (.storage cause) => .error (.crash (.failure (.storage cause)))
    | .error .notText => .error (.crash .configNotText)
    | .ok text =>
      match Json.read? text with
      | none => .error (.crash .malformedConfig)
      | some json =>
        match Config.ofJson json with
        | .ok config => .ok config
        | .error cause => .error (.crash (.failure (.config cause)))

/-- The configuration with what the flags of an invocation change. -/
def applyFlags (invocation : Invocation) (config : Config) : Except ConfigError Config := do
  let config ← if invocation.force then config.setMode .force else pure config
  if invocation.format then config.enableFormatter else return config

/-- How a failure to generate the converters of a source ends the command. -/
def sourceAbort (path : Path) : Failure → Abort
  | .source .malformed =>
    .reported ("Cannot parse " ++ path.text ++ ": " ++ Source.SourceError.malformed.message)
  | .source .nullCharacter =>
    .reported (path.text ++ ": " ++ Source.SourceError.nullCharacter.message)
  | .missingModule enum =>
    .reported (path.text ++ ": " ++ (Failure.missingModule enum).message)
  | .formatter cause =>
    if cause.isAboutValue then .reported (path.text ++ ": " ++ cause.message)
    else .crash (.failure (.formatter cause))
  | cause => .crash (.failure cause)

/-- The wording about a file that is not UTF-8. -/
def notTextMessage : String := "the file is not UTF-8"

/-- An activity of the command that generates converters. -/
abbrev CommandM := ExceptT Abort (StateM GeneratorState)

/-- Generates the converters of a source. -/
def generateSource (tree : FileTree) (generator : Generator) (invocation : Invocation)
    (path : Path) : CommandM (List ConverterFile) := do
  let module ←
    match invocation.module with
    | some module => pure module
    | none =>
      match moduleName path invocation.root with
      | .ok module => pure module
      | .error cause => throw (.usage cause)
  match readText tree path with
  | .error (.storage cause) => throw (.crash (.failure (.storage cause)))
  | .error .notText => throw (.reported (path.text ++ ": " ++ notTextMessage))
  | .ok text =>
    let (result, state) := (generator.generateModule text module).run.run (← get)
    set state
    match result with
    | .ok files => return files
    | .error failure => throw (sourceAbort path failure)

/-- Generates the converters of an invocation. -/
def generateAll (tree : FileTree) (invocation : Invocation) (tools : Tools := .absent) :
    CommandM (Config × Language × List ConverterFile) := do
  let config ← liftExcept (readConfig tree invocation)
  let config ← liftConfig (applyFlags invocation config)
  let sources := invocation.sources tree
  if invocation.module.isSome && sources.length != 1 then throw (.usage .moduleNeedsOneSource)
  match Generator.make invocation.language config (invocation.mention tree) tools with
  | .error failure => throw (.crash (.failure failure))
  | .ok generator =>
    let files ← sources.mapM (generateSource tree generator invocation)
    return (config, generator.language, files.flatten)
where
  liftExcept {α : Type} : Except Abort α → CommandM α
    | .ok value => return value
    | .error abort => throw abort
  liftConfig {α : Type} : Except ConfigError α → CommandM α
    | .ok value => return value
    | .error cause => throw (.crash (.failure (.config cause)))

/-- The lines about the files that have been written. -/
def summary (paths : List Path) : String :=
  String.join (paths.map fun path => "Generated " ++ path.text ++ "\n") ++
    toString paths.length ++ " converter(s) generated\n"

/-- The lines of a log, if they are asked for. -/
def logLines (invocation : Invocation) (log : List LogRecord) : String :=
  if invocation.verbose then String.join (log.map fun entry => entry.line ++ "\n") else ""

/-- How the command is used, and where to learn more. -/
def usage : String :=
  "Usage: enum-json-converter [OPTIONS] PATHS... OUTPUT\n" ++
  "Try 'enum-json-converter --help' for help.\n\n"

/-- The line of an error. -/
def errorLine (message : String) : String :=
  "Error: " ++ message ++ "\n"

/-- The text about a refused command line. -/
def usageText (cause : UsageError) : String :=
  (if cause.showsUsage then usage else "") ++ errorLine cause.message

/-- What an aborted command leaves behind. -/
def Outcome.ofAbort (tree : FileTree) (log : String) : Abort → Outcome
  | .usage cause => { exitCode := 2, errors := log ++ usageText cause, tree }
  | .reported message => { exitCode := 1, errors := log ++ errorLine message, tree }
  | .crash cause => { exitCode := 1, errors := log, crash := some cause, tree }

/-- Writes the converters of an invocation. -/
def writeAll (tree : FileTree) (invocation : Invocation) (config : Config) (language : Language)
    (files : List ConverterFile) (log : List LogRecord) : Outcome :=
  let (result, state) :=
    (writeConverters config language invocation.output files).run.run { tree, log }
  let log := logLines invocation state.log
  match result with
  | .ok paths => { exitCode := 0, output := summary paths, errors := log, tree := state.tree }
  | .error (.generation cause) => .ofAbort state.tree log (.reported cause.message)
  | .error cause => .ofAbort state.tree log (.crash (.failure cause))

/-- Carries out an invocation. -/
def Invocation.run (tree : FileTree) (invocation : Invocation) (tools : Tools := .absent) :
    Outcome :=
  let (result, state) := (generateAll tree invocation tools).run.run {}
  match result with
  | .error abort => .ofAbort tree (logLines invocation state.log) abort
  | .ok (config, language, files) => writeAll tree invocation config language files state.log

/-- Runs the command on files with arguments, given what the formatters do. -/
def run (tree : FileTree) (arguments : List String) (tools : Tools := .absent) : Outcome :=
  match Invocation.read tree arguments with
  | .error cause => .ofAbort tree "" (.usage cause)
  | .ok invocation => invocation.run tree tools

end EnumCodec.CommandLine
