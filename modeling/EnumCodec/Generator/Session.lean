import EnumCodec.Generator.Basic
import EnumCodec.Generator.Writing

/-!
# EnumCodec.Generator.Session

**The work of one generator.** Modules are generated, conversions are given their texts, the
configuration is changed and converters are written, in any order. A step that fails leaves behind what
it has done, and the session goes on.
-/

namespace EnumCodec

/-- A generator with what it keeps and the files that it writes to. -/
structure Session extends Memory where
  generator : Generator
  tree : FileTree := {}
deriving Inhabited

namespace Session

/-- A step of a session. -/
inductive Step where
  /-- Generates the converters of a module. -/
  | generate (source module : String)
  /-- Gives a conversion its text. -/
  | emit (conversion : Conversion)
  /-- Changes the configuration. -/
  | assign (key : List String) (value : Json)
  /-- Writes converters below a directory. -/
  | write (files : List ConverterFile) (directory : Path)
deriving Inhabited

/-- The answer to a step. -/
inductive Answer where
  | files (files : List ConverterFile)
  | text (text : Content)
  | config (json : Json)
  | paths (paths : List Path)
deriving Inhabited

/-- The outcome of an activity of the generator, and the session after it. -/
def perform {α : Type} (session : Session) (action : GeneratorM α) : Except Failure α × Session :=
  let (result, state) := action.run.run { toMemory := session.toMemory }
  (result, { session with toMemory := state.toMemory })

/-- The outcome of a change of the configuration, and the session after it. -/
def assign (session : Session) (key : List String) (value : Json) :
    Except Failure Json × Session :=
  match session.generator.config.set key value with
  | .error cause => (.error (.config cause), session)
  | .ok config =>
    let session := { session with generator := { session.generator with config } }
    match config.toJson with
    | .ok json => (.ok json, session)
    | .error cause => (.error (.config cause), session)

/-- The outcome of writing, and the session after it. -/
def performWrite {α : Type} (session : Session) (action : WriteM α) : Except Failure α × Session :=
  let (result, state) := action.run.run { tree := session.tree }
  (result, { session with tree := state.tree })

/-- The outcome of a step, and the session after it. -/
def step (session : Session) : Step → Except Failure Answer × Session
  | .generate source module =>
    let (result, session) := session.perform (session.generator.generateModule source module)
    (result.map .files, session)
  | .emit conversion =>
    let (result, session) := session.perform (session.generator.emit conversion)
    (result.map .text, session)
  | .assign key value =>
    let (result, session) := session.assign key value
    (result.map .config, session)
  | .write files directory =>
    let (result, session) := session.performWrite
      (writeConverters session.generator.config session.generator.language directory files)
    (result.map .paths, session)

/-- A session for a language and a configuration. -/
def start (language : String) (config : Config) (commandLine : Except StorageError String)
    (tree : FileTree) (tools : Tools := .absent) : Except Failure Session :=
  (Generator.make language config commandLine tools).map fun generator => { generator, tree }

end Session

end EnumCodec
