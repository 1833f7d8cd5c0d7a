import EnumCodec.Config.Basic
import EnumCodec.Converter.File
import EnumCodec.Storage.Atomic

/-!
# EnumCodec.Generator.Writing

**Writing converters.** Before anything is written, no two converters may have the same path, and, if
existing files are protected, nothing may be at any of the paths. The converters are then written one
after the other; the first failure ends the writing.
-/

namespace EnumCodec

/-- Two converters with the same path: the one that was last seen there and the one that comes to
it. -/
def sharedPath? (seen : List (Path × String)) :
    List (Path × ConverterFile) → Option GenerationError
  | [] => none
  | (path, file) :: rest =>
    match seen.lookup path with
    | some owner => some (.sharedPath owner file.name path)
    | none => sharedPath? ((path, file.name) :: seen) rest

/-- Is nothing at any of the paths? -/
def checkTargets (tree : FileTree) : List Path → Except Failure Unit
  | [] => .ok ()
  | path :: rest =>
    match tree.contains path with
    | .error cause => .error (.storage cause)
    | .ok true => .error (.generation (.targetExists path))
    | .ok false => checkTargets tree rest

/-- The settings for writing. -/
def outputSettings (config : Config) : Except Failure OutputSettings :=
  match config.output.read with
  | .ok settings => .ok settings
  | .error cause => .error (.config cause)

/-- Writes a converter. -/
def writeFile (settings : OutputSettings) (language : Language) (path : Path) (content : Content) :
    WriteM Unit :=
  let check := if settings.validate.truthy then validate language.name content else .ok ()
  if settings.atomic.truthy then writeAtomically path content check
  else writeDirectly path content check

/-- Writes converters one after the other. -/
def writeFiles (settings : OutputSettings) (language : Language) :
    List (Path × ConverterFile) → WriteM Unit
  | [] => return ()
  | (path, file) :: rest => do
    writeFile settings language path file.content
    writeFiles settings language rest

/-- The paths of converters below a directory. -/
def targetPaths (directory : Path) (files : List ConverterFile) : List (Path × ConverterFile) :=
  files.map fun file => (directory.append file.path, file)

/-- Writes converters below a directory. -/
def writeConverters (config : Config) (language : Language) (directory : Path)
    (files : List ConverterFile) : WriteM (List Path) := do
  let targets := targetPaths directory files
  match sharedPath? [] targets with
  | some cause => throw (.generation cause)
  | none =>
    let settings ← WriteM.ofExcept (outputSettings config)
    if settings.mode.protectsFiles then
      WriteM.ofExcept (checkTargets (← get).tree (targets.map (·.1)))
    writeFiles settings language targets
    return targets.map (·.1)

end EnumCodec
