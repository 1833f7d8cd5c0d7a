import EnumCodec.Config.Basic

/-!
# EnumCodec.Config.Document

**Configurations as JSON objects.** Keys that name no part of a configuration are ignored, and a
section replaces all of its settings, so that a setting it does not mention has its default. Reading
what an export gives leads back to the same configuration.
-/

namespace EnumCodec

/-! ### Sections -/

/-- Changes a formatter setting; a key that is none is refused. -/
def FormatterSettings.put (settings : FormatterSettings) (key : String) (value : Json) :
    Option FormatterSettings :=
  match key with
  | "enabled" => some { settings with enabled := value }
  | "tool" => some { settings with tool := value }
  | "line_length" => some { settings with lineLength := value }
  | "target_version" => some { settings with targetVersion := value }
  | "string_normalization" => some { settings with stringNormalization := value }
  | "magic_trailing_comma" => some { settings with magicTrailingComma := value }
  | _ => none

/-- The formatter settings that the entries of a section give. -/
def FormatterSettings.ofEntries (entries : List (String × Json)) :
    Except ConfigError FormatterSettings :=
  match entries.foldlM (fun settings entry => settings.put entry.1 entry.2)
    ({} : FormatterSettings) with
  | some settings => .ok settings
  | none => .error .unknownSetting

/-- The mode that a value stands for: a text must name one, and any other value is kept. -/
def ModeSetting.ofJson (value : Json) : Except ConfigError ModeSetting :=
  match value with
  | .string _ =>
    match OutputMode.ofJson? value with
    | some mode => .ok (.known mode)
    | none => .error (.invalidMode value)
  | .broken _ => .error (.invalidMode value)
  | _ => .ok (.other value)

/-- The output settings that the entries of a section give. -/
def OutputSettings.ofEntries (entries : List (String × Json)) :
    Except ConfigError OutputSettings := do
  let mode ←
    match entries.lookup "mode" with
    | some value => ModeSetting.ofJson value
    | none => .ok (.known .errorIfExists)
  return {
    mode
    validate := (entries.lookup "validate_before_write").getD (.bool true)
    atomic := (entries.lookup "atomic_write").getD (.bool true) }

/-! ### Reading -/

namespace Config

/-- A configuration of which all parts are replaced at once. The flags that are not mentioned have
their defaults, the other parts are absent, and sections are taken as they are. -/
def ofParts (entries : List (String × Json)) : Config where
  generationComment := (entries.lookup "add_generation_comment").getD (.bool true)
  jsonHelpers := (entries.lookup "add_json_helpers").getD (.bool true)
  additionalUsings := entries.lookup "csharp_additional_usings"
  cacheOutput := (entries.lookup "cache_output").getD (.bool true)
  formatter := ((entries.lookup "formatter").map .other).getD .absent
  output := ((entries.lookup "output").map .other).getD .absent
  exportable := (entries.lookup "to_dict").isNone

/-- Gives a part of a configuration a value as it is. -/
def assign (config : Config) (key : String) (value : Json) : Except ConfigError Config :=
  match key with
  | "add_generation_comment" => .ok { config with generationComment := value }
  | "add_json_helpers" => .ok { config with jsonHelpers := value }
  | "csharp_additional_usings" => .ok { config with additionalUsings := some value }
  | "cache_output" => .ok { config with cacheOutput := value }
  | "formatter" => .ok { config with formatter := .other value }
  | "output" => .ok { config with output := .other value }
  | "to_dict" => .ok { config with exportable := false }
  | "__dict__" =>
    match value with
    | .object entries => .ok (ofParts entries)
    | .brokenObject entries => .ok (ofParts (Json.plainEntries entries))
    | _ => .error .reservedKey
  | "__class__" => .error .reservedKey
  | "__weakref__" => .error .readOnlyKey
  | _ => .ok config

/-- Is there a part of this name that a configuration can be given? -/
def hasPart (config : Config) (key : String) : Bool :=
  match key with
  | "csharp_additional_usings" => config.additionalUsings.isSome
  | "formatter" => config.formatter.isPresent
  | "output" => config.output.isPresent
  | _ => true

/-- Puts an entry of an object into a configuration. -/
def putEntry (config : Config) (entry : String × Json) : Except ConfigError Config :=
  match entry with
  | ("formatter", .object entries) => do
    let settings ← FormatterSettings.ofEntries entries
    return { config with formatter := .settings settings }
  | ("formatter", .brokenObject _) => .error .unknownSetting
  | ("output", .object entries) => do
    let settings ← OutputSettings.ofEntries entries
    return { config with output := .settings settings }
  | ("output", .brokenObject entries) => do
    let settings ← OutputSettings.ofEntries (Json.plainEntries entries)
    return { config with output := .settings settings }
  | (key, value) => if config.hasPart key then config.assign key value else .ok config

/-- The configuration that a JSON value describes. -/
def ofJson : Json → Except ConfigError Config
  | .object entries => entries.foldlM putEntry {}
  | .brokenObject entries => (Json.plainEntries entries).foldlM putEntry {}
  | _ => .error .notAnObject

/-! ### Exporting -/

/-- The JSON value of a mode. -/
def modeToJson : ModeSetting → Except ConfigError Json
  | .known mode => .ok (.string mode.name)
  | .other _ => .error .noSetting

/-- The JSON object of the formatter settings. -/
def formatterToJson (settings : FormatterSettings) : Json :=
  .object [
    ("enabled", settings.enabled),
    ("tool", settings.tool),
    ("line_length", settings.lineLength),
    ("target_version", settings.targetVersion),
    ("string_normalization", settings.stringNormalization),
    ("magic_trailing_comma", settings.magicTrailingComma)]

/-- The JSON object of the output settings. -/
def outputToJson (settings : OutputSettings) : Except ConfigError Json := do
  let mode ← modeToJson settings.mode
  return .object [
    ("mode", mode),
    ("validate_before_write", settings.validate),
    ("atomic_write", settings.atomic)]

/-- The JSON object of a configuration. -/
def toJson (config : Config) : Except ConfigError Json := do
  if !config.exportable then throw .notExportable
  let usings ←
    match config.additionalUsings with
    | some usings => .ok usings
    | none => .error .noSetting
  let formatter ← config.formatter.read
  let output ← config.output.read >>= outputToJson
  return .object [
    ("add_generation_comment", config.generationComment),
    ("add_json_helpers", config.jsonHelpers),
    ("csharp_additional_usings", usings),
    ("cache_output", config.cacheOutput),
    ("formatter", formatterToJson formatter),
    ("output", output)]

/-! ### Changing -/

/-- Changes a setting of the output section; keys that are none are ignored. -/
def putOutput (settings : OutputSettings) (key : String) (value : Json) : OutputSettings :=
  match key with
  | "validate_before_write" => { settings with validate := value }
  | "atomic_write" => { settings with atomic := value }
  | _ => settings

/-- Changes the mode of writing. -/
def setMode (config : Config) (mode : OutputMode) : Except ConfigError Config := do
  let output ← config.output.modify fun settings => { settings with mode := .known mode }
  return { config with output }

/-- Turns the formatter on. -/
def enableFormatter (config : Config) : Except ConfigError Config := do
  let formatter ← config.formatter.modify fun settings => { settings with enabled := .bool true }
  return { config with formatter }

/-- Changes a part of a configuration, or the setting of a section that follows a dot. -/
def set (config : Config) (key : List String) (value : Json) : Except ConfigError Config :=
  match key with
  | ["output", "mode"] =>
    match OutputMode.ofJson? value with
    | some mode => config.setMode mode
    | none => .error (.invalidMode value)
  | ["output", key] => do
    let output ← config.output.modify fun settings => putOutput settings key value
    return { config with output }
  | ["formatter", key] => do
    let formatter ← config.formatter.modify fun settings => (settings.put key value).getD settings
    return { config with formatter }
  | [key] => config.assign key value
  | _ => .error .noSetting

end Config

end EnumCodec
