import EnumCodec.Json.Basic
import EnumCodec.Value

/-!
# EnumCodec.Config.Basic

**Configurations.** A configuration keeps the JSON values that it is given, of whatever kind they are:
flags are decided by what counts as true, and a value that cannot be used is found out where it is
used.
-/

namespace EnumCodec

/-- Why a configuration cannot be made or used. -/
inductive ConfigError where
  /-- The value names no mode of writing. -/
  | invalidMode (value : Json)
  /-- The value names no formatter. -/
  | unknownTool (value : Json)
  /-- A section holds a key that is no setting. -/
  | unknownSetting
  /-- The value in the place of a section or of a text has no such setting. -/
  | noSetting
  /-- The value cannot be run through. -/
  | notASequence
  /-- The value cannot be looked up. -/
  | notAKey
  /-- A configuration must be an object. -/
  | notAnObject
  /-- The value cannot be given to a reserved key. -/
  | reservedKey
  /-- The key cannot be given a value. -/
  | readOnlyKey
  /-- The export has been replaced by a value. -/
  | notExportable
deriving Inhabited

/-- A section of a configuration: its settings, or the value that stands in their place, from which no
setting can be read, or nothing. -/
inductive Section (α : Type) where
  | settings (value : α)
  | other (value : Json)
  | absent
deriving Inhabited

/-- The settings of a section. -/
def Section.read {α : Type} : Section α → Except ConfigError α
  | .settings value => .ok value
  | .other _ => .error .noSetting
  | .absent => .error .noSetting

/-- A section with a changed setting. -/
def Section.modify {α : Type} (change : α → α) (place : Section α) :
    Except ConfigError (Section α) :=
  place.read.map fun value => .settings (change value)

/-- Is there anything in the place of a section? -/
def Section.isPresent {α : Type} : Section α → Bool
  | .absent => false
  | _ => true

/-- What happens to files that are there already. -/
inductive OutputMode where
  /-- They stop the writing. -/
  | errorIfExists
  /-- They are replaced. -/
  | force
deriving DecidableEq, Repr, Inhabited

namespace OutputMode

/-- The name of a mode. -/
def name : OutputMode → String
  | .errorIfExists => "error"
  | .force => "force"

/-- The mode that a value names. -/
def ofJson? : Json → Option OutputMode
  | .string "error" => some .errorIfExists
  | .string "force" => some .force
  | _ => none

end OutputMode

/-- A mode, or a value that is no text and stands in its place. -/
inductive ModeSetting where
  | known (mode : OutputMode)
  | other (value : Json)
deriving Inhabited

/-- Do existing files stop the writing? Only the mode itself says so. -/
def ModeSetting.protectsFiles : ModeSetting → Bool
  | .known .errorIfExists => true
  | _ => false

/-- How files are written. -/
structure OutputSettings where
  mode : ModeSetting := .known .errorIfExists
  /-- Are texts validated before they are written? -/
  validate : Json := .bool true
  /-- Are files replaced in one step? -/
  atomic : Json := .bool true
deriving Inhabited

/-- How converters are formatted. -/
structure FormatterSettings where
  enabled : Json := .bool false
  tool : Json := .string "ruff"
  lineLength : Json := .int 100
  targetVersion : Json := .string "py312"
  stringNormalization : Json := .bool true
  magicTrailingComma : Json := .bool true
deriving Inhabited

/-- A configuration. -/
structure Config where
  /-- Does a converter say which command made it? -/
  generationComment : Json := .bool true
  /-- Has a converter helpers for whole JSON documents? -/
  jsonHelpers : Json := .bool true
  /-- The namespaces to open besides the usual ones. -/
  additionalUsings : Option Json := some (.array [])
  /-- Are texts kept for equal conversions? -/
  cacheOutput : Json := .bool true
  formatter : Section FormatterSettings := .settings {}
  output : Section OutputSettings := .settings {}
  /-- Can the configuration be exported? -/
  exportable : Bool := true
deriving Inhabited

/-- The values that a value gives when it is run through: the items of an array, the characters of a
text, and the keys of an object. -/
def sequenceItems : Json → Except ConfigError (List Value)
  | .array items => .ok (Value.ofJsonItems items)
  | .string text => .ok (text.toList.map fun c => .text (String.singleton c))
  | .broken text => .ok (text.codes.map fun code => .ofText (.ofCodes [code]))
  | .object entries => .ok (entries.map fun entry => .text entry.1)
  | .brokenObject entries => .ok (entries.map fun entry => .ofText entry.1)
  | _ => .error .notASequence

/-- The wording of an error. -/
def ConfigError.message : ConfigError → String
  | .invalidMode value => (Value.ofJson value).describe ++ " is not a valid OutputMode"
  | .unknownTool value =>
    "Unknown formatter " ++ (Value.ofJson value).describe ++
      ", expected one of ['black', 'ruff']"
  | .unknownSetting => "a section holds a key that is no setting"
  | .noSetting => "the value has no such setting"
  | .notASequence => "the value cannot be run through"
  | .notAKey => "the value cannot be looked up"
  | .notAnObject => "a configuration must be an object"
  | .reservedKey => "the value cannot be given to a reserved key"
  | .readOnlyKey => "the key cannot be given a value"
  | .notExportable => "the configuration cannot be exported"

end EnumCodec
