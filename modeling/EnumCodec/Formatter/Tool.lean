import EnumCodec.Config.Basic

/-!
# EnumCodec.Formatter.Tool

**The choice of a formatter.** A formatter is used only if the settings say so and name one of the two
that are known.
-/

namespace EnumCodec

/-- A formatter. -/
inductive FormatterTool where
  | ruff
  | black
deriving DecidableEq, Repr, Inhabited

namespace FormatterTool

/-- The name by which a formatter is chosen. -/
def name : FormatterTool → String
  | .ruff => "ruff"
  | .black => "black"

/-- The formatter that a value names. -/
def ofJson : Json → Except ConfigError FormatterTool
  | .string "ruff" => .ok .ruff
  | .string "black" => .ok .black
  | .array _ => .error .notAKey
  | .object _ => .error .notAKey
  | .brokenObject _ => .error .notAKey
  | value => .error (.unknownTool value)

/-- The formatter that the settings choose, if formatting is enabled. -/
def choose (place : Section FormatterSettings) :
    Except ConfigError (Option FormatterTool) := do
  let settings ← place.read
  if settings.enabled.truthy then some <$> ofJson settings.tool else return none

end FormatterTool

/-- Why a formatter gives no text at all. -/
inductive FormatterError where
  /-- The program that was there before is gone. -/
  | missingProgram
  /-- The target version is no text. -/
  | versionNotText
  /-- A program cannot be given an argument that is no text. -/
  | argumentNotText
  /-- A program cannot be given an argument that holds the character U+0000. -/
  | nullArgument
  /-- A text that holds half of a surrogate pair is to be encoded. -/
  | notEncodable
  /-- The library has failed. Was a value at fault? -/
  | library (valueAtFault : Bool)
deriving DecidableEq, Repr, Inhabited

/-- Is a value at fault, so that the command can report the error? -/
def FormatterError.isAboutValue : FormatterError → Bool
  | .nullArgument => true
  | .notEncodable => true
  | .library valueAtFault => valueAtFault
  | _ => false

end EnumCodec
