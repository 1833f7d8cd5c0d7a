import EnumCodec.Formatter.Tool
import EnumCodec.Text.Content

/-!
# EnumCodec.Formatter.Black

**Formatting by a library.** The library knows the versions of the language by names in capitals, and
a target version that it does not know is left out. A text that the library refuses stays as it is.
What the library does is given, and the calls are recorded.
-/

namespace EnumCodec

namespace Black

/-- How the library is to format. -/
structure Mode where
  targetVersions : List String
  lineLength : Json
  stringNormalization : Json
  magicTrailingComma : Json
deriving Inhabited

/-- A text that is given to the library. -/
structure Call where
  code : Content
  mode : Mode
deriving Inhabited

/-- What the library answers. -/
inductive Answer where
  | formatted (code : Content)
  /-- The text is refused. -/
  | refused
  /-- The library fails. Was a value at fault? -/
  | failed (valueAtFault : Bool)
deriving Inhabited

/-- What the library does. -/
structure Environment where
  /-- Is the library there? -/
  installed : Bool
  /-- The names of the versions that it knows. -/
  versions : List String
  /-- The answer to a call, given the calls before it. -/
  answer : List Call → Call → Answer

/-- A name with ASCII letters made capital; the names of versions hold no others. -/
def capitals (name : String) : String :=
  String.ofList (name.toList.map Char.toUpper)

/-- The versions that a setting names. -/
def targetVersions (environment : Environment) (setting : Json) :
    Except FormatterError (List String) :=
  if setting.truthy then
    match setting with
    | .string name =>
      let version := capitals name
      .ok (if environment.versions.contains version then [version] else [])
    | .broken _ => .ok []
    | _ => .error .versionNotText
  else .ok []

/-- The call that formats a text. -/
def formatCall (environment : Environment) (settings : FormatterSettings) (code : Content) :
    Except FormatterError Call := do
  let targetVersions ← targetVersions environment settings.targetVersion
  return {
    code
    mode := {
      targetVersions
      lineLength := settings.lineLength
      stringNormalization := settings.stringNormalization
      magicTrailingComma := settings.magicTrailingComma } }

/-- The text that an answer gives for a text. -/
def result (code : Content) : Answer → Except FormatterError Content
  | .formatted formatted => .ok formatted
  | .refused => .ok code
  | .failed valueAtFault => .error (.library valueAtFault)

/-- Formats a text, and records the call. -/
def format (environment : Environment) (settings : FormatterSettings) (code : Content) :
    StateM (List Call) (Except FormatterError Content) := do
  if environment.installed then
    match formatCall environment settings code with
    | .error cause => return .error cause
    | .ok call =>
      let answer := environment.answer (← get) call
      modify (· ++ [call])
      return result code answer
  else return .ok code

/-- Formats a converter. What the library gives is made to end with one line feed. -/
def formatConverter (environment : Environment) (settings : FormatterSettings) (code : Content) :
    StateM (List Call) (Except FormatterError Content) := do
  if environment.installed then
    let formatted ← format environment settings code
    return formatted.map Content.endWithNewline
  else return .ok code

end Black

end EnumCodec
