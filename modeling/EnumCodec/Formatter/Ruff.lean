import EnumCodec.Formatter.Tool
import EnumCodec.Text.Content

/-!
# EnumCodec.Formatter.Ruff

**Formatting by a program.** The program is asked for its version before its first use; if that fails
it is never used. Formatting is cosmetic: a run that times out or fails leaves the text as it is. What
the processes do is given, and the calls are recorded. A process takes only arguments that are texts of
bytes other than zero, and its input must have an encoded form. Its output is a text, and it fails to
start only if there is no such program.
-/

namespace EnumCodec

open Text (CodePoint CodeText)

/-- What becomes of a process. -/
inductive ProcessOutcome where
  /-- It ends with a status, after it has written an output. -/
  | finished (status : Int) (output : String)
  /-- There is no such program. -/
  | missing
  /-- It does not end in time. -/
  | timeout
deriving DecidableEq, Repr, Inhabited

/-- A process that is started. -/
structure ProcessCall where
  /-- The program and its arguments. -/
  arguments : List CodeText
  input : Option Content
deriving DecidableEq, Repr, Inhabited

/-- A text as an argument of a process. The halves of surrogate pairs from U+DC80 to U+DCFF stand for
the bytes that are no ASCII; the others have no form in an argument. -/
def argumentOfText (text : CodeText) : Except FormatterError CodeText :=
  if text.codes.any fun code => code.isHalf && !decide (0xDC80 ≤ code.toNat ∧ code.toNat ≤ 0xDCFF) then
    .error .notEncodable
  else if text.codes.contains (.char '\x00') then .error .nullArgument
  else .ok text

/-- A setting as an argument of a process; it must be a text. -/
def argumentOfJson : Json → Except FormatterError CodeText
  | .string text => argumentOfText text
  | .broken text => argumentOfText (.broken text)
  | _ => .error .argumentNotText

namespace Ruff

/-- What a formatter knows and has done. -/
structure State where
  /-- Can the program be used? Unknown before it is asked. -/
  available : Option Bool := none
  /-- The processes that were started, in order. -/
  calls : List ProcessCall := []
deriving Inhabited

/-- What processes do. -/
structure Environment where
  /-- The answer to the question for the version. -/
  version : ProcessOutcome
  /-- The answer to a call that formats, given the calls before it. -/
  run : List ProcessCall → ProcessCall → ProcessOutcome

/-- The question for the version. -/
def versionCall : ProcessCall where
  arguments := ["ruff", "--version"]
  input := none

/-- The arguments of every call that formats. -/
def formatArguments : List CodeText := ["ruff", "format", "--stdin-filename", "converter.py"]

/-- The arguments that a setting gives; one that counts as false is left out. -/
def optionArguments (name : String) (setting : Json) (argument : Except FormatterError CodeText) :
    Except FormatterError (List CodeText) :=
  if setting.truthy then argument.map fun value => [.plain name, value] else .ok []

/-- The call that formats a text. -/
def formatCall (settings : FormatterSettings) (code : Content) : Except FormatterError ProcessCall := do
  let lineLength ← optionArguments "--line-length" settings.lineLength
    (argumentOfText (Value.ofJson settings.lineLength).displayText)
  let targetVersion ← optionArguments "--target-version" settings.targetVersion
    (argumentOfJson settings.targetVersion)
  return { arguments := formatArguments ++ lineLength ++ targetVersion, input := some code }

/-- Does a process end well? -/
def succeeds : ProcessOutcome → Bool
  | .finished status _ => status == 0
  | _ => false

/-- Can the program be used? It is asked once. -/
def isAvailable (environment : Environment) : StateM State Bool := do
  let state ← get
  match state.available with
  | some available => return available
  | none =>
    let available := succeeds environment.version
    set { state with available := some available, calls := state.calls ++ [versionCall] }
    return available

/-- The text that a run of the program gives for a text. The text is encoded once the program has been
started. -/
def result (code : Content) : ProcessOutcome → Except FormatterError Content
  | .missing => .error .missingProgram
  | .timeout => if code.isWhole then .ok code else .error .notEncodable
  | .finished status output =>
    if code.isWhole then .ok (if status == 0 then output else code) else .error .notEncodable

/-- Formats a text. -/
def format (environment : Environment) (settings : FormatterSettings) (code : Content) :
    StateM State (Except FormatterError Content) := do
  if ← isAvailable environment then
    match formatCall settings code with
    | .error cause => return .error cause
    | .ok call =>
      let answer := environment.run (← get).calls call
      modify fun state => { state with calls := state.calls ++ [call] }
      return result code answer
  else return .ok code

/-- Formats a converter. What the program gives is made to end with one line feed. -/
def formatConverter (environment : Environment) (settings : FormatterSettings) (code : Content) :
    StateM State (Except FormatterError Content) := do
  if ← isAvailable environment then
    let formatted ← format environment settings code
    return formatted.map Content.endWithNewline
  else return .ok code

end Ruff

end EnumCodec
