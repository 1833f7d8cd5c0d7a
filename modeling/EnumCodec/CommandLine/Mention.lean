import EnumCodec.CommandLine.Invocation
import EnumCodec.Json.Basic
import EnumCodec.Value

/-!
# EnumCodec.CommandLine.Mention

**The command line that converters mention.** The arguments come first, then the options that are set
and do not have their default. Of a path at which something is, only the last name is mentioned.
-/

namespace EnumCodec.CommandLine

/-- A parameter of the command: how its value is mentioned. -/
inductive ParameterKind where
  /-- The value follows the option. -/
  | option (long : String)
  /-- The option stands alone. -/
  | flag (long : String)
  /-- The value stands alone. -/
  | argument
deriving DecidableEq, Repr, Inhabited

/-- The parameters of the command in the order in which they are declared. -/
def parameters : List (String × ParameterKind) := [
  ("config", .option "--config"),
  ("language", .option "--language"),
  ("module", .option "--module"),
  ("root", .option "--root"),
  ("force", .flag "--force"),
  ("format_code", .flag "--format"),
  ("verbose", .flag "--verbose"),
  ("paths", .argument),
  ("output", .argument)]

/-- A value as it is mentioned. -/
def mentionValue (tree : FileTree) (value : Value) : Except StorageError String :=
  match value with
  | .text text => do
    let path := Path.ofText text
    return if ← tree.contains path then path.name else text
  | value => .ok value.display

/-- The value of a parameter; an array is a tuple. -/
def parameterValue : Json → Value
  | .array items => .tuple (Value.ofJsonItems items)
  | value => Value.ofJson value

/-- The values of an argument. -/
def argumentValues : Value → List Value
  | .tuple items => items
  | value => [value]

/-- Has the parameter its default value? Those that count as false are never mentioned. -/
def isDefault (name : String) (value : Json) : Bool :=
  !value.truthy || (name == "language" && value matches .string "python")

/-- The arguments that the parameters give. -/
def mentionArguments (tree : FileTree) (values : List (String × Json)) :
    List (String × ParameterKind) → Except StorageError (List String)
  | [] => .ok []
  | (name, .argument) :: rest => do
    let here ←
      match values.lookup name with
      | some value =>
        if value.truthy then (argumentValues (parameterValue value)).mapM (mentionValue tree)
        else .ok []
      | none => .ok []
    return here ++ (← mentionArguments tree values rest)
  | _ :: rest => mentionArguments tree values rest

/-- The options that the parameters give. -/
def mentionOptions (tree : FileTree) (values : List (String × Json)) :
    List (String × ParameterKind) → Except StorageError (List String)
  | [] => .ok []
  | (name, kind) :: rest => do
    let here ←
      match values.lookup name with
      | none => .ok []
      | some value =>
        if isDefault name value then .ok []
        else
          match kind with
          | .option long => (mentionValue tree (parameterValue value)).map fun text => [long, text]
          | .flag long => .ok [long]
          | .argument => .ok []
    return here ++ (← mentionOptions tree values rest)

/-- The command line that the values of the parameters make up. -/
def mentionParameters (tree : FileTree) (values : List (String × Json)) :
    Except StorageError String := do
  let arguments ← mentionArguments tree values parameters
  let options ← mentionOptions tree values parameters
  return " ".intercalate ("enum_json_converter" :: arguments ++ options)

/-- The command line that is mentioned where no command is run. -/
def bareMention : String := "enum_json_converter"

/-- The values of the parameters of an invocation. -/
def Invocation.values (invocation : Invocation) : List (String × Json) := [
  ("config", (invocation.config.map fun path => .string path.text).getD .null),
  ("language", .string invocation.language),
  ("module", (invocation.module.map .string).getD .null),
  ("root", (invocation.root.map fun path => .string path.text).getD .null),
  ("force", .bool invocation.force),
  ("format_code", .bool invocation.format),
  ("verbose", .bool invocation.verbose),
  ("paths", .array (invocation.paths.map fun path => .string path.text)),
  ("output", .string invocation.output.text)]

/-- The command line of an invocation. -/
def Invocation.mention (tree : FileTree) (invocation : Invocation) : Except StorageError String :=
  mentionParameters tree invocation.values

end EnumCodec.CommandLine
