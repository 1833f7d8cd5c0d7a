import EnumCodec.CommandLine.Arguments
import EnumCodec.Converter.Language
import EnumCodec.Storage.FileTree
import EnumCodec.Text.Quoted

/-!
# EnumCodec.CommandLine.Invocation

**What a command line asks for.** The values of options and arguments are checked against the files
that are there: first those of the options in the order in which they first appear, then the sources,
then the directory for converters. Of the values of a repeated option the last counts.
-/

namespace EnumCodec.CommandLine

/-- Why a command line is refused. -/
inductive UsageError where
  /-- The arguments cannot be split. -/
  | split (cause : SplitError)
  /-- There are fewer than two positional arguments. -/
  | missingPaths
  /-- There is nothing at the path that is the value of a parameter. -/
  | notThere (parameter kind value : String)
  /-- There is a file where a directory is needed. -/
  | isAFile (parameter value : String)
  /-- There is no such language. -/
  | noSuchLanguage (value : String)
  /-- A source is not below the root of sources. -/
  | outsideRoot (path root : Path)
  /-- A module name is given for more or fewer than one source. -/
  | moduleNeedsOneSource
deriving Repr, Inhabited

/-- The wording of an error. -/
def UsageError.message : UsageError → String
  | .split (.noSuchOption name) => "No such option: " ++ name
  | .split (.missingValue name) => "Option " ++ Text.quoted name ++ " requires an argument."
  | .split (.unexpectedValue name) => "Option " ++ Text.quoted name ++ " does not take a value."
  | .missingPaths => "Missing argument 'PATHS...'."
  | .notThere parameter kind value =>
    "Invalid value for " ++ parameter ++ ": " ++ kind ++ " " ++ Text.quoted value ++
      " does not exist."
  | .isAFile parameter value =>
    "Invalid value for " ++ parameter ++ ": Directory " ++ Text.quoted value ++ " is a file."
  | .noSuchLanguage value =>
    "Invalid value for '--language' / '-l': " ++ Text.quoted value ++
      " is not one of 'python', 'cs'."
  | .outsideRoot path root => path.text ++ " is not inside the source root " ++ root.text
  | .moduleNeedsOneSource => "--module can only be used with a single input file"

/-- Is the usage of the command shown before the error? -/
def UsageError.showsUsage : UsageError → Bool
  | .split (.missingValue _) => false
  | .split (.unexpectedValue _) => false
  | _ => true

/-- What a command line asks for. -/
structure Invocation where
  config : Option Path := none
  language : String := "python"
  module : Option String := none
  root : Option Path := none
  force : Bool := false
  format : Bool := false
  verbose : Bool := false
  /-- The sources, and directories of sources. -/
  paths : List Path := []
  /-- The directory for converters. -/
  output : Path := {}
deriving Repr, Inhabited

/-- Names with two dots taken out, each with the name before it. -/
def collapseNames (names : List String) : List String :=
  names.foldl (fun front name => if name = ".." then front.dropLast else front ++ [name]) []

/-- The path from the root that a text names in the current directory. -/
def resolvePath (tree : FileTree) (text : String) : Path :=
  let path := Path.ofText text
  ⟨.slash, collapseNames (tree.start path ++ path.names)⟩

/-- Is there something at a path? -/
def isThere (tree : FileTree) (path : Path) : Bool :=
  tree.locate path matches .ok _

/-- The path of a value at which something must be. -/
def existingPath (tree : FileTree) (parameter value : String) : Except UsageError Path :=
  let path := resolvePath tree value
  if isThere tree path then .ok path else .error (.notThere parameter "Path" value)

/-- The path of a value at which a directory must be. -/
def existingDirectory (tree : FileTree) (parameter value : String) : Except UsageError Path :=
  let path := resolvePath tree value
  if !isThere tree path then .error (.notThere parameter "Directory" value)
  else if tree.isDirectory path then .ok path
  else .error (.isAFile parameter value)

/-- The path of a value at which a directory or nothing must be. -/
def possibleDirectory (tree : FileTree) (parameter value : String) : Except UsageError Path :=
  let path := resolvePath tree value
  if isThere tree path && !tree.isDirectory path then .error (.isAFile parameter value)
  else .ok path

/-- Puts the value of an option into an invocation. -/
def Invocation.put (tree : FileTree) (invocation : Invocation) (option : OptionName)
    (value : String) : Except UsageError Invocation :=
  match option with
  | .config => do
    let path ← existingPath tree "'--config' / '-c'" value
    return { invocation with config := some path }
  | .language =>
    match Language.ofName? value with
    | some _ => .ok { invocation with language := value }
    | none => .error (.noSuchLanguage value)
  | .module => .ok { invocation with module := some value }
  | .root => do
    let path ← existingDirectory tree "'--root' / '-r'" value
    return { invocation with root := some path }
  | .force => .ok { invocation with force := true }
  | .format => .ok { invocation with format := true }
  | .verbose => .ok { invocation with verbose := true }

/-- The options of a command line in the order in which they first appear, each with its last
value. -/
def lastValues (options : List (OptionName × Option String)) : List (OptionName × String) :=
  options.foldl (fun values (option, value) =>
    let value := value.getD ""
    if values.any (·.1 == option) then
      values.map fun entry => if entry.1 == option then (option, value) else entry
    else values ++ [(option, value)]) []

/-- What split arguments ask for. -/
def Invocation.ofArguments (tree : FileTree) (arguments : Arguments) :
    Except UsageError Invocation := do
  let invocation ← (lastValues arguments.options).foldlM
    (fun invocation (option, value) => invocation.put tree option value) ({} : Invocation)
  let paths ← arguments.positional.dropLast.mapM (existingPath tree "'PATHS...'")
  match arguments.positional.getLast?, paths with
  | some output, _ :: _ =>
    let output ← possibleDirectory tree "'OUTPUT'" output
    return { invocation with paths, output }
  | _, _ => .error .missingPaths

/-- What a command line asks for. -/
def Invocation.read (tree : FileTree) (arguments : List String) : Except UsageError Invocation :=
  match splitArguments arguments with
  | .error cause => .error (.split cause)
  | .ok arguments => Invocation.ofArguments tree arguments

end EnumCodec.CommandLine
