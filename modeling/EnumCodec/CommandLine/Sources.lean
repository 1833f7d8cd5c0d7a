import EnumCodec.CommandLine.Invocation
import EnumCodec.Storage.Directory
import EnumCodec.Text.Identifier
import EnumCodec.Text.Newline

/-!
# EnumCodec.CommandLine.Sources

**The sources of a command and their modules.** A directory stands for all below it whose names end in
`.py`. The module of a source is the stem of its name, or, below a root, the names that lead to it,
without the name `__init__` at the end.
-/

namespace EnumCodec.CommandLine

/-- The names of a module whose source is at these names below the root. -/
def moduleParts (names : List String) : List String :=
  let parts := names.dropLast ++ [Path.stemOf (names.getLastD "")]
  if parts.getLast? = some "__init__" then parts.dropLast else parts

/-- The module of a source. -/
def moduleName (path : Path) (root : Option Path) : Except UsageError String :=
  match root with
  | none => .ok path.stem
  | some root =>
    match path.below? root with
    | some (name :: names) => .ok (Text.joinDots (moduleParts (name :: names)))
    | _ => .error (.outsideRoot path root)

/-- Does a name end in `.py`? -/
def isSourceName (name : String) : Bool :=
  ['y', 'p', '.'].isPrefixOf name.toList.reverse

/-- The sources for which a path stands. -/
def sourcesAt (tree : FileTree) (path : Path) : List Path :=
  if tree.isDirectory path then
    ((tree.placesBelow path.names).filter fun place => isSourceName (place.getLastD "")).map
      fun place => ⟨.slash, place⟩
  else [path]

/-- The sources of an invocation. -/
def Invocation.sources (tree : FileTree) (invocation : Invocation) : List Path :=
  invocation.paths.flatMap (sourcesAt tree)

/-- Why the text of a file cannot be read. -/
inductive ReadError where
  | storage (cause : StorageError)
  /-- The bytes are not UTF-8. -/
  | notText
deriving DecidableEq, Repr, Inhabited

/-- The text of a file, with a line feed for every line end. -/
def readText (tree : FileTree) (path : Path) : Except ReadError String :=
  match tree.read path with
  | .error cause => .error (.storage cause)
  | .ok content =>
    match String.fromUTF8? content with
    | some text => .ok (String.ofList (Text.unifyNewlines text.toList))
    | none => .error .notText

end EnumCodec.CommandLine
