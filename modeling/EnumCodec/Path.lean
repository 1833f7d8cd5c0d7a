/-!
# EnumCodec.Path

**Paths of files.** A path is the root from which it leads and the names on the way; names that are
empty or a single dot are left out. Nothing here looks at files.
-/

namespace EnumCodec

/-- Where a path begins. -/
inductive PathRoot where
  /-- At the current directory. -/
  | current
  /-- At the root of all files. -/
  | slash
  /-- At the place that exactly two slashes name. -/
  | doubleSlash
deriving DecidableEq, Repr, Inhabited

/-- A path. -/
structure Path where
  root : PathRoot := .current
  /-- The names on the way; none is empty or a single dot. -/
  names : List String := []
deriving DecidableEq, Repr, Inhabited

namespace Path

/-- The pieces of a text between its slashes. -/
def splitSlashes : List Char → List (List Char)
  | [] => [[]]
  | c :: rest =>
    if c = '/' then [] :: splitSlashes rest
    else
      match splitSlashes rest with
      | [] => [[c]]
      | piece :: pieces => (c :: piece) :: pieces

/-- The names in a text. -/
def namesOf (text : List Char) : List String :=
  ((splitSlashes text).map String.ofList).filter fun name => name ≠ "" && name ≠ "."

/-- Where the path of a text begins: one slash, or three and more, lead to the root. -/
def rootOf : List Char → PathRoot
  | '/' :: '/' :: '/' :: _ => .slash
  | '/' :: '/' :: _ => .doubleSlash
  | '/' :: _ => .slash
  | _ => .current

/-- The path of a text. -/
def ofText (text : String) : Path :=
  ⟨rootOf text.toList, namesOf text.toList⟩

/-- The path that leads on along another one, unless that one begins at a root. -/
def append (path next : Path) : Path :=
  if next.root = .current then ⟨path.root, path.names ++ next.names⟩ else next

/-- The path that leads along the paths of some texts. -/
def ofTexts (texts : List String) : Path :=
  texts.foldl (fun path text => path.append (ofText text)) {}

/-- The text of a root. -/
def rootText : PathRoot → String
  | .current => ""
  | .slash => "/"
  | .doubleSlash => "//"

/-- The text of a path. -/
def text (path : Path) : String :=
  match path.root, path.names with
  | .current, [] => "."
  | root, names => rootText root ++ "/".intercalate names

/-- The last name of a path, or nothing. -/
def name (path : Path) : String :=
  path.names.getLastD ""

/-- The path without its last name. -/
def parent (path : Path) : Path :=
  { path with names := path.names.dropLast }

/-- A name without its suffix. A suffix begins at the last dot, which must be neither the first nor
the last character. -/
def stemOf (name : String) : String :=
  let (suffix, front) := name.toList.reverse.span (· ≠ '.')
  match suffix, front with
  | _ :: _, _ :: c :: rest => String.ofList (c :: rest).reverse
  | _, _ => name

/-- The last name of a path without its suffix. -/
def stem (path : Path) : String :=
  stemOf path.name

/-- What remains of a path below another one. -/
def below? (path base : Path) : Option (List String) :=
  if path.root = base.root ∧ base.names.isPrefixOf path.names then
    some (path.names.drop base.names.length)
  else none

end Path

end EnumCodec
