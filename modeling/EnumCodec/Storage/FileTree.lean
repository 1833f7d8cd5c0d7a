import EnumCodec.Path

/-!
# EnumCodec.Storage.FileTree

**Files and directories as a value.** A tree holds entries at places; a place is the list of the names
that lead to it from the root. A path leads to a place by way of the entries that are there, so that a
name behind a file or behind nothing leads nowhere, and two dots lead back.

A tree has no links, no permissions and no times, and it holds whatever is put there. Names are texts: a
name in bytes that are no UTF-8 is the name of no entry.
-/

namespace EnumCodec

/-- The names that lead to an entry from the root. -/
abbrev Place := List String

/-- What stands at a place. -/
inductive Entry where
  | directory
  | file (content : ByteArray)
deriving Inhabited

instance : DecidableEq Entry
  | .directory, .directory => isTrue rfl
  | .directory, .file _ => isFalse nofun
  | .file _, .directory => isFalse nofun
  | .file a, .file b =>
    match ByteArray.instDecidableEq a b with
    | isTrue h => isTrue (congrArg Entry.file h)
    | isFalse h => isFalse fun eq => h (Entry.file.inj eq)

/-- Why files cannot be read or changed. -/
inductive StorageError where
  /-- There is nothing at the path. -/
  | notFound
  /-- There is something at the path. -/
  | alreadyExists
  /-- Something before the end of the path is no directory. -/
  | notADirectory
  /-- There is a directory where a file is needed. -/
  | isADirectory
  /-- A name or a path is longer than storage allows. -/
  | nameTooLong
  /-- The path ends with two dots, where an entry cannot be put. -/
  | busy
deriving DecidableEq, Repr, Inhabited

/-- Files and directories, and the place of the current directory. -/
structure FileTree where
  /-- The entries, each at a place of its own; the root is not among them. -/
  entries : List (Place × Entry) := []
  current : Place := []
deriving Inhabited

namespace FileTree

/-! ### Entries -/

/-- The entry at a place. -/
def get? (tree : FileTree) (place : Place) : Option Entry :=
  if place = [] then some .directory else tree.entries.lookup place

/-- Entries with one more, or with a changed one. -/
def putEntry (place : Place) (entry : Entry) :
    List (Place × Entry) → List (Place × Entry)
  | [] => [(place, entry)]
  | (other, old) :: rest =>
    if other = place then (other, entry) :: rest else (other, old) :: putEntry place entry rest

/-- The tree with an entry at a place. -/
def put (tree : FileTree) (place : Place) (entry : Entry) : FileTree :=
  { tree with entries := putEntry place entry tree.entries }

/-- The tree without the entry at a place. -/
def erase (tree : FileTree) (place : Place) : FileTree :=
  { tree with entries := tree.entries.filter fun item => item.1 ≠ place }

/-! ### Paths in a tree -/

/-- The most bytes that a name can have. -/
def maxNameSize : Nat := 255

/-- The most bytes that a path can have. -/
def maxPathSize : Nat := 4095

/-- The place to which names lead from another place. -/
def walk (tree : FileTree) (place : Place) : List String → Except StorageError Place
  | [] => .ok place
  | name :: rest =>
    match tree.get? place with
    | some .directory =>
      if name = ".." then walk tree place.dropLast rest
      else if maxNameSize < name.utf8ByteSize then .error .nameTooLong
      else
        match tree.get? (place ++ [name]) with
        | some _ => walk tree (place ++ [name]) rest
        | none => .error .notFound
    | _ => .error .notADirectory

/-- Where a path begins. -/
def start (tree : FileTree) (path : Path) : Place :=
  if path.root = .current then tree.current else []

/-- The place of what is at a path. -/
def locate (tree : FileTree) (path : Path) : Except StorageError Place :=
  if maxPathSize < path.text.utf8ByteSize then .error .nameTooLong
  else tree.walk (tree.start path) path.names

/-- The place of what could be put at a path: the directory before it must be there. -/
def locateNew (tree : FileTree) (path : Path) : Except StorageError Place :=
  match path.names.getLast? with
  | none => .error .isADirectory
  | some name =>
    if maxPathSize < path.text.utf8ByteSize then .error .nameTooLong
    else
      match tree.walk (tree.start path) path.names.dropLast with
      | .error error => .error error
      | .ok place =>
        match tree.get? place with
        | some .directory =>
          if name = ".." then .error .busy
          else if maxNameSize < name.utf8ByteSize then .error .nameTooLong
          else .ok (place ++ [name])
        | _ => .error .notADirectory

/-- Is there something at the path? A name that is too long is an error. -/
def contains (tree : FileTree) (path : Path) : Except StorageError Bool :=
  match tree.locate path with
  | .ok _ => .ok true
  | .error .nameTooLong => .error .nameTooLong
  | .error _ => .ok false

/-- Is there a directory at the path? -/
def isDirectory (tree : FileTree) (path : Path) : Bool :=
  match tree.locate path with
  | .ok place => tree.get? place == some .directory
  | .error _ => false

/-- The content of the file at a path. -/
def read (tree : FileTree) (path : Path) : Except StorageError ByteArray :=
  match tree.locate path with
  | .error error => .error error
  | .ok place =>
    match tree.get? place with
    | some (.file content) => .ok content
    | some .directory => .error .isADirectory
    | none => .error .notFound

/-! ### Changes -/

/-- The tree with a directory at a path where nothing is. -/
def makeDirectory (tree : FileTree) (path : Path) : Except StorageError FileTree :=
  match tree.locateNew path with
  | .error .isADirectory => .error .alreadyExists
  | .error .busy => .error .alreadyExists
  | .error error => .error error
  | .ok place =>
    match tree.get? place with
    | some _ => .error .alreadyExists
    | none => .ok (tree.put place .directory)

/-- The tree with a file at a path, where a file or nothing was. -/
def writeFile (tree : FileTree) (path : Path) (content : ByteArray) :
    Except StorageError FileTree :=
  match tree.locateNew path with
  | .error .busy => .error .isADirectory
  | .error error => .error error
  | .ok place =>
    match tree.get? place with
    | some .directory => .error .isADirectory
    | _ => .ok (tree.put place (.file content))

/-- The tree with the file of one path at another one, in place of the file that was there. -/
def replace (tree : FileTree) (source target : Path) : Except StorageError FileTree :=
  match tree.locate source with
  | .error error => .error error
  | .ok place =>
    match tree.get? place with
    | some (.file content) =>
      match tree.locateNew target with
      | .error error => .error error
      | .ok goal =>
        match tree.get? goal with
        | some .directory => .error .isADirectory
        | _ => .ok ((tree.erase place).put goal (.file content))
    | some .directory => .error .isADirectory
    | none => .error .notFound

/-- The tree without the file at a path; where nothing is, nothing is done. -/
def remove (tree : FileTree) (path : Path) : FileTree :=
  match tree.locate path with
  | .ok place => tree.erase place
  | .error _ => tree

end FileTree

end EnumCodec
