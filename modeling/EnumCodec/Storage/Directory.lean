import EnumCodec.Storage.FileTree

/-!
# EnumCodec.Storage.Directory

**Directories with all that are before them.** The directories of a path are made from the first that
is missing on; those that are made stay, even if a later one cannot be made. The files below a
directory are listed in the order of their names.
-/

namespace EnumCodec

/-- An activity on files, which may fail after it has changed some. -/
abbrev StorageM := ExceptT StorageError (StateM FileTree)

namespace StorageM

/-- The activity of a change, which does nothing if it fails. -/
def change (step : FileTree → Except StorageError FileTree) : StorageM Unit := do
  match step (← get) with
  | .ok tree => set tree
  | .error error => throw error

/-- Makes one directory; one that is there already is as good. -/
def makeDirectory (path : Path) : StorageM Unit := do
  match (← get).makeDirectory path with
  | .ok tree => set tree
  | .error .notFound => throw .notFound
  | .error error => if (← get).isDirectory path then return () else throw error

/-- Makes a directory and those before it. The names come from the last to the first. -/
def makeDirectoriesFrom (root : PathRoot) : List String → StorageM Unit
  | [] => makeDirectory ⟨root, []⟩
  | name :: before => do
    let path : Path := ⟨root, (name :: before).reverse⟩
    match (← get).makeDirectory path with
    | .error .notFound =>
      makeDirectoriesFrom root before
      makeDirectory path
    | _ => makeDirectory path

/-- Makes the directory of a path and those before it. -/
def makeDirectories (path : Path) : StorageM Unit :=
  makeDirectoriesFrom path.root path.names.reverse

end StorageM

namespace FileTree

/-- The order of names in which files are listed: by their first names, then by those below. -/
def placeLe : Place → Place → Bool
  | [], _ => true
  | _ :: _, [] => false
  | a :: as, b :: bs => if a = b then placeLe as bs else decide (a < b)

/-- Puts a place among others that are in order. -/
def insertPlace (place : Place) : List Place → List Place
  | [] => [place]
  | other :: rest =>
    if placeLe place other then place :: other :: rest else other :: insertPlace place rest

/-- The places of all below a place, in the order of names. -/
def placesBelow (tree : FileTree) (place : Place) : List Place :=
  ((tree.entries.map (·.1)).filter fun other =>
    place.isPrefixOf other && other ≠ place).foldr insertPlace []

end FileTree

end EnumCodec
