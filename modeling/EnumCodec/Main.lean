import EnumCodec.CommandLine.Run

/-!
# EnumCodec.Main

**The command on the files of the system.** What the arguments name is read into a tree, the command
is run on the tree, and what it changed is written back. Below a directory only the contents of
sources are read, since no other content bears on what the command does. No formatter is used.
-/

namespace EnumCodec.CommandLine

/-- The text of the path that leads to a place from the root. -/
def placeText (place : Place) : String :=
  (Path.mk .slash place).text

/-- Adds what the system has at a place, unless the tree has something there. -/
def addPlace (tree : FileTree) (place : Place) (readable : Bool) : IO FileTree := do
  let path := (← IO.currentDir) / placeText place
  if (tree.get? place).isSome then return tree
  else if ← path.isDir then return tree.put place .directory
  else if !(← path.pathExists) then return tree
  else if readable then return tree.put place (.file (← IO.FS.readBinFile path))
  else return tree.put place (.file ByteArray.empty)

/-- Adds what the system has below a place. Links to other directories are not followed. -/
partial def addBelow (tree : FileTree) (place : Place) : IO FileTree := do
  let path := (← IO.currentDir) / placeText place
  if !(← path.isDir) then return tree
  (← path.readDir).foldlM (fun tree entry => do
    let inner := place ++ [entry.fileName]
    let tree ← addPlace tree inner (isSourceName entry.fileName)
    if (← entry.path.symlinkMetadata).type matches .dir then addBelow tree inner
    else return tree) tree

/-- Adds what the system has on the way along a path and at its end. -/
def addPath (tree : FileTree) (path : Path) : IO FileTree :=
  let names := tree.start path ++ path.names
  let ways := (List.range (names.length + 1)).map fun length => collapseNames (names.take length)
  ways.foldlM (fun tree place => addPlace tree place true) tree

/-- The files of the system on which a command with these arguments depends. -/
def loadTree (arguments : List String) : IO FileTree := do
  let here := Path.ofText (toString (← IO.currentDir))
  let tree ← addPath { current := here.names } here
  match splitArguments arguments with
  | .error _ => return tree
  | .ok split =>
    let tree ← (split.positional ++ split.options.filterMap (·.2)).foldlM
      (fun tree value => addPath tree (Path.ofText value)) tree
    split.positional.foldlM (fun tree value => addBelow tree (resolvePath tree value).names) tree

/-- Writes what is new or different in a tree to the system. -/
def saveTree (before after : FileTree) : IO Unit :=
  after.entries.forM fun (place, entry) =>
    if before.get? place = some entry then return ()
    else
      match entry with
      | .directory => IO.FS.createDir (placeText place)
      | .file content => IO.FS.writeBinFile (placeText place) content

/-- Runs the command on the files of the system; the answer is the exit code. -/
def runOnSystem (arguments : List String) : IO UInt32 := do
  let before ← loadTree arguments
  let outcome := run before arguments
  saveTree before outcome.tree
  IO.print outcome.output
  IO.eprint outcome.errors
  match outcome.crash with
  | some crash => IO.eprintln crash.message
  | none => pure ()
  return outcome.exitCode.toUInt32

end EnumCodec.CommandLine

def main (arguments : List String) : IO UInt32 :=
  EnumCodec.CommandLine.runOnSystem arguments
