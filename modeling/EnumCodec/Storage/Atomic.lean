import EnumCodec.Failure
import EnumCodec.Log
import EnumCodec.Storage.Directory

/-!
# EnumCodec.Storage.Atomic

**Writing a file in one step.** The text is first written to a temporary file in the directory of the
target and validated, and only then put in the target's place, so that at every moment the target is
as before or complete. If a step fails the temporary file is removed; directories that were made stay.
A file that is written directly is emptied before its text is encoded.
-/

namespace EnumCodec

/-- Files, and the reports of those that have been written. -/
structure WriteState where
  tree : FileTree
  log : List LogRecord := []
deriving Inhabited

/-- An activity of writing converters. -/
abbrev WriteM := ExceptT Failure (StateM WriteState)

namespace WriteM

/-- An activity on files as an activity of writing. -/
def ofStorage {α : Type} (action : StorageM α) : WriteM α := do
  let state ← get
  let (result, tree) := action.run.run state.tree
  set { state with tree }
  match result with
  | .ok value => return value
  | .error cause => throw (.storage cause)

/-- A result as an activity that changes nothing. -/
def ofExcept {α : Type} : Except Failure α → WriteM α
  | .ok value => return value
  | .error failure => throw failure

end WriteM

/-- A number in eight digits. -/
def eightDigits (n : Nat) : String :=
  let digits := Nat.toDigits 10 n
  String.ofList (List.replicate (8 - digits.length) '0' ++ digits)

/-- The name of a temporary file for a target. -/
def temporaryName (target : String) (number : Nat) : String :=
  "." ++ target ++ "." ++ eightDigits number ++ ".tmp"

/-- The path of a file beside another one. -/
def Path.beside (path : Path) (name : String) : Path :=
  { path with names := path.names.dropLast ++ [name] }

/-- The first temporary path for a target at which nothing is. -/
def temporaryPath (tree : FileTree) (target : Path) : Except StorageError Path :=
  let candidates := (List.range (tree.entries.length + 1)).map fun number =>
    target.beside (temporaryName target.name number)
  match candidates.find? fun path => !(tree.contains path matches .ok true) with
  | some path => .ok path
  | none => .error .alreadyExists

/-- Puts a text in place by way of a temporary file, given the path of that file. -/
def replaceBy (temporary target : Path) (content : Content) (check : Except Failure Unit) :
    WriteM Unit := do
  let bytes ← WriteM.ofExcept content.encode
  WriteM.ofStorage (StorageM.change (·.writeFile temporary bytes))
  WriteM.ofExcept check
  WriteM.ofStorage (StorageM.change (·.replace temporary target))

/-- The report of a file that has been written in one step. -/
def wroteRecord (path : Path) : LogRecord :=
  ⟨.writing, "Wrote " ++ path.text⟩

/-- Writes a text to a file in one step. -/
def writeAtomically (target : Path) (content : Content) (check : Except Failure Unit) :
    WriteM Unit := do
  WriteM.ofStorage (StorageM.makeDirectories target.parent)
  match temporaryPath (← get).tree target with
  | .error cause => throw (.storage cause)
  | .ok temporary =>
    WriteM.ofStorage (StorageM.change (·.writeFile temporary ByteArray.empty))
    try replaceBy temporary target content check
    catch failure =>
      modify fun state => { state with tree := state.tree.remove temporary }
      throw failure
    modify fun state => { state with log := state.log ++ [wroteRecord target] }

/-- Writes a text to a file after a check, without a temporary file. -/
def writeDirectly (target : Path) (content : Content) (check : Except Failure Unit) :
    WriteM Unit := do
  WriteM.ofExcept check
  WriteM.ofStorage do
    StorageM.makeDirectories target.parent
    StorageM.change (·.writeFile target content.bytes)
  if !content.isWhole then throw .notEncodable

end EnumCodec
