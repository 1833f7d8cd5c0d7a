import EnumCodec.Proofs.Storage.Directories
import EnumCodec.Storage.Atomic

/-!
# EnumCodec.Proofs.Storage.Atomic

**One file in one step.** The writing by way of a temporary file and the plain writing are the same to
the tree: where they succeed both leave the tree in which the directories of the target have been made
and the target put, and where they fail they leave at most those directories. The temporary file is
gone in every case, because its place was free before and taking it away leaves no trace.
-/

namespace EnumCodec

open Activity FileTree

variable {tree after : FileTree} {path target temporary : Path} {place goal : Place}

/-! ### Storage as a part of writing -/

@[simp]
theorem WriteM.outcome_ofExcept {α : Type} (result : Except Failure α) (state : WriteState) :
    outcome (WriteM.ofExcept result) state = (result, state) := by
  cases result <;> rfl

/-- What storage does to the files is what it does as a part of writing. -/
theorem WriteM.outcome_ofStorage {α : Type} (action : StorageM α) (state : WriteState) :
    outcome (WriteM.ofStorage action) state =
      ((outcome action state.tree).1.mapError Failure.storage,
        { state with tree := (outcome action state.tree).2 }) := by
  rcases ran : outcome action state.tree with ⟨result, made⟩
  have run : StateT.run (ExceptT.run action) state.tree = (result, made) := ran
  rw [WriteM.ofStorage, outcome_bind, outcome_get]
  dsimp only
  rw [run]
  cases result <;> rfl

/-! ### Putting and replacing files -/

namespace FileTree

/-- A file comes to the place of its path, where no directory is. -/
theorem writeFile_eq_ok_iff {content : ByteArray} :
    tree.writeFile path content = .ok after ↔
      ∃ place, tree.locateNew path = .ok place ∧ tree.get? place ≠ some .directory ∧
        after = tree.put place (.file content) := by
  unfold writeFile
  cases located : tree.locateNew path with
  | error error => cases error <;> simp
  | ok place =>
    cases there : tree.get? place with
    | none => simp [there, eq_comm]
    | some entry => cases entry <;> simp [there, eq_comm]

/-- Nothing is at a path to which something could come and at which nothing is found. -/
theorem get?_eq_none_of_contains (located : tree.locateNew path = .ok place)
    (missing : tree.contains path ≠ .ok true) : tree.get? place = none := by
  cases there : tree.get? place with
  | none => rfl
  | some entry =>
    have found := locate_of_locateNew located (there ▸ Option.some_ne_none entry)
    exact absurd (by rw [contains, found]) missing

/-- After the making of directories, a file that is put is the only one that has been written, and its
path leads to it. -/
theorem Writes.writeFile {before between : FileTree} {near wide : Place → Prop} {bytes : ByteArray}
    (made : Writes before between near noContents) (weaker : ∀ place, near place → wide place)
    (close : wide (before.placeOf path)) (written : between.writeFile path bytes = .ok after) :
    Writes before after wide (oneContent (before.placeOf path) bytes) ∧
      after.locate path = .ok (before.placeOf path) := by
  obtain ⟨place, located, noDirectory, rfl⟩ := writeFile_eq_ok_iff.1 written
  obtain ⟨placed, nonempty⟩ := eq_placeOf_of_locateNew located
  rw [made.keeps.placeOf] at placed
  subst placed
  have put : Writes between _ _ (oneContent _ bytes) := writes_putFile nonempty noDirectory close
  refine ⟨by simpa using (made.mono weaker).trans put, ?_⟩
  exact locate_of_locateNew (put.keeps.locateNew located) (by simp [get?_put_self nonempty])

/-- The path beside another one leads to the same directory. -/
theorem names_beside (path : Path) (name : String) :
    (path.beside name).names = path.names.dropLast ++ [name] := rfl

end FileTree

/-- A temporary path is a free one beside the target. -/
theorem temporaryPath_eq_ok (ok : temporaryPath tree target = .ok temporary) :
    (∃ number, temporary = target.beside (temporaryName target.name number)) ∧
      tree.contains temporary ≠ .ok true := by
  unfold temporaryPath at ok
  dsimp only at ok
  split at ok
  · next found eq =>
    cases ok
    obtain ⟨number, -, rfl⟩ := List.mem_map.1 (List.mem_of_find?_eq_some eq)
    refine ⟨⟨number, rfl⟩, fun there => ?_⟩
    have free := List.find?_some eq
    rw [there] at free
    cases free
  · cases ok

/-- A name with more around it is another one. -/
theorem temporaryName_ne (name middle : String) : "." ++ name ++ "." ++ middle ++ ".tmp" ≠ name := by
  intro same
  have length := congrArg String.length same
  simp only [String.length_append] at length
  have dot : ".".length = 1 := rfl
  omega

section Temporary

variable {bytes old : ByteArray} (located : tree.locateNew temporary = .ok place)
  (free : tree.get? place = none)

include located free

/-- A new file keeps everything. -/
theorem keeps_put_new : Keeps tree (tree.put place (.file bytes)) :=
  keeps_put (eq_placeOf_of_locateNew located).2 (by simp [free])

/-- The path of a new file leads to it. -/
theorem locate_put_new : (tree.put place (.file bytes)).locate temporary = .ok place := by
  have there : (tree.put place (.file bytes)).get? place = some (.file bytes) :=
    get?_put_self (eq_placeOf_of_locateNew located).2
  exact locate_of_locateNew ((keeps_put_new located free).locateNew located) (by simp [there])

/-- Writing over a new file always succeeds, and leaves what has been written last. -/
theorem writeFile_put_new : (tree.put place (.file old)).writeFile temporary bytes =
    .ok (tree.put place (.file bytes)) := by
  rw [writeFile_eq_ok_iff]
  exact ⟨place, (keeps_put_new located free).locateNew located,
    by simp [get?_put_self (eq_placeOf_of_locateNew located).2], by rw [put_put]⟩

/-- Taking a new file away leaves the tree as it was without the file. -/
theorem remove_put_new : (tree.put place (.file bytes)).remove temporary = tree := by
  rw [remove, locate_put_new located free]
  exact erase_put free

end Temporary

/-! ### Both ways of writing -/

/-- If a file could be put beside a target, the target is in a directory already, and it has another
place. -/
theorem locateNew_of_beside {name : String} (other : name ≠ target.name) (keeps : Keeps tree after)
    (located : tree.locateNew (target.beside name) = .ok place)
    (later : after.locateNew target = .ok goal) :
    tree.locateNew target = .ok goal ∧ goal ≠ place := by
  obtain ⟨front, last, directory, names, size, walked, there, forward, short, rfl⟩ :=
    locateNew_eq_ok_iff.1 later
  obtain ⟨front', last', directory', names', -, walked', there', -, -, rfl⟩ :=
    locateNew_eq_ok_iff.1 located
  rw [names_beside, names, List.dropLast_concat] at names'
  obtain ⟨rfl, same⟩ := List.append_inj' names' rfl
  cases same
  -- Both paths begin at the same place and share all names but the last.
  have agree : after.walk (tree.start target) front = .ok directory' := keeps.walk walked'
  rw [keeps.start, agree] at walked
  cases walked
  refine ⟨locateNew_eq_ok_iff.2 ⟨front, last, _, names, size, walked', there', forward, short,
    rfl⟩, fun same => other ?_⟩
  have lasts : last = name := by simpa using same
  rw [Path.name, names, List.getLastD_concat, lasts]

/-- Replacing takes the file of the temporary path to the target as if it had been put there. -/
theorem replace_eq_ok {bytes : ByteArray} {name : String} (other : name ≠ target.name)
    (located : tree.locateNew (target.beside name) = .ok place) (free : tree.get? place = none)
    (ok : (tree.put place (.file bytes)).replace (target.beside name) target = .ok after) :
    tree.writeFile target bytes = .ok after := by
  have nonempty : place ≠ [] := (eq_placeOf_of_locateNew located).2
  have there : (tree.put place (.file bytes)).get? place = some (.file bytes) :=
    get?_put_self nonempty
  rw [replace, locate_put_new located free] at ok
  simp only [there] at ok
  split at ok
  · cases ok
  · next goal later =>
    obtain ⟨goalLocated, away⟩ :=
      locateNew_of_beside other (keeps_put_new located free) located later
    rw [get?_put nonempty, if_neg away, erase_put free] at ok
    split at ok
    · cases ok
    · next noDirectory =>
      cases ok
      exact writeFile_eq_ok_iff.2 ⟨goal, goalLocated, noDirectory, rfl⟩

/-- What replacing by way of a temporary file does, from the moment at which that file is there and
empty. -/
theorem outcome_replaceBy (state : WriteState) (content : Content) (check : Except Failure Unit)
    {name : String} (other : name ≠ target.name)
    (located : tree.locateNew (target.beside name) = .ok place) (free : tree.get? place = none)
    (present : state.tree = tree.put place (.file ByteArray.empty)) :
    (∃ made, outcome (replaceBy (target.beside name) target content check) state =
        (.ok (), { state with tree := made }) ∧ content.isWhole = true ∧
        tree.writeFile target content.bytes = .ok made) ∨
      ∃ failure bytes, outcome (replaceBy (target.beside name) target content check) state =
        (.error failure, { state with tree := tree.put place (.file bytes) }) := by
  rw [replaceBy, outcome_bind, WriteM.outcome_ofExcept]
  cases whole : content.isWhole with
  | false =>
    rw [Content.encode_of_not_isWhole whole]
    exact .inr ⟨.notEncodable, ByteArray.empty, by rw [← present]⟩
  | true =>
    rw [Content.encode_of_isWhole whole]
    dsimp only
    rw [outcome_bind, WriteM.outcome_ofStorage, StorageM.outcome_change, present,
      writeFile_put_new located free]
    simp only [result_mapError_ok]
    rw [outcome_bind, WriteM.outcome_ofExcept]
    cases check with
    | error failure => exact .inr ⟨failure, _, rfl⟩
    | ok =>
      dsimp only
      rw [WriteM.outcome_ofStorage, StorageM.outcome_change]
      cases replaced :
        (tree.put place (.file content.bytes)).replace (target.beside name) target with
      | ok made => exact .inl ⟨made, rfl, trivial, replace_eq_ok other located free replaced⟩
      | error cause => exact .inr ⟨.storage cause, _, rfl⟩

/-- The tree in which the directories of a target have been made, as far as they could be. -/
def withDirectories (tree : FileTree) (target : Path) : FileTree :=
  (outcome (StorageM.makeDirectories target.parent) tree).2

/-- What both ways of writing have in common. A success leaves the tree in which the directories of the
target have been made and then the file put; a failure leaves at most those directories. Plain writing
opens the target before the text is encoded, and so empties it if the text has no form. -/
def LeavesFile (atomic : Bool) (action : WriteM Unit) (target : Path) (content : Content) : Prop :=
  ∀ state : WriteState,
    (∃ after, outcome action state = (.ok (), after) ∧ content.isWhole = true ∧
        (outcome (StorageM.makeDirectories target.parent) state.tree).1 = .ok () ∧
        (withDirectories state.tree target).writeFile target content.bytes = .ok after.tree) ∨
      ∃ failure after, outcome action state = (.error failure, after) ∧
        (after.tree = state.tree ∨ after.tree = withDirectories state.tree target ∨
          atomic = false ∧ failure = .notEncodable ∧ content.isWhole = false ∧
            (withDirectories state.tree target).writeFile target content.bytes = .ok after.tree)

/-- Plain writing leaves the file or at most directories, or an empty file. -/
theorem writeDirectly_leaves (target : Path) (content : Content) (check : Except Failure Unit) :
    LeavesFile false (writeDirectly target content check) target content := by
  intro state
  rw [writeDirectly, outcome_bind, WriteM.outcome_ofExcept]
  cases check with
  | error failure => exact .inr ⟨failure, state, rfl, .inl rfl⟩
  | ok =>
    dsimp only
    rw [outcome_bind, WriteM.outcome_ofStorage, outcome_bind]
    unfold withDirectories
    rcases outcome (StorageM.makeDirectories target.parent) state.tree with ⟨error | _, made⟩
    · exact .inr ⟨.storage error, _, rfl, .inr (.inl rfl)⟩
    · dsimp only
      rw [StorageM.outcome_change]
      cases made.writeFile target content.bytes with
      | error error => exact .inr ⟨.storage error, _, rfl, .inr (.inl rfl)⟩
      | ok tree =>
        cases whole : content.isWhole with
        | true => exact .inl ⟨_, rfl, rfl, rfl, rfl⟩
        | false => exact .inr ⟨.notEncodable, _, rfl, .inr (.inr ⟨rfl, rfl, rfl, rfl⟩)⟩

/-- Writing in one step leaves the file or at most directories, and never its temporary file. -/
theorem writeAtomically_leaves (target : Path) (content : Content) (check : Except Failure Unit) :
    LeavesFile true (writeAtomically target content check) target content := by
  intro state
  rw [writeAtomically, outcome_bind, WriteM.outcome_ofStorage]
  unfold withDirectories
  rcases outcome (StorageM.makeDirectories target.parent) state.tree with ⟨error | _, made⟩
  · exact .inr ⟨.storage error, _, rfl, .inr (.inl rfl)⟩
  · simp only [result_mapError_ok, outcome_bind, outcome_get]
    cases chosen : temporaryPath made target with
    | error error => exact .inr ⟨.storage error, _, rfl, .inr (.inl rfl)⟩
    | ok temporary =>
      obtain ⟨⟨number, rfl⟩, missing⟩ := temporaryPath_eq_ok chosen
      have other : temporaryName target.name number ≠ target.name := temporaryName_ne _ _
      simp only [outcome_bind, WriteM.outcome_ofStorage, StorageM.outcome_change]
      cases opened : made.writeFile (target.beside (temporaryName target.name number))
          ByteArray.empty with
      | error error => exact .inr ⟨.storage error, _, rfl, .inr (.inl rfl)⟩
      | ok begun =>
        obtain ⟨place, located, -, rfl⟩ := writeFile_eq_ok_iff.1 opened
        have free := get?_eq_none_of_contains located missing
        simp only [result_mapError_ok, outcome_tryCatch]
        obtain ⟨done, ran, whole, written⟩ | ⟨failure, bytes, ran⟩ :=
          outcome_replaceBy { state with tree := made.put place (.file ByteArray.empty) } content
            check other located free rfl
        · simp only [ran, outcome_modify]
          exact .inl ⟨_, rfl, whole, trivial, written⟩
        · -- The temporary file is there still; taking it away leaves the directories alone.
          simp only [ran, outcome_bind, outcome_modify, outcome_throw, remove_put_new located free]
          exact .inr ⟨failure, _, rfl, .inr (.inl rfl)⟩

end EnumCodec
