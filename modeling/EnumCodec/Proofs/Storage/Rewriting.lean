import EnumCodec.Proofs.Storage.Atomic

/-!
# EnumCodec.Proofs.Storage.Rewriting

**Writing a file that holds its text already.** Where the directories of a target are there and the
target holds what is written, the writing changes nothing, by way of a temporary file or without one.
It succeeds as long as a temporary file can still be put beside the target: the number in its name is
the first that is free, so the name is no longer than that of any other free one.
-/

namespace EnumCodec

open Activity FileTree

namespace FileTree

variable {tree after : FileTree} {place goal : Place} {entry : Entry} {path target : Path}

/-! ### Entries and directories that are there -/

theorem putEntry_eq_self {entries : List (Place × Entry)}
    (there : entries.lookup place = some entry) : putEntry place entry entries = entries := by
  induction entries with
  | nil => cases there
  | cons item rest ih =>
    obtain ⟨other, old⟩ := item
    rw [Entries.lookup_cons_eq] at there
    rw [putEntry]
    by_cases here : other = place
    · rw [if_pos here.symm] at there
      cases there
      rw [if_pos here]
    · rw [if_neg (Ne.symm here)] at there
      rw [if_neg here, ih there]

/-- Putting what is there already changes nothing. -/
theorem put_eq_self (nonempty : place ≠ []) (there : tree.get? place = some entry) :
    tree.put place entry = tree := by
  rw [get?, if_neg nonempty] at there
  rw [put, putEntry_eq_self there]

/-- A directory is at a path if the path leads to one. -/
theorem isDirectory_iff :
    tree.isDirectory path = true ↔
      ∃ place, tree.locate path = .ok place ∧ tree.get? place = some .directory := by
  unfold isDirectory
  cases tree.locate path <;> simp

theorem Keeps.isDirectory (keeps : Keeps tree after) (there : tree.isDirectory path = true) :
    after.isDirectory path = true := by
  obtain ⟨place, located, directory⟩ := isDirectory_iff.1 there
  exact isDirectory_iff.2 ⟨place, keeps.locate located, keeps.directory place directory⟩

/-- What names lead to forward is there. -/
theorem get?_of_walk {front : List String} {name : String} (forward : name ≠ "..")
    (walked : tree.walk place (front ++ [name]) = .ok goal) : tree.get? goal ≠ none := by
  rw [walk_append] at walked
  cases first : tree.walk place front with
  | error error =>
    rw [first] at walked
    cases walked
  | ok middle =>
    rw [first] at walked
    simp only [Except.bind, walk, if_neg forward] at walked
    split at walked
    · split at walked
      · cases walked
      · split at walked
        · next entry found =>
          cases walked
          exact found ▸ Option.some_ne_none entry
        · cases walked
    · cases walked

/-- What a path leads to forward is there. -/
theorem get?_of_locate {front : List String} {name : String} (names : path.names = front ++ [name])
    (forward : name ≠ "..") (located : tree.locate path = .ok goal) : tree.get? goal ≠ none := by
  unfold locate at located
  split at located
  · cases located
  · rw [names] at located
    exact get?_of_walk forward located

/-- A directory that is there cannot be made. -/
theorem makeDirectory_of_isDirectory (there : tree.isDirectory path = true) :
    tree.makeDirectory path = .error .alreadyExists := by
  obtain ⟨place, located, directory⟩ := isDirectory_iff.1 there
  rcases List.eq_nil_or_concat path.names with none | ⟨front, name, names⟩
  · simp [makeDirectory, locateNew, none]
  · rw [List.concat_eq_append] at names
    have present := located
    unfold locate at located
    split at located
    · cases located
    · next size =>
      rw [names, walk_append] at located
      cases walked : tree.walk (tree.start path) front with
      | error error =>
        rw [walked] at located
        cases located
      | ok before =>
        rw [walked] at located
        simp only [Except.bind, walk] at located
        split at located
        · next above =>
          -- A path that ends in two dots has no place of its own, and counts as one that is there.
          by_cases back : name = ".."
          · simp [makeDirectory, locateNew, names, size, walked, above, back]
          · have found := get?_of_locate names back present
            rw [if_neg back] at located
            split at located
            · cases located
            · next short =>
              split at located
              · cases located
                have new : tree.locateNew path = .ok (before ++ [name]) :=
                  locateNew_eq_ok_iff.2 ⟨front, name, before, names, Nat.not_lt.1 size, walked, above,
                    back, Nat.not_lt.1 short, rfl⟩
                rw [makeDirectory, new]
                simp only [directory]
              · cases located
        · cases located

end FileTree

namespace StorageM

variable {tree : FileTree} {path : Path}

theorem outcome_makeDirectory_of_isDirectory (there : tree.isDirectory path = true) :
    outcome (makeDirectory path) tree = (.ok (), tree) := by
  rw [outcome_makeDirectory, makeDirectory_of_isDirectory there]
  simp [there]

/-- Directories that are there are not made again. -/
theorem outcome_makeDirectories_of_isDirectory (there : tree.isDirectory path = true) :
    outcome (makeDirectories path) tree = (.ok (), tree) := by
  rw [makeDirectories]
  have same : (⟨path.root, path.names.reverse.reverse⟩ : Path) = path := by rw [List.reverse_reverse]
  generalize path.names.reverse = names at same
  cases names with
  | nil =>
    rw [makeDirectoriesFrom]
    exact outcome_makeDirectory_of_isDirectory (same ▸ there)
  | cons name before =>
    rw [makeDirectoriesFrom, outcome_bind, outcome_get]
    dsimp only
    rw [same, makeDirectory_of_isDirectory there]
    exact outcome_makeDirectory_of_isDirectory there

/-- A directory that has been made is there. -/
theorem isDirectory_of_makeDirectory (ok : (outcome (makeDirectory path) tree).1 = .ok ()) :
    (outcome (makeDirectory path) tree).2.isDirectory path = true := by
  rw [outcome_makeDirectory] at ok ⊢
  cases made : tree.makeDirectory path with
  | ok after =>
    dsimp only
    rw [FileTree.makeDirectory] at made
    split at made
    · cases made
    · cases made
    · cases made
    · next place located =>
      obtain ⟨placed, nonempty⟩ := eq_placeOf_of_locateNew located
      split at made
      · cases made
      · next free =>
        cases made
        have directory : (tree.put place .directory).get? place = some .directory :=
          get?_put_self nonempty
        have keeps : Keeps tree (tree.put place .directory) := keeps_put nonempty (by simp [free])
        exact isDirectory_iff.2 ⟨place, locate_of_locateNew (keeps.locateNew located)
          (by simp [directory]), directory⟩
  | error error =>
    rw [made] at ok
    by_cases there : tree.isDirectory path
    · cases error <;> exact there
    · cases error <;> simp [there] at ok

/-- The directories of a path that have been made lead to one. -/
theorem isDirectory_of_makeDirectories (ok : (outcome (makeDirectories path) tree).1 = .ok ()) :
    (outcome (makeDirectories path) tree).2.isDirectory path = true := by
  rw [makeDirectories] at ok ⊢
  have same : (⟨path.root, path.names.reverse.reverse⟩ : Path) = path := by rw [List.reverse_reverse]
  generalize path.names.reverse = names at same ok ⊢
  cases names with
  | nil =>
    rw [makeDirectoriesFrom] at ok ⊢
    rw [List.reverse_nil] at same
    rw [same] at ok ⊢
    exact isDirectory_of_makeDirectory ok
  | cons name before =>
    rw [makeDirectoriesFrom, outcome_bind, outcome_get] at ok ⊢
    dsimp only at ok ⊢
    rw [same] at ok ⊢
    split
    · next missing =>
      simp only [missing] at ok
      rw [outcome_bind] at ok ⊢
      rcases ran : outcome (makeDirectoriesFrom path.root before) tree with ⟨_ | _, between⟩
      · rw [ran] at ok
        cases ok
      · rw [ran] at ok
        exact isDirectory_of_makeDirectory ok
    · next other =>
      refine isDirectory_of_makeDirectory ?_
      split at ok
      · next missing => exact absurd missing other
      · exact ok

end StorageM

/-! ### Temporary files -/

/-- The place of a temporary file for a target. -/
def temporaryPlace (tree : FileTree) (target : Path) (number : Nat) : Place :=
  tree.placeOf (target.beside (temporaryName target.name number))

variable {tree after : FileTree} {target temporary : Path} {place goal : Place} {bytes : ByteArray}

theorem temporaryName_ne_dots (name : String) (number : Nat) : temporaryName name number ≠ ".." := by
  intro same
  have length := congrArg String.length same
  simp only [temporaryName, String.length_append] at length
  have suffix : ".tmp".length = 4 := rfl
  have dots : "..".length = 2 := rfl
  omega

namespace FileTree

/-- A path beside one whose directory is there leads to its place if something is there. -/
theorem locate_beside {name : String} (directory : tree.isDirectory target.parent = true)
    (forward : name ≠ "..") :
    tree.locate (target.beside name) =
      if maxPathSize < (target.beside name).text.utf8ByteSize ∨ maxNameSize < name.utf8ByteSize then
        .error .nameTooLong
      else if tree.get? (tree.placeOf (target.beside name)) = none then .error .notFound
      else .ok (tree.placeOf (target.beside name)) := by
  obtain ⟨above, located, there⟩ := isDirectory_iff.1 directory
  rw [locate] at located
  split at located
  · cases located
  · have walked : tree.walk (tree.start (target.beside name)) target.names.dropLast = .ok above :=
      located
    have placed : tree.placeOf (target.beside name) = above ++ [name] := by
      rw [placeOf, names_beside, follow_append, ← eq_follow_of_walk walked, follow_singleton,
        if_neg forward]
    rw [locate, names_beside, walk_append, walked, placed]
    by_cases long : maxPathSize < (target.beside name).text.utf8ByteSize
    · simp [long]
    · simp only [long, if_false, false_or, Except.bind, walk, there, if_neg forward]
      split
      · rfl
      · cases found : tree.get? (above ++ [name]) <;> simp

/-- A tree in which nothing has come to a path beside a target finds there what it found before. -/
theorem Keeps.contains_beside {name : String} (keeps : Keeps tree after)
    (directory : tree.isDirectory target.parent = true) (forward : name ≠ "..")
    (free : tree.get? (tree.placeOf (target.beside name)) = none →
      after.get? (tree.placeOf (target.beside name)) = none) :
    after.contains (target.beside name) = tree.contains (target.beside name) := by
  have still := keeps.isDirectory directory
  have same : after.get? (tree.placeOf (target.beside name)) = none ↔
      tree.get? (tree.placeOf (target.beside name)) = none :=
    ⟨fun absent => Decidable.of_not_not fun present => keeps.present _ present absent, free⟩
  have located : after.locate (target.beside name) = tree.locate (target.beside name) := by
    simp only [locate_beside directory forward, locate_beside still forward, keeps.placeOf, same]
  rw [contains, contains, located]

end FileTree

/-- A tree that has more entries, none of them at the place of a temporary file, gives a target the
same temporary path: the number in it is the first that is free. -/
theorem temporaryPath_of_keeps (keeps : Keeps tree after)
    (directory : tree.isDirectory target.parent = true)
    (more : tree.places.length ≤ after.places.length)
    (free : ∀ number, tree.get? (temporaryPlace tree target number) = none →
      after.get? (temporaryPlace tree target number) = none)
    (chosen : temporaryPath tree target = .ok temporary) :
    temporaryPath after target = .ok temporary := by
  have found (number : Nat) := keeps.contains_beside directory
    (temporaryName_ne_dots target.name number) (free number)
  unfold temporaryPath at chosen ⊢
  simp only [List.find?_map, Function.comp_def, found] at chosen ⊢
  split at chosen
  · next path first =>
    cases chosen
    obtain ⟨number, least, rfl⟩ := Option.map_eq_some_iff.1 first
    obtain ⟨isFree, mem, earlier⟩ := List.find?_range_eq_some.1 least
    simp only [places, List.length_map] at more
    -- More numbers are tried in the second tree, but those before the first free one stay taken.
    have again := List.find?_range_eq_some.2 ⟨isFree,
      List.mem_range.2 (Nat.lt_of_lt_of_le (List.mem_range.1 mem) (Nat.succ_le_succ more)), earlier⟩
    rw [again, Option.map_some]
  · cases chosen

/-! ### Writing again -/

/-- Replacing a file by one that holds the same, which is put where nothing is, changes nothing. -/
theorem FileTree.replace_again (located : tree.locateNew temporary = .ok place)
    (free : tree.get? place = none) (goalLocated : tree.locateNew target = .ok goal)
    (holds : tree.get? goal = some (.file bytes)) :
    (tree.put place (.file bytes)).replace temporary target = .ok tree := by
  have nonempty : place ≠ [] := (eq_placeOf_of_locateNew located).2
  have keeps : Keeps tree (tree.put place (.file bytes)) := keeps_put nonempty (by simp [free])
  have there : (tree.put place (.file bytes)).get? place = some (.file bytes) :=
    get?_put_self nonempty
  have found := locate_of_locateNew (keeps.locateNew located) (there ▸ Option.some_ne_none _)
  have away : goal ≠ place := by
    rintro rfl
    rw [free] at holds
    cases holds
  rw [replace, found]
  simp only [there, keeps.locateNew goalLocated, get?_put nonempty, if_neg away, holds,
    erase_put free, put_eq_self (eq_placeOf_of_locateNew goalLocated).2 holds]

/-- **A target that can be written again**: it holds its text, its directory is there, and there is a
free temporary path if one is needed. -/
structure Rewritable (tree : FileTree) (target : Path) (content : Content) (atomic : Bool) : Prop where
  whole : content.isWhole = true
  directory : tree.isDirectory target.parent = true
  holds : ∃ goal, tree.locateNew target = .ok goal ∧
    tree.get? goal = some (.file content.bytes)
  temporary : atomic = true → ∃ temporary place, temporaryPath tree target = .ok temporary ∧
    tree.locateNew temporary = .ok place

variable {content : Content}

/-- Writing in one step what is there changes nothing. -/
theorem Rewritable.writeAtomically (rewritable : Rewritable tree target content true)
    (log : List LogRecord) :
    outcome (writeAtomically target content (.ok ())) ⟨tree, log⟩ =
      (.ok (), ⟨tree, log ++ [wroteRecord target]⟩) := by
  obtain ⟨goal, goalLocated, holds⟩ := rewritable.holds
  obtain ⟨temporary, place, chosen, located⟩ := rewritable.temporary rfl
  have free := get?_eq_none_of_contains located (temporaryPath_eq_ok chosen).2
  have nonempty : place ≠ [] := (eq_placeOf_of_locateNew located).2
  have keeps (bytes : ByteArray) : Keeps tree (tree.put place (.file bytes)) :=
    keeps_put nonempty (by simp [free])
  have opened : tree.writeFile temporary ByteArray.empty =
      .ok (tree.put place (.file ByteArray.empty)) :=
    writeFile_eq_ok_iff.2 ⟨place, located, by simp [free], rfl⟩
  have filled : (tree.put place (.file ByteArray.empty)).writeFile temporary content.bytes =
      .ok (tree.put place (.file content.bytes)) := by
    rw [writeFile_eq_ok_iff]
    exact ⟨place, (keeps _).locateNew located, by simp [get?_put_self nonempty], by rw [put_put]⟩
  -- The temporary file is put, filled and moved over the target, and the tree is as it was.
  unfold EnumCodec.writeAtomically replaceBy
  simp only [outcome_bind, WriteM.outcome_ofStorage, StorageM.outcome_change, outcome_get,
    StorageM.outcome_makeDirectories_of_isDirectory rewritable.directory, result_mapError_ok, chosen,
    opened, outcome_tryCatch, Content.encode_of_isWhole rewritable.whole, filled,
    WriteM.outcome_ofExcept,
    replace_again located free goalLocated holds, outcome_modify]

/-- Plain writing of what is there changes nothing. -/
theorem Rewritable.writeDirectly {atomic : Bool} (rewritable : Rewritable tree target content atomic)
    (log : List LogRecord) :
    outcome (writeDirectly target content (.ok ())) ⟨tree, log⟩ = (.ok (), ⟨tree, log⟩) := by
  obtain ⟨goal, located, holds⟩ := rewritable.holds
  have written : tree.writeFile target content.bytes = .ok tree :=
    writeFile_eq_ok_iff.2 ⟨goal, located, by simp [holds],
      (put_eq_self (eq_placeOf_of_locateNew located).2 holds).symm⟩
  rw [EnumCodec.writeDirectly]
  simp only [outcome_bind, WriteM.outcome_ofExcept, WriteM.outcome_ofStorage,
    StorageM.outcome_makeDirectories_of_isDirectory rewritable.directory, StorageM.outcome_change,
    written, result_mapError_ok, rewritable.whole, Bool.not_true, Bool.false_eq_true, if_false,
    outcome_pure]

/-! ### What a first writing leaves -/

/-- A plain writing that succeeds passes the check. -/
theorem writeDirectly_check {check : Except Failure Unit} {state last : WriteState}
    (ran : outcome (writeDirectly target content check) state = (.ok (), last)) :
    check = .ok () := by
  obtain ⟨_, _, checked, -⟩ := outcome_bind_eq_ok.1 ran
  rw [WriteM.outcome_ofExcept] at checked
  exact congrArg Prod.fst checked

/-- Replacing that succeeds passes the check. -/
theorem replaceBy_check {check : Except Failure Unit} {state last : WriteState}
    (ran : outcome (replaceBy temporary target content check) state = (.ok (), last)) :
    check = .ok () := by
  obtain ⟨_, _, -, ran⟩ := outcome_bind_eq_ok.1 ran
  obtain ⟨_, _, -, ran⟩ := outcome_bind_eq_ok.1 ran
  obtain ⟨_, _, checked, -⟩ := outcome_bind_eq_ok.1 ran
  rw [WriteM.outcome_ofExcept] at checked
  exact congrArg Prod.fst checked

/-- A writing in one step that succeeds passes the check and has a temporary path. -/
theorem writeAtomically_check {check : Except Failure Unit} {state last : WriteState}
    (ran : outcome (writeAtomically target content check) state = (.ok (), last)) :
    check = .ok () ∧ ∃ temporary place,
      temporaryPath (withDirectories state.tree target) target = .ok temporary ∧
      (withDirectories state.tree target).locateNew temporary = .ok place := by
  rw [writeAtomically, outcome_bind, WriteM.outcome_ofStorage] at ran
  unfold withDirectories
  rcases prepared : outcome (StorageM.makeDirectories target.parent) state.tree with ⟨_ | _, made⟩
  · rw [prepared] at ran
    cases ran
  · simp only [prepared, result_mapError_ok, outcome_bind, outcome_get] at ran
    cases chosen : temporaryPath made target with
    | error error =>
      rw [chosen] at ran
      cases ran
    | ok temporary =>
      simp only [chosen, outcome_bind, WriteM.outcome_ofStorage, StorageM.outcome_change] at ran
      cases opened : made.writeFile temporary ByteArray.empty with
      | error error =>
        rw [opened] at ran
        cases ran
      | ok begun =>
        obtain ⟨place, located, -, rfl⟩ := writeFile_eq_ok_iff.1 opened
        refine ⟨?_, temporary, place, rfl, located⟩
        simp only [opened, result_mapError_ok, outcome_tryCatch] at ran
        rcases replaced : outcome (replaceBy temporary target content check)
            { state with tree := made.put place (.file ByteArray.empty) } with ⟨failure | _, later⟩
        · simp only [replaced, outcome_bind, outcome_modify, outcome_throw] at ran
          cases ran
        · exact replaceBy_check replaced

/-- A target that holds its text can be written again if nothing has come to the places of its
temporary files. -/
theorem rewritable_of_keeps {atomic : Bool} (whole : content.isWhole = true)
    (keeps : Keeps tree after)
    (directory : tree.isDirectory target.parent = true) (located : tree.locateNew target = .ok goal)
    (holds : after.get? goal = some (.file content.bytes))
    (more : tree.places.length ≤ after.places.length)
    (free : ∀ number, tree.get? (temporaryPlace tree target number) = none →
      after.get? (temporaryPlace tree target number) = none)
    (temporary : atomic = true → ∃ temporary place, temporaryPath tree target = .ok temporary ∧
      tree.locateNew temporary = .ok place) :
    Rewritable after target content atomic where
  whole := whole
  directory := keeps.isDirectory directory
  holds := ⟨goal, keeps.locateNew located, holds⟩
  temporary used := by
    obtain ⟨temporary, place, chosen, found⟩ := temporary used
    exact ⟨temporary, place, temporaryPath_of_keeps keeps directory more free chosen,
      keeps.locateNew found⟩

end EnumCodec
