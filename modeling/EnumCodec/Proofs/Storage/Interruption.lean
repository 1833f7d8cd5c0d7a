import EnumCodec.Proofs.Storage.Atomic

/-!
# EnumCodec.Proofs.Storage.Interruption

**A file that is written in one step is the old one or the new one at every moment.** The writing is
taken apart into its steps. Each of them may fail, for any reason from outside, and each may be the last
one that is taken. What a writing does in the files that it finds is one run of these steps.

The invariant of all runs says what has come: up to the temporary file only directories on the way to the
target, then that file besides, and in the end the target or the directories alone. One lemma shows that
a step keeps the invariant, the rest reads it place by place.
-/

namespace EnumCodec

open Activity FileTree
open Relation (ReflTransGen)

namespace AtomicWriting

/-! ### Steps -/

/-- How far a writing has come. -/
inductive Stage where
  /-- The directories before the target are being made. -/
  | preparing
  /-- The temporary file is there, and the text does not count as written yet. -/
  | filling (temporary : Path)
  /-- The temporary file holds the text. -/
  | checking (temporary : Path)
  /-- The text has passed the check. -/
  | replacing (temporary : Path)
  /-- A step has failed, and the temporary file is still to be taken away. -/
  | failing (temporary : Path) (failure : Failure)
  /-- The writing is over. -/
  | ended (result : Except Failure Unit)

/-- The path of the temporary file that is there at a stage. -/
def Stage.temporary? : Stage → Option Path
  | .preparing => none
  | .filling temporary => some temporary
  | .checking temporary => some temporary
  | .replacing temporary => some temporary
  | .failing temporary _ => some temporary
  | .ended _ => none

/-- A moment between two steps: how far the writing has come, and the files. -/
structure Moment where
  stage : Stage
  tree : FileTree

/-- A temporary file has the name of the target between dots, some characters that make the name a new
one, and a suffix. -/
def IsTemporary (target temporary : Path) : Prop :=
  ∃ middle, temporary = target.beside ("." ++ target.name ++ "." ++ middle ++ ".tmp")

/-- **One step of a writing.** A step is carried out as the files allow it, or it fails for whatever
reason. Up to the temporary file a failure ends the writing; after that the file is taken away first. A
failing write may leave any bytes in the temporary file, and a failing replacement leaves all as it
is. -/
inductive Step (target : Path) (content : Content) (check : Except Failure Unit) :
    Moment → Moment → Prop
  | makeDirectory {before after : FileTree} (made : MakesDirectory target.parent before after) :
    Step target content check ⟨.preparing, before⟩ ⟨.preparing, after⟩
  | giveUp (tree : FileTree) (failure : Failure) :
    Step target content check ⟨.preparing, tree⟩ ⟨.ended (.error failure), tree⟩
  | openTemporary {before after : FileTree} {temporary : Path}
    (isTemporary : IsTemporary target temporary) (free : before.contains temporary ≠ .ok true)
    (opened : before.writeFile temporary ByteArray.empty = .ok after) :
    Step target content check ⟨.preparing, before⟩ ⟨.filling temporary, after⟩
  | fill {before after : FileTree} {temporary : Path} {bytes : ByteArray}
    (encoded : content.encode? = some bytes)
    (filled : before.writeFile temporary bytes = .ok after) :
    Step target content check ⟨.filling temporary, before⟩ ⟨.checking temporary, after⟩
  | fillInPart {before after : FileTree} {temporary : Path} (bytes : ByteArray) (failure : Failure)
    (left : before.writeFile temporary bytes = .ok after) :
    Step target content check ⟨.filling temporary, before⟩ ⟨.failing temporary failure, after⟩
  | accept (tree : FileTree) (temporary : Path) (accepted : check = .ok ()) :
    Step target content check ⟨.checking temporary, tree⟩ ⟨.replacing temporary, tree⟩
  | reject (tree : FileTree) (temporary : Path) (failure : Failure) :
    Step target content check ⟨.checking temporary, tree⟩ ⟨.failing temporary failure, tree⟩
  | replace {before after : FileTree} {temporary : Path}
    (replaced : before.replace temporary target = .ok after) :
    Step target content check ⟨.replacing temporary, before⟩ ⟨.ended (.ok ()), after⟩
  | keep (tree : FileTree) (temporary : Path) (failure : Failure) :
    Step target content check ⟨.replacing temporary, tree⟩ ⟨.failing temporary failure, tree⟩
  | clean (tree : FileTree) (temporary : Path) (failure : Failure) :
    Step target content check ⟨.failing temporary failure, tree⟩
      ⟨.ended (.error failure), tree.remove temporary⟩

/-- The moments that a writing can come to, whatever fails on the way. -/
def Reaches (target : Path) (content : Content) (check : Except Failure Unit) (before : FileTree) :
    Moment → Prop :=
  ReflTransGen (Step target content check) ⟨.preparing, before⟩

variable {before made tree after : FileTree} {target temporary : Path} {place : Place}
  {content : Content} {check : Except Failure Unit} {bytes : ByteArray} {moment next : Moment}

/-! ### The invariant -/

/-- Nothing has come but directories on the way to the target. -/
def OnlyDirectories (target : Path) : FileTree → FileTree → Prop :=
  ReflTransGen (MakesDirectory target.parent)

/-- Besides directories on the way to the target, a temporary file with these bytes has come, to a place
where nothing was. -/
inductive HasTemporary (before : FileTree) (target temporary : Path) (bytes : ByteArray) :
    FileTree → Prop
  | intro {made : FileTree} {place : Place} (isTemporary : IsTemporary target temporary)
    (directories : OnlyDirectories target before made)
    (located : made.locateNew temporary = .ok place) (free : made.get? place = none) :
    HasTemporary before target temporary bytes (made.put place (.file bytes))

/-- What has come to the files at a moment. -/
def Invariant (before : FileTree) (target : Path) (content : Content) : Moment → Prop
  | ⟨.preparing, tree⟩ => OnlyDirectories target before tree
  | ⟨.filling temporary, tree⟩ => ∃ bytes, HasTemporary before target temporary bytes tree
  | ⟨.checking temporary, tree⟩ =>
    ∃ bytes, content.encode? = some bytes ∧ HasTemporary before target temporary bytes tree
  | ⟨.replacing temporary, tree⟩ =>
    ∃ bytes, content.encode? = some bytes ∧ HasTemporary before target temporary bytes tree
  | ⟨.failing temporary _, tree⟩ => ∃ bytes, HasTemporary before target temporary bytes tree
  | ⟨.ended (.error _), tree⟩ => OnlyDirectories target before tree
  | ⟨.ended (.ok ()), tree⟩ =>
    ∃ made bytes, OnlyDirectories target before made ∧ content.encode? = some bytes ∧
      made.writeFile target bytes = .ok tree

/-- The name of a temporary file is not that of the target. -/
theorem IsTemporary.exists_name (isTemporary : IsTemporary target temporary) :
    ∃ name, temporary = target.beside name ∧ name ≠ target.name := by
  obtain ⟨middle, rfl⟩ := isTemporary
  exact ⟨_, rfl, temporaryName_ne target.name middle⟩

/-- What is written over a temporary file replaces its bytes. -/
theorem HasTemporary.writeFile {other : ByteArray}
    (has : HasTemporary before target temporary bytes tree)
    (written : tree.writeFile temporary other = .ok after) :
    HasTemporary before target temporary other after := by
  obtain ⟨isTemporary, directories, located, free⟩ := has
  rw [writeFile_put_new located free] at written
  cases written
  exact ⟨isTemporary, directories, located, free⟩

/-- Writing over a temporary file always succeeds, as far as it depends on the files. -/
theorem HasTemporary.exists_writeFile (has : HasTemporary before target temporary bytes tree)
    (other : ByteArray) : ∃ after, tree.writeFile temporary other = .ok after := by
  obtain ⟨-, -, located, free⟩ := has
  exact ⟨_, writeFile_put_new located free⟩

/-- Writing over a temporary file what it holds leaves the files as they are. -/
theorem HasTemporary.writeFile_self (has : HasTemporary before target temporary bytes tree) :
    tree.writeFile temporary bytes = .ok tree := by
  obtain ⟨-, -, located, free⟩ := has
  exact writeFile_put_new located free

/-- **A step keeps the invariant**, whether it is carried out or fails. -/
theorem Step.invariant (step : Step target content check moment next)
    (invariant : Invariant before target content moment) : Invariant before target content next := by
  cases step with
  | makeDirectory made => exact invariant.tail made
  | giveUp => exact invariant
  | openTemporary isTemporary free opened =>
    obtain ⟨place, located, -, rfl⟩ := writeFile_eq_ok_iff.1 opened
    exact ⟨_, isTemporary, invariant, located, get?_eq_none_of_contains located free⟩
  | fill encoded filled =>
    obtain ⟨_, has⟩ := invariant
    exact ⟨_, encoded, has.writeFile filled⟩
  | fillInPart bytes failure left =>
    obtain ⟨_, has⟩ := invariant
    exact ⟨bytes, has.writeFile left⟩
  | accept => exact invariant
  | reject =>
    obtain ⟨bytes, -, has⟩ := invariant
    exact ⟨bytes, has⟩
  | replace replaced =>
    -- The temporary file leaves its place, so the target alone has come to the directories.
    obtain ⟨bytes, encoded, isTemporary, directories, located, free⟩ := invariant
    obtain ⟨name, rfl, other⟩ := isTemporary.exists_name
    exact ⟨_, bytes, directories, encoded, replace_eq_ok other located free replaced⟩
  | keep =>
    obtain ⟨bytes, -, has⟩ := invariant
    exact ⟨bytes, has⟩
  | clean =>
    obtain ⟨_, isTemporary, directories, located, free⟩ := invariant
    rw [remove_put_new located free]
    exact directories

/-- **A run keeps the invariant**, wherever it stops. -/
theorem Reaches.invariant (reaches : Reaches target content check before moment) :
    Invariant before target content moment := by
  induction reaches with
  | refl => exact ReflTransGen.refl
  | tail _ step ih => exact step.invariant ih

/-! ### Place by place -/

/-- A place is left as it was. Only if nothing was there and the way to the target leads through it may
there be a directory now. -/
def LeftAlone (before after : FileTree) (target : Path) (place : Place) : Prop :=
  after.get? place = before.get? place ∨
    before.get? place = none ∧ after.get? place = some .directory ∧ before.Passes target.parent place

theorem OnlyDirectories.writes (directories : OnlyDirectories target before tree) :
    Writes before tree (before.Passes target.parent) noContents :=
  writes_of_makesDirectories directories

/-- A directory that has come is on the way to the target. -/
theorem OnlyDirectories.leftAlone (directories : OnlyDirectories target before tree) (place : Place) :
    LeftAlone before tree target place := by
  obtain same | ⟨absent, made⟩ := directories.writes.kept place rfl
  · exact .inl same
  · exact .inr ⟨absent, made, directories.writes.near_of_new absent (by simp [made])⟩

/-- A file at one place leaves the others alone. -/
theorem LeftAlone.put {goal : Place} {entry : Entry} (alone : LeftAlone before made target place)
    (nonempty : goal ≠ []) (other : place ≠ goal) :
    LeftAlone before (made.put goal entry) target place := by
  unfold LeftAlone
  rw [get?_put nonempty, if_neg other]
  exact alone

/-- A place where nothing is now was empty before. -/
theorem LeftAlone.eq_none (alone : LeftAlone before made target place)
    (free : made.get? place = none) : before.get? place = none := by
  obtain same | ⟨absent, -⟩ := alone
  · rw [← same, free]
  · exact absent

/-- The temporary file stands beside the target and not in its place. -/
theorem placeOf_ne_of_located (isTemporary : IsTemporary target temporary)
    (located : made.locateNew temporary = .ok place) : made.placeOf target ≠ place := by
  obtain ⟨name, rfl, other⟩ := isTemporary.exists_name
  obtain ⟨front, last, directory, names, -, walked, -, -, -, rfl⟩ := locateNew_eq_ok_iff.1 located
  rw [names_beside] at names
  obtain ⟨rfl, same⟩ := List.append_inj' names rfl
  cases same
  have start : made.start (target.beside name) = made.start target := rfl
  rw [start] at walked
  rcases List.eq_nil_or_concat target.names with none | ⟨front, last, ended⟩
  · rw [none] at walked
    cases walked
    simp [placeOf, none, follow]
  · rw [List.concat_eq_append] at ended
    rw [ended, List.dropLast_concat] at walked
    obtain rfl := eq_follow_of_walk walked
    have differs : last ≠ name := fun same => other (by
      rw [Path.name, ended, List.getLastD_concat, same])
    rw [placeOf, ended, follow_append, follow_singleton]
    split
    · -- Two dots lead back, and the place of the temporary file is one further.
      intro same
      have length := congrArg List.length same
      simp at length
    · simpa using differs

/-- What is known of the files at a moment: the target is left alone or holds the new text, the temporary
file has come to a place of its own where nothing was, and all other places are left alone. A writing that
has failed leaves the target alone; one that has succeeded leaves the new text at its path. -/
structure IsOldOrNew (before : FileTree) (target : Path) (content : Content) (moment : Moment) :
    Prop where
  goal : LeftAlone before moment.tree target (before.placeOf target) ∨
    ∃ bytes, content.encode? = some bytes ∧
      moment.tree.get? (before.placeOf target) = some (.file bytes)
  temporary : ∀ temporary, moment.stage.temporary? = some temporary →
    IsTemporary target temporary ∧ before.get? (before.placeOf temporary) = none ∧
      before.placeOf target ≠ before.placeOf temporary
  others : ∀ place, place ≠ before.placeOf target →
    (∀ temporary, moment.stage.temporary? = some temporary → place ≠ before.placeOf temporary) →
      LeftAlone before moment.tree target place
  failed : ∀ failure, moment.stage = .ended (.error failure) →
    LeftAlone before moment.tree target (before.placeOf target)
  done : moment.stage = .ended (.ok ()) →
    ∃ bytes, content.encode? = some bytes ∧
      moment.tree.get? (before.placeOf target) = some (.file bytes) ∧
      moment.tree.read target = .ok bytes

/-- Where only directories have come, no temporary file is there. -/
theorem OnlyDirectories.isOldOrNew {stage : Stage} (directories : OnlyDirectories target before tree)
    (removed : stage.temporary? = none) (unfinished : stage ≠ .ended (.ok ())) :
    IsOldOrNew before target content ⟨stage, tree⟩ where
  goal := .inl (directories.leftAlone _)
  temporary _ there := by simp [removed] at there
  others place _ _ := directories.leftAlone place
  failed _ _ := directories.leftAlone _
  done ended := absurd ended unfinished

/-- Where a temporary file has come, the target is as it was. -/
theorem HasTemporary.isOldOrNew {stage : Stage}
    (has : HasTemporary before target temporary bytes tree)
    (there : stage.temporary? = some temporary) :
    IsOldOrNew before target content ⟨stage, tree⟩ := by
  obtain @⟨made, _, isTemporary, directories, located, free⟩ := has
  obtain ⟨placed, nonempty⟩ := eq_placeOf_of_locateNew located
  have keeps := directories.writes.keeps
  have apart := placeOf_ne_of_located isTemporary located
  rw [keeps.placeOf] at apart placed
  subst placed
  have alone (place : Place) (away : place ≠ before.placeOf temporary) :
      LeftAlone before (made.put (before.placeOf temporary) (.file bytes)) target place :=
    (directories.leftAlone place).put nonempty away
  have mine {other : Path} (known : stage.temporary? = some other) : other = temporary :=
    Option.some.inj (known.symm.trans there)
  exact {
    goal := .inl (alone _ apart)
    temporary := fun other known => mine known ▸
      ⟨isTemporary, (directories.leftAlone _).eq_none free, apart⟩
    others := fun place _ away => alone place (away _ there)
    failed := fun _ _ => alone _ apart
    done := fun (ended : stage = _) => by simp [ended, Stage.temporary?] at there }

/-- The invariant says that the target is the old one or the new one. -/
theorem Invariant.isOldOrNew (invariant : Invariant before target content moment) :
    IsOldOrNew before target content moment := by
  obtain ⟨stage, tree⟩ := moment
  match stage with
  | .preparing => exact OnlyDirectories.isOldOrNew invariant rfl nofun
  | .filling temporary =>
    obtain ⟨_, has⟩ := invariant
    exact has.isOldOrNew rfl
  | .checking temporary =>
    obtain ⟨_, -, has⟩ := invariant
    exact has.isOldOrNew rfl
  | .replacing temporary =>
    obtain ⟨_, -, has⟩ := invariant
    exact has.isOldOrNew rfl
  | .failing temporary _ =>
    obtain ⟨_, has⟩ := invariant
    exact has.isOldOrNew rfl
  | .ended (.error _) => exact OnlyDirectories.isOldOrNew invariant rfl nofun
  | .ended (.ok ()) =>
    obtain ⟨made, bytes, directories, encoded, written⟩ := invariant
    obtain ⟨writes, located⟩ := directories.writes.writeFile (fun _ => passes_of_parent)
      ⟨target.names, List.prefix_rfl, rfl⟩ written
    have holds : oneContent (before.placeOf target) bytes (before.placeOf target) = some bytes :=
      if_pos rfl
    obtain ⟨goal, new, -, rfl⟩ := writeFile_eq_ok_iff.1 written
    obtain ⟨placed, nonempty⟩ := eq_placeOf_of_locateNew new
    rw [directories.writes.keeps.placeOf] at placed
    subst placed
    exact {
      goal := .inr ⟨bytes, encoded, (writes.written _ _ holds).2⟩
      temporary := nofun
      others := fun place away _ => (directories.leftAlone place).put nonempty away
      failed := nofun
      done := fun _ => ⟨bytes, encoded, (writes.written _ _ holds).2, writes.read located holds⟩ }

/-- The way to a target without two dots does not lead through the place of the target. -/
theorem not_passes_of_forward (tree : FileTree) (named : target.names ≠ [])
    (forward : ".." ∉ target.names) : ¬ tree.Passes target.parent (tree.placeOf target) := by
  rintro ⟨names, sub, same⟩
  obtain ⟨front, last, ended⟩ := (List.eq_nil_or_concat target.names).resolve_left named
  have parent : target.parent.names = target.names.dropLast := rfl
  have shorter := sub.length_le
  have away : ".." ∉ names := fun dots => forward (List.dropLast_subset _ (sub.subset dots))
  rw [placeOf, follow_eq_append forward, follow_eq_append away] at same
  have length := congrArg List.length same
  have start : tree.start target.parent = tree.start target := rfl
  rw [parent, List.length_dropLast] at shorter
  rw [start, List.length_append, List.length_append] at length
  have some : target.names.length ≠ 0 := by simpa using named
  omega

/-! ### The writing is such a run -/

/-- From the moment at which the temporary file is there, the writing goes on in steps until it is over
or has failed. -/
theorem reaches_replaceBy (state : WriteState)
    (opened : Reaches target content check before ⟨.filling temporary, state.tree⟩) :
    let ran := outcome (replaceBy temporary target content check) state
    (ran.1 = .ok () ∧ Reaches target content check before ⟨.ended (.ok ()), ran.2.tree⟩) ∨
      ∃ failure, ran.1 = .error failure ∧
        Reaches target content check before ⟨.failing temporary failure, ran.2.tree⟩ := by
  obtain ⟨old, has⟩ := opened.invariant
  rw [replaceBy, outcome_bind, WriteM.outcome_ofExcept]
  cases whole : content.isWhole with
  | false =>
    -- A text that cannot be encoded leaves the file as it is.
    rw [Content.encode_of_not_isWhole whole]
    exact .inr ⟨.notEncodable, rfl, opened.tail (.fillInPart old _ has.writeFile_self)⟩
  | true =>
    obtain ⟨filled, written⟩ := has.exists_writeFile content.bytes
    have checking := opened.tail (.fill (Content.encode?_of_isWhole whole) written)
    rw [Content.encode_of_isWhole whole]
    dsimp only
    rw [outcome_bind, WriteM.outcome_ofStorage, StorageM.outcome_change, written]
    simp only [result_mapError_ok]
    rw [outcome_bind, WriteM.outcome_ofExcept]
    cases check with
    | error failure => exact .inr ⟨failure, rfl, checking.tail (.reject _ _ failure)⟩
    | ok =>
      have replacing := checking.tail (.accept _ _ rfl)
      dsimp only
      rw [WriteM.outcome_ofStorage, StorageM.outcome_change]
      cases replaced : filled.replace temporary target with
      | ok made => exact .inl ⟨rfl, replacing.tail (.replace replaced)⟩
      | error cause => exact .inr ⟨.storage cause, rfl, replacing.tail (.keep _ _ _)⟩

/-- **What the writing does in the files that it finds** is one of the runs. -/
theorem reaches_writeAtomically (target : Path) (content : Content) (check : Except Failure Unit)
    (state : WriteState) :
    let ran := outcome (writeAtomically target content check) state
    Reaches target content check state.tree ⟨.ended ran.1, ran.2.tree⟩ := by
  have prepared : Reaches target content check state.tree
      ⟨.preparing, (outcome (StorageM.makeDirectories target.parent) state.tree).2⟩ :=
    (StorageM.makeDirectories_run target.parent state.tree).lift (Moment.mk .preparing)
      fun _ _ made => .makeDirectory made
  rw [writeAtomically, outcome_bind, WriteM.outcome_ofStorage]
  rcases ran : outcome (StorageM.makeDirectories target.parent) state.tree with ⟨error | _, made⟩ <;>
    rw [ran] at prepared
  · exact prepared.tail (.giveUp made _)
  simp only [result_mapError_ok, outcome_bind, outcome_get]
  cases chosen : temporaryPath made target with
  | error error => exact prepared.tail (.giveUp made _)
  | ok temporary =>
    obtain ⟨⟨number, rfl⟩, missing⟩ := temporaryPath_eq_ok chosen
    simp only [outcome_bind, WriteM.outcome_ofStorage, StorageM.outcome_change]
    cases opened : made.writeFile (target.beside (temporaryName target.name number))
        ByteArray.empty with
    | error error => exact prepared.tail (.giveUp made _)
    | ok begun =>
      have isTemporary : IsTemporary target (target.beside (temporaryName target.name number)) :=
        ⟨eightDigits number, rfl⟩
      -- From here on a failure takes the temporary file away before the writing is over.
      have filling := prepared.tail (.openTemporary isTemporary missing opened)
      simp only [result_mapError_ok, outcome_tryCatch]
      obtain ⟨done, finished⟩ | ⟨failure, failed, failing⟩ :=
        reaches_replaceBy { state with tree := begun } filling
      · rcases ran : outcome (replaceBy _ target content check) _ with ⟨result, after⟩
        rw [ran] at done finished
        cases done
        exact finished
      · rcases ran : outcome (replaceBy _ target content check) _ with ⟨result, after⟩
        rw [ran] at failed failing
        cases failed
        exact failing.tail (.clean _ _ failure)

/-- **The old file or the new one at every moment.** What the writing does is a run of its steps, and at
every moment of every run, whatever has failed or is the last step that is taken, the target is left alone
or holds the whole new text, only a temporary file of its own name has come besides, and every other place
is left alone. The only thing that comes to a place that is left alone is a directory where nothing was on
the way to the target; a path without two dots does not lead through its own target. -/
theorem writeAtomically_oldOrNew (target : Path) (content : Content) (check : Except Failure Unit)
    (state : WriteState) :
    (let ran := outcome (writeAtomically target content check) state
     Reaches target content check state.tree ⟨.ended ran.1, ran.2.tree⟩) ∧
    (∀ moment, Reaches target content check state.tree moment →
      IsOldOrNew state.tree target content moment) ∧
    (target.names ≠ [] → ".." ∉ target.names →
      ¬ state.tree.Passes target.parent (state.tree.placeOf target)) :=
  ⟨reaches_writeAtomically target content check state, fun _ reaches => reaches.invariant.isOldOrNew,
    not_passes_of_forward state.tree⟩

/-- A path that leads through its own target. -/
def loopedTarget : Path :=
  ⟨.current, ["x", "..", "x"]⟩

/-- **What a failure does not leave.** Making the directories of such a path puts a directory where the
file should go, and nothing was there before. -/
theorem writeAtomically_looped :
    let ran := outcome (writeAtomically loopedTarget "" (.ok ())) { tree := {} }
    ran.1 = .error (.storage .isADirectory) ∧
      ({} : FileTree).get? (({} : FileTree).placeOf loopedTarget) = none ∧
      ran.2.tree.get? (({} : FileTree).placeOf loopedTarget) = some .directory := by
  refine ⟨rfl, ?_, ?_⟩ <;> decide +kernel

end AtomicWriting

end EnumCodec
