import EnumCodec.Proofs.Generator.Writing
import EnumCodec.Proofs.Storage.Rewriting

/-!
# EnumCodec.Proofs.Generator.Rewriting

**Writing converters that have been written.** Where converters have different places, and none of
them or of their directories gets in the way of a temporary file, a run that writes them all leaves a
tree in which each of them can be written again. Writing some of them again changes nothing.
-/

namespace EnumCodec

open Activity FileTree

variable {tree before after : FileTree} {settings : OutputSettings} {language : Language}
  {targets : List (Path × ConverterFile)} {path : Path} {place : Place}

/-! ### Writing again -/

/-- The check that a text passes before it is written. -/
def checkOf (settings : OutputSettings) (language : Language) (content : Content) :
    Except Failure Unit :=
  if settings.validate.truthy then validate language.name content else .ok ()

/-- A converter that can be written again. -/
structure WritesAgain (settings : OutputSettings) (language : Language) (tree : FileTree)
    (target : Path × ConverterFile) : Prop where
  check : checkOf settings language target.2.content = .ok ()
  rewritable : Rewritable tree target.1 target.2.content settings.atomic.truthy

theorem WritesAgain.writeFile {target : Path × ConverterFile}
    (again : WritesAgain settings language tree target) (log : List LogRecord) :
    ∃ log', outcome (writeFile settings language target.1 target.2.content) ⟨tree, log⟩ =
      (.ok (), ⟨tree, log'⟩) := by
  have check := again.check
  have rewritable := again.rewritable
  unfold checkOf at check
  unfold EnumCodec.writeFile
  dsimp only
  rw [check]
  split
  · next atomic =>
    rw [atomic] at rewritable
    exact ⟨_, rewritable.writeAtomically log⟩
  · exact ⟨_, rewritable.writeDirectly log⟩

/-- **Writing again changes nothing.** -/
theorem writeFiles_again (all : ∀ target ∈ targets, WritesAgain settings language tree target)
    (log : List LogRecord) :
    ∃ log', outcome (writeFiles settings language targets) ⟨tree, log⟩ = (.ok (), ⟨tree, log'⟩) := by
  induction targets generalizing log with
  | nil => exact ⟨log, rfl⟩
  | cons target rest ih =>
    obtain ⟨between, ran⟩ := (all target List.mem_cons_self).writeFile log
    obtain ⟨last, ran'⟩ := ih (fun other mem => all other (List.mem_cons_of_mem target mem)) between
    refine ⟨last, ?_⟩
    rw [writeFiles, outcome_bind, ran]
    exact ran'

/-! ### Places that get in no way -/

/-- Some targets have different places, and no temporary file for one of them would be on the way to
any of them. -/
structure Apart (tree : FileTree) (targets : List (Path × ConverterFile)) : Prop where
  distinct : targets.Pairwise fun one other => tree.placeOf one.1 ≠ tree.placeOf other.1
  temporary : ∀ target ∈ targets, ∀ number,
    ¬ OnTheWay tree targets (temporaryPlace tree target.1 number)

theorem FileTree.Keeps.onTheWay (keeps : Keeps before after) :
    OnTheWay after targets place ↔ OnTheWay before targets place := by
  simp only [OnTheWay, Passes, keeps.start]

theorem FileTree.Keeps.temporaryPlace (keeps : Keeps before after) (target : Path) (number : Nat) :
    EnumCodec.temporaryPlace after target number = EnumCodec.temporaryPlace before target number :=
  keeps.placeOf _

/-- What is on the way to one of the targets behind the first is on the way to one of all. -/
theorem OnTheWay.cons {target : Path × ConverterFile} (way : OnTheWay tree targets place) :
    OnTheWay tree (target :: targets) place := by
  obtain ⟨other, mem, passes⟩ := way
  exact ⟨other, List.mem_cons_of_mem target mem, passes⟩

/-- The targets behind the first are apart in a tree that keeps everything. -/
theorem Apart.tail {target : Path × ConverterFile} (apart : Apart before (target :: targets))
    (keeps : Keeps before after) : Apart after targets where
  distinct := by
    simp only [keeps.placeOf]
    exact (List.pairwise_cons.1 apart.distinct).2
  temporary other mem number way := by
    rw [keeps.onTheWay, keeps.temporaryPlace] at way
    exact apart.temporary other (List.mem_cons_of_mem target mem) number way.cons

/-! ### What a run leaves -/

namespace FileTree

variable {near : Place → Prop} {contents : Place → Option ByteArray}

theorem Writes.length_places_le (writes : Writes before after near contents) :
    before.places.length ≤ after.places.length := by
  obtain ⟨added, places, -⟩ := writes.places
  rw [places, List.length_append]
  exact Nat.le_add_right _ _

end FileTree

/-- A writing that succeeds passes the check, and has a temporary path if it goes by way of one. -/
theorem writeFile_check {content : Content} {state last : WriteState}
    (ran : outcome (writeFile settings language path content) state = (.ok (), last)) :
    checkOf settings language content = .ok () ∧
      (settings.atomic.truthy = true → ∃ temporary place,
        temporaryPath (withDirectories state.tree path) path = .ok temporary ∧
        (withDirectories state.tree path).locateNew temporary = .ok place) := by
  unfold writeFile at ran
  dsimp only at ran
  split at ran
  · obtain ⟨check, temporary⟩ := writeAtomically_check ran
    exact ⟨check, fun _ => temporary⟩
  · next plain => exact ⟨writeDirectly_check ran, fun atomic => absurd atomic plain⟩

/-- **One step.** A converter that has been written can be written again as long as what is written
later gets in its way nowhere. -/
theorem writesAgain_of_writeFile {file : ConverterFile} {state between last : WriteState}
    {near : Place → Prop} {contents : Place → Option ByteArray}
    (ran : outcome (writeFile settings language path file.content) state = (.ok (), between))
    (later : Writes between.tree last.tree near contents)
    (unwritten : contents (state.tree.placeOf path) = none)
    (away : ∀ number, temporaryPlace state.tree path number ≠ state.tree.placeOf path ∧
      ¬ near (temporaryPlace state.tree path number)) :
    WritesAgain settings language last.tree (path, file) := by
  obtain ⟨check, temporary⟩ := writeFile_check ran
  refine ⟨check, ?_⟩
  obtain ⟨_, eq, whole, directories, written⟩ | ⟨_, _, eq, -⟩ :=
    writeFile_leaves settings language path file.content state
  · rw [ran] at eq
    cases eq
    have made := (withDirectories_writes state.tree path).keeps
    obtain ⟨place, located, noDirectory, put⟩ := writeFile_eq_ok_iff.1 written
    obtain ⟨rfl, nonempty⟩ := eq_placeOf_of_locateNew located
    -- Once the directories are made, the file is all that is put.
    have one : Writes (withDirectories state.tree path) between.tree (· = state.tree.placeOf path)
        (oneContent _ file.content.bytes) :=
      put ▸ writes_putFile nonempty noDirectory (made.placeOf path)
    have holds : between.tree.get? ((withDirectories state.tree path).placeOf path) =
        some (.file file.content.bytes) := by
      rw [put, get?_put_self nonempty]
    refine rewritable_of_keeps whole (one.keeps.trans later.keeps)
      (StorageM.isDirectory_of_makeDirectories directories) located
      (later.get?_file (by rwa [made.placeOf]) holds)
      (Nat.le_trans one.length_places_le later.length_places_le) (fun number free => ?_) temporary
    obtain ⟨off, far⟩ := away number
    rw [made.temporaryPlace] at free ⊢
    exact later.get?_eq_none far (one.get?_eq_none off free)
  · rw [ran] at eq
    cases eq

/-- **A whole run.** Converters that are apart can all be written again after they have been. -/
theorem writesAgain_of_writeFiles {state last : WriteState} (apart : Apart state.tree targets)
    (ran : outcome (writeFiles settings language targets) state = (.ok (), last)) :
    ∀ target ∈ targets, WritesAgain settings language last.tree target := by
  induction targets generalizing state with
  | nil => simp
  | cons target rest ih =>
    obtain ⟨path, file⟩ := target
    obtain ⟨_, between, first, others⟩ := outcome_bind_eq_ok.1 ran
    obtain ⟨_, eq, -, one⟩ | ⟨_, _, eq, -⟩ := writeFile_step settings language path file state
    · rw [first] at eq
      cases eq
      have keeps := one.writes.keeps
      -- For the first target the run over the rest is what is written later.
      obtain ⟨_, eq, -, holds⟩ | ⟨_, _, _, _, _, _, _, -, eq, -⟩ :=
        writeFiles_run settings language rest between
      · rw [others] at eq
        cases eq
        refine List.forall_mem_cons.2 ⟨?_, ih (apart.tail keeps) others⟩
        refine writesAgain_of_writeFile first holds.writes ?_ fun number => ?_
        · refine lastContent?_eq_none fun other mem => ?_
          rw [keeps.placeOf]
          exact ((List.pairwise_cons.1 apart.distinct).1 other mem).symm
        · have off := apart.temporary (path, file) List.mem_cons_self number
          refine ⟨fun same => off ⟨(path, file), List.mem_cons_self, path.names, List.prefix_rfl,
            same⟩, fun way => off ?_⟩
          rw [keeps.onTheWay] at way
          exact way.cons
      · rw [others] at eq
        cases eq
    · rw [first] at eq
      cases eq

end EnumCodec
