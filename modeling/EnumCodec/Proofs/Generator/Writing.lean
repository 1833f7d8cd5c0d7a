import EnumCodec.Generator.Writing
import EnumCodec.Proofs.Storage.Atomic

/-!
# EnumCodec.Proofs.Generator.Writing

**Everything that writing converters can do to the files.** The checks before the writing change
nothing. The writing itself goes through the converters in order, each of which is written in full or
not at all, so a run leaves the tree in which a first part of the converters has been written and
nothing else but directories has come. There is one exception: without a temporary file, a converter
whose text cannot be encoded leaves an empty file. Paths are compared as they are spelled, so two paths
can lead to one place; there the converter that comes later counts.
-/

namespace EnumCodec

open Activity FileTree

variable {tree before after : FileTree} {settings : OutputSettings} {language : Language}
  {targets front back : List (Path × ConverterFile)} {path : Path} {content : Content}

/-! ### The checks before the writing -/

/-- There is no shared path if all paths are different, from each other and from those seen before. -/
theorem sharedPath?_eq_none_iff (seen : List (Path × String)) :
    sharedPath? seen targets = none ↔
      (targets.map (·.1)).Nodup ∧ ∀ target ∈ targets, target.1 ∉ seen.map (·.1) := by
  induction targets generalizing seen with
  | nil => simp [sharedPath?]
  | cons target rest ih =>
    obtain ⟨path, file⟩ := target
    rw [sharedPath?]
    cases found : seen.lookup path with
    | some owner =>
      have mem : path ∈ seen.map (·.1) := by
        apply Decidable.of_not_not
        rw [← Entries.lookup_eq_none_iff, found]
        simp
      simp only [reduceCtorEq, false_iff, not_and]
      exact fun _ apart => apart (path, file) List.mem_cons_self mem
    | none =>
      have absent := (Entries.lookup_eq_none_iff seen path).1 found
      rw [List.forall_mem_cons]
      simp only [ih, List.map_cons, List.nodup_cons, List.mem_cons, not_or]
      constructor
      · rintro ⟨nodup, apart⟩
        refine ⟨⟨fun mem => ?_, nodup⟩, absent, fun other mem => (apart other mem).2⟩
        obtain ⟨other, mem, same⟩ := List.mem_map.1 mem
        exact (apart other mem).1 same
      · rintro ⟨⟨fresh, nodup⟩, -, apart⟩
        refine ⟨nodup, fun other mem => ⟨fun same => fresh ?_, apart other mem⟩⟩
        exact List.mem_map.2 ⟨other, mem, same⟩

/-- The check of the targets passes if nothing is at any of the paths. -/
theorem checkTargets_eq_ok_iff (tree : FileTree) (paths : List Path) :
    checkTargets tree paths = .ok () ↔ ∀ path ∈ paths, tree.contains path = .ok false := by
  induction paths with
  | nil => simp [checkTargets]
  | cons path rest ih =>
    rw [checkTargets, List.forall_mem_cons]
    cases looked : tree.contains path with
    | error cause => simp
    | ok there => cases there <;> simp [ih]

/-- The check of the targets fails at the first path that is not free: something is there, or the path
is too long to be looked up. -/
theorem checkTargets_eq_error {paths : List Path} {failure : Failure}
    (failed : checkTargets tree paths = .error failure) :
    ∃ earlier path later, paths = earlier ++ path :: later ∧
      (∀ other ∈ earlier, tree.contains other = .ok false) ∧
      (tree.contains path = .ok true ∧ failure = .generation (.targetExists path) ∨
        tree.contains path = .error .nameTooLong ∧ failure = .storage .nameTooLong) := by
  induction paths with
  | nil => cases failed
  | cons path rest ih =>
    rw [checkTargets] at failed
    cases looked : tree.contains path with
    | error cause =>
      obtain rfl := contains_eq_error looked
      rw [looked] at failed
      cases failed
      exact ⟨[], path, rest, rfl, by simp, .inr ⟨looked, rfl⟩⟩
    | ok there =>
      rw [looked] at failed
      cases there with
      | true =>
        cases failed
        exact ⟨[], path, rest, rfl, by simp, .inl ⟨looked, rfl⟩⟩
      | false =>
        obtain ⟨earlier, found, later, rfl, free, why⟩ := ih failed
        exact ⟨path :: earlier, found, later, rfl, by simpa [looked] using free, why⟩

/-! ### Writing one converter -/

/-- Either way, the writing of a converter leaves its file or at most directories. -/
theorem writeFile_leaves (settings : OutputSettings) (language : Language) (path : Path)
    (content : Content) :
    LeavesFile settings.atomic.truthy (writeFile settings language path content) path content := by
  unfold writeFile
  dsimp only
  split
  · next atomic =>
    rw [atomic]
    exact writeAtomically_leaves path content _
  · next direct =>
    rw [Bool.not_eq_true _ |>.mp direct]
    exact writeDirectly_leaves path content _

/-- The directories that are made for a target lie on the way to it. -/
theorem withDirectories_writes (tree : FileTree) (target : Path) :
    Writes tree (withDirectories tree target) (tree.Passes target) noContents :=
  (StorageM.makeDirectories_writes target.parent tree).mono fun _ => passes_of_parent

/-- A file that has been put after its directories is the only file that has been written, and its path
leads to it. -/
theorem writes_of_writeFile {target : Path} {bytes : ByteArray}
    (written : (withDirectories before target).writeFile target bytes = .ok after) :
    Writes before after (before.Passes target) (oneContent (before.placeOf target) bytes) ∧
      after.locate target = .ok (before.placeOf target) :=
  (withDirectories_writes before target).writeFile (fun _ => id)
    ⟨target.names, List.prefix_rfl, rfl⟩ written

/-! ### Writing converters in order -/

/-- What some converters leave at a place: what the last one whose path leads there does. -/
def lastContent? (tree : FileTree) : List (Path × ConverterFile) → Place → Option ByteArray
  | [] => noContents
  | (path, file) :: rest =>
    laterContents (lastContent? tree rest) (oneContent (tree.placeOf path) file.content.bytes)

/-- Is the place on the way to one of some targets? -/
def OnTheWay (tree : FileTree) (targets : List (Path × ConverterFile)) (place : Place) : Prop :=
  ∃ target ∈ targets, tree.Passes target.1 place

theorem lastContent?_append (tree : FileTree) (front back : List (Path × ConverterFile)) :
    lastContent? tree (front ++ back) =
      laterContents (lastContent? tree back) (lastContent? tree front) := by
  induction front with
  | nil => simp [lastContent?]
  | cons target rest ih =>
    rw [List.cons_append, lastContent?, ih, lastContent?]
    funext place
    simp only [laterContents, Option.or_assoc]

theorem lastContent?_congr (same : after.current = before.current) :
    lastContent? after targets = lastContent? before targets := by
  induction targets with
  | nil => rfl
  | cons target rest ih =>
    rw [lastContent?, lastContent?, ih, placeOf, placeOf, start, start, same]

/-- Nothing is left at a place to which no path leads. -/
theorem lastContent?_eq_none {place : Place}
    (away : ∀ target ∈ targets, tree.placeOf target.1 ≠ place) :
    lastContent? tree targets place = none := by
  induction targets with
  | nil => rfl
  | cons target rest ih =>
    rw [lastContent?, laterContents, ih fun other mem => away other (List.mem_cons_of_mem _ mem),
      oneContent, if_neg (Ne.symm (away target List.mem_cons_self))]
    rfl

/-- **A tree in which some converters have been written, and nothing else.** Each of the paths leads
to its place, and a file can be read there that holds the text of the last converter for that place. -/
structure Holds (before after : FileTree) (near : Place → Prop)
    (targets : List (Path × ConverterFile)) : Prop where
  writes : Writes before after near (lastContent? before targets)
  locate : ∀ target ∈ targets, after.locate target.1 = .ok (before.placeOf target.1)

/-- The file of a converter can be read if no later one is written to the same place. -/
theorem Holds.read {near : Place → Prop} {file : ConverterFile}
    (holds : Holds before after near (front ++ (path, file) :: back))
    (last : ∀ later ∈ back, before.placeOf later.1 ≠ before.placeOf path) :
    after.read path = .ok file.content.bytes := by
  refine holds.writes.read (holds.locate (path, file) (by simp)) ?_
  simp [lastContent?_append, lastContent?, laterContents, lastContent?_eq_none last, oneContent]

theorem Holds.nil (tree : FileTree) (near : Place → Prop) : Holds tree tree near [] :=
  ⟨Writes.refl tree near, by simp⟩

/-- What was written first and what was written then have been written together. -/
theorem Holds.append {near : Place → Prop} (one : Holds before tree near front)
    (two : Holds tree after near back) : Holds before after near (front ++ back) where
  writes := by
    rw [lastContent?_append, ← lastContent?_congr one.writes.current]
    exact one.writes.trans two.writes
  locate target mem := by
    obtain mem | mem := List.mem_append.1 mem
    · exact two.writes.keeps.locate (one.locate target mem)
    · rw [← one.writes.keeps.placeOf]
      exact two.locate target mem

theorem Holds.mono {near wide : Place → Prop} (holds : Holds before after near targets)
    (weaker : ∀ place, near place → wide place) : Holds before after wide targets :=
  ⟨holds.writes.mono weaker, holds.locate⟩

/-- A converter has been emptied: it was to be written without a temporary file, and its text cannot be
encoded. What such a text leaves in a file is nothing. -/
def Empties (settings : OutputSettings) (failure : Failure) (file : ConverterFile) : Prop :=
  settings.atomic.truthy = false ∧ failure = .notEncodable ∧ file.content.encode? = none

/-- What a converter leaves at its path once its file has been put. -/
theorem holds_of_writeFile {file : ConverterFile}
    (written : (withDirectories before path).writeFile path file.content.bytes = .ok after) :
    Holds before after (before.Passes path) [(path, file)] := by
  obtain ⟨writes, located⟩ := writes_of_writeFile written
  exact ⟨by simpa [lastContent?] using writes, by simpa using located⟩

/-- **One step.** A converter is written in full, or nothing but directories on the way to it is
added, unless it is emptied. -/
theorem writeFile_step (settings : OutputSettings) (language : Language) (path : Path)
    (file : ConverterFile) (state : WriteState) :
    (∃ after, outcome (writeFile settings language path file.content) state = (.ok (), after) ∧
        file.content.isWhole = true ∧
        Holds state.tree after.tree (state.tree.Passes path) [(path, file)]) ∨
      ∃ failure after,
        outcome (writeFile settings language path file.content) state = (.error failure, after) ∧
        (Holds state.tree after.tree (state.tree.Passes path) [] ∨
          Empties settings failure file ∧
            Holds state.tree after.tree (state.tree.Passes path) [(path, file)]) := by
  obtain ⟨after, ran, whole, -, written⟩ |
      ⟨failure, after, ran, same | made | ⟨direct, rfl, broken, written⟩⟩ :=
    writeFile_leaves settings language path file.content state
  · exact .inl ⟨after, ran, whole, holds_of_writeFile written⟩
  · exact .inr ⟨failure, after, ran, .inl (same ▸ Holds.nil _ _)⟩
  · exact .inr ⟨failure, after, ran, .inl ⟨made ▸ withDirectories_writes _ _, by simp⟩⟩
  · exact .inr ⟨_, after, ran,
      .inr ⟨⟨direct, rfl, Content.encode?_of_not_isWhole broken⟩, holds_of_writeFile written⟩⟩

/-- **A whole run.** All converters are written, or a first part of them is, and the next one fails. -/
theorem writeFiles_run (settings : OutputSettings) (language : Language)
    (targets : List (Path × ConverterFile)) (state : WriteState) :
    (∃ after, outcome (writeFiles settings language targets) state = (.ok (), after) ∧
        (∀ target ∈ targets, target.2.content.isWhole = true) ∧
        Holds state.tree after.tree (OnTheWay state.tree targets) targets) ∨
      ∃ failure after front path file back between, targets = front ++ (path, file) :: back ∧
        outcome (writeFiles settings language targets) state = (.error failure, after) ∧
        outcome (writeFiles settings language front) state = (.ok (), between) ∧
        outcome (writeFile settings language path file.content) between = (.error failure, after) ∧
        (Holds state.tree after.tree (OnTheWay state.tree targets) front ∨
          Empties settings failure file ∧
            Holds state.tree after.tree (OnTheWay state.tree targets) (front ++ [(path, file)])) := by
  induction targets generalizing state with
  | nil => exact .inl ⟨state, rfl, by simp, Holds.nil _ _⟩
  | cons target rest ih =>
    obtain ⟨path, file⟩ := target
    have here (place : Place) (passes : state.tree.Passes path place) :
        OnTheWay state.tree ((path, file) :: rest) place := ⟨(path, file), by simp, passes⟩
    obtain ⟨middle, ran, whole, one⟩ | ⟨failure, after, ran, failed⟩ :=
      writeFile_step settings language path file state
    · -- The paths of the rest are the same ones in the tree that the first converter leaves.
      have there (place : Place) (way : OnTheWay middle.tree rest place) :
          OnTheWay state.tree ((path, file) :: rest) place := by
        obtain ⟨target, mem, names, sub, eq⟩ := way
        exact ⟨target, List.mem_cons_of_mem _ mem, names, sub, one.writes.keeps.start _ ▸ eq⟩
      obtain ⟨after, rested, wholes, two⟩ | ⟨failure, after, front, path', file', back, between, rfl,
        rested, before, failed, two⟩ := ih middle
      · refine .inl ⟨after, ?_, List.forall_mem_cons.2 ⟨whole, wholes⟩,
          (one.mono here).append (two.mono there)⟩
        rw [writeFiles, outcome_bind, ran]
        exact rested
      · refine .inr ⟨failure, after, (path, file) :: front, path', file', back, between, rfl, ?_, ?_,
          failed, two.imp (fun two => (one.mono here).append (two.mono there))
            fun two => ⟨two.1, (one.mono here).append (two.2.mono there)⟩⟩
        · rw [writeFiles, outcome_bind, ran]
          exact rested
        · rw [writeFiles, outcome_bind, ran]
          exact before
    · refine .inr ⟨failure, after, [], path, file, rest, state, rfl, ?_, rfl, ran,
        failed.imp (·.mono here) fun emptied => ⟨emptied.1, emptied.2.mono here⟩⟩
      rw [writeFiles, outcome_bind, ran]

/-- However a run ends, it leaves the tree in which a first part of the converters has been written. -/
theorem writeFiles_holds (settings : OutputSettings) (language : Language)
    (targets : List (Path × ConverterFile)) (state : WriteState) :
    ∃ written, written <+: targets ∧
      Holds state.tree (outcome (writeFiles settings language targets) state).2.tree
        (OnTheWay state.tree targets) written := by
  obtain ⟨after, ran, -, holds⟩ | ⟨failure, after, front, path, file, back, -, split, ran, -, -,
      holds | ⟨-, holds⟩⟩ := writeFiles_run settings language targets state
  · exact ⟨targets, List.prefix_rfl, by rwa [ran]⟩
  · exact ⟨front, split ▸ List.prefix_append _ _, by rwa [ran]⟩
  · exact ⟨front ++ [(path, file)], ⟨back, by rw [split, List.append_assoc]; rfl⟩, by rwa [ran]⟩

/-- Two ways of writing that both succeed leave the same tree. -/
theorem LeavesFile.tree_eq {one two : WriteM Unit} {atomic atomic' : Bool}
    (first : LeavesFile atomic one path content) (second : LeavesFile atomic' two path content)
    {state state' after after' : WriteState}
    (same : state.tree = state'.tree) (ran : outcome one state = (.ok (), after))
    (ran' : outcome two state' = (.ok (), after')) : after.tree = after'.tree := by
  obtain ⟨_, eq, -, -, written⟩ | ⟨_, _, eq, -⟩ := first state
  · obtain ⟨_, eq', -, -, written'⟩ | ⟨_, _, eq', -⟩ := second state'
    · rw [ran] at eq
      rw [ran'] at eq'
      cases eq
      cases eq'
      rw [same, written'] at written
      exact (Except.ok.inj written).symm
    · rw [ran'] at eq'
      cases eq'
  · rw [ran] at eq
    cases eq

/-- The settings do not matter to the tree that a successful run leaves. -/
theorem writeFiles_tree_eq {settings settings' : OutputSettings} {language : Language}
    {state state' after after' : WriteState} (same : state.tree = state'.tree)
    (ran : outcome (writeFiles settings language targets) state = (.ok (), after))
    (ran' : outcome (writeFiles settings' language targets) state' = (.ok (), after')) :
    after.tree = after'.tree := by
  induction targets generalizing state state' with
  | nil =>
    cases ran
    cases ran'
    exact same
  | cons target rest ih =>
    obtain ⟨path, file⟩ := target
    obtain ⟨_, between, first, then_⟩ := outcome_bind_eq_ok.1 ran
    obtain ⟨_, between', first', then'⟩ := outcome_bind_eq_ok.1 ran'
    exact ih ((writeFile_leaves settings language path file.content).tree_eq
      (writeFile_leaves settings' language path file.content) same first first') then_ then'

/-! ### All outcomes -/

/-- Why nothing may be written: two paths are the same, or a target is protected and not free. -/
def Refused (settings : OutputSettings) (tree : FileTree) (paths : List Path) : Prop :=
  ¬ paths.Nodup ∨
    settings.mode.protectsFiles = true ∧ ∃ path ∈ paths, tree.contains path ≠ .ok false

section Outcomes

variable (config : Config) (settings : OutputSettings) (language : Language) (directory : Path)
  (files : List ConverterFile) (state : WriteState)

/-- The outcome of writing some converters with some settings. -/
def writeOutcome : Except Failure (List Path) × WriteState :=
  outcome (writeConverters { config with output := .settings settings } language directory files)
    state

variable {settings directory files state}

/-- A configuration with settings for writing writes with them. -/
theorem outcome_writeConverters (written : config.output = .settings settings) :
    outcome (writeConverters config language directory files) state =
      writeOutcome config settings language directory files state := by
  rw [writeOutcome, ← written]

/-- Two converters with one path are refused, and nothing changes. -/
theorem writeOutcome_of_shared
    (shared : ¬ ((targetPaths directory files).map (·.1)).Nodup) :
    ∃ cause, writeOutcome config settings language directory files state =
      (.error (.generation cause), state) := by
  cases found : sharedPath? [] (targetPaths directory files) with
  | none => exact absurd ((sharedPath?_eq_none_iff []).1 found).1 shared
  | some cause =>
    refine ⟨cause, ?_⟩
    rw [writeOutcome, writeConverters]
    simp only [found, outcome_throw]

/-- If no two converters have one path, the writing goes on to the check of the targets. -/
theorem writeOutcome_of_nodup (nodup : ((targetPaths directory files).map (·.1)).Nodup) :
    writeOutcome config settings language directory files state =
      match (if settings.mode.protectsFiles then
          checkTargets state.tree ((targetPaths directory files).map (·.1)) else .ok ()) with
      | .error failure => (.error failure, state)
      | .ok () =>
        match outcome (writeFiles settings language (targetPaths directory files)) state with
        | (.ok (), after) => (.ok ((targetPaths directory files).map (·.1)), after)
        | (.error failure, after) => (.error failure, after) := by
  have unshared : sharedPath? [] (targetPaths directory files) = none :=
    (sharedPath?_eq_none_iff []).2 ⟨nodup, by simp⟩
  rw [writeOutcome, writeConverters]
  simp only [unshared, outcome_bind, WriteM.outcome_ofExcept, outputSettings, Section.read]
  by_cases protects : settings.mode.protectsFiles
  · simp only [protects, if_true, outcome_bind, outcome_get, WriteM.outcome_ofExcept]
    cases checkTargets state.tree ((targetPaths directory files).map (·.1)) with
    | error failure => rfl
    | ok =>
      dsimp only
      rcases outcome (writeFiles settings language (targetPaths directory files)) state with
        ⟨_ | _, after⟩ <;> rfl
  · simp only [protects, Bool.false_eq_true, if_false, outcome_bind]
    rcases outcome (writeFiles settings language (targetPaths directory files)) state with
      ⟨_ | _, after⟩ <;> rfl

/-- A protected target that is not free is refused at the first such target, and nothing changes. -/
theorem writeOutcome_of_protected (nodup : ((targetPaths directory files).map (·.1)).Nodup)
    (protects : settings.mode.protectsFiles = true)
    (taken : ∃ path ∈ (targetPaths directory files).map (·.1),
      state.tree.contains path ≠ .ok false) :
    ∃ earlier path later, (targetPaths directory files).map (·.1) = earlier ++ path :: later ∧
      (∀ other ∈ earlier, state.tree.contains other = .ok false) ∧
      (state.tree.contains path = .ok true ∧
          writeOutcome config settings language directory files state =
            (.error (.generation (.targetExists path)), state) ∨
        state.tree.contains path = .error .nameTooLong ∧
          writeOutcome config settings language directory files state =
            (.error (.storage .nameTooLong), state)) := by
  rw [writeOutcome_of_nodup config language nodup, if_pos protects]
  cases checked : checkTargets state.tree ((targetPaths directory files).map (·.1)) with
  | ok =>
    obtain ⟨path, mem, taken⟩ := taken
    exact absurd ((checkTargets_eq_ok_iff _ _).1 checked path mem) taken
  | error failure =>
    obtain ⟨earlier, path, later, eq, free, ⟨there, rfl⟩ | ⟨long, rfl⟩⟩ :=
      checkTargets_eq_error checked
    · exact ⟨earlier, path, later, eq, free, .inl ⟨there, rfl⟩⟩
    · exact ⟨earlier, path, later, eq, free, .inr ⟨long, rfl⟩⟩

/-- What is not refused is written. -/
theorem writeOutcome_of_not_refused
    (allowed : ¬ Refused settings state.tree ((targetPaths directory files).map (·.1))) :
    writeOutcome config settings language directory files state =
      match outcome (writeFiles settings language (targetPaths directory files)) state with
      | (.ok (), after) => (.ok ((targetPaths directory files).map (·.1)), after)
      | (.error failure, after) => (.error failure, after) := by
  unfold Refused at allowed
  rw [not_or, Decidable.not_not, not_and] at allowed
  rw [writeOutcome_of_nodup config language allowed.1]
  by_cases protects : settings.mode.protectsFiles
  · have free := (checkTargets_eq_ok_iff state.tree
        ((targetPaths directory files).map (·.1))).2 fun path mem =>
        Classical.byContradiction fun taken => allowed.2 protects ⟨path, mem, taken⟩
    rw [if_pos protects, free]
  · rw [if_neg protects]

theorem writeOutcome_tree_of_not_refused
    (allowed : ¬ Refused settings state.tree ((targetPaths directory files).map (·.1))) :
    (writeOutcome config settings language directory files state).2.tree =
      (outcome (writeFiles settings language (targetPaths directory files)) state).2.tree := by
  rw [writeOutcome_of_not_refused config language allowed]
  rcases outcome (writeFiles settings language (targetPaths directory files)) state with
    ⟨_ | _, after⟩ <;> rfl

/-- A refusal changes nothing, whatever its cause. -/
theorem writeOutcome_of_refused
    (refused : Refused settings state.tree ((targetPaths directory files).map (·.1))) :
    ∃ failure, writeOutcome config settings language directory files state =
      (.error failure, state) := by
  by_cases nodup : ((targetPaths directory files).map (·.1)).Nodup
  · obtain shared | ⟨protects, taken⟩ := refused
    · exact absurd nodup shared
    · obtain ⟨_, _, _, -, -, ⟨-, ran⟩ | ⟨-, ran⟩⟩ :=
        writeOutcome_of_protected config language nodup protects taken
      · exact ⟨_, ran⟩
      · exact ⟨_, ran⟩
  · obtain ⟨_, ran⟩ := writeOutcome_of_shared config language nodup
    exact ⟨_, ran⟩

end Outcomes

/-- **All outcomes of writing.** Converters with one path are refused, and so is, if existing files are
protected, a target at which something is; the cause is the first target that is not free, where a path
that is too long to be looked up is no better. A refusal changes nothing. If the writing returns, all
converters have been written and nothing else; if it fails after the checks, so have all those before
the one that fails. That one leaves nothing but directories, or, if its text cannot be encoded and there
is no temporary file, an empty file. Two settings that differ in the way of writing leave the same tree
if both succeed. -/
theorem writeOutcome_cases (config : Config) (settings : OutputSettings) (language : Language)
    (directory : Path) (files : List ConverterFile) (state : WriteState) :
    let targets := targetPaths directory files
    let paths := targets.map (·.1)
    let run (settings : OutputSettings) :=
      writeOutcome config settings language directory files state
    (¬ paths.Nodup → ∃ cause, run settings = (.error (.generation cause), state)) ∧
    (paths.Nodup → settings.mode.protectsFiles = true →
      (∃ path ∈ paths, state.tree.contains path = .ok true) →
      ∃ earlier path later, paths = earlier ++ path :: later ∧
        (∀ other ∈ earlier, state.tree.contains other = .ok false) ∧
        (state.tree.contains path = .ok true ∧
            run settings = (.error (.generation (.targetExists path)), state) ∨
          state.tree.contains path = .error .nameTooLong ∧
            run settings = (.error (.storage .nameTooLong), state))) ∧
    (∀ written after, run settings = (.ok written, after) →
      written = paths ∧
        Holds state.tree after.tree (OnTheWay state.tree targets) targets ∧
        ∀ front path file back, targets = front ++ (path, file) :: back →
          (∀ later ∈ back, state.tree.placeOf later.1 ≠ state.tree.placeOf path) →
          ∃ bytes, file.content.encode? = some bytes ∧ after.tree.read path = .ok bytes) ∧
    (∀ failure after, run settings = (.error failure, after) →
      Refused settings state.tree paths ∧ after = state ∨
        ∃ front path file back between, targets = front ++ (path, file) :: back ∧
          outcome (writeFiles settings language front) state = (.ok (), between) ∧
          outcome (writeFile settings language path file.content) between =
            (.error failure, after) ∧
          (Holds state.tree after.tree (OnTheWay state.tree targets) front ∨
            Empties settings failure file ∧ file.content.bytes = ByteArray.empty ∧
              Holds state.tree after.tree (OnTheWay state.tree targets)
                (front ++ [(path, file)]))) ∧
    (∀ atomic written written' after after', run settings = (.ok written, after) →
      run { settings with atomic } = (.ok written', after') → after.tree = after'.tree) := by
  dsimp only
  have allowed_of_ok {settings : OutputSettings} {written after}
      (ran : writeOutcome config settings language directory files state = (.ok written, after)) :
      ¬ Refused settings state.tree ((targetPaths directory files).map (·.1)) := by
    intro refused
    obtain ⟨failure, failed⟩ := writeOutcome_of_refused config language refused
    rw [ran] at failed
    cases failed
  refine ⟨writeOutcome_of_shared config language, fun nodup protects taken => ?_, ?_, ?_, ?_⟩
  · obtain ⟨path, mem, there⟩ := taken
    exact writeOutcome_of_protected config language nodup protects ⟨path, mem, by simp [there]⟩
  · intro written after ran
    rw [writeOutcome_of_not_refused config language (allowed_of_ok ran)] at ran
    obtain ⟨_, eq, wholes, holds⟩ | ⟨_, _, _, _, _, _, _, -, eq, -⟩ :=
      writeFiles_run settings language (targetPaths directory files) state
    · rw [eq] at ran
      cases ran
      refine ⟨rfl, holds, fun front path file back split last => ?_⟩
      rw [split] at holds wholes
      exact ⟨_, Content.encode?_of_isWhole (wholes (path, file) (by simp)), holds.read last⟩
    · rw [eq] at ran
      cases ran
  · intro failure after ran
    by_cases refused : Refused settings state.tree ((targetPaths directory files).map (·.1))
    · obtain ⟨_, eq⟩ := writeOutcome_of_refused config language refused
      rw [ran] at eq
      cases eq
      exact .inl ⟨refused, rfl⟩
    · rw [writeOutcome_of_not_refused config language refused] at ran
      obtain ⟨_, eq, -⟩ | ⟨_, _, front, path, file, back, between, split, eq, before, failed, holds⟩ :=
        writeFiles_run settings language (targetPaths directory files) state
      · rw [eq] at ran
        cases ran
      · rw [eq] at ran
        cases ran
        refine .inr ⟨front, path, file, back, between, split, before, failed, holds.imp_right ?_⟩
        rintro ⟨empties, emptied⟩
        exact ⟨empties, by rw [Content.bytes, empties.2.2, Option.getD_none], emptied⟩
  · intro atomic written written' after after' ran ran'
    rw [writeOutcome_of_not_refused config language (allowed_of_ok ran)] at ran
    rw [writeOutcome_of_not_refused config language (allowed_of_ok ran')] at ran'
    split at ran
    · next eq =>
      split at ran'
      · next eq' =>
        cases ran
        cases ran'
        exact writeFiles_tree_eq rfl eq eq'
      · cases ran'
    · cases ran

/-- **What the outcomes are not.** A protected file is not named as the cause if a path before it is too
long to be looked up, and a target does not hold its own text if a later path leads to its place by way
of two dots. -/
theorem writeOutcome_unlike :
    (let long := String.ofList (List.replicate 300 'A')
      let tree : FileTree := { entries := [(["B.g.cs"], .file ByteArray.empty)] }
      let files : List ConverterFile :=
        [⟨"A", ⟨.current, [long]⟩, ""⟩, ⟨"B", ⟨.current, ["B.g.cs"]⟩, ""⟩]
      tree.contains ⟨.current, ["B.g.cs"]⟩ = .ok true ∧
        (writeOutcome {} {} .cSharp {} files { tree }).1 = .error (.storage .nameTooLong)) ∧
    (let settings : OutputSettings :=
        { mode := .known .force, validate := .bool false, atomic := .bool false }
      let files : List ConverterFile :=
        [⟨"A", ⟨.current, ["a"]⟩, "1"⟩, ⟨"B", ⟨.current, ["b", "..", "a"]⟩, "2"⟩]
      let run := writeOutcome {} settings .cSharp {} files { tree := {} }
      (∃ written, run.1 = .ok written) ∧
        run.2.tree.read ⟨.current, ["a"]⟩ ≠ .ok "1".toUTF8) := by
  refine ⟨⟨rfl, ?_⟩, ⟨_, rfl⟩, fun same => ?_⟩
  · have size : maxNameSize < (String.ofList (List.replicate 300 'A')).utf8ByteSize := by
      decide +kernel
    have whole : ¬ maxPathSize <
        (Path.mk .current [String.ofList (List.replicate 300 'A')]).text.utf8ByteSize := by
      decide +kernel
    -- Only the size of the name matters from here on.
    generalize String.ofList (List.replicate 300 'A') = long at size whole
    have other : long ≠ "B.g.cs" := by
      rintro rfl
      exact absurd size (by decide +kernel)
    have dots : long ≠ ".." := by
      rintro rfl
      exact absurd size (by decide +kernel)
    have walked : contains { entries := [(["B.g.cs"], .file ByteArray.empty)] }
        ⟨.current, [long]⟩ = .error .nameTooLong := by
      simp [contains, locate, whole, walk, start, dots, size]
    have protects : ({} : OutputSettings).mode.protectsFiles = true := rfl
    rw [writeOutcome_of_nodup _ _ (by simp [targetPaths, Path.append, other]), if_pos protects]
    simp [targetPaths, Path.append, checkTargets, walked]
  · exact absurd (Except.ok.inj same) (by decide +kernel)
end EnumCodec
