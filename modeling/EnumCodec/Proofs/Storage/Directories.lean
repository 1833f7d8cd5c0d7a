import EnumCodec.Proofs.Activity
import EnumCodec.Proofs.Storage.Tree
import Mathlib.Logic.Relation

/-!
# EnumCodec.Proofs.Storage.Directories

**What writing adds to a tree.** The relation `Writes` says what a whole tree is after some files have
been written: the written places hold their contents, every other file is as it was, and nothing but
directories has come. Relations of two writings one after the other compose. Making directories is a
writing of no file at all, whether it succeeds or not.
-/

namespace EnumCodec

open Relation (ReflTransGen)

namespace FileTree

variable {tree before between after : FileTree} {place : Place}
  {near wide : Place → Prop} {contents first second : Place → Option ByteArray}

/-! ### Writing -/

/-- **A tree after the writing of some files.** Each of the places `contents` holds its file, where no
directory was; at all others is what was there, or a directory where nothing was. New entries come
last, and only at new places that are `near`. -/
structure Writes (before after : FileTree) (near : Place → Prop)
    (contents : Place → Option ByteArray) : Prop where
  current : after.current = before.current
  places : ∃ added, after.places = before.places ++ added ∧
    ∀ place ∈ added, near place ∧ place ∉ before.places
  written : ∀ place content, contents place = some content →
    before.get? place ≠ some .directory ∧ after.get? place = some (.file content)
  kept : ∀ place, contents place = none →
    after.get? place = before.get? place ∨
      before.get? place = none ∧ after.get? place = some .directory

/-- The contents of no file. -/
def noContents : Place → Option ByteArray := fun _ => none

/-- The contents of one file. -/
def oneContent (place : Place) (content : ByteArray) : Place → Option ByteArray :=
  fun other => if other = place then some content else none

/-- Contents written later count before those written earlier. -/
def laterContents (second first : Place → Option ByteArray) : Place → Option ByteArray :=
  fun place => (second place).or (first place)

@[simp]
theorem laterContents_noContents (contents : Place → Option ByteArray) :
    laterContents contents noContents = contents := by
  funext place
  simp [laterContents, noContents]

@[simp]
theorem noContents_laterContents (contents : Place → Option ByteArray) :
    laterContents noContents contents = contents := by
  funext place
  simp [laterContents, noContents]

theorem Writes.refl (tree : FileTree) (near : Place → Prop) : Writes tree tree near noContents where
  current := rfl
  places := ⟨[], by simp⟩
  written _ _ some := by cases some
  kept _ _ := .inl rfl

/-- Writing takes nothing away. -/
theorem Writes.keeps (writes : Writes before after near contents) : Keeps before after where
  current := writes.current
  present place present := by
    cases known : contents place with
    | some content =>
      rw [(writes.written place content known).2]
      exact Option.some_ne_none _
    | none =>
      obtain same | ⟨absent, -⟩ := writes.kept place known
      · rwa [same]
      · exact absurd absent present
  directory place directory := by
    cases known : contents place with
    | some content => exact absurd directory (writes.written place content known).1
    | none =>
      obtain same | ⟨-, made⟩ := writes.kept place known
      · rwa [same]
      · exact made

/-- Writing and writing again is writing, and what came later counts. -/
theorem Writes.trans (one : Writes before between near first)
    (two : Writes between after near second) :
    Writes before after near (laterContents second first) where
  current := two.current.trans one.current
  places := by
    obtain ⟨added, eq, close⟩ := one.places
    obtain ⟨more, eq', close'⟩ := two.places
    refine ⟨added ++ more, by rw [eq', eq, List.append_assoc], fun place mem => ?_⟩
    obtain mem | mem := List.mem_append.1 mem
    · exact close place mem
    · refine (close' place mem).imp_right fun fresh there => fresh ?_
      exact eq ▸ List.mem_append_left added there
  written place content known := by
    unfold laterContents at known
    cases later : second place with
    | some newer =>
      obtain rfl : newer = content := by simpa [later] using known
      obtain ⟨free, holds⟩ := two.written place newer later
      exact ⟨fun directory => free (one.keeps.directory place directory), holds⟩
    | none =>
      obtain ⟨free, holds⟩ := one.written place content (by simpa [later] using known)
      obtain same | ⟨absent, -⟩ := two.kept place later
      · exact ⟨free, same.trans holds⟩
      · rw [holds] at absent
        cases absent
  kept place known := by
    obtain ⟨later, earlier⟩ := Option.or_eq_none_iff.1 known
    obtain same | ⟨absent, made⟩ := two.kept place later
    · rw [same]
      exact one.kept place earlier
    · obtain same | ⟨-, already⟩ := one.kept place earlier
      · exact .inr ⟨same ▸ absent, made⟩
      · rw [already] at absent
        cases absent

theorem Writes.mono (writes : Writes before after near contents)
    (weaker : ∀ place, near place → wide place) : Writes before after wide contents where
  current := writes.current
  places := by
    obtain ⟨added, eq, close⟩ := writes.places
    exact ⟨added, eq, fun place mem => (close place mem).imp_left (weaker place)⟩
  written := writes.written
  kept := writes.kept

/-- Something new has come only near. -/
theorem Writes.near_of_new (writes : Writes before after near contents)
    (absent : before.get? place = none) (present : after.get? place ≠ none) : near place := by
  obtain ⟨added, places, close⟩ := writes.places
  obtain ⟨nonempty, missing⟩ := get?_eq_none_iff.1 absent
  have mem : place ∈ after.places := by
    apply Decidable.of_not_not
    exact fun gone => present (get?_eq_none_iff.2 ⟨nonempty, gone⟩)
  exact (close place ((List.mem_append.1 (places ▸ mem)).resolve_left missing)).1

/-- Writing puts nothing at a free place that is not near. -/
theorem Writes.get?_eq_none (writes : Writes before after near contents) (away : ¬ near place)
    (free : before.get? place = none) : after.get? place = none :=
  Classical.byContradiction fun present => away (writes.near_of_new free present)

/-- One entry comes last or is there. -/
theorem places_put_near (tree : FileTree) (entry : Entry) (close : near place) :
    ∃ added, (tree.put place entry).places = tree.places ++ added ∧
      ∀ place ∈ added, near place ∧ place ∉ tree.places := by
  rw [places_put]
  split
  · exact ⟨[], by simp⟩
  · next fresh => exact ⟨[place], rfl, by simpa using ⟨close, fresh⟩⟩

/-- A new directory is a writing of no file. -/
theorem writes_putDirectory (free : tree.get? place = none) (close : near place) :
    Writes tree (tree.put place .directory) near noContents where
  current := rfl
  places := places_put_near tree _ close
  written _ _ known := by cases known
  kept other _ := by
    rw [get?_put (get?_eq_none_iff.1 free).1]
    split
    · next same => exact .inr ⟨same ▸ free, rfl⟩
    · exact .inl rfl

/-- A file where no directory is is a writing of that file. -/
theorem writes_putFile {content : ByteArray} (nonempty : place ≠ [])
    (free : tree.get? place ≠ some .directory) (close : near place) :
    Writes tree (tree.put place (.file content)) near (oneContent place content) where
  current := rfl
  places := places_put_near tree _ close
  written other content' known := by
    unfold oneContent at known
    split at known
    · next same =>
      cases known
      exact ⟨same ▸ free, by rw [same, get?_put_self nonempty]⟩
    · cases known
  kept other known := by
    unfold oneContent at known
    split at known
    · cases known
    · next away => exact .inl (by rw [get?_put nonempty, if_neg away])

/-- A file that is written nowhere stays as it is. -/
theorem Writes.get?_file {content : ByteArray} (writes : Writes before after near contents)
    (unwritten : contents place = none) (file : before.get? place = some (.file content)) :
    after.get? place = some (.file content) := by
  obtain same | ⟨absent, -⟩ := writes.kept place unwritten
  · rw [same, file]
  · rw [file] at absent
    cases absent

/-- A file that has been written can be read at every path that leads to it. -/
theorem Writes.read (writes : Writes before after near contents) {path : Path} {goal : Place}
    {content : ByteArray} (located : after.locate path = .ok goal)
    (known : contents goal = some content) : after.read path = .ok content := by
  simp only [FileTree.read, located, (writes.written goal content known).2]

/-! ### Listing what is below a place -/

theorem insertPlace_perm (place : Place) (places : List Place) :
    (insertPlace place places).Perm (place :: places) := by
  induction places with
  | nil => exact .refl _
  | cons other rest ih =>
    rw [insertPlace]
    split
    · exact .refl _
    · exact (ih.cons other).trans (.swap place other rest)

theorem foldr_insertPlace_perm (places : List Place) : (places.foldr insertPlace []).Perm places := by
  induction places with
  | nil => exact .refl _
  | cons place rest ih => exact (insertPlace_perm place _).trans (ih.cons place)

/-- What is listed below a place is all that is there. -/
theorem placesBelow_perm (tree : FileTree) (place : Place) :
    (tree.placesBelow place).Perm
      (tree.places.filter fun other => place.isPrefixOf other && decide (other ≠ place)) :=
  foldr_insertPlace_perm _

/-! ### Making directories -/

/-- A directory that can be made is new. -/
theorem makeDirectory_eq_ok {path : Path} {made : FileTree} (ok : tree.makeDirectory path = .ok made) :
    tree.get? (tree.placeOf path) = none ∧ made = tree.put (tree.placeOf path) .directory := by
  rw [FileTree.makeDirectory] at ok
  split at ok
  · cases ok
  · cases ok
  · cases ok
  · next place located =>
    obtain ⟨rfl, -⟩ := eq_placeOf_of_locateNew located
    split at ok
    · cases ok
    · next free =>
      cases ok
      exact ⟨free, rfl⟩

/-- One of the directories on the way along a path is made. -/
def MakesDirectory (path : Path) (before after : FileTree) : Prop :=
  ∃ front, front <+: path.names ∧ before.makeDirectory ⟨path.root, front⟩ = .ok after

theorem MakesDirectory.writes {path : Path} (made : MakesDirectory path tree after) :
    Writes tree after (tree.Passes path) noContents := by
  obtain ⟨front, sub, ok⟩ := made
  obtain ⟨free, rfl⟩ := makeDirectory_eq_ok ok
  exact writes_putDirectory free ⟨front, sub, rfl⟩

/-- Making directories on the way along a path, whichever they are, writes no file and adds nothing
beside the path. -/
theorem writes_of_makesDirectories {path : Path}
    (run : ReflTransGen (MakesDirectory path) tree after) :
    Writes tree after (tree.Passes path) noContents := by
  induction run with
  | refl => exact Writes.refl tree _
  | tail _ made ih =>
    have last := made.writes
    rw [ih.keeps.passes] at last
    simpa using ih.trans last

end FileTree

open FileTree Activity

namespace StorageM

variable {tree : FileTree} {path : Path}

/-! ### Activities that make directories -/

/-- A change leaves the tree that it makes, or the tree as it is. -/
theorem outcome_change (step : FileTree → Except StorageError FileTree) (tree : FileTree) :
    outcome (change step) tree =
      match step tree with
      | .ok made => (.ok (), made)
      | .error error => (.error error, tree) := by
  rw [change, outcome_bind, outcome_get]
  dsimp only
  cases step tree <;> rfl

/-- Making one directory changes the tree only where nothing is. -/
theorem outcome_makeDirectory (path : Path) (tree : FileTree) :
    outcome (makeDirectory path) tree =
      match tree.makeDirectory path with
      | .ok made => (.ok (), made)
      | .error .notFound => (.error .notFound, tree)
      | .error error => (if tree.isDirectory path then .ok () else .error error, tree) := by
  rw [makeDirectory, outcome_bind, outcome_get]
  dsimp only
  cases tree.makeDirectory path with
  | ok made => rfl
  | error error =>
    by_cases there : tree.isDirectory path <;>
      cases error <;> simp [outcome_bind, there]

/-- Making one directory is one step on the way along a path, or changes nothing. -/
theorem makeDirectory_run {front : List String} (sub : front <+: path.names) :
    ReflTransGen (MakesDirectory path) tree
      (outcome (makeDirectory ⟨path.root, front⟩) tree).2 := by
  rw [outcome_makeDirectory]
  split
  · next made ok => exact .single ⟨front, sub, ok⟩
  · exact .refl
  · exact .refl

/-- Making directories one before the other goes along the path in steps, however far it comes. -/
theorem makeDirectoriesFrom_run {names : List String} (sub : names.reverse <+: path.names) :
    ReflTransGen (MakesDirectory path) tree
      (outcome (makeDirectoriesFrom path.root names) tree).2 := by
  induction names generalizing tree with
  | nil => exact makeDirectory_run sub
  | cons name before ih =>
    rw [makeDirectoriesFrom, outcome_bind, outcome_get]
    dsimp only
    split
    · -- The directory before this one is missing: it is made first, with all those before it.
      have sooner : ReflTransGen (MakesDirectory path) tree
          (outcome (makeDirectoriesFrom path.root before) tree).2 :=
        ih (List.IsPrefix.trans (by simp) sub)
      rw [outcome_bind]
      rcases ran : outcome (makeDirectoriesFrom path.root before) tree with ⟨_ | _, between⟩
      · rw [ran] at sooner
        exact sooner
      · rw [ran] at sooner
        exact sooner.trans (makeDirectory_run sub)
    · exact makeDirectory_run sub

/-- Making the directory of a path and those before it goes along the path in steps. -/
theorem makeDirectories_run (path : Path) (tree : FileTree) :
    ReflTransGen (MakesDirectory path) tree (outcome (makeDirectories path) tree).2 :=
  makeDirectoriesFrom_run (by simp)

/-- Making the directory of a path, and those before it, writes no file and adds nothing beside the
path. -/
theorem makeDirectories_writes (path : Path) (tree : FileTree) :
    Writes tree (outcome (makeDirectories path) tree).2 (tree.Passes path) noContents :=
  writes_of_makesDirectories (makeDirectories_run path tree)

end StorageM

end EnumCodec
