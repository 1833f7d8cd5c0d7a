import EnumCodec.Entries
import EnumCodec.Storage.FileTree

/-!
# EnumCodec.Proofs.Storage.Tree

**What changes of a tree do to its places.** Putting an entry and taking one away are described place
by place, and a path that leads somewhere leads to a place that can be told from its names alone. A tree
that keeps all that another one has keeps its paths as well.
-/

namespace EnumCodec.FileTree

variable {tree before after : FileTree} {place goal : Place} {entry old : Entry}

/-! ### Entries -/

/-- The places of the entries of a tree. -/
def places (tree : FileTree) : List Place :=
  tree.entries.map (·.1)

@[simp]
theorem get?_nil (tree : FileTree) : tree.get? [] = some .directory := rfl

@[simp]
theorem current_put (tree : FileTree) (place : Place) (entry : Entry) :
    (tree.put place entry).current = tree.current := rfl

/-- Nothing is at the places without an entry, except at the root. -/
theorem get?_eq_none_iff : tree.get? place = none ↔ place ≠ [] ∧ place ∉ tree.places := by
  unfold get? places
  by_cases root : place = []
  · simp [root]
  · rw [if_neg root, Entries.lookup_eq_none_iff]
    simp [root]

theorem lookup_putEntry (place other : Place) (entry : Entry) (entries : List (Place × Entry)) :
    (putEntry place entry entries).lookup other =
      if other = place then some entry else entries.lookup other := by
  induction entries with
  | nil => rw [putEntry, Entries.lookup_cons_eq]
  | cons item rest ih =>
    obtain ⟨first, value⟩ := item
    rw [putEntry, Entries.lookup_cons_eq]
    by_cases here : first = place
    · subst here
      rw [if_pos rfl, Entries.lookup_cons_eq]
      by_cases same : other = first <;> simp [same]
    · rw [if_neg here, Entries.lookup_cons_eq, ih]
      by_cases same : other = first
      · simp [same, here]
      · simp [same]

/-- What has been put at a place is there, and all else is as it was. -/
theorem get?_put (nonempty : place ≠ []) (other : Place) :
    (tree.put place entry).get? other = if other = place then some entry else tree.get? other := by
  unfold get? put
  by_cases root : other = []
  · rw [if_pos root, if_neg (fun same : other = place => nonempty (same ▸ root)), if_pos root]
  · simp only [if_neg root, lookup_putEntry]

theorem get?_put_self (nonempty : place ≠ []) : (tree.put place entry).get? place = some entry := by
  rw [get?_put nonempty, if_pos rfl]

theorem map_putEntry (place : Place) (entry : Entry) (entries : List (Place × Entry)) :
    (putEntry place entry entries).map (·.1) =
      if place ∈ entries.map (·.1) then entries.map (·.1) else entries.map (·.1) ++ [place] := by
  induction entries with
  | nil => simp [putEntry]
  | cons item rest ih =>
    obtain ⟨first, value⟩ := item
    rw [putEntry]
    by_cases here : first = place
    · simp [here]
    · rw [if_neg here, List.map_cons, ih]
      by_cases mem : place ∈ rest.map (·.1)
      · simp [mem]
      · simp [mem, Ne.symm here]

/-- An entry at a new place comes last. -/
theorem places_put (tree : FileTree) (place : Place) (entry : Entry) :
    (tree.put place entry).places =
      if place ∈ tree.places then tree.places else tree.places ++ [place] :=
  map_putEntry place entry tree.entries

theorem putEntry_putEntry (place : Place) (old entry : Entry) (entries : List (Place × Entry)) :
    putEntry place entry (putEntry place old entries) = putEntry place entry entries := by
  induction entries with
  | nil => simp [putEntry]
  | cons item rest ih =>
    by_cases here : item.1 = place <;> simp [putEntry, here, ih]

/-- Only what was put last at a place counts. -/
theorem put_put (tree : FileTree) (place : Place) (old entry : Entry) :
    (tree.put place old).put place entry = tree.put place entry := by
  simp only [put, putEntry_putEntry]

theorem filter_putEntry (place : Place) (entry : Entry) (entries : List (Place × Entry))
    (free : place ∉ entries.map (·.1)) :
    ((putEntry place entry entries).filter fun item => item.1 ≠ place) = entries := by
  induction entries with
  | nil => simp [putEntry]
  | cons item rest ih =>
    obtain ⟨first, value⟩ := item
    simp only [List.map_cons, List.mem_cons, not_or] at free
    have away : first ≠ place := Ne.symm free.1
    rw [putEntry, if_neg away, List.filter_cons_of_pos (by simpa using away), ih free.2]

/-- Taking away what has been put at a new place leaves no trace. -/
theorem erase_put (free : tree.get? place = none) : (tree.put place entry).erase place = tree := by
  unfold erase put
  simp only [filter_putEntry place entry tree.entries (get?_eq_none_iff.1 free).2]

/-! ### Paths -/

/-- The place to which names lead from another one if nothing stands in their way. -/
def follow (place : Place) (names : List String) : Place :=
  names.foldl (fun place name => if name = ".." then place.dropLast else place ++ [name]) place

/-- The place to which a path leads if nothing stands in its way. -/
def placeOf (tree : FileTree) (path : Path) : Place :=
  follow (tree.start path) path.names

/-- Is the place one that a path passes, or its end? -/
def Passes (tree : FileTree) (path : Path) (place : Place) : Prop :=
  ∃ names, names <+: path.names ∧ place = follow (tree.start path) names

theorem follow_append (place : Place) (front back : List String) :
    follow place (front ++ back) = follow (follow place front) back := by
  simp [follow, List.foldl_append]

@[simp]
theorem follow_singleton (place : Place) (name : String) :
    follow place [name] = if name = ".." then place.dropLast else place ++ [name] := rfl

/-- Names without two dots lead on. -/
theorem follow_eq_append {names : List String} (forward : ".." ∉ names) :
    follow place names = place ++ names := by
  induction names generalizing place with
  | nil => simp [follow]
  | cons name rest ih =>
    simp only [List.mem_cons, not_or] at forward
    rw [← List.singleton_append, follow_append, follow_singleton, if_neg (Ne.symm forward.1),
      ih forward.2, List.append_assoc]

/-- What is on the way to the directory of a path is on the way along the path. -/
theorem passes_of_parent {path : Path} (passes : tree.Passes path.parent place) :
    tree.Passes path place := by
  obtain ⟨names, sub, eq⟩ := passes
  exact ⟨names, sub.trans (List.dropLast_prefix _), eq⟩

/-- Names that lead somewhere lead where they say. -/
theorem eq_follow_of_walk {names : List String} (reached : tree.walk place names = .ok goal) :
    goal = follow place names := by
  induction names generalizing place with
  | nil => simpa [walk, follow, eq_comm] using reached
  | cons name rest ih =>
    rw [walk] at reached
    split at reached
    · rw [follow, List.foldl_cons, ← follow]
      split at reached
      · simpa [*] using ih reached
      · split at reached
        · cases reached
        · split at reached
          · simpa [*] using ih reached
          · cases reached
    · cases reached

/-- Names lead on from where the first of them lead. -/
theorem walk_append (tree : FileTree) (place : Place) (front back : List String) :
    tree.walk place (front ++ back) =
      (tree.walk place front).bind fun place => tree.walk place back := by
  induction front generalizing place with
  | nil => rfl
  | cons name rest ih =>
    simp only [List.cons_append, walk]
    split
    · split
      · exact ih _
      · split
        · rfl
        · split
          · exact ih _
          · rfl
    · rfl

/-- A last name leads from a directory to an entry in it. -/
theorem walk_singleton {name : String} (directory : tree.get? place = some .directory)
    (forward : name ≠ "..") (size : name.utf8ByteSize ≤ maxNameSize)
    (present : tree.get? (place ++ [name]) ≠ none) :
    tree.walk place [name] = .ok (place ++ [name]) := by
  simp only [walk, directory, if_neg forward, if_neg (Nat.not_lt.2 size)]
  cases found : tree.get? (place ++ [name]) with
  | none => exact absurd found present
  | some _ => rfl

/-- Something can be put at a path if its last name is fit for one and a directory is before it. -/
theorem locateNew_eq_ok_iff {path : Path} :
    tree.locateNew path = .ok goal ↔
      ∃ front name place, path.names = front ++ [name] ∧ path.text.utf8ByteSize ≤ maxPathSize ∧
        tree.walk (tree.start path) front = .ok place ∧ tree.get? place = some .directory ∧
        name ≠ ".." ∧ name.utf8ByteSize ≤ maxNameSize ∧ goal = place ++ [name] := by
  unfold locateNew
  rcases List.eq_nil_or_concat path.names with none | ⟨front, name, names⟩
  · simp [none]
  · simp only [names, List.concat_eq_append, List.getLast?_concat, List.dropLast_concat]
    constructor
    · intro located
      split at located
      · cases located
      · next size =>
        split at located
        · cases located
        · next place walked =>
          split at located
          · next directory =>
            split at located
            · cases located
            · next forward =>
              split at located
              · cases located
              · next short =>
                cases located
                exact ⟨front, name, place, rfl, Nat.not_lt.1 size, walked, directory, forward,
                  Nat.not_lt.1 short, rfl⟩
          · cases located
    · rintro ⟨front', name', place, same, size, walked, directory, forward, short, rfl⟩
      obtain ⟨rfl, last⟩ := List.append_inj' same rfl
      cases last
      simp [Nat.not_lt.2 size, walked, directory, forward, Nat.not_lt.2 short]

/-- What can be put at a path comes to the place that the path says, which is not the root. -/
theorem eq_placeOf_of_locateNew {path : Path} (located : tree.locateNew path = .ok goal) :
    goal = tree.placeOf path ∧ goal ≠ [] := by
  obtain ⟨front, name, place, names, -, walked, -, forward, -, rfl⟩ :=
    locateNew_eq_ok_iff.1 located
  refine ⟨?_, by simp⟩
  rw [placeOf, names, follow_append, ← eq_follow_of_walk walked, follow_singleton, if_neg forward]

/-- The path of what has been put somewhere leads there. -/
theorem locate_of_locateNew {path : Path} (located : tree.locateNew path = .ok goal)
    (present : tree.get? goal ≠ none) : tree.locate path = .ok goal := by
  obtain ⟨front, name, place, names, size, walked, directory, forward, short, rfl⟩ :=
    locateNew_eq_ok_iff.1 located
  rw [locate, if_neg (Nat.not_lt.2 size), names, walk_append, walked]
  exact walk_singleton directory forward short present

/-- A path cannot be looked up only if it is too long. -/
theorem contains_eq_error {path : Path} {cause : StorageError}
    (failed : tree.contains path = .error cause) :
    cause = .nameTooLong := by
  unfold contains at failed
  split at failed <;> cases failed
  rfl

/-! ### Trees in which everything is in a directory -/

/-- Is every entry of a tree in a directory? -/
def IsClosed (tree : FileTree) : Prop :=
  ∀ place ∈ tree.places, tree.get? place.dropLast = some .directory

instance (tree : FileTree) : Decidable tree.IsClosed :=
  inferInstanceAs (Decidable (∀ place ∈ tree.places, tree.get? place.dropLast = some .directory))

theorem IsClosed.above (closed : tree.IsClosed) {name : String}
    (present : tree.get? (place ++ [name]) ≠ none) : tree.get? place = some .directory := by
  have mem : place ++ [name] ∈ tree.places := by
    apply Decidable.of_not_not
    exact fun absent => present (get?_eq_none_iff.2 ⟨by simp, absent⟩)
  simpa using closed _ mem

/-- What is before something on the way to it is a directory. -/
theorem IsClosed.above_of_append (closed : tree.IsClosed) {names : List String} (more : names ≠ [])
    (present : tree.get? (place ++ names) ≠ none) : tree.get? place = some .directory := by
  induction names generalizing place with
  | nil => exact absurd rfl more
  | cons name rest ih =>
    rw [List.append_cons] at present
    cases rest with
    | nil => exact closed.above (by simpa using present)
    | cons next rest =>
      have directory := ih (by simp) present
      exact closed.above (directory ▸ Option.some_ne_none _)

/-- Names without two dots lead to what is there, unless one of them is too long. -/
theorem IsClosed.walk (closed : tree.IsClosed) {names : List String} (forward : ".." ∉ names)
    (present : tree.get? (place ++ names) ≠ none) :
    tree.walk place names = .ok (place ++ names) ∨ tree.walk place names = .error .nameTooLong := by
  induction names generalizing place with
  | nil => exact .inl (by simp [FileTree.walk])
  | cons name rest ih =>
    obtain ⟨ahead, others⟩ := not_or.1 (mt List.mem_cons.2 forward)
    have directory := closed.above_of_append (by simp) present
    have next : tree.get? (place ++ [name]) ≠ none := by
      cases rest with
      | nil => exact present
      | cons other rest =>
        rw [List.append_cons] at present
        simp [closed.above_of_append (by simp) present]
    obtain ⟨entry, found⟩ := Option.ne_none_iff_exists'.1 next
    rw [List.append_cons] at present ⊢
    simp only [FileTree.walk, directory, if_neg (Ne.symm ahead), found]
    split
    · exact .inr rfl
    · exact ih others present

/-- A path without two dots is not found free where something is. -/
theorem IsClosed.contains (closed : tree.IsClosed) {path : Path} (forward : ".." ∉ path.names)
    (present : tree.get? (tree.placeOf path) ≠ none) : tree.contains path ≠ .ok false := by
  rw [placeOf, follow_eq_append forward] at present
  rw [FileTree.contains, locate]
  by_cases size : maxPathSize < path.text.utf8ByteSize
  · simp [size]
  · obtain reached | long := closed.walk forward present
    · simp [size, reached]
    · simp [size, long]

/-! ### Trees that keep what another one has -/

/-- Everything that is in a tree is in another one too, directories as directories. -/
structure Keeps (before after : FileTree) : Prop where
  current : after.current = before.current
  present : ∀ place, before.get? place ≠ none → after.get? place ≠ none
  directory : ∀ place, before.get? place = some .directory → after.get? place = some .directory

theorem Keeps.trans (one : Keeps before tree) (two : Keeps tree after) : Keeps before after where
  current := two.current.trans one.current
  present place present := two.present place (one.present place present)
  directory place directory := two.directory place (one.directory place directory)

theorem Keeps.start (keeps : Keeps before after) (path : Path) :
    after.start path = before.start path := by
  rw [FileTree.start, FileTree.start, keeps.current]

theorem Keeps.placeOf (keeps : Keeps before after) (path : Path) :
    after.placeOf path = before.placeOf path := by
  rw [FileTree.placeOf, FileTree.placeOf, keeps.start]

theorem Keeps.passes (keeps : Keeps before after) (path : Path) :
    after.Passes path = before.Passes path := by
  funext place
  rw [Passes, Passes, keeps.start]

/-- Putting a file where no directory is keeps everything. -/
theorem keeps_put (nonempty : place ≠ []) (free : tree.get? place ≠ some .directory) :
    Keeps tree (tree.put place entry) where
  current := rfl
  present other present := by
    rw [get?_put nonempty]
    split
    · exact Option.some_ne_none _
    · exact present
  directory other directory := by
    rw [get?_put nonempty, if_neg (fun same : other = place => free (same ▸ directory)), directory]

theorem Keeps.walk (keeps : Keeps before after) {names : List String}
    (reached : before.walk place names = .ok goal) : after.walk place names = .ok goal := by
  induction names generalizing place with
  | nil => exact reached
  | cons name rest ih =>
    rw [FileTree.walk] at reached ⊢
    split at reached
    · next directory =>
      rw [keeps.directory _ directory]
      split at reached
      · next back => simpa only [if_pos back] using ih reached
      · next forward =>
        split at reached
        · cases reached
        · next short =>
          simp only [if_neg forward, if_neg short]
          split at reached
          · next entry found =>
            obtain ⟨kept, still⟩ := Option.ne_none_iff_exists'.1
              (keeps.present _ (found ▸ Option.some_ne_none entry))
            simpa only [still] using ih reached
          · cases reached
    · cases reached

theorem Keeps.locate (keeps : Keeps before after) {path : Path}
    (located : before.locate path = .ok goal) : after.locate path = .ok goal := by
  rw [FileTree.locate] at located ⊢
  split at located
  · cases located
  · next size => rw [if_neg size, keeps.start, keeps.walk located]

theorem Keeps.locateNew (keeps : Keeps before after) {path : Path}
    (located : before.locateNew path = .ok goal) : after.locateNew path = .ok goal := by
  obtain ⟨front, name, place, names, size, walked, directory, rest⟩ :=
    locateNew_eq_ok_iff.1 located
  exact locateNew_eq_ok_iff.2 ⟨front, name, place, names, size,
    keeps.start path ▸ keeps.walk walked, keeps.directory _ directory, rest⟩

end EnumCodec.FileTree
