import EnumCodec.CommandLine.Mention
import EnumCodec.Proofs.Activity
import EnumCodec.Proofs.Storage.Paths
import EnumCodec.Proofs.Storage.Rewriting

/-!
# EnumCodec.Proofs.CommandLine.Reading

**A command line means the same when more is there.** The paths on a command line are checked against
the files that are there. A tree that keeps all that another one has passes these checks too, and the
command line is mentioned in the same words, as long as the directory for converters was there before.
-/

namespace EnumCodec

open Activity FileTree

variable {before after : FileTree}

/-! ### Activities on several items -/

namespace Activity

variable {ε α β : Type} {first second : α → Except ε β}

/-- What succeeds with each item succeeds with all. -/
theorem mapM_eq_ok_of_imp {items : List α} {values : List β}
    (each : ∀ item ∈ items, ∀ value, first item = .ok value → second item = .ok value)
    (all : items.mapM first = .ok values) : items.mapM second = .ok values := by
  induction items generalizing values with
  | nil => exact all
  | cons item rest ih =>
    obtain ⟨here, others⟩ := List.forall_mem_cons.1 each
    rw [List.mapM_cons, result_bind_eq_ok] at all ⊢
    obtain ⟨value, found, all⟩ := all
    obtain ⟨values', found', all⟩ := result_bind_eq_ok.1 all
    exact ⟨value, here value found, result_bind_eq_ok.2 ⟨values', ih others found', all⟩⟩

/-- What succeeds step by step succeeds as a whole. -/
theorem foldlM_eq_ok_of_imp {first second : β → α → Except ε β} {items : List α} {start last : β}
    (each : ∀ item ∈ items, ∀ state value, first state item = .ok value →
      second state item = .ok value)
    (all : items.foldlM first start = .ok last) : items.foldlM second start = .ok last := by
  induction items generalizing start with
  | nil => exact all
  | cons item rest ih =>
    obtain ⟨here, others⟩ := List.forall_mem_cons.1 each
    rw [List.foldlM_cons, result_bind_eq_ok] at all ⊢
    obtain ⟨next, found, all⟩ := all
    exact ⟨next, here start next found, ih others all⟩

/-- What holds of the start and is kept by each step holds in the end. -/
theorem foldlM_eq_ok_induction {step : β → α → Except ε β} {items : List α} {start last : β}
    {holds : β → Prop} (begins : holds start)
    (each : ∀ item state value, holds state → step state item = .ok value → holds value)
    (all : items.foldlM step start = .ok last) : holds last := by
  induction items generalizing start with
  | nil =>
    cases all
    exact begins
  | cons item rest ih =>
    rw [List.foldlM_cons, result_bind_eq_ok] at all
    obtain ⟨next, found, all⟩ := all
    exact ih (each item start next begins found) all

end Activity

/-- A tree as storage can have it: its names have no slash, are not left out of paths and do not lead
back, and there is a current directory. -/
structure FileTree.IsReal (tree : FileTree) : Prop where
  names : ∀ place ∈ tree.current :: tree.places, ∀ name ∈ place, Path.IsName name ∧ name ≠ ".."
  current : tree.get? tree.current = some .directory

/-! ### What comes into being -/

namespace FileTree

/-- Names that are short enough do not lead to a name that is too long. -/
theorem walk_ne_nameTooLong {tree : FileTree} {place : Place} {names : List String}
    (short : ∀ name ∈ names, name.utf8ByteSize ≤ maxNameSize) :
    tree.walk place names ≠ .error .nameTooLong := by
  intro long
  induction names generalizing place with
  | nil => cases long
  | cons name rest ih =>
    obtain ⟨here, others⟩ := List.forall_mem_cons.1 short
    rw [walk] at long
    split at long
    · split at long
      · exact ih others long
      · rw [if_neg (Nat.not_lt.2 here)] at long
        split at long
        · exact ih others long
        · cases long
    · cases long

/-- Names that lead to one that is too long still do so when more is there. -/
theorem walk_nameTooLong_of_keeps (keeps : Keeps before after) {place : Place} {names : List String}
    (long : before.walk place names = .error .nameTooLong) :
    after.walk place names = .error .nameTooLong := by
  induction names generalizing place with
  | nil => cases long
  | cons name rest ih =>
    rw [walk] at long ⊢
    split at long
    · next directory =>
      rw [keeps.directory _ directory]
      dsimp only
      split at long
      · next back => rw [if_pos back, ih long]
      · next forward =>
        rw [if_neg forward]
        split at long
        · next size => rw [if_pos size]
        · next size =>
          rw [if_neg size]
          split at long
          · next entry found =>
            obtain ⟨kept, still⟩ := Option.ne_none_iff_exists'.1
              (keeps.present _ (found ▸ Option.some_ne_none entry))
            rw [still]
            exact ih long
          · cases long
    · cases long

/-- **Something comes into being at a path**: nothing is there, but whatever the path passes is there or
is one of the places to come. -/
def Appears (tree : FileTree) (coming : Place → Prop) (path : Path) : Prop :=
  tree.contains path = .ok false ∧
    ∀ front name, front ++ [name] <+: path.names → name ≠ ".." →
      (∀ part ∈ front ++ [name], part.utf8ByteSize ≤ maxNameSize) →
        tree.get? (follow (tree.start path) (front ++ [name])) ≠ none ∨
          coming (follow (tree.start path) (front ++ [name]))

/-- What does not come into being is found as before. -/
theorem contains_of_not_appears {near : Place → Prop} {contents : Place → Option ByteArray}
    (writes : Writes before after near contents) {path : Path} (hidden : ¬ before.Appears near path) :
    after.contains path = before.contains path := by
  have keeps := writes.keeps
  cases looked : before.contains path with
  | error cause =>
    obtain rfl := contains_eq_error looked
    rw [contains, locate] at looked ⊢
    by_cases size : maxPathSize < path.text.utf8ByteSize
    · rw [if_pos size]
    · rw [if_neg size] at looked ⊢
      split at looked
      · cases looked
      · next long => rw [keeps.start, walk_nameTooLong_of_keeps keeps long]
      · cases looked
  | ok found =>
    cases found with
    | true =>
      rw [contains] at looked ⊢
      split at looked
      · next place located => rw [keeps.locate located]
      · cases looked
      · cases looked
    | false =>
      obtain ⟨front, name, ⟨rest, names⟩, forward, short, absent, away⟩ : ∃ front name,
          front ++ [name] <+: path.names ∧ name ≠ ".." ∧
          (∀ part ∈ front ++ [name], part.utf8ByteSize ≤ maxNameSize) ∧
          before.get? (follow (before.start path) (front ++ [name])) = none ∧
          ¬ near (follow (before.start path) (front ++ [name])) := by
        simpa [Appears, looked, not_or] using hidden
      -- The path still stops on the way, as what it passes there is missing in the later tree, too.
      have missing := writes.get?_eq_none away absent
      have stops : ∃ cause, after.walk (before.start path) (front ++ [name]) = .error cause ∧
          cause ≠ .nameTooLong := by
        cases walked : after.walk (before.start path) (front ++ [name]) with
        | ok goal =>
          rw [← eq_follow_of_walk walked] at missing
          exact absurd missing (get?_of_walk forward walked)
        | error cause =>
          exact ⟨cause, rfl, fun long => walk_ne_nameTooLong short (long ▸ walked)⟩
      obtain ⟨cause, walked, known⟩ := stops
      rw [contains, locate] at looked ⊢
      by_cases size : maxPathSize < path.text.utf8ByteSize
      · rw [if_pos size] at looked
        cases looked
      · rw [if_neg size, keeps.start, ← names, walk_append, walked]
        cases cause <;> first | rfl | exact absurd rfl known

end FileTree

namespace CommandLine

/-! ### Paths on a command line -/

theorem resolvePath_of_keeps (keeps : Keeps before after) (text : String) :
    resolvePath after text = resolvePath before text := by
  simp only [resolvePath, keeps.start]

theorem isThere_iff {tree : FileTree} {path : Path} :
    isThere tree path = true ↔ ∃ place, tree.locate path = .ok place := by
  unfold isThere
  cases tree.locate path <;> simp

theorem isThere_of_keeps (keeps : Keeps before after) {path : Path}
    (there : isThere before path = true) : isThere after path = true := by
  obtain ⟨place, located⟩ := isThere_iff.1 there
  exact isThere_iff.2 ⟨place, keeps.locate located⟩

theorem existingPath_eq_ok {tree : FileTree} {parameter value : String} {path : Path} :
    existingPath tree parameter value = .ok path ↔
      resolvePath tree value = path ∧ isThere tree path = true := by
  unfold existingPath
  dsimp only
  split
  · next there =>
    rw [Except.ok.injEq]
    exact ⟨fun same => ⟨same, same ▸ there⟩, And.left⟩
  · next missing => exact ⟨nofun, fun ⟨same, there⟩ => absurd (same ▸ there) missing⟩

theorem existingDirectory_eq_ok {tree : FileTree} {parameter value : String} {path : Path} :
    existingDirectory tree parameter value = .ok path ↔
      resolvePath tree value = path ∧ isThere tree path = true ∧ tree.isDirectory path = true := by
  unfold existingDirectory
  dsimp only
  split
  · next missing =>
    refine ⟨nofun, fun ⟨same, there, _⟩ => ?_⟩
    rw [same, there] at missing
    cases missing
  · next there =>
    simp only [Bool.not_eq_true, Bool.not_eq_false'] at there
    split
    · next directory =>
      rw [Except.ok.injEq]
      exact ⟨fun same => ⟨same, same ▸ there, same ▸ directory⟩, And.left⟩
    · next file => exact ⟨nofun, fun ⟨same, _, directory⟩ => absurd (same ▸ directory) file⟩

theorem possibleDirectory_eq_ok {tree : FileTree} {parameter value : String} {path : Path} :
    possibleDirectory tree parameter value = .ok path ↔
      resolvePath tree value = path ∧ (isThere tree path = true → tree.isDirectory path = true) := by
  unfold possibleDirectory
  dsimp only
  split
  · next file =>
    refine ⟨nofun, fun ⟨same, fits⟩ => ?_⟩
    rw [same, Bool.and_eq_true, Bool.not_eq_true'] at file
    rw [fits file.1] at file
    cases file.2
  · next fits =>
    rw [Except.ok.injEq]
    refine ⟨fun same => ⟨same, fun there => ?_⟩, And.left⟩
    subst same
    simpa [there] using fits

/-- An option keeps its meaning. -/
theorem put_of_keeps (keeps : Keeps before after) {invocation put : Invocation} {option : OptionName}
    {value : String} (found : invocation.put before option value = .ok put) :
    invocation.put after option value = .ok put := by
  cases option with
  | config =>
    obtain ⟨path, existing, same⟩ := result_bind_eq_ok.1 found
    rw [existingPath_eq_ok] at existing
    refine result_bind_eq_ok.2 ⟨path, existingPath_eq_ok.2 ?_, same⟩
    exact ⟨resolvePath_of_keeps keeps value ▸ existing.1, isThere_of_keeps keeps existing.2⟩
  | root =>
    obtain ⟨path, existing, same⟩ := result_bind_eq_ok.1 found
    rw [existingDirectory_eq_ok] at existing
    refine result_bind_eq_ok.2 ⟨path, existingDirectory_eq_ok.2 ?_, same⟩
    exact ⟨resolvePath_of_keeps keeps value ▸ existing.1, isThere_of_keeps keeps existing.2.1,
      keeps.isDirectory existing.2.2⟩
  | _ => exact found

/-- **Reading a command line again.** Where all that was there is there still, and no file has come to
the place of the directory for converters, the command line asks for the same. -/
theorem read_of_keeps (keeps : Keeps before after) {arguments : List String} {invocation : Invocation}
    (read : Invocation.read before arguments = .ok invocation)
    (output : isThere after invocation.output = true → after.isDirectory invocation.output = true) :
    Invocation.read after arguments = .ok invocation := by
  unfold Invocation.read at read ⊢
  split at read
  · cases read
  · next split =>
    unfold Invocation.ofArguments at read ⊢
    rw [result_bind_eq_ok] at read ⊢
    obtain ⟨first, options, read⟩ := read
    refine ⟨first, foldlM_eq_ok_of_imp (fun item _ state value => put_of_keeps keeps) options, ?_⟩
    rw [result_bind_eq_ok] at read ⊢
    obtain ⟨paths, existing, read⟩ := read
    refine ⟨paths, mapM_eq_ok_of_imp (fun item _ value found => ?_) existing, ?_⟩
    · rw [existingPath_eq_ok] at found ⊢
      exact ⟨resolvePath_of_keeps keeps item ▸ found.1, isThere_of_keeps keeps found.2⟩
    · split at read
      · obtain ⟨path, possible, same⟩ := result_bind_eq_ok.1 read
        cases same
        refine result_bind_eq_ok.2 ⟨path, possibleDirectory_eq_ok.2 ⟨?_, output⟩, rfl⟩
        rw [resolvePath_of_keeps keeps]
        exact (possibleDirectory_eq_ok.1 possible).1
      · cases read

/-! ### What a command line that has been read is like -/

variable {tree : FileTree} {invocation : Invocation}

/-- Collapsing leaves only names that are there, and no two dots. -/
theorem mem_of_mem_collapseNames {names : List String} {name : String}
    (mem : name ∈ collapseNames names) : name ∈ names ∧ name ≠ ".." := by
  refine List.foldlRecOn names
    (motive := fun front => ∀ name ∈ front, name ∈ names ∧ name ≠ "..") _ (by simp) ?_ name mem
  intro front fits next inside other mem
  split at mem
  · exact fits other ((List.dropLast_sublist _).subset mem)
  · next forward =>
    rcases List.mem_append.1 mem with mem | mem
    · exact fits other mem
    · rw [List.mem_singleton.1 mem]
      exact ⟨inside, forward⟩

/-- A path from the root with names that a tree can have. -/
structure IsAbsolute (path : Path) : Prop where
  root : path.root = .slash
  names : ∀ name ∈ path.names, Path.IsName name ∧ name ≠ ".."

theorem isAbsolute_resolvePath (real : tree.IsReal) (text : String) :
    IsAbsolute (resolvePath tree text) where
  root := rfl
  names name mem := by
    obtain ⟨mem, forward⟩ := mem_of_mem_collapseNames mem
    refine ⟨?_, forward⟩
    rcases List.mem_append.1 mem with mem | mem
    · unfold FileTree.start at mem
      split at mem
      · exact (real.names _ List.mem_cons_self name mem).1
      · cases mem
    · exact Path.isName_of_mem_namesOf mem

/-- A path with names that a tree can have, at which something is. -/
structure IsGiven (tree : FileTree) (path : Path) : Prop where
  absolute : IsAbsolute path
  there : isThere tree path = true

/-- **A command line that has been read**: the paths of its sources and options are given, and its
language is known. -/
structure Invocation.IsRead (tree : FileTree) (invocation : Invocation) : Prop where
  language : ∃ language, Language.ofName? invocation.language = some language
  config : ∀ path, invocation.config = some path → IsGiven tree path
  root : ∀ path, invocation.root = some path → IsGiven tree path
  paths : ∀ path ∈ invocation.paths, IsGiven tree path

theorem existingPath_isGiven (real : tree.IsReal) {parameter value : String} {path : Path}
    (found : existingPath tree parameter value = .ok path) : IsGiven tree path := by
  obtain ⟨same, there⟩ := existingPath_eq_ok.1 found
  exact ⟨same ▸ isAbsolute_resolvePath real value, there⟩

theorem put_isRead (real : tree.IsReal) {option : OptionName} {value : String} {put : Invocation}
    (isRead : invocation.IsRead tree) (found : invocation.put tree option value = .ok put) :
    put.IsRead tree := by
  cases option with
  | config =>
    obtain ⟨path, existing, same⟩ := result_bind_eq_ok.1 found
    cases same
    refine { isRead with config := fun _ same => ?_ }
    cases same
    exact existingPath_isGiven real existing
  | root =>
    obtain ⟨path, existing, same⟩ := result_bind_eq_ok.1 found
    obtain ⟨resolved, there, -⟩ := existingDirectory_eq_ok.1 existing
    cases same
    refine { isRead with root := fun _ same => ?_ }
    cases same
    exact ⟨resolved ▸ isAbsolute_resolvePath real value, there⟩
  | language =>
    unfold Invocation.put at found
    dsimp only at found
    split at found
    · next language known =>
      cases found
      exact { isRead with language := ⟨language, known⟩ }
    · cases found
  | _ =>
    cases found
    exact { isRead with }

theorem read_isRead (real : tree.IsReal) {arguments : List String}
    (read : Invocation.read tree arguments = .ok invocation) :
    invocation.IsRead tree ∧ IsAbsolute invocation.output := by
  unfold Invocation.read at read
  split at read
  · cases read
  · unfold Invocation.ofArguments at read
    obtain ⟨first, options, read⟩ := result_bind_eq_ok.1 read
    obtain ⟨paths, existing, read⟩ := result_bind_eq_ok.1 read
    have isRead : first.IsRead tree := by
      refine foldlM_eq_ok_induction ?_ (fun item _ _ => put_isRead real) options
      exact ⟨⟨.python, rfl⟩, nofun, nofun, nofun⟩
    split at read
    · obtain ⟨path, possible, same⟩ := result_bind_eq_ok.1 read
      cases same
      refine ⟨{ isRead with paths := fun path mem => ?_ }, ?_⟩
      · obtain ⟨text, -, found⟩ := mem_of_mapM_eq_ok existing mem
        exact existingPath_isGiven real found
      · exact (possibleDirectory_eq_ok.1 possible).1 ▸ isAbsolute_resolvePath real _
    · cases read

/-! ### How a command line is mentioned -/

/-- A value is mentioned in a later tree as before. -/
def SameWords (before after : FileTree) (value : Value) : Prop :=
  mentionValue after value = mentionValue before value

/-- Of a path at which something stays, the last name is mentioned. -/
theorem sameWords_of_given (keeps : Keeps before after) {path : Path} (given : IsGiven before path) :
    SameWords before after (.text path.text) := by
  obtain ⟨place, located⟩ := isThere_iff.1 given.there
  have readBack := Path.ofText_text given.absolute.root fun name mem =>
    (given.absolute.names name mem).1
  have there : before.contains path = .ok true := by rw [contains, located]
  have still : after.contains path = .ok true := by rw [contains, keeps.locate located]
  simp only [SameWords, mentionValue, readBack, there, still]

/-- A text is mentioned as before if it leads to something, as a path, as before. -/
theorem sameWords_of_contains {text : String}
    (same : after.contains (.ofText text) = before.contains (.ofText text)) :
    SameWords before after (.text text) := by
  rw [SameWords, mentionValue, mentionValue, same]

/-- A name in the current directory can be looked up unless it is too long. -/
theorem contains_name {tree : FileTree} (current : tree.get? tree.current = some .directory)
    (name : String) :
    (∃ found, tree.contains ⟨.current, [name]⟩ = .ok found) ↔
      (Path.mk .current [name]).text.utf8ByteSize ≤ maxPathSize ∧
        (name = ".." ∨ name.utf8ByteSize ≤ maxNameSize) := by
  have begins : tree.start ⟨.current, [name]⟩ = tree.current := rfl
  rw [contains, locate, begins]
  by_cases whole : maxPathSize < (Path.mk .current [name]).text.utf8ByteSize
  · simp [whole, Nat.not_le.2 whole]
  · simp only [if_neg whole, walk, current, Nat.not_lt.1 whole, true_and]
    by_cases back : name = ".."
    · simp only [if_pos back]
      exact ⟨fun _ => .inl back, fun _ => ⟨true, rfl⟩⟩
    · by_cases long : maxNameSize < name.utf8ByteSize
      · simp [back, long, Nat.not_le.2 long]
      · cases found : tree.get? (tree.current ++ [name]) <;>
          simp [back, long, Nat.not_lt.1 long]

/-- A text without slashes is mentioned as it is, whether something is there or not. -/
theorem sameWords_of_slashless (keeps : Keeps before after)
    (current : before.get? before.current = some .directory) {text : String}
    (slashless : '/' ∉ text.toList) : SameWords before after (.text text) := by
  have current' : after.get? after.current = some .directory :=
    keeps.current ▸ keeps.directory _ current
  have path := Path.ofText_of_slashless slashless
  obtain none | one : [text].filter (fun name => name ≠ "" && name ≠ ".") = [] ∨
      [text].filter (fun name => name ≠ "" && name ≠ ".") = [text] := by
    rw [List.filter_cons, List.filter_nil]
    split
    · exact .inr rfl
    · exact .inl rfl
  · -- The path stays where it is.
    have here (tree : FileTree) : tree.contains ⟨.current, []⟩ = .ok true := rfl
    rw [none] at path
    simp only [SameWords, mentionValue, path, here]
  · -- The path is a single name, so whatever is found the text is mentioned as it is.
    rw [one] at path
    have name : (Path.mk .current [text]).name = text := rfl
    have looked (tree : FileTree) (found : Bool) (ok : tree.contains ⟨.current, [text]⟩ = .ok found) :
        mentionValue tree (.text text) = .ok text := by
      simp only [mentionValue, path, ok, name, ite_self]
      rfl
    have both : (∃ found, after.contains ⟨.current, [text]⟩ = .ok found) ↔
        ∃ found, before.contains ⟨.current, [text]⟩ = .ok found :=
      (contains_name current' text).trans (contains_name current text).symm
    cases old : before.contains ⟨.current, [text]⟩ with
    | ok found =>
      obtain ⟨found', again⟩ := both.2 ⟨found, old⟩
      rw [SameWords, looked before found old, looked after found' again]
    | error cause =>
      cases new : after.contains ⟨.current, [text]⟩ with
      | ok found =>
        obtain ⟨found', ok⟩ := both.1 ⟨found, new⟩
        rw [old] at ok
        cases ok
      | error cause' =>
        simp only [SameWords, mentionValue, path, old, new, contains_eq_error old,
          contains_eq_error new]

variable {values : List (String × Json)}

/-- The values of all parameters are mentioned in a later tree as before. -/
def AllSameWords (before after : FileTree) (values : List (String × Json)) : Prop :=
  ∀ entry ∈ values, SameWords before after (parameterValue entry.2) ∧
    ∀ value ∈ argumentValues (parameterValue entry.2), SameWords before after value

theorem AllSameWords.lookup (same : AllSameWords before after values) {name : String} {json : Json}
    (found : values.lookup name = some json) : SameWords before after (parameterValue json) ∧
      ∀ value ∈ argumentValues (parameterValue json), SameWords before after value := by
  obtain ⟨front, back, rfl, -⟩ := List.lookup_eq_some_iff.1 found
  exact same (name, json) (by simp)

theorem mentionArguments_of_sameWords (same : AllSameWords before after values)
    (entries : List (String × ParameterKind)) :
    mentionArguments after values entries = mentionArguments before values entries := by
  induction entries with
  | nil => rfl
  | cons entry rest ih =>
    obtain ⟨name, kind⟩ := entry
    cases kind with
    | argument =>
      rw [mentionArguments, mentionArguments, ih]
      cases found : values.lookup name with
      | none => rfl
      | some json =>
        dsimp only
        rw [mapM_congr fun value mem => (same.lookup found).2 value mem]
    | option long => exact ih
    | flag long => exact ih

theorem mentionOptions_of_sameWords (same : AllSameWords before after values)
    (entries : List (String × ParameterKind)) :
    mentionOptions after values entries = mentionOptions before values entries := by
  induction entries with
  | nil => rfl
  | cons entry rest ih =>
    obtain ⟨name, kind⟩ := entry
    rw [mentionOptions, mentionOptions, ih]
    cases found : values.lookup name with
    | none => rfl
    | some json =>
      have words : mentionValue after (parameterValue json) =
          mentionValue before (parameterValue json) := (same.lookup found).1
      dsimp only
      rw [words]

theorem mentionParameters_of_sameWords (same : AllSameWords before after values) :
    mentionParameters after values = mentionParameters before values := by
  rw [mentionParameters, mentionParameters, mentionArguments_of_sameWords same,
    mentionOptions_of_sameWords same]

/-- The items of an array are those of the values that it stands for. -/
theorem mem_ofJsonItems {items : List Json} {value : Value} (mem : value ∈ Value.ofJsonItems items) :
    ∃ item ∈ items, Value.ofJson item = value := by
  induction items with
  | nil => cases mem
  | cons item rest ih =>
    rcases List.mem_cons.1 mem with rfl | mem
    · exact ⟨item, List.mem_cons_self, rfl⟩
    · obtain ⟨other, there, same⟩ := ih mem
      exact ⟨other, List.mem_cons_of_mem item there, same⟩

/-- A text that is mentioned as before is so as a parameter and as an argument. -/
theorem sameWords_string {text : String} (same : SameWords before after (.text text)) :
    SameWords before after (parameterValue (.string text)) ∧
      ∀ value ∈ argumentValues (parameterValue (.string text)), SameWords before after value :=
  ⟨same, fun _ mem => List.mem_singleton.1 mem ▸ same⟩

/-- **Mentioning a command line again.** Where the directory for converters and the module are mentioned
as before, the whole command line is. -/
theorem mention_of_keeps (keeps : Keeps before after) (real : before.IsReal)
    (isRead : invocation.IsRead before) (output : SameWords before after (.text invocation.output.text))
    (module : ∀ module, invocation.module = some module → SameWords before after (.text module)) :
    invocation.mention after = invocation.mention before := by
  have path {path : Path} (given : IsGiven before path) :=
    sameWords_string (sameWords_of_given keeps given)
  have none : SameWords before after (parameterValue .null) ∧
      ∀ value ∈ argumentValues (parameterValue .null), SameWords before after value :=
    ⟨rfl, fun _ mem => List.mem_singleton.1 mem ▸ rfl⟩
  have flag (set : Bool) : SameWords before after (parameterValue (.bool set)) ∧
      ∀ value ∈ argumentValues (parameterValue (.bool set)), SameWords before after value :=
    ⟨rfl, fun _ mem => List.mem_singleton.1 mem ▸ rfl⟩
  refine mentionParameters_of_sameWords fun entry mem => ?_
  simp only [Invocation.values, List.mem_cons, List.not_mem_nil, or_false] at mem
  rcases mem with rfl | rfl | rfl | rfl | rfl | rfl | rfl | rfl | rfl
  · cases given : invocation.config with
    | none => exact none
    | some config => exact path (isRead.config config given)
  · obtain ⟨language, known⟩ := isRead.language
    refine sameWords_string (sameWords_of_slashless keeps real.current ?_)
    unfold Language.ofName? at known
    split at known
    · next same => rw [same]; decide
    · split at known
      · next same => rw [same]; decide
      · cases known
  · cases given : invocation.module with
    | none => exact none
    | some name => exact sameWords_string (module name given)
  · cases given : invocation.root with
    | none => exact none
    | some root => exact path (isRead.root root given)
  · exact flag _
  · exact flag _
  · exact flag _
  · refine ⟨rfl, fun value inside => ?_⟩
    obtain ⟨json, mem, rfl⟩ := mem_ofJsonItems inside
    obtain ⟨given, there, rfl⟩ := List.mem_map.1 mem
    exact sameWords_of_given keeps (isRead.paths given there)
  · exact sameWords_string output

end CommandLine

end EnumCodec
