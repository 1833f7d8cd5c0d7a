import EnumCodec.Path

/-!
# EnumCodec.Proofs.Storage.Paths

**The names in a path and its text.** The names of a path that is read from a text have no slash and say
more than a single dot. Such names, written with slashes between them, are read back.
-/

namespace EnumCodec

namespace Path

variable {text : List Char}

/-! ### Pieces between slashes -/

theorem splitSlashes_ne_nil (text : List Char) : splitSlashes text ≠ [] := by
  cases text with
  | nil => simp [splitSlashes]
  | cons c rest =>
    unfold splitSlashes
    split
    · simp
    · split <;> simp

/-- A text without slashes is its only piece. -/
theorem splitSlashes_of_not_mem (slashless : '/' ∉ text) : splitSlashes text = [text] := by
  induction text with
  | nil => rfl
  | cons c rest ih =>
    have other : c ≠ '/' := fun slash => slashless (slash ▸ List.mem_cons_self)
    rw [splitSlashes, if_neg other, ih fun slash => slashless (List.mem_cons_of_mem c slash)]

/-- What stands behind a text belongs to its last piece, if there is no slash in it. -/
theorem splitSlashes_append_of_not_mem (text : List Char) {rest : List Char}
    (slashless : '/' ∉ rest) : ∃ front last, splitSlashes text = front ++ [last] ∧
      splitSlashes (text ++ rest) = front ++ [last ++ rest] := by
  induction text with
  | nil => exact ⟨[], [], rfl, splitSlashes_of_not_mem slashless⟩
  | cons c text ih =>
    obtain ⟨front, last, pieces, longer⟩ := ih
    rw [List.cons_append, splitSlashes, splitSlashes, pieces, longer]
    split
    · exact ⟨[] :: front, last, rfl, rfl⟩
    · cases front with
      | nil => exact ⟨[], c :: last, rfl, rfl⟩
      | cons first others => exact ⟨(c :: first) :: others, last, rfl, rfl⟩

/-- A slash separates the pieces before it from those behind it. -/
theorem splitSlashes_append (text rest : List Char) :
    splitSlashes (text ++ '/' :: rest) = splitSlashes text ++ splitSlashes rest := by
  induction text with
  | nil => rfl
  | cons c text ih =>
    rw [List.cons_append, splitSlashes, splitSlashes, ih]
    split
    · rfl
    · cases split : splitSlashes text with
      | nil => exact absurd split (splitSlashes_ne_nil text)
      | cons piece pieces => rfl

/-- The characters of a piece are those of the text. -/
theorem mem_of_mem_splitSlashes {piece : List Char} {c : Char} (mem : piece ∈ splitSlashes text)
    (inside : c ∈ piece) : c ∈ text := by
  induction text generalizing piece with
  | nil =>
    obtain rfl : piece = [] := by simpa [splitSlashes] using mem
    cases inside
  | cons d rest ih =>
    unfold splitSlashes at mem
    split at mem
    · rcases List.mem_cons.1 mem with rfl | mem
      · cases inside
      · exact List.mem_cons_of_mem d (ih mem inside)
    · split at mem
      · next none => exact absurd none (splitSlashes_ne_nil rest)
      · next first pieces split =>
        rcases List.mem_cons.1 mem with rfl | mem
        · rcases List.mem_cons.1 inside with rfl | inside
          · exact List.mem_cons_self
          · exact List.mem_cons_of_mem d (ih (split ▸ List.mem_cons_self) inside)
        · exact List.mem_cons_of_mem d (ih (split ▸ List.mem_cons_of_mem first mem) inside)

/-- A piece has no slash. -/
theorem not_slash_of_mem_splitSlashes {piece : List Char} (mem : piece ∈ splitSlashes text) :
    '/' ∉ piece := by
  induction text generalizing piece with
  | nil =>
    obtain rfl : piece = [] := by simpa [splitSlashes] using mem
    exact List.not_mem_nil
  | cons c rest ih =>
    unfold splitSlashes at mem
    split at mem
    · rcases List.mem_cons.1 mem with rfl | mem
      · exact List.not_mem_nil
      · exact ih mem
    · next other =>
      split at mem
      · next none => exact absurd none (splitSlashes_ne_nil rest)
      · next first pieces split =>
        rcases List.mem_cons.1 mem with rfl | mem
        · intro slash
          rcases List.mem_cons.1 slash with same | slash
          · exact other same.symm
          · exact ih (split ▸ List.mem_cons_self) slash
        · exact ih (split ▸ List.mem_cons_of_mem first mem)

/-! ### Names -/

/-- A name that a path can have: it has no slash, and it is neither empty nor a single dot. -/
structure IsName (name : String) : Prop where
  ne_empty : name ≠ ""
  ne_dot : name ≠ "."
  slashless : '/' ∉ name.toList

instance (name : String) : Decidable (IsName name) :=
  decidable_of_iff (name ≠ "" ∧ name ≠ "." ∧ '/' ∉ name.toList)
    ⟨fun ⟨nonempty, more, slashless⟩ => ⟨nonempty, more, slashless⟩,
      fun ⟨nonempty, more, slashless⟩ => ⟨nonempty, more, slashless⟩⟩

theorem isName_of_mem_namesOf {name : String} (mem : name ∈ namesOf text) : IsName name := by
  obtain ⟨mem, kept⟩ := List.mem_filter.1 mem
  obtain ⟨piece, found, rfl⟩ := List.mem_map.1 mem
  obtain ⟨nonempty, more⟩ : String.ofList piece ≠ "" ∧ String.ofList piece ≠ "." := by simpa using kept
  exact ⟨nonempty, more, by simpa using not_slash_of_mem_splitSlashes found⟩

theorem namesOf_append (text rest : List Char) :
    namesOf (text ++ '/' :: rest) = namesOf text ++ namesOf rest := by
  simp only [namesOf, splitSlashes_append, List.map_append, List.filter_append]

/-- A text without slashes is a name, or it is left out. -/
theorem namesOf_of_slashless {text : String} (slashless : '/' ∉ text.toList) :
    namesOf text.toList = [text].filter fun name => name ≠ "" && name ≠ "." := by
  rw [namesOf, splitSlashes_of_not_mem slashless, List.map_singleton, String.ofList_toList]

theorem namesOf_name {name : String} (isName : IsName name) : namesOf name.toList = [name] := by
  rw [namesOf_of_slashless isName.slashless, List.filter_cons_of_pos, List.filter_nil]
  simpa using ⟨isName.ne_empty, isName.ne_dot⟩

/-- Names with slashes between them are read back. -/
theorem namesOf_intercalate {names : List String} (all : ∀ name ∈ names, IsName name) :
    namesOf ("/".intercalate names).toList = names := by
  induction names with
  | nil => rfl
  | cons first rest ih =>
    obtain ⟨isName, others⟩ := List.forall_mem_cons.1 all
    cases rest with
    | nil => rw [String.intercalate_singleton, namesOf_name isName]
    | cons second rest =>
      rw [String.intercalate_cons_cons, String.toList_append, String.toList_append,
        List.append_assoc, show "/".toList = ['/'] from rfl, List.singleton_append, namesOf_append,
        namesOf_name isName, ih others, List.singleton_append]

/-! ### Paths -/

/-- A text that does not begin with a slash leads on from where one is. -/
theorem rootOf_of_head? (leads : text.head? ≠ some '/') : rootOf text = .current := by
  unfold rootOf
  split
  · exact absurd rfl leads
  · exact absurd rfl leads
  · exact absurd rfl leads
  · rfl

theorem ofText_of_slashless {text : String} (slashless : '/' ∉ text.toList) :
    ofText text = ⟨.current, [text].filter fun name => name ≠ "" && name ≠ "."⟩ := by
  rw [ofText, rootOf_of_head? fun slash => slashless (List.mem_of_head? slash),
    namesOf_of_slashless slashless]

/-- The path of texts that lead on has the names in all of them. -/
theorem ofTexts_of_current {texts : List String}
    (leads : ∀ text ∈ texts, rootOf text.toList = .current) :
    ofTexts texts = ⟨.current, texts.flatMap fun text => namesOf text.toList⟩ := by
  have along (path : Path) : texts.foldl (fun path text => path.append (ofText text)) path =
      ⟨path.root, path.names ++ texts.flatMap fun text => namesOf text.toList⟩ := by
    induction texts generalizing path with
    | nil => simp
    | cons text rest ih =>
      obtain ⟨first, others⟩ := List.forall_mem_cons.1 leads
      rw [List.foldl_cons, ofText, first, ih others, append, if_pos rfl]
      simp only [List.append_assoc, List.flatMap_cons]
  rw [ofTexts, along, List.nil_append]

/-- A text on its own is a path of texts. -/
theorem ofTexts_singleton (text : String) : ofTexts [text] = ofText text := by
  change append {} (ofText text) = ofText text
  unfold append
  split
  · next leads =>
    rw [List.nil_append]
    exact (congrArg (Path.mk · (ofText text).names) leads).symm
  · rfl

/-- **The text of a path from the root is read back.** -/
theorem ofText_text {path : Path} (root : path.root = .slash)
    (all : ∀ name ∈ path.names, IsName name) : ofText path.text = path := by
  obtain ⟨_, names⟩ := path
  subst root
  have text : (Path.text ⟨.slash, names⟩).toList = '/' :: ("/".intercalate names).toList := by
    simp [Path.text, rootText]
  have begins : rootOf ('/' :: ("/".intercalate names).toList) = .slash := by
    cases names with
    | nil => rfl
    | cons first rest =>
      have isName := all first List.mem_cons_self
      obtain ⟨c, more, chars⟩ : ∃ c more, first.toList = c :: more := by
        cases split : first.toList with
        | nil => exact absurd (String.toList_eq_nil_iff.1 split) isName.ne_empty
        | cons c more => exact ⟨c, more, rfl⟩
      have other : c ≠ '/' := by
        rintro rfl
        exact isName.slashless (chars ▸ List.mem_cons_self)
      obtain ⟨back, starts⟩ : ∃ back, ("/".intercalate (first :: rest)).toList = c :: back := by
        cases rest with
        | nil => exact ⟨more, by rw [String.intercalate_singleton, chars]⟩
        | cons second rest =>
          rw [String.intercalate_cons_cons, String.toList_append, String.toList_append, chars]
          exact ⟨_, rfl⟩
      rw [starts]
      unfold rootOf
      split
      · next same => simp_all
      · next same => simp_all
      · rfl
      · next none => exact absurd rfl (none _)
  rw [ofText, text, begins]
  have names' : namesOf ('/' :: ("/".intercalate names).toList) = names := by
    rw [← List.nil_append ('/' :: _), namesOf_append, namesOf_intercalate all]
    rfl
  rw [names']

end Path

end EnumCodec
