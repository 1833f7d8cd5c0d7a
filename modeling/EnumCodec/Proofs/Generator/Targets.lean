import EnumCodec.CommandLine.Invocation
import EnumCodec.Proofs.Declaration.Names
import EnumCodec.Proofs.Generator.Rewriting
import EnumCodec.Proofs.Storage.Paths
import EnumCodec.Proofs.Text.SnakeCase

/-!
# EnumCodec.Proofs.Generator.Targets

**The paths of converters get in no way.** A converter stands below the directory for converters, in
directories whose names have no dot and in a file whose name ends as that of a source does. So different
paths lead to different places, and no temporary file is on the way to a converter.
-/

namespace EnumCodec

open FileTree
open Declaration (IsKind)

/-! ### Slashes in names -/

/-- A text without slashes. -/
def Slashless (text : String) : Prop :=
  '/' ∉ text.toList

instance (text : String) : Decidable (Slashless text) :=
  inferInstanceAs (Decidable (¬ _))

/-- A text of which no piece between the dots begins with a slash. -/
def IsRelative (text : String) : Prop :=
  ∀ piece ∈ Text.splitDots text.toList, piece.head? ≠ some '/'

instance (text : String) : Decidable (IsRelative text) :=
  inferInstanceAs (Decidable (∀ piece ∈ Text.splitDots text.toList, piece.head? ≠ some '/'))

theorem Slashless.isRelative {text : String} (slashless : Slashless text) : IsRelative text :=
  fun _ mem slash => slashless (Text.mem_of_mem_splitDots mem (List.mem_of_head? slash))

/-- A text without dots is its only piece. -/
theorem IsRelative.head? {text : String} (relative : IsRelative text) (dotless : '.' ∉ text.toList) :
    text.toList.head? ≠ some '/' :=
  relative _ (Text.splitDots_of_not_mem dotless ▸ List.mem_singleton_self _)

theorem slashless_of_isDottedName {text : String} (dotted : Text.IsDottedName text) :
    Slashless text :=
  Text.not_mem_of_isDottedName dotted (by decide) (by decide +kernel)

theorem isKind_relative : IsKind IsRelative where
  dotted dotted := (slashless_of_isDottedName dotted).isRelative
  join {text text'} relative relative' piece mem := by
    have pieces : Text.splitDots (text ++ "." ++ text').toList =
        Text.splitDots text.toList ++ Text.splitDots text'.toList := by
      rw [String.toList_append, String.toList_append, List.append_assoc, ← Text.splitDots_append]
      rfl
    rw [pieces] at mem
    rcases List.mem_append.1 mem with mem | mem
    · exact relative piece mem
    · exact relative' piece mem
  piece relative mem := by
    obtain ⟨chars, found, rfl⟩ := List.mem_map.1 mem
    intro piece inside
    rw [String.toList_ofList, Text.splitDots_of_not_mem (Text.not_dot_of_mem_splitDots found)] at inside
    exact List.mem_singleton.1 inside ▸ relative chars found

/-- The words of a name have no slash, and there is none between them. -/
theorem Text.slashless_snakeCase (text : String) : Slashless (snakeCase text) := fun slash =>
  (mem_snakeCase slash).elim (absurd · (by decide)) nofun

/-! ### The path of a converter -/

/-- **The path of a converter below the directory for converters**: the names of its directories have no
dot, and that of its file ends as those of sources do. -/
structure Path.IsUnit (path : Path) : Prop where
  root : path.root = .current
  names : ∃ directories file, path.names = directories ++ [file] ∧
    (∀ name ∈ directories, '.' ∉ name.toList) ∧
    (file.toList.getLast? = some 'y' ∨ file.toList.getLast? = some 's')

/-- A name that does not end in a dot is not left out, and it does not lead back. -/
theorem ne_of_getLast? {name : String}
    (last : name.toList.getLast? = some 'y' ∨ name.toList.getLast? = some 's') :
    name ≠ "" ∧ name ≠ "." ∧ name ≠ ".." := by
  refine ⟨?_, ?_, ?_⟩ <;> rintro rfl <;> revert last <;> decide

/-- The end of a text is that of its last part. -/
theorem getLast?_append_suffix (stem : String) {suffix : String}
    (last : suffix.toList.getLast? = some 'y' ∨ suffix.toList.getLast? = some 's') :
    (stem ++ suffix).toList.getLast? = some 'y' ∨ (stem ++ suffix).toList.getLast? = some 's' := by
  rw [String.toList_append, List.getLast?_append]
  exact last.imp (by simp [·]) (by simp [·])

/-- Of a text without dots, with the end of a file's name behind it, the last name ends so, and the
others have no dot. -/
theorem Path.namesOf_append_suffix {text suffix : String} (dotless : '.' ∉ text.toList)
    (slashless : Slashless suffix)
    (last : suffix.toList.getLast? = some 'y' ∨ suffix.toList.getLast? = some 's') :
    ∃ directories stem, Path.namesOf (text ++ suffix).toList = directories ++ [stem ++ suffix] ∧
      ∀ name ∈ directories, '.' ∉ name.toList := by
  obtain ⟨front, back, pieces, longer⟩ := splitSlashes_append_of_not_mem text.toList slashless
  have file : String.ofList (back ++ suffix.toList) = String.ofList back ++ suffix := by
    rw [String.ofList_append, String.ofList_toList]
  obtain ⟨nonempty, more, -⟩ := ne_of_getLast? (getLast?_append_suffix (String.ofList back) last)
  refine ⟨(front.map String.ofList).filter fun name => name ≠ "" && name ≠ ".", String.ofList back,
    ?_, ?_⟩
  · rw [namesOf, String.toList_append, longer, List.map_append, List.filter_append, List.map_singleton,
      file, List.filter_cons_of_pos (by rw [decide_eq_true nonempty, decide_eq_true more, Bool.and_self]),
      List.filter_nil]
  · intro name mem
    obtain ⟨piece, inside, rfl⟩ := List.mem_map.1 (List.mem_filter.1 mem).1
    rw [String.toList_ofList]
    exact fun dot => dotless
      (mem_of_mem_splitSlashes (pieces ▸ List.mem_append_left [back] inside) dot)

/-- Texts that have no dot and lead on make up directories and the beginning of a file's name, with the
end of that name behind them. -/
theorem Path.ofTexts_append_suffix (texts : List String) {text suffix : String}
    (leads : ∀ piece ∈ texts ++ [text], '.' ∉ piece.toList ∧ piece.toList.head? ≠ some '/')
    (slashless : Slashless suffix)
    (last : suffix.toList.getLast? = some 'y' ∨ suffix.toList.getLast? = some 's') :
    ∃ directories stem,
      Path.ofTexts (texts ++ [text ++ suffix]) = ⟨.current, directories ++ [stem ++ suffix]⟩ ∧
        ∀ name ∈ directories, '.' ∉ name.toList := by
  obtain ⟨dotless, head⟩ := leads text (by simp)
  have along : ∀ piece ∈ texts ++ [text ++ suffix], rootOf piece.toList = .current := by
    intro piece mem
    refine rootOf_of_head? ?_
    rcases List.mem_append.1 mem with mem | mem
    · exact (leads piece (List.mem_append_left [text] mem)).2
    · rw [List.mem_singleton.1 mem, String.toList_append]
      cases chars : text.toList with
      | nil => exact fun slash => slashless (List.mem_of_head? slash)
      | cons c rest => exact fun slash => head (chars ▸ slash)
  obtain ⟨directories, stem, names, dotless'⟩ := namesOf_append_suffix dotless slashless last
  rw [ofTexts_of_current along]
  refine ⟨texts.flatMap (fun piece => namesOf piece.toList) ++ directories, stem, ?_, ?_⟩
  · simp only [List.flatMap_append, List.flatMap_singleton, names, List.append_assoc]
  · intro name mem
    rcases List.mem_append.1 mem with mem | mem
    · obtain ⟨piece, inside, found⟩ := List.mem_flatMap.1 mem
      obtain ⟨chars, piece', rfl⟩ := List.mem_map.1 (List.mem_filter.1 found).1
      rw [String.toList_ofList]
      exact fun dot => (leads piece (List.mem_append_left [text] inside)).1
        (mem_of_mem_splitSlashes piece' dot)
    · exact dotless' name mem

/-- How the files of a language end. -/
def Language.fileSuffix : Language → String
  | .python => ".py"
  | .cSharp => ".g.cs"

theorem Language.getLast?_fileSuffix (language : Language) :
    language.fileSuffix.toList.getLast? = some 'y' ∨
      language.fileSuffix.toList.getLast? = some 's' := by
  cases language <;> decide

/-- **The path of a converter**: directories without dots, and a file that ends as those of the language
do. -/
theorem Conversion.IsDeclared.unitPath_eq {conversion : Conversion} {module : String}
    (declared : conversion.IsDeclared IsRelative module) (language : Language) :
    ∃ directories stem,
      conversion.unitPath language = ⟨.current, directories ++ [stem ++ language.fileSuffix]⟩ ∧
        ∀ name ∈ directories, '.' ∉ name.toList := by
  have converter := declared.converter
  have last := language.getLast?_fileSuffix
  cases language with
  | cSharp =>
    have leads := converter.name.head? converter.undotted
    rw [Conversion.unitPath, ← Path.ofTexts_singleton]
    exact Path.ofTexts_append_suffix [] (by simpa using ⟨converter.undotted, leads⟩) (by decide) last
  | python =>
    have slashless : Slashless (Text.snakeCase conversion.target.converterName ++ ".py") := by
      rw [Slashless, String.toList_append, List.mem_append, not_or]
      exact ⟨Text.slashless_snakeCase _, by decide⟩
    have behind (texts : List String)
        (leads : ∀ piece ∈ texts, '.' ∉ piece.toList ∧ piece.toList.head? ≠ some '/') :
        ∃ directories stem,
          Path.ofTexts (texts ++ [Text.snakeCase conversion.target.converterName ++ ".py"]) =
              ⟨.current, directories ++ [stem ++ ".py"]⟩ ∧
            ∀ name ∈ directories, '.' ∉ name.toList := by
      obtain ⟨directories, stem, path, dotless⟩ := @Path.ofTexts_append_suffix texts "" _
        (List.forall_mem_append.2 ⟨leads, by decide⟩) slashless (getLast?_append_suffix _ last)
      -- The words of the name stand before the suffix, so they are a part of the stem.
      refine ⟨directories, stem ++ Text.snakeCase conversion.target.converterName, ?_, dotless⟩
      rwa [String.empty_append, ← String.append_assoc] at path
    unfold Conversion.unitPath
    dsimp only
    split
    · rw [← Path.ofTexts_singleton]
      exact behind [] nofun
    · next named =>
      have relative : IsRelative conversion.target.converterNamespace :=
        converter.namespacePath.resolve_left named
      refine behind _ fun piece mem => ?_
      obtain ⟨chars, found, rfl⟩ := List.mem_map.1 mem
      rw [String.toList_ofList]
      exact ⟨Text.not_dot_of_mem_splitDots found, relative chars found⟩

theorem Conversion.IsDeclared.isUnit {conversion : Conversion} {module : String}
    (declared : conversion.IsDeclared IsRelative module) (language : Language) :
    (conversion.unitPath language).IsUnit := by
  obtain ⟨directories, stem, path, dotless⟩ := declared.unitPath_eq language
  rw [path]
  exact ⟨rfl, directories, _, rfl, dotless, getLast?_append_suffix stem language.getLast?_fileSuffix⟩

/-! ### Places -/

/-- A directory for converters: a path from the root without two dots. -/
structure Path.IsResolved (path : Path) : Prop where
  root : path.root = .slash
  forward : ".." ∉ path.names

variable {tree : FileTree} {output path : Path} {files : List ConverterFile}

theorem Path.IsUnit.forward (isUnit : path.IsUnit) : ".." ∉ path.names := by
  obtain ⟨directories, file, names, dotless, last⟩ := isUnit.names
  rw [names, List.mem_append, List.mem_singleton, not_or]
  exact ⟨fun mem => absurd (dotless _ mem) (by decide), (ne_of_getLast? last).2.2.symm⟩

/-- The path of a converter leads where its names say. -/
theorem placeOf_append (resolved : output.IsResolved) (isUnit : path.IsUnit) :
    tree.placeOf (output.append path) = output.names ++ path.names := by
  rw [placeOf, start, Path.append, if_pos isUnit.root]
  dsimp only
  rw [resolved.root, if_neg (by decide), follow_eq_append, List.nil_append]
  rw [List.mem_append, not_or]
  exact ⟨resolved.forward, isUnit.forward⟩

theorem getLast?_temporaryName (name : String) (number : Nat) :
    (temporaryName name number).toList.getLast? = some 'p' := by
  simp [temporaryName, List.getLast?_append, List.getLast?_cons]

theorem dot_mem_temporaryName (name : String) (number : Nat) :
    '.' ∈ (temporaryName name number).toList := by
  simp [temporaryName]

/-- No name of a converter's path is that of a temporary file. -/
theorem Path.IsUnit.temporaryName_not_mem (isUnit : path.IsUnit) (name : String) (number : Nat) :
    temporaryName name number ∉ path.names := by
  obtain ⟨directories, file, names, dotless, last⟩ := isUnit.names
  rw [names, List.mem_append, List.mem_singleton, not_or]
  refine ⟨fun mem => dotless _ mem (dot_mem_temporaryName name number), ?_⟩
  rintro rfl
  rw [getLast?_temporaryName] at last
  revert last
  decide

/-- A temporary file for a converter is below the directory for converters too. -/
theorem temporaryPlace_append (resolved : output.IsResolved) (isUnit : path.IsUnit) (number : Nat) :
    temporaryPlace tree (output.append path) number =
      output.names ++ (path.names.dropLast ++
        [temporaryName (output.append path).name number]) := by
  obtain ⟨directories, file, names, dotless, -⟩ := isUnit.names
  rw [temporaryPlace, placeOf, names_beside]
  generalize named : temporaryName (output.append path).name number = temporary
  have forward : ".." ∉ output.names ++ directories ++ [temporary] := by
    simp only [List.mem_append, List.mem_singleton, not_or]
    refine ⟨⟨resolved.forward, fun mem => absurd (dotless _ mem) (by decide)⟩, ?_⟩
    exact named ▸ (temporaryName_ne_dots _ number).symm
  have start : tree.start ((output.append path).beside temporary) = [] := by
    simp [FileTree.start, Path.beside, Path.append, isUnit.root, resolved.root]
  have above : (output.append path).names.dropLast = output.names ++ directories := by
    rw [Path.append, if_pos isUnit.root, names, ← List.append_assoc, List.dropLast_concat]
  rw [start, above, follow_eq_append forward, names, List.dropLast_concat, List.nil_append,
    List.append_assoc]

/-- A path that is passed on the way to a converter is given by names that come first. -/
theorem isPrefix_of_passes {place : Place} (resolved : output.IsResolved) (isUnit : path.IsUnit)
    (passes : tree.Passes (output.append path) place) : place <+: output.names ++ path.names := by
  obtain ⟨names, sub, rfl⟩ := passes
  rw [Path.append, if_pos isUnit.root] at sub ⊢
  dsimp only at sub
  have forward : ".." ∉ names := fun mem => by
    rcases List.mem_append.1 (sub.subset mem) with mem | mem
    · exact resolved.forward mem
    · exact isUnit.forward mem
  rw [start, resolved.root, if_neg (by decide), follow_eq_append forward, List.nil_append]
  exact sub

/-- **Converters with different paths are apart.** -/
theorem apart_targetPaths (tree : FileTree) (resolved : output.IsResolved)
    (units : ∀ file ∈ files, file.path.IsUnit)
    (nodup : ((targetPaths output files).map (·.1)).Nodup) : Apart tree (targetPaths output files) where
  distinct := by
    -- Without two dots the place of a path is spelled as the path is.
    rw [targetPaths, List.map_map, List.Nodup, List.pairwise_map] at nodup
    rw [targetPaths, List.pairwise_map]
    refine nodup.imp_of_mem fun {one other} mem mem' differ same => differ ?_
    rw [placeOf_append resolved (units one mem), placeOf_append resolved (units other mem')] at same
    simp only [Function.comp_apply, Path.append, (units one mem).root, (units other mem').root,
      if_true, same]
  temporary target mem number := by
    rintro ⟨other, mem', passes⟩
    obtain ⟨file, found, rfl⟩ := List.mem_map.1 mem
    obtain ⟨file', found', rfl⟩ := List.mem_map.1 mem'
    have isUnit := units file found
    have isUnit' := units file' found'
    -- The way to a converter is a first part of its names, and none of them is a temporary one.
    have sub := isPrefix_of_passes resolved isUnit' passes
    rw [temporaryPlace_append resolved isUnit, List.prefix_append_right_inj] at sub
    exact isUnit'.temporaryName_not_mem (output.append file.path).name number
      (sub.subset (List.mem_append_right _ (List.mem_singleton_self _)))

end EnumCodec
