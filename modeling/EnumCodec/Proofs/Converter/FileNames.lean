import EnumCodec.Converter.File
import EnumCodec.Proofs.Source.Words
import EnumCodec.Proofs.Storage.Paths
import EnumCodec.Proofs.Text.SnakeCase

/-!
# EnumCodec.Proofs.Converter.FileNames

**Which converters in Python can be imported by the names of their files.** The file is named by the words
of the converter, and these are made of ASCII letters and digits alone. So the name of the file is an
identifier exactly if the first of them in the name of the converter is a letter.
-/

namespace EnumCodec

open Source (Keyword)

/-! ### The last name of a path -/

/-- A path that leads on along another one ends as that one does. -/
theorem Path.name_append {path next : Path} (nonempty : next.names ≠ []) :
    (path.append next).name = next.name := by
  unfold Path.append Path.name
  split
  · rw [List.getLastD_eq_getLast?, List.getLast?_append_of_ne_nil _ nonempty,
      List.getLastD_eq_getLast?]
  · rfl

/-- The path along some texts and a name ends with the name. -/
theorem Path.name_ofTexts_concat (texts : List String) {name : String} (isName : Path.IsName name) :
    (Path.ofTexts (texts ++ [name])).name = name := by
  have names : (Path.ofText name).names = [name] := Path.namesOf_name isName
  rw [Path.ofTexts, List.foldl_append, List.foldl_cons, List.foldl_nil,
    Path.name_append (by simp [names]), Path.name, names]
  rfl

/-! ### Words that spell keywords -/

/-- No keyword has an underscore, and none is empty. -/
theorem Keyword.lookup_eq_none {text : String} (other : text = "" ∨ '_' ∈ text.toList) :
    Keyword.spellings.lookup text = none := by
  have spelled : ∀ entry ∈ Keyword.spellings, entry.1 ≠ "" ∧ '_' ∉ entry.1.toList := by decide
  refine List.lookup_eq_none_iff.2 fun entry mem => ?_
  rw [bne_iff_ne]
  rintro rfl
  exact other.elim (spelled entry mem).1 (spelled entry mem).2

/-- A name whose only word spells a keyword in small letters. -/
def SpellsKeyword (name : String) : Prop :=
  ∃ word, Text.words name.toList = [word] ∧
    Keyword.spellings.lookup (String.ofList (word.map Text.smallForm)) ≠ none

theorem lookup_snakeCase_eq_none_iff (name : String) :
    Keyword.spellings.lookup (Text.snakeCase name) = none ↔ ¬ SpellsKeyword name := by
  rcases Text.snakeCase_cases name with ⟨word, only, same⟩ | ⟨several, other⟩
  · rw [same]
    constructor
    · rintro none ⟨other, only', spells⟩
      obtain rfl : word = other := by simpa [only] using only'
      exact spells none
    · intro free
      cases found : Keyword.spellings.lookup (String.ofList (word.map Text.smallForm)) with
      | none => rfl
      | some keyword => exact absurd ⟨word, only, by rw [found]; exact Option.some_ne_none _⟩ free
  · refine iff_of_true (Keyword.lookup_eq_none other) ?_
    rintro ⟨word, only, -⟩
    exact several word only

/-! ### The name of a file -/

namespace Conversion

/-- The words of the name of the converter, from which the name of its file is built. -/
def fileStem (conversion : Conversion) : String :=
  Text.snakeCase conversion.target.converterName

theorem isName_fileStem (conversion : Conversion) : Path.IsName (conversion.fileStem ++ ".py") := by
  have last : (conversion.fileStem ++ ".py").toList.getLast? = some 'y' := by
    simp [String.toList_append, List.getLast?_append]
  refine ⟨fun none => ?_, fun dot => ?_, fun slash => ?_⟩
  · rw [none] at last
    cases last
  · rw [dot] at last
    revert last
    decide
  · rw [String.toList_append, List.mem_append] at slash
    rcases slash with slash | slash
    · exact (Text.mem_snakeCase slash).elim (absurd · (by decide)) nofun
    · revert slash
      decide

theorem name_unitPath_python (conversion : Conversion) :
    (conversion.unitPath .python).name = conversion.fileStem ++ ".py" := by
  have isName := conversion.isName_fileStem
  unfold unitPath
  dsimp only
  split
  · rw [← Path.ofTexts_singleton]
    exact Path.name_ofTexts_concat [] isName
  · exact Path.name_ofTexts_concat _ isName

/-- **Can the file of a converter in Python be imported by its name?** The file is named by a stem, which
is an identifier exactly if the first ASCII letter or digit in the name of the converter is a letter.
The stem can be a name unless, besides, the only word of the converter's name spells a keyword. -/
theorem fileStem_importable_iff (conversion : Conversion) :
    (conversion.unitPath .python).name = conversion.fileStem ++ ".py" ∧
      (Text.isIdentifier conversion.fileStem.toList = true ↔
        ∃ c, Text.firstWordPart? conversion.target.converterName = some c ∧
          Text.isDigit c = false) ∧
      (Source.IsName conversion.fileStem ↔
        (∃ c, Text.firstWordPart? conversion.target.converterName = some c ∧
          Text.isDigit c = false) ∧ ¬ SpellsKeyword conversion.target.converterName) := by
  have identifier : Text.isIdentifier conversion.fileStem.toList = true ↔ _ :=
    Text.isIdentifier_snakeCase_iff conversion.target.converterName
  refine ⟨conversion.name_unitPath_python, identifier, ?_⟩
  rw [Source.IsName, identifier, fileStem, lookup_snakeCase_eq_none_iff]

/-- An identifier without ASCII letters leaves no stem, and one with a digit before them leaves a stem
that begins with the digit. -/
example :
    (unitPath .python { target := { converterName := "Ü" } }).name = ".py" ∧
      (unitPath .python { target := { converterName := "_2D" } }).name = "2_d.py" := by
  decide +kernel

end Conversion

end EnumCodec
