import EnumCodec.Proofs.Converter.PythonReading
import EnumCodec.Proofs.Source.Lines
import EnumCodec.Proofs.Source.Statements

/-!
# EnumCodec.Proofs.Converter.PythonTokens

**The tokens of a converter in Python, up to its methods.** Each line of a converter is read as the
tokens that it looks like: a name stands for itself, a literal for what its body spells. So the tokens
of the text are known, whatever the names, the labels and the descriptions are.
-/

namespace EnumCodec

open Source
open Text (PlainText Spells dotPieces firstPiece)

/-- The names that a converter in Python writes as code are names there: none is a keyword. -/
structure Conversion.HasPythonNames (conversion : Conversion) : Prop where
  converterName : IsName conversion.target.converterName
  enumModule : conversion.target.enumModule = "" ∨ IsReference conversion.target.enumModule
  enumName : IsReference (PythonConverter.enumName conversion.target)
  identifiers : ∀ member ∈ conversion.members, IsReference member.identifier

namespace PythonConverter

/-- The blocks of a class, and of a method in it. -/
def classBlocks : List Columns := [⟨4, 4⟩]

def methodBlocks : List Columns := [⟨8, 8⟩, ⟨4, 4⟩]

/-! ### Literals -/

theorem isLiteral_escape (text : String) : IsLiteral (Text.escape text) :=
  ⟨text.toList, by rw [Text.toList_escape]; exact .escapeChars _⟩

theorem isLiteral_lowercase_escape (text : String) :
    IsLiteral (Text.lowercase (Text.escape text)) := by
  refine ⟨Text.lowercaseEscapedAfter [] text.toList, ?_⟩
  rw [Text.lowercase, String.toList_ofList, Text.toList_escape]
  exact .lowercaseAfter [] text.toList

/-- Each visible text can stand in a literal, and so can its lowercase form. -/
theorem isLiteral_visible {conversion : Conversion} (names : conversion.IsWellNamed)
    (labels : conversion.HasEscapedLabels) {member : VisibleMember}
    (h : member ∈ conversion.visibleMembers) :
    IsLiteral member.text ∧ IsLiteral (Text.lowercase member.text) := by
  obtain ⟨-, text, escaped⟩ := Conversion.visibleMembers_spec names labels h
  rw [escaped]
  exact ⟨isLiteral_escape text, isLiteral_lowercase_escape text⟩

/-- The place at the start of a line. -/
abbrev between (blocks : List Columns) : Source.Place := ⟨true, [], blocks⟩

/-! ### Before the class -/

/-- The tokens of a text that stands alone. -/
def describeKinds (text : String) : List TokenKind :=
  [.string (.text text), .newline]

/-- The tokens of the import of the enum. -/
def importKinds (target : Target) : List TokenKind :=
  .keyword .fromK :: (referenceKinds (dotPieces target.enumModule) ++
    [.keyword .importK, nameKind (firstPiece (enumName target)), .newline])

/-- The tokens of the imports that the helpers need. -/
def helperImportKinds : List TokenKind :=
  [.keyword .importK, .name "json", .newline,
    .keyword .fromK, .name "typing", .keyword .importK, .name "Any", .newline]

/-- The tokens before the list of what the module exports. -/
def headKinds (layout : Layout) (target : Target) : List TokenKind :=
  describeKinds ("JSON converter for " ++ target.enumFullName ++ ".") ++
  ([.keyword .fromK, .name "__future__", .keyword .importK, .name "annotations", .newline] ++
  ((if layout.jsonHelpers then helperImportKinds else []) ++
  (if target.enumModule = "" then [] else importKinds target)))

theorem comment_reads {comment commandLine : String} (unbroken : Reading.isUnbroken commandLine = true)
    (h : comment = generationComment .python commandLine) :
    LinesRead (between []) [comment] [] (between []) := by
  have text : comment.toList =
      List.replicate 0 ' ' ++ '#' :: (" Generated by enum_json_converter v1.0.0 : ".toList ++
        commandLine.toList) := by
    rw [h, generationComment, String.toList_append, String.toList_append]
    rfl
  refine .comment text fun newline => ?_
  rcases List.mem_append.1 newline with fixed | slot
  · exact absurd fixed (by decide)
  · exact absurd (Reading.isUnbroken_iff.1 unbroken _ slot) (by decide)

/-- The line that imports the enum. -/
theorem import_reads {target : Target} (module : IsReference target.enumModule)
    (enum : IsName (firstPiece (enumName target))) :
    LineReads 0 [] ("from " ++ target.enumModule ++ " import " ++ firstPiece (enumName target))
      (importKinds target) [] := by
  have name : Finishes [] (' ' :: (firstPiece (enumName target)).toList)
      [nameKind (firstPiece (enumName target)), .newline] [] := by
    rw [← List.append_nil (firstPiece (enumName target)).toList]
    exact (Finishes.newline.name enum (by simp)).blank (by simp)
  have word : Finishes [] (" import ".toList ++ (firstPiece (enumName target)).toList)
      [.keyword .importK, nameKind (firstPiece (enumName target)), .newline] [] :=
    .behind (g := [' ']) [.keyword .importK] 1 (by decide) (fun _ _ _ => rfl) name
  have slot := (word.reference module (by rintro c ⟨⟩; decide)).blank (by simp)
  rw [String.append_assoc, String.append_assoc]
  refine .behind (g := [' ']) (c := 'f') rfl rfl [.keyword .fromK] 1 (by decide) (fun _ _ _ => rfl) ?_
  rw [String.toList_append, String.toList_append]
  exact slot

theorem helperImports_read :
    LinesRead (between []) ["import json", "from typing import Any", ""] helperImportKinds
      (between []) := by
  have json : LineReads 0 [] "import json" [.keyword .importK, .name "json", .newline] [] :=
    .fixed (toList_literal rfl) ⟨rfl, rfl⟩ 3 (by decide) fun _ _ _ => rfl
  have typing : LineReads 0 [] "from typing import Any"
      [.keyword .fromK, .name "typing", .keyword .importK, .name "Any", .newline] [] :=
    .fixed (toList_literal rfl) ⟨rfl, rfl⟩ 5 (by decide) fun _ _ _ => rfl
  exact (LinesRead.top json).cons ((LinesRead.top typing).cons .blank)

/-- **The lines before the list of what the module exports.** -/
theorem head_reads {layout : Layout} {conversion : Conversion} (whole : layout.IsUnbroken .python)
    (names : conversion.IsWellNamed) (python : conversion.HasPythonNames)
    (enum : IsName (firstPiece (enumName conversion.target))) :
    LinesRead (between []) (headLines layout conversion.target) (headKinds layout conversion.target)
      (between []) := by
  have comment : LinesRead (between []) layout.comment.toList [] (between []) := by
    cases found : layout.comment with
    | none => exact .nil
    | some comment =>
        obtain ⟨commandLine, unbroken, h⟩ := whole.comment comment found
        exact comment_reads unbroken h
  have description : LineReads 0 []
      ("\"\"\"JSON converter for " ++ conversion.target.enumFullName ++ ".\"\"\"")
      (describeKinds ("JSON converter for " ++ conversion.target.enumFullName ++ ".")) [] :=
    .description "JSON converter for ".toList ['.'] rfl rfl
      names.enumFullName.plain (by decide)
  have future : LineReads 0 [] "from __future__ import annotations"
      [.keyword .fromK, .name "__future__", .keyword .importK, .name "annotations", .newline] [] :=
    .fixed (toList_literal rfl) ⟨rfl, rfl⟩ 5 (by decide) fun _ _ _ => rfl
  have helpers : LinesRead (between [])
      (if layout.jsonHelpers then ["import json", "from typing import Any", ""] else [])
      (if layout.jsonHelpers then helperImportKinds else []) (between []) := by
    split
    · exact helperImports_read
    · exact .nil
  have imported : LinesRead (between [])
      (if conversion.target.enumModule = "" then []
      else ["from " ++ conversion.target.enumModule ++ " import " ++
        firstPiece (enumName conversion.target), ""])
      (if conversion.target.enumModule = "" then [] else importKinds conversion.target)
      (between []) := by
    split
    · exact .nil
    · rename_i missing
      have module := python.enumModule.resolve_left missing
      rw [← List.append_nil (importKinds conversion.target)]
      exact (LinesRead.top (import_reads module enum)).cons .blank
  have start := (LinesRead.top description).cons
    (((LinesRead.top future).cons .blank).afterBlank)
  have all := ((comment.append start).append helpers).append imported
  simpa [headLines, headKinds] using all

/-- The tokens of the list of what the module exports. -/
def exportKinds (target : Target) : List TokenKind :=
  if target.enumIsPublic then
    [.name "__all__", .symbol .assign, .symbol .leftBracket,
      .string (.text (literalText target.converterName)), .symbol .rightBracket, .newline]
  else
    [.name "__all__", .symbol .colon, .name "list", .symbol .leftBracket, .name "str",
      .symbol .rightBracket, .symbol .assign, .symbol .leftBracket, .symbol .rightBracket, .newline]

theorem export_reads {target : Target} (name : PlainText target.converterName) :
    LineReads 0 [] (exportLine target) (exportKinds target) [] := by
  rw [exportLine, exportKinds]
  split
  · exact .literal (c := '_') rfl rfl [.name "__all__", .symbol .assign, .symbol .leftBracket]
      [.leftBracket] 0 3 (by decide) (fun _ _ _ => rfl) ⟨_, .plains name⟩ rfl (by decide) 2 (by decide)
      fun _ _ _ => rfl
  · exact .fixed (toList_literal rfl) ⟨rfl, rfl⟩ 10 (by decide) fun _ _ _ => rfl

/-! ### The texts of the class -/

/-- The tokens of the beginning of the class, but for the name in front of them. -/
def valueKinds (conversion : Conversion) : List TokenKind :=
  describeKinds ("Converts " ++ enumName conversion.target ++
    " members to and from their JSON strings.") ++
  ([.name "PROPERTY_NAME", .symbol .assign, .string (.text (literalText conversion.diagnosticName)),
    .newline] ++
  ([.name "VALUES", .symbol .colon, .name "tuple", .symbol .leftBracket, .name "str", .symbol .comma,
      .symbol .ellipsis, .symbol .rightBracket, .symbol .assign, .symbol .leftParen] ++
    (textKinds (conversion.visibleMembers.map fun member => literalText member.text) ++
      [.symbol .rightParen, .newline])))

/-- The lines of the visible texts. -/
theorem texts_read {members : List VisibleMember} {blocks : List Columns}
    (texts : ∀ member ∈ members, IsLiteral member.text) :
    LinesRead ⟨true, [.leftParen], blocks⟩
      (members.map fun member => "        \"" ++ member.text ++ "\",")
      (textKinds (members.map fun member => literalText member.text))
      ⟨true, [.leftParen], blocks⟩ := by
  induction members with
  | nil => exact .nil
  | cons member members ih =>
      have line : LineReads 8 [.leftParen] ("        \"" ++ member.text ++ "\",")
          [.string (.text (literalText member.text)), .symbol .comma] [.leftParen] :=
        .literal (c := '"') rfl rfl [] [.leftParen] 0 0 (by decide) (fun _ _ _ => rfl)
          (texts member List.mem_cons_self) rfl (by decide) 2 (by decide) fun _ _ _ => rfl
      exact (LinesRead.inner line).cons (ih fun other h => texts other (List.mem_cons_of_mem _ h))

/-- **The beginning of the class.** -/
theorem values_read {conversion : Conversion} (names : conversion.IsWellNamed)
    (python : conversion.HasPythonNames)
    (texts : ∀ member ∈ conversion.visibleMembers, IsLiteral member.text) :
    LinesRead (between []) (valueLines conversion)
      ([.keyword .classK, nameKind conversion.target.converterName, .symbol .colon, .newline] ++
        (.indent :: valueKinds conversion)) (between classBlocks) := by
  have head : LineReads 0 [] ("class " ++ conversion.target.converterName ++ ":")
      [.keyword .classK, nameKind conversion.target.converterName, .symbol .colon, .newline] [] := by
    have colon : Finishes [] [':'] [.symbol .colon, .newline] [] :=
      .fixed (rfl : String.ofList [':'] = ":") 2 (by decide) fun _ _ _ => rfl
    have name := (colon.name python.converterName (by simp; decide)).blank (by simp)
    rw [String.append_assoc]
    refine .behind (g := [' ']) (c := 'c') rfl rfl [.keyword .classK] 1 (by decide)
      (fun _ _ _ => rfl) ?_
    rw [String.toList_append]
    exact name
  have description : LineReads 4 [] ("    \"\"\"Converts " ++ enumName conversion.target ++
        " members to and from their JSON strings.\"\"\"")
      (describeKinds ("Converts " ++ enumName conversion.target ++
        " members to and from their JSON strings.")) [] :=
    .description "Converts ".toList " members to and from their JSON strings.".toList rfl rfl
      (plain_enumName names) (by decide)
  have property : LineReads 4 [] ("    PROPERTY_NAME = \"" ++ conversion.diagnosticName ++ "\"")
      [.name "PROPERTY_NAME", .symbol .assign, .string (.text (literalText conversion.diagnosticName)),
        .newline] [] :=
    .literal (c := 'P') rfl rfl [.name "PROPERTY_NAME", .symbol .assign] [] 1 2 (by decide)
      (fun _ _ _ => rfl) (isLiteral_escape _) rfl (by decide) 1 (by decide) fun _ _ _ => rfl
  have tuple : LineReads 4 [] "    VALUES: tuple[str, ...] = ("
      [.name "VALUES", .symbol .colon, .name "tuple", .symbol .leftBracket, .name "str",
        .symbol .comma, .symbol .ellipsis, .symbol .rightBracket, .symbol .assign,
        .symbol .leftParen] [.leftParen] :=
    .fixed (toList_literal rfl) ⟨rfl, rfl⟩ 11 (by decide) fun _ _ _ => rfl
  have last : LineReads 4 [.leftParen] "    )" [.symbol .rightParen, .newline] [] :=
    .fixed (toList_literal rfl) ⟨rfl, rfl⟩ 2 (by decide) fun _ _ _ => rfl
  have comment : LinesRead (between classBlocks) ["    # Visible strings in declaration order"] []
      (between classBlocks) :=
    .comment (toList_literal (rfl : String.ofList (List.replicate 4 ' ' ++ '#' ::
      " Visible strings in declaration order".toList) = _)) (by decide)
  have opened : blockTokens ⟨4, 4⟩ [] = some ([.indent], classBlocks) := rfl
  have front := (LinesRead.top head).cons ((LinesRead.code description opened).cons
    (LinesRead.within property |>.cons (comment.cons (.within tuple) |>.afterBlank) |>.afterBlank))
  have all := (front.append (texts_read texts)).append (.inner last)
  simpa [valueLines, valueKinds, classBlocks] using all

end PythonConverter

end EnumCodec
