import EnumCodec.Proofs.Converter.CSharpReading
import EnumCodec.Proofs.Converter.LiteralScan

/-!
# EnumCodec.Proofs.Converter.CSharpLiterals

**A converter in C# passes its check.** The check finds the literals that have been written and no
others: the name for messages, the texts of the comparisons, the message, and the texts of the cases.
What stands around them has no quotes, and its braces are those of the blocks. This is read off line by
line, so neither the namespace nor the number of members matters.
-/

namespace EnumCodec

open Text (IsDottedName IsOptionalName)
open Validation

/-! ### Lines -/

/-- What lines do, one after the other. -/
inductive LinesShow : List String → List String → Int → Prop
  | nil : LinesShow [] [] 0
  | cons {line : String} {lines literals others : List String} {opened more : Int}
    (here : Shows line literals opened) (behind : LinesShow lines others more) :
    LinesShow (line :: lines) (literals ++ others) (opened + more)

theorem CSharpConverter.isFree_indent (level : Nat) : IsFree (indent level) := by
  intro c mem
  rw [indent, String.toList_ofList] at mem
  rw [List.eq_of_mem_replicate mem]
  decide

namespace LinesShow

variable {lines next literals others : List String} {opened more : Int}

theorem append (one : LinesShow lines literals opened) (two : LinesShow next others more) :
    LinesShow (lines ++ next) (literals ++ others) (opened + more) := by
  induction one with
  | nil => simpa using two
  | cons here _ ih => simpa [Int.add_assoc] using ih.cons here

/-- Blocks of lines with one literal each and as many braces that open as close. -/
theorem flatMap {α : Type} {items : List α} {block : α → List String} {literal : α → String}
    (each : ∀ item ∈ items, LinesShow (block item) [literal item] 0) :
    LinesShow (items.flatMap block) (items.map literal) 0 := by
  induction items with
  | nil => exact .nil
  | cons item items ih =>
    obtain ⟨here, others⟩ := List.forall_mem_cons.1 each
    exact here.append (ih others)

/-- Lines without quotes and braces. -/
theorem free (isFree : ∀ line ∈ lines, IsFree line) : LinesShow lines [] 0 := by
  induction lines with
  | nil => exact .nil
  | cons line lines ih =>
    obtain ⟨here, others⟩ := List.forall_mem_cons.1 isFree
    exact .cons (.free here) (ih others)

/-- Fixed lines without quotes. -/
theorem fixed (lines : List String) (opened : Int)
    (ok : (lines.all (fun line => !line.toList.contains '"') &&
      depth (lines.flatMap String.toList) == opened) = true) :
    LinesShow lines [] opened := by
  simp only [Bool.and_eq_true, beq_iff_eq] at ok
  obtain ⟨quotes, rfl⟩ := ok
  induction lines with
  | nil => exact .nil
  | cons line lines ih =>
    rw [List.all_cons, Bool.and_eq_true] at quotes
    rw [List.flatMap_cons, depth_append]
    exact .cons (.of_not_mem (by simpa using quotes.1)) (ih quotes.2)

/-- Lines that are moved to the right do the same. -/
theorem indented (level : Nat) (shown : LinesShow lines literals opened) :
    LinesShow (lines.map (CSharpConverter.indentLine level)) literals opened := by
  induction shown with
  | nil => exact .nil
  | cons here _ ih =>
    refine .cons ?_ ih
    unfold CSharpConverter.indentLine
    split
    · exact here
    · simpa using (Shows.free (CSharpConverter.isFree_indent level)).append here

/-- The text of lines does what the lines do. -/
theorem text (shown : LinesShow lines literals opened) : Shows (textOfLines lines) literals opened := by
  induction shown with
  | nil => exact .nil
  | cons here _ ih =>
    have ended := here.append (Shows.free (by decide : IsFree "\n"))
    simpa [textOfLines, String.join_cons] using ended.append ih

end LinesShow

namespace CSharpConverter

/-! ### The class -/

/-- The names of a conversion that a converter in C# has to write as code are dotted names. The
namespace of the converter may be missing. -/
structure HasCodeNames (conversion : Conversion) : Prop where
  converterName : IsDottedName conversion.target.converterName
  converterNamespace : IsOptionalName conversion.target.converterNamespace
  enumFullName : IsDottedName conversion.target.enumFullName
  identifiers : ∀ member ∈ conversion.members, IsDottedName member.identifier

/-- The message about a text that cannot be decoded, as it stands between its quotes. -/
def messageBody : String :=
  "The JSON value \\\"" ++ braced "value" ++ "\\\" could not be converted to " ++
    braced "PropertyName" ++ "."

/-- **The literals that are written into a converter**, in their order. -/
def writtenLiterals (conversion : Conversion) : List String :=
  conversion.diagnosticName :: conversion.visibleMembers.map (·.text) ++
    messageBody :: conversion.visibleMembers.map (·.text)

section

variable {conversion : Conversion} {enum : String} {member : VisibleMember}

theorem isBody_escape (text : String) : IsBody (Text.escape text).toList := by
  rw [Text.toList_escape]
  exact isBody_escapeChars text.toList

theorem isFree_enumType (names : HasCodeNames conversion) : IsFree (enumType conversion.target) :=
  .append (by decide) (isFree_of_isDottedName names.enumFullName)

theorem linesBeforeRead_show (names : HasCodeNames conversion) :
    LinesShow (linesBeforeRead conversion) [conversion.diagnosticName] 2 := by
  have served := isFree_enumType names
  have converter := isFree_of_isDottedName names.converterName
  have access : IsFree (if conversion.target.enumIsPublic then "public" else "internal") := by
    split <;> decide
  have header : IsFree ((if conversion.target.enumIsPublic then "public" else "internal") ++
      " partial class " ++ conversion.target.converterName ++ " : JsonConverter<" ++
      enumType conversion.target ++ ">") :=
    .append (.append (.append (.append (.append access (by decide)) converter) (by decide)) served)
      (by decide)
  have name := Shows.slot (indent 1 ++ "private const string PropertyName = ") ";"
    (isBody_escape ((conversion.options.propertyName.map (·.shown)).getD
      conversion.target.enumFullName)) rfl rfl (by decide +kernel)
  have read : IsFree (indent 1 ++ "public override " ++ enumType conversion.target ++
      " Read(ref Utf8JsonReader reader, Type typeToConvert, JsonSerializerOptions options)") :=
    .append (.append (by decide +kernel) served) (by decide +kernel)
  exact .cons (.free header) (.cons (.fixed 1 (by decide +kernel)) (.cons name
    (.cons (.free (by decide)) (.cons (.free read) (.cons (.fixed 1 (by decide +kernel))
    (.cons (.fixed 0 (by decide +kernel)) .nil))))))

theorem readBranch_show (isBody : IsBody member.text.toList) (served : IsFree enum)
    (identifier : IsFree member.identifier) (options : Options) :
    LinesShow (readBranch enum (comparison options) member) [member.text] 0 := by
  have compared : IsFree (comparison options) := by
    unfold comparison
    split <;> decide +kernel
  have condition := Shows.slot (indent 2 ++ "if (string.Equals(value, ") ", " isBody rfl rfl
    (by decide +kernel)
  have result : IsFree (indent 3 ++ "return " ++ enum ++ "." ++ member.identifier ++ ";") :=
    .append (.append (.append (.append (by decide +kernel) served) (by decide)) identifier) (by decide)
  exact .cons ((condition.append (.free compared)).append (.fixed 0 (by decide +kernel)))
    (.cons (.free result) .nil)

theorem writeCase_show (isBody : IsBody member.text.toList) (served : IsFree enum)
    (identifier : IsFree member.identifier) :
    LinesShow (writeCase enum member) [member.text] 0 := by
  have label : IsFree (indent 3 ++ "case " ++ enum ++ "." ++ member.identifier ++ ":") :=
    .append (.append (.append (.append (by decide +kernel) served) (by decide)) identifier) (by decide)
  have call := Shows.slot (indent 4 ++ "writer.WriteStringValue(") ");" isBody rfl rfl
    (by decide +kernel)
  exact .cons (.free label) (.cons call (.cons (.fixed 0 (by decide +kernel)) .nil))

theorem linesBeforeWrite_show (served : IsFree enum) :
    LinesShow (linesBeforeWrite enum) [messageBody] 1 := by
  have message : Shows (indent 2 ++ "throw new JsonException($\"" ++ messageBody ++ "\");")
      [messageBody] 0 :=
    -- The braces of the message are inside of its literal, so they are not counted.
    .slot (indent 2 ++ "throw new JsonException($") ");" (by decide +kernel) rfl rfl (by decide +kernel)
  have thrown : indent 2 ++ "throw new JsonException($\"The JSON value \\\"" ++ braced "value" ++
      "\\\" could not be converted to " ++ braced "PropertyName" ++ ".\");" =
      indent 2 ++ "throw new JsonException($\"" ++ messageBody ++ "\");" := by decide +kernel
  have write : IsFree (indent 1 ++ "public override void Write(Utf8JsonWriter writer, " ++ enum ++
      " value, JsonSerializerOptions options)") :=
    .append (.append (by decide +kernel) served) (by decide +kernel)
  have before := LinesShow.fixed [indent 1 ++ "\x7d", ""] (-1) (by decide +kernel)
  have behind := LinesShow.fixed [indent 1 ++ "\x7b", indent 2 ++ "switch (value)", indent 2 ++ "\x7b"] 2
    (by decide +kernel)
  have whole := (before.append (behind.cons (.free write))).cons message
  simpa [linesBeforeWrite, thrown] using whole

theorem linesAfterWrite_show : LinesShow linesAfterWrite [] (-3) :=
  .fixed _ _ (by decide +kernel)

/-- **The class shows the literals that are written into it**, and all its braces are closed. -/
theorem classLines_show (names : HasCodeNames conversion) (labels : conversion.HasEscapedLabels) :
    LinesShow (classLines conversion) (writtenLiterals conversion) 0 := by
  have served := isFree_enumType names
  have member (shown : VisibleMember) (mem : shown ∈ conversion.visibleMembers) :
      IsBody shown.text.toList ∧ IsFree shown.identifier := by
    obtain ⟨raw, same⟩ := Conversion.visibleMembers_isEscaped names.identifiers labels mem
    obtain ⟨declared, there, rfl⟩ := List.mem_map.1 mem
    exact ⟨same ▸ isBody_escape raw, isFree_of_isDottedName (names.identifiers declared there)⟩
  have comparisons := LinesShow.flatMap fun shown mem =>
    readBranch_show (member shown mem).1 served (member shown mem).2 conversion.options
  have cases := LinesShow.flatMap fun shown mem =>
    writeCase_show (member shown mem).1 served (member shown mem).2
  -- Two braces are open in front of the comparisons and three in front of the cases.
  have whole := (linesBeforeRead_show names).append (comparisons.append
    ((linesBeforeWrite_show served).append (cases.append linesAfterWrite_show)))
  rw [classLines_eq]
  simpa [writtenLiterals] using whole

end

/-! ### The whole text -/

/-- Neither the comment nor a namespace to be opened has a quote or a brace. -/
structure HasFreeFrame (layout : Layout) : Prop where
  comment : ∀ comment ∈ layout.comment, IsFree comment
  usings : ∀ name ∈ layout.usings, IsFree name

section

variable {layout : Layout} {conversion : Conversion}

/-- How many braces the namespace opens. -/
def namespaceDepth (conversion : Conversion) : Int :=
  if conversion.target.converterNamespace = "" then 0 else 1

theorem linesBeforeClass_show (frame : HasFreeFrame layout) (names : HasCodeNames conversion) :
    LinesShow (linesBeforeClass layout conversion) [] (namespaceDepth conversion) := by
  have comments : LinesShow layout.comment.toList [] 0 :=
    .free fun comment mem => frame.comment comment (Option.mem_toList.1 mem)
  have usings : LinesShow (layout.usings.map fun name => "using " ++ name ++ ";") [] 0 := by
    refine .free fun line mem => ?_
    obtain ⟨name, there, rfl⟩ := List.mem_map.1 mem
    exact .append (.append (by decide) (frame.usings name there)) (by decide)
  have opening : LinesShow (if conversion.target.converterNamespace = "" then []
      else ["namespace " ++ conversion.target.converterNamespace, "\x7b"]) []
        (namespaceDepth conversion) := by
    unfold namespaceDepth
    split
    · exact .nil
    · have path : IsFree ("namespace " ++ conversion.target.converterNamespace) :=
        .append (by decide) (isFree_of_isOptionalName names.converterNamespace)
      exact .cons (.free path) (.fixed ["\x7b"] 1 (by decide +kernel))
  have mark := LinesShow.fixed ["// <auto-generated />"] 0 (by decide +kernel)
  have nullable := LinesShow.fixed ["#nullable enable", ""] 0 (by decide +kernel)
  have blank := LinesShow.fixed [""] 0 (by decide +kernel)
  have whole := ((((mark.append comments).append nullable).append usings).append blank).append opening
  simpa [linesBeforeClass] using whole

theorem linesAfterClass_show (conversion : Conversion) :
    LinesShow (linesAfterClass conversion) [] (-namespaceDepth conversion) := by
  unfold linesAfterClass namespaceDepth
  split
  · exact .nil
  · exact .fixed ["\x7d"] (-1) (by decide +kernel)

/-- **A converter shows the literals that are written into it**, and all its braces are closed. -/
theorem text_shows (frame : HasFreeFrame layout) (names : HasCodeNames conversion)
    (labels : conversion.HasEscapedLabels) :
    Shows (text layout conversion) (writtenLiterals conversion) 0 := by
  have whole := (linesBeforeClass_show frame names).append
    (((classLines_show names labels).indented (classLevel conversion)).append
      (linesAfterClass_show conversion))
  rw [text, lines_eq]
  simpa [Int.add_right_neg] using whole.text

/-- A line stands in the text of its lines. -/
theorem infix_textOfLines {lines : List String} {line : String} (mem : line ∈ lines) :
    line.toList <:+: (textOfLines lines).toList := by
  obtain ⟨before, behind, rfl⟩ := List.append_of_mem mem
  refine ⟨(textOfLines before).toList, '\n' :: (textOfLines behind).toList, ?_⟩
  simp [textOfLines]

/-- A converter has a class. -/
theorem occursIn_text (layout : Layout) (conversion : Conversion) :
    occursIn "class ".toList (text layout conversion).toList = true := by
  obtain ⟨header, others, begins, named⟩ : ∃ header others,
      classLines conversion = header :: others ∧ "class ".toList <:+: header.toList := by
    refine ⟨_, _, rfl, ?_⟩
    simp only [String.toList_append, List.append_assoc]
    have word : "class ".toList <:+: " partial class ".toList := ⟨" partial ".toList, [], rfl⟩
    exact word.trans (List.infix_append' _ _ _)
  have moved : header.toList <:+: (indentLine (classLevel conversion) header).toList := by
    unfold indentLine
    split
    · exact List.infix_rfl
    · rw [String.toList_append]
      exact (List.suffix_append _ _).isInfix
  have there : indentLine (classLevel conversion) header ∈ lines layout conversion := by
    rw [lines_eq, begins]
    simp
  exact occursIn_iff.2 ((named.trans moved).trans (infix_textOfLines there))

/-- **A converter passes its check**, because its braces are counted outside of its own literals. -/
theorem checkCSharp_text (frame : HasFreeFrame layout) (names : HasCodeNames conversion)
    (labels : conversion.HasEscapedLabels) : checkCSharp (text layout conversion) = .ok () := by
  rw [checkCSharp, if_pos (occursIn_text layout conversion)]
  exact if_pos (text_shows frame names labels).balanced

end

end CSharpConverter

end EnumCodec
