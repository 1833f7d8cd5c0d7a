import EnumCodec.Converter.CSharp
import EnumCodec.Proofs.Conversion.Names
import EnumCodec.Proofs.Converter.Lines

/-!
# EnumCodec.Proofs.Converter.CSharpReading

**A converter in C#, read back line by line.** A comparison and a case are pairs of lines. The reader
looks at every line of the text, in a namespace or outside, and what it finds is what the conversion
shows.
-/

namespace EnumCodec.CSharpConverter

open Reading
open Text (PlainText Spells)

/-! ### The reader -/

/-- The literal that a line compares, and whether with regard to case. -/
def compared? (line : Line) : Option (Bool × String) :=
  ((quotedBetween "if (string.Equals(value, \"" ", StringComparison.Ordinal))" (code line)).map
    (true, ·)).or
  ((quotedBetween "if (string.Equals(value, \"" ", StringComparison.OrdinalIgnoreCase))"
    (code line)).map (false, ·))

/-- The comparison that reads a member, on two lines, and whether it regards case. -/
def readBranch? (enum : String) (first second : Line) : Option (Bool × VisibleMember) := do
  let (caseSensitive, text) ← compared? first
  let identifier ← nameBetween ("return " ++ (enum ++ ".")) ";" (code second)
  return (caseSensitive, ⟨identifier, text⟩)

/-- The case that writes a member, on two lines. -/
def writeCase? (enum : String) (first second : Line) : Option VisibleMember := do
  let identifier ← nameBetween ("case " ++ (enum ++ ".")) ":" (code first)
  let text ← quotedBetween "writer.WriteStringValue(\"" ");" (code second)
  return ⟨identifier, text⟩

/-- The comparisons in a text, from its first line to its last. -/
def readComparisons (enum text : String) : List (Bool × VisibleMember) :=
  readPairs (readBranch? enum) (linesOf text.toList)

/-- The cases in a text. -/
def readCases (enum text : String) : List VisibleMember :=
  readPairs (writeCase? enum) (linesOf text.toList)

/-! ### Indentation -/

theorem code_indent_append (level : Nat) (line : String) :
    code (indent level ++ line).toList = code line.toList := by
  have blanks (n : Nat) : code (List.replicate n ' ' ++ line.toList) = code line.toList := by
    induction n with
    | zero => rfl
    | succ n ih => rwa [List.replicate_succ, List.cons_append, code, List.dropWhile_cons]
  rw [indent, String.toList_append, String.toList_ofList, blanks]

theorem code_indentLine (level : Nat) (line : String) :
    code (indentLine level line).toList = code line.toList := by
  unfold indentLine
  split
  · rfl
  · exact code_indent_append level line

theorem isUnbroken_indent (level : Nat) : isUnbroken (indent level) = true := by
  rw [isUnbroken, indent, String.toList_ofList, List.all_eq_true]
  intro c hc
  rw [List.eq_of_mem_replicate hc]
  rfl

theorem isUnbroken_indentLine (level : Nat) {line : String} (h : isUnbroken line = true) :
    isUnbroken (indentLine level line) = true := by
  unfold indentLine
  split
  · exact h
  · rw [isUnbroken_append, isUnbroken_indent, h]
    rfl

/-! ### Only the code of a line is read -/

theorem readBranch?_congr {enum : String} {first first' second second' : Line}
    (h : code first = code first') (h' : code second = code second') :
    readBranch? enum first second = readBranch? enum first' second' := by
  simp only [readBranch?, compared?, h, h']

theorem writeCase?_congr {enum : String} {first first' second second' : Line}
    (h : code first = code first') (h' : code second = code second') :
    writeCase? enum first second = writeCase? enum first' second' := by
  simp only [writeCase?, h, h']

/-! ### Lines that are passed over -/

theorem isOther_indent {openings : List String} {line : String} (level : Nat)
    (h : IsOther openings line) : IsOther openings (indent level ++ line) where
  unbroken := by
    rw [isUnbroken_append, isUnbroken_indent, h.unbroken]
    rfl
  avoids := fun opening ho => by
    rw [avoids, code_indent_append]
    exact h.avoids opening ho

theorem readBranch?_of_avoids {enum : String} {line : Line}
    (h : avoids "if (string.Equals(value, \"" line = true) (next : Line) :
    readBranch? enum line next = none := by
  rw [readBranch?, compared?, quotedBetween_of_avoids h, quotedBetween_of_avoids h]
  rfl

theorem writeCase?_of_avoids {enum : String} {line : Line} (h : avoids "case " line = true)
    (next : Line) : writeCase? enum line next = none := by
  rw [writeCase?, nameBetween_of_avoids h]
  rfl

/-- The openings of the comparisons and of the cases. -/
def branchOpenings : List String :=
  ["if (string.Equals(value, \"", "case "]

/-- A line of the frame in which the comparisons and the cases stand. -/
structure IsFrame (enum line : String) : Prop where
  unbroken : isUnbroken line = true
  read : ∀ next, readBranch? enum line.toList next = none
  write : ∀ next, writeCase? enum line.toList next = none

namespace IsFrame

variable {enum : String}

theorem blank : IsFrame enum "" where
  unbroken := rfl
  read := fun _ => rfl
  write := fun _ => by simp [writeCase?, nameBetween, code, Text.afterChars?]

theorem of_isOther {line : String} (h : IsOther branchOpenings line) : IsFrame enum line where
  unbroken := h.unbroken
  read := readBranch?_of_avoids (h.avoids _ (by decide))
  write := writeCase?_of_avoids (h.avoids _ (by decide))

/-- A fixed line. -/
theorem fixed (level : Nat) {line : String} {chars : List Char} (h : String.ofList chars = line)
    (ok : (chars.all (!Text.breaksLiteral ·) && branchOpenings.all (avoids · chars)) = true) :
    IsFrame enum (indent level ++ line) :=
  of_isOther (isOther_indent level (.literal h ok))

/-- A fixed line without indentation. -/
theorem outer {line : String} {chars : List Char} (h : String.ofList chars = line)
    (ok : (chars.all (!Text.breaksLiteral ·) && branchOpenings.all (avoids · chars)) = true) :
    IsFrame enum line :=
  of_isOther (.literal h ok)

/-- A line with a slot behind its beginning. -/
theorem slot (level : Nat) {start slot stop : String} {chars : List Char}
    (h : String.ofList chars = start)
    (ok : (chars.all (!Text.breaksLiteral ·) && branchOpenings.all (avoids · chars)) = true)
    (unbroken : isUnbroken slot = true) (rest : isUnbroken stop = true) :
    IsFrame enum (indent level ++ start ++ slot ++ stop) :=
  of_isOther (((isOther_indent level (.literal h ok)).append unbroken).append rest)

end IsFrame

/-! ### The frame -/

/-- The lines of the class before the comparisons. -/
def linesBeforeRead (conversion : Conversion) : List String :=
  [(if conversion.target.enumIsPublic then "public" else "internal") ++ " partial class " ++
      conversion.target.converterName ++ " : JsonConverter<" ++ enumType conversion.target ++ ">",
    "\x7b",
    indent 1 ++ "private const string PropertyName = \"" ++ conversion.diagnosticName ++ "\";",
    "",
    indent 1 ++ "public override " ++ enumType conversion.target ++
      " Read(ref Utf8JsonReader reader, Type typeToConvert, JsonSerializerOptions options)",
    indent 1 ++ "\x7b",
    indent 2 ++ "var value = reader.GetString();"]

/-- The lines of the class between the comparisons and the cases. -/
def linesBeforeWrite (enum : String) : List String :=
  [indent 2 ++ "throw new JsonException($\"The JSON value \\\"" ++ braced "value" ++
      "\\\" could not be converted to " ++ braced "PropertyName" ++ ".\");",
    indent 1 ++ "\x7d",
    "",
    indent 1 ++ "public override void Write(Utf8JsonWriter writer, " ++ enum ++
      " value, JsonSerializerOptions options)",
    indent 1 ++ "\x7b",
    indent 2 ++ "switch (value)",
    indent 2 ++ "\x7b"]

/-- The lines of the class behind the cases. -/
def linesAfterWrite : List String :=
  [indent 3 ++ "default:",
    indent 4 ++ "throw new ArgumentOutOfRangeException(nameof(value), value, null);",
    indent 2 ++ "\x7d",
    indent 1 ++ "\x7d",
    "\x7d"]

/-- The class consists of the comparisons and the cases in their frame. -/
theorem classLines_eq (conversion : Conversion) :
    classLines conversion =
      linesBeforeRead conversion ++
      (conversion.visibleMembers.flatMap
        (readBranch (enumType conversion.target) (comparison conversion.options)) ++
      (linesBeforeWrite (enumType conversion.target) ++
      (conversion.visibleMembers.flatMap (writeCase (enumType conversion.target)) ++
      linesAfterWrite))) := by
  simp [classLines, linesBeforeRead, linesBeforeWrite, linesAfterWrite]

section

open IsFrame

variable {conversion : Conversion} {layout : Layout} {name : String} (enum : String)

theorem plain_enumType (names : conversion.IsWellNamed) : PlainText (enumType conversion.target) :=
  PlainText.append (by decide) names.enumFullName.plain

theorem linesBeforeRead_isFrame (names : conversion.IsWellNamed) :
    ∀ line ∈ linesBeforeRead conversion, IsFrame enum line := by
  have converter := isUnbroken_of_plain names.converterName.plain
  have served := isUnbroken_of_plain (plain_enumType names)
  have header {start : String} (h : IsOther branchOpenings start) :
      IsFrame enum (start ++ " partial class " ++ conversion.target.converterName ++
        " : JsonConverter<" ++ enumType conversion.target ++ ">") :=
    of_isOther (.append (.append (.append (.append (.append h (isUnbroken_literal rfl (by decide)))
      converter) (isUnbroken_literal rfl (by decide))) served) rfl)
  simp only [linesBeforeRead, List.forall_mem_cons]
  refine ⟨?_, outer rfl (by decide),
    slot 1 rfl (by decide) (isUnbroken_escape _) rfl, blank,
    slot 1 rfl (by decide) served (isUnbroken_literal rfl (by decide)),
    fixed 1 rfl (by decide), fixed 2 rfl (by decide), List.forall_mem_nil _⟩
  split
  · exact header (.literal rfl (by decide))
  · exact header (.literal rfl (by decide))

theorem linesBeforeWrite_isFrame (served : isUnbroken name = true) :
    ∀ line ∈ linesBeforeWrite name, IsFrame enum line := by
  simp only [linesBeforeWrite, List.forall_mem_cons]
  refine ⟨of_isOther ?_,
    fixed 1 rfl (by decide), blank,
    slot 1 rfl (by decide) served (isUnbroken_literal rfl (by decide)),
    fixed 1 rfl (by decide), fixed 2 rfl (by decide), fixed 2 rfl (by decide),
    List.forall_mem_nil _⟩
  exact .append (.append (.append (.append (isOther_indent 2 (.literal rfl (by decide)))
    (isUnbroken_braced rfl)) (isUnbroken_literal rfl (by decide))) (isUnbroken_braced rfl)) rfl

theorem linesAfterWrite_isFrame : ∀ line ∈ linesAfterWrite, IsFrame enum line := by
  simp only [linesAfterWrite, List.forall_mem_cons]
  exact ⟨fixed 3 rfl (by decide), fixed 4 rfl (by decide), fixed 2 rfl (by decide),
    fixed 1 rfl (by decide), outer rfl (by decide), List.forall_mem_nil _⟩

end

/-! ### The lines that are read -/

section

variable {enum : String} {chars : List Char}

theorem compared?_eq (options : Options) {text : String} (h : Spells text.toList chars) :
    compared? (indent 2 ++ "if (string.Equals(value, \"" ++ text ++ "\", " ++
        comparison options ++ "))").toList = some (options.caseSensitive, text) := by
  have found : code (indent 2 ++ "if (string.Equals(value, \"" ++ text ++ "\", " ++
        comparison options ++ "))").toList =
      ("if (string.Equals(value, \"" ++ text ++ "\"" ++ (", " ++ comparison options ++ "))")).toList := by
    have inner := code_indent_append 2 ("if (string.Equals(value, \"" ++ text ++ "\", " ++
      comparison options ++ "))")
    simpa [String.append_assoc, code] using inner
  rw [compared?, found, quotedBetween_append h, quotedBetween_append h]
  unfold comparison
  cases options.caseSensitive with
  | true => rfl
  | false => rfl

theorem readBranch_spec (options : Options) {member : VisibleMember}
    (h : Spells member.text.toList chars) (identifier : isUnbroken member.identifier = true)
    (served : isUnbroken enum = true) :
    ∃ first second, readBranch enum (comparison options) member = [first, second] ∧
      readBranch? enum first.toList second.toList = some (options.caseSensitive, member) ∧
      IsFrame enum second := by
  refine ⟨_, _, rfl, ?_, .of_isOther (.append (.append (.append (.append (isOther_indent 3
    (.literal rfl (by decide))) served) rfl) identifier) rfl)⟩
  have second : code (indent 3 ++ "return " ++ enum ++ "." ++ member.identifier ++ ";").toList =
      ("return " ++ (enum ++ ".") ++ member.identifier ++ ";").toList := by
    have inner := code_indent_append 3 ("return " ++ enum ++ "." ++ member.identifier ++ ";")
    simpa [String.append_assoc, code] using inner
  rw [readBranch?, compared?_eq options h, second]
  simp only [Option.bind_eq_bind, Option.bind_some, nameBetween_eq]
  rfl

theorem writeCase_spec {member : VisibleMember} (h : Spells member.text.toList chars)
    (text : isUnbroken member.text = true) :
    ∃ first second third, writeCase enum member = [first, second, third] ∧
      writeCase? enum first.toList second.toList = some member ∧
      IsFrame enum second ∧ IsFrame enum third := by
  refine ⟨_, _, _, rfl, ?_, .slot 4 rfl (by decide) text rfl, .fixed 4 rfl (by decide)⟩
  have first : code (indent 3 ++ "case " ++ enum ++ "." ++ member.identifier ++ ":").toList =
      ("case " ++ (enum ++ ".") ++ member.identifier ++ ":").toList := by
    have inner := code_indent_append 3 ("case " ++ enum ++ "." ++ member.identifier ++ ":")
    simpa [String.append_assoc, code] using inner
  have second : code (indent 4 ++ "writer.WriteStringValue(\"" ++ member.text ++ "\");").toList =
      ("writer.WriteStringValue(\"" ++ member.text ++ "\"" ++ ");").toList := by
    have inner := code_indent_append 4 ("writer.WriteStringValue(\"" ++ member.text ++ "\");")
    simpa [String.append_assoc, code] using inner
  rw [writeCase?, first, nameBetween_eq, second, quotedBetween_eq h]
  rfl

theorem isUnbroken_comparison (options : Options) : isUnbroken (comparison options) = true := by
  unfold comparison
  split
  · exact isUnbroken_literal rfl (by decide)
  · exact isUnbroken_literal rfl (by decide)

theorem readBranch_isOther (options : Options) {member : VisibleMember}
    (served : isUnbroken enum = true) (identifier : isUnbroken member.identifier = true)
    (text : isUnbroken member.text = true) :
    ∀ line ∈ readBranch enum (comparison options) member, IsOther ["case "] line := by
  simp only [readBranch, List.forall_mem_cons]
  exact ⟨.append (.append (.append (.append (isOther_indent 2 (.literal rfl (by decide))) text) rfl)
      (isUnbroken_comparison options)) rfl,
    .append (.append (.append (.append (isOther_indent 3 (.literal rfl (by decide))) served) rfl)
      identifier) rfl, List.forall_mem_nil _⟩

theorem writeCase_isOther {member : VisibleMember} (served : isUnbroken enum = true)
    (identifier : isUnbroken member.identifier = true) (text : isUnbroken member.text = true) :
    ∀ line ∈ writeCase enum member, IsOther ["if (string.Equals(value, \""] line := by
  simp only [writeCase, List.forall_mem_cons]
  exact ⟨.append (.append (.append (.append (isOther_indent 3 (.literal rfl (by decide))) served) rfl)
      identifier) rfl,
    .append (.append (isOther_indent 4 (.literal rfl (by decide))) text) rfl,
    isOther_indent 4 (.literal rfl (by decide)), List.forall_mem_nil _⟩

end

section

variable {layout : Layout} {conversion : Conversion}

theorem readBranches_isOther (names : conversion.IsWellNamed)
    (labels : conversion.HasEscapedLabels) :
    ∀ line ∈ conversion.visibleMembers.flatMap
        (readBranch (enumType conversion.target) (comparison conversion.options)),
      IsOther ["case "] line := by
  intro line hl
  obtain ⟨member, hm, hl⟩ := List.mem_flatMap.1 hl
  obtain ⟨plain, raw, htext⟩ := Conversion.visibleMembers_spec names labels hm
  exact readBranch_isOther conversion.options (isUnbroken_of_plain (plain_enumType names))
    (isUnbroken_of_plain plain) (htext ▸ isUnbroken_escape raw) line hl

theorem writeCases_isOther (names : conversion.IsWellNamed)
    (labels : conversion.HasEscapedLabels) :
    ∀ line ∈ conversion.visibleMembers.flatMap (writeCase (enumType conversion.target)),
      IsOther ["if (string.Equals(value, \""] line := by
  intro line hl
  obtain ⟨member, hm, hl⟩ := List.mem_flatMap.1 hl
  obtain ⟨plain, raw, htext⟩ := Conversion.visibleMembers_spec names labels hm
  exact writeCase_isOther (isUnbroken_of_plain (plain_enumType names))
    (isUnbroken_of_plain plain) (htext ▸ isUnbroken_escape raw) line hl

/-- No line of the class holds the end of a line. -/
theorem classLines_isUnbroken (names : conversion.IsWellNamed)
    (labels : conversion.HasEscapedLabels) :
    ∀ line ∈ classLines conversion, isUnbroken line = true := by
  have served := isUnbroken_of_plain (plain_enumType names)
  rw [classLines_eq]
  simp only [List.forall_mem_append]
  exact ⟨fun line hl => (linesBeforeRead_isFrame "" names line hl).unbroken,
    fun line hl => (readBranches_isOther names labels line hl).unbroken,
    fun line hl => (linesBeforeWrite_isFrame "" served line hl).unbroken,
    fun line hl => (writeCases_isOther names labels line hl).unbroken,
    fun line hl => (linesAfterWrite_isFrame "" line hl).unbroken⟩

/-- The comparisons in the class are the members. -/
theorem readPairs_readBranch_classLines (names : conversion.IsWellNamed)
    (labels : conversion.HasEscapedLabels) (rest : List Line) :
    readPairs (readBranch? (enumType conversion.target))
        ((classLines conversion).map String.toList ++ rest) =
      conversion.visibleMembers.map (conversion.options.caseSensitive, ·) ++
        readPairs (readBranch? (enumType conversion.target)) rest := by
  have served := isUnbroken_of_plain (plain_enumType names)
  have branches (rest : List Line) :
      readPairs (readBranch? (enumType conversion.target))
          ((conversion.visibleMembers.flatMap (readBranch (enumType conversion.target)
            (comparison conversion.options))).map String.toList ++ rest) =
        conversion.visibleMembers.map (conversion.options.caseSensitive, ·) ++
          readPairs (readBranch? (enumType conversion.target)) rest := by
    refine readPairs_flatMap_append (fun member hm => ?_) rest
    obtain ⟨plain, raw, htext⟩ := Conversion.visibleMembers_spec names labels hm
    have spells : Spells member.text.toList raw.toList := by simp [htext, Spells.escapeChars]
    obtain ⟨first, second, hblock, here, frame⟩ := readBranch_spec conversion.options spells
      (isUnbroken_of_plain plain) served
    exact ⟨first, second, [], hblock, here, by simpa using frame.read⟩
  rw [classLines_eq]
  simp only [List.map_append, List.append_assoc]
  rw [readPairs_map_append_of_none fun line hl => (linesBeforeRead_isFrame _ names line hl).read,
    branches,
    readPairs_map_append_of_none fun line hl => (linesBeforeWrite_isFrame _ served line hl).read,
    readPairs_map_append_of_none fun line hl => readBranch?_of_avoids
      ((writeCases_isOther names labels line hl).avoids _ (by decide)),
    readPairs_map_append_of_none fun line hl => (linesAfterWrite_isFrame _ line hl).read]

/-- The cases in the class are the members. -/
theorem readPairs_writeCase_classLines (names : conversion.IsWellNamed)
    (labels : conversion.HasEscapedLabels) (rest : List Line) :
    readPairs (writeCase? (enumType conversion.target))
        ((classLines conversion).map String.toList ++ rest) =
      conversion.visibleMembers ++ readPairs (writeCase? (enumType conversion.target)) rest := by
  have served := isUnbroken_of_plain (plain_enumType names)
  have cases (rest : List Line) :
      readPairs (writeCase? (enumType conversion.target))
          ((conversion.visibleMembers.flatMap (writeCase (enumType conversion.target))).map
            String.toList ++ rest) =
        conversion.visibleMembers ++ readPairs (writeCase? (enumType conversion.target)) rest := by
    rw [readPairs_flatMap_append (f := id) _ rest, List.map_id]
    intro member hm
    obtain ⟨plain, raw, htext⟩ := Conversion.visibleMembers_spec names labels hm
    have spells : Spells member.text.toList raw.toList := by simp [htext, Spells.escapeChars]
    obtain ⟨first, second, third, hblock, here, frame, frame'⟩ :=
      writeCase_spec spells (htext ▸ isUnbroken_escape raw)
    exact ⟨first, second, [third], hblock, here, by simpa using ⟨frame.write, frame'.write⟩⟩
  rw [classLines_eq]
  simp only [List.map_append, List.append_assoc]
  rw [readPairs_map_append_of_none fun line hl => (linesBeforeRead_isFrame _ names line hl).write,
    readPairs_map_append_of_none fun line hl => writeCase?_of_avoids
      ((readBranches_isOther names labels line hl).avoids _ (by decide)),
    readPairs_map_append_of_none fun line hl => (linesBeforeWrite_isFrame _ served line hl).write,
    cases,
    readPairs_map_append_of_none fun line hl => (linesAfterWrite_isFrame _ line hl).write]

/-! ### What is read is what is shown -/

/-- The lines before the class. -/
def linesBeforeClass (layout : Layout) (conversion : Conversion) : List String :=
  "// <auto-generated />" :: layout.comment.toList ++
  ["#nullable enable", ""] ++
  layout.usings.map (fun name => "using " ++ name ++ ";") ++ [""] ++
  (if conversion.target.converterNamespace = "" then []
   else ["namespace " ++ conversion.target.converterNamespace, "\x7b"])

/-- The lines behind the class. -/
def linesAfterClass (conversion : Conversion) : List String :=
  if conversion.target.converterNamespace = "" then [] else ["\x7d"]

/-- How far the class is moved to the right. -/
def classLevel (conversion : Conversion) : Nat :=
  if conversion.target.converterNamespace = "" then 0 else 1

theorem indentLine_zero (line : String) : indentLine 0 line = line := by
  unfold indentLine
  split
  · rfl
  · simp [indent]

/-- A converter is the class in its frame. -/
theorem lines_eq (layout : Layout) (conversion : Conversion) :
    lines layout conversion =
      linesBeforeClass layout conversion ++
      ((classLines conversion).map (indentLine (classLevel conversion)) ++
      linesAfterClass conversion) := by
  unfold lines namespaceLines linesBeforeClass linesAfterClass classLevel
  by_cases global : conversion.target.converterNamespace = ""
  · simp [global, funext indentLine_zero]
  · simp [global]

open IsFrame in
theorem linesBeforeClass_isFrame (enum : String) (whole : layout.IsUnbroken .cSharp)
    (names : conversion.IsWellNamed) :
    ∀ line ∈ linesBeforeClass layout conversion, IsFrame enum line := by
  have path := isUnbroken_of_plain names.converterNamespace.plain
  simp only [linesBeforeClass, List.forall_mem_append, List.forall_mem_cons]
  refine ⟨⟨⟨⟨⟨outer rfl (by decide), ?_⟩, outer rfl (by decide), blank, List.forall_mem_nil _⟩, ?_⟩,
    blank, List.forall_mem_nil _⟩, ?_⟩
  · intro line hl
    obtain ⟨commandLine, unbroken, rfl⟩ := whole.comment line (Option.mem_toList.1 hl)
    exact of_isOther (.append (.append (.literal (rfl : String.ofList _ = "//") (by decide))
      (isUnbroken_literal rfl (by decide))) unbroken)
  · intro line hl
    obtain ⟨name, hn, rfl⟩ := List.mem_map.1 hl
    exact of_isOther (.append (.append (.literal rfl (by decide)) (whole.usings name hn)) rfl)
  · split
    · exact List.forall_mem_nil _
    · simp only [List.forall_mem_cons]
      exact ⟨of_isOther (.append (.literal rfl (by decide)) path), outer rfl (by decide),
        List.forall_mem_nil _⟩

theorem linesAfterClass_isFrame (enum : String) :
    ∀ line ∈ linesAfterClass conversion, IsFrame enum line := by
  unfold linesAfterClass
  split
  · exact List.forall_mem_nil _
  · exact List.forall_mem_singleton.2 (.outer rfl (by decide))

/-- No line of a converter holds the end of a line. -/
theorem linesOf_text (whole : layout.IsUnbroken .cSharp) (names : conversion.IsWellNamed)
    (labels : conversion.HasEscapedLabels) :
    linesOf (text layout conversion).toList = (lines layout conversion).map String.toList := by
  refine linesOf_textOfLines ?_
  rw [lines_eq]
  simp only [List.forall_mem_append, List.forall_mem_map]
  exact ⟨fun line hl => (linesBeforeClass_isFrame "" whole names line hl).unbroken,
    fun line hl => isUnbroken_indentLine _ (classLines_isUnbroken names labels line hl),
    fun line hl => (linesAfterClass_isFrame "" line hl).unbroken⟩

/-- Moving the class to the right does not change the code of its lines. -/
theorem map_code_indentLine (level : Nat) (lines : List String) (rest : List Line) :
    (((lines.map (indentLine level)).map String.toList) ++ rest).map code =
      (lines.map String.toList ++ rest).map code := by
  simp [code_indentLine]

/-- **The comparisons are read back.** -/
theorem readComparisons_text (whole : layout.IsUnbroken .cSharp) (names : conversion.IsWellNamed)
    (labels : conversion.HasEscapedLabels) :
    readComparisons (enumType conversion.target) (text layout conversion) =
      conversion.visibleMembers.map (conversion.options.caseSensitive, ·) := by
  rw [readComparisons, linesOf_text whole names labels, lines_eq]
  simp only [List.map_append]
  rw [readPairs_map_append_of_none fun line hl =>
      (linesBeforeClass_isFrame _ whole names line hl).read,
    readPairs_congr readBranch?_congr (map_code_indentLine _ _ _),
    readPairs_readBranch_classLines names labels,
    readPairs_map_of_none fun line hl => (linesAfterClass_isFrame _ line hl).read,
    List.append_nil]

/-- **The cases are read back.** -/
theorem readCases_text (whole : layout.IsUnbroken .cSharp) (names : conversion.IsWellNamed)
    (labels : conversion.HasEscapedLabels) :
    readCases (enumType conversion.target) (text layout conversion) =
      conversion.visibleMembers := by
  rw [readCases, linesOf_text whole names labels, lines_eq]
  simp only [List.map_append]
  rw [readPairs_map_append_of_none fun line hl =>
      (linesBeforeClass_isFrame _ whole names line hl).write,
    readPairs_congr writeCase?_congr (map_code_indentLine _ _ _),
    readPairs_writeCase_classLines names labels,
    readPairs_map_of_none fun line hl => (linesAfterClass_isFrame _ line hl).write,
    List.append_nil]

end

end EnumCodec.CSharpConverter
