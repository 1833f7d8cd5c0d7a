import EnumCodec.Converter.Python
import EnumCodec.Proofs.Conversion.Names
import EnumCodec.Proofs.Converter.Lines
import Mathlib.Data.List.Basic

/-!
# EnumCodec.Proofs.Converter.PythonReading

**A converter in Python, read back line by line.** The visible texts stand on lines of their own, a
branch is a condition and the line below it. The reader looks at every line of the text, and what it
finds is what the conversion shows: no name, label or description makes a line that it takes for
another one.
-/

namespace EnumCodec.PythonConverter

open Reading
open Text (PlainText Spells)

/-! ### The reader -/

/-- What a branch of the method that decodes compares with its literal. -/
inductive Compared where
  /-- The text as it is given. -/
  | text
  /-- The lowered text. -/
  | key
deriving DecidableEq, Repr

/-- The variable that is compared. -/
def Compared.name : Compared → String
  | text => "text"
  | key => "key"

/-- A step of the method that decodes texts. -/
inductive DecodeStep where
  /-- The text is lowered. -/
  | lower
  /-- The member is returned if what is compared equals the literal. -/
  | branch (compared : Compared) (member : VisibleMember)
deriving DecidableEq, Repr

/-- The visible text on a line: a literal with a comma behind it. -/
def shownText? (line : Line) : Option String :=
  quotedBetween "\"" "," (code line)

/-- The branch that encodes a member, on two lines. -/
def encodeBranch? (enum : String) (first second : Line) : Option VisibleMember := do
  let identifier ← nameBetween ("if value is " ++ (enum ++ ".")) ":" (code first)
  let text ← quotedBetween "return \"" "" (code second)
  return ⟨identifier, text⟩

/-- What a line compares with which literal. -/
def comparison? (line : Line) : Option (Compared × String) :=
  ((quotedBetween "if text == \"" ":" (code line)).map (Compared.text, ·)).or
    ((quotedBetween "if key == \"" ":" (code line)).map (Compared.key, ·))

/-- The step of the method that decodes, on one or two lines. -/
def decodeStep? (enum : String) (first second : Line) : Option DecodeStep :=
  if code first = "key = text.lower()".toList then some .lower
  else do
    let (compared, text) ← comparison? first
    let identifier ← nameBetween ("return " ++ (enum ++ ".")) "" (code second)
    return .branch compared ⟨identifier, text⟩

/-- The visible texts in a text, from its first line to its last. -/
def readShown (text : String) : List String :=
  (linesOf text.toList).filterMap shownText?

/-- The branches in a text that encode members of the enum. -/
def readEncoding (enum text : String) : List VisibleMember :=
  readPairs (encodeBranch? enum) (linesOf text.toList)

/-- The steps in a text that decode members of the enum. -/
def readDecoding (enum text : String) : List DecodeStep :=
  readPairs (decodeStep? enum) (linesOf text.toList)

/-! ### Lines that are passed over -/

theorem encodeBranch?_of_avoids {enum : String} {line : Line} (h : avoids "if value is " line = true)
    (next : Line) : encodeBranch? enum line next = none := by
  rw [encodeBranch?, nameBetween_of_avoids h]
  rfl

theorem decodeStep?_of_avoids {enum : String} {line : Line} (lower : avoids "key = " line = true)
    (text : avoids "if text == \"" line = true) (key : avoids "if key == \"" line = true)
    (next : Line) : decodeStep? enum line next = none := by
  have other : code line ≠ "key = text.lower()".toList := by
    intro same
    rw [avoids, same] at lower
    cases lower
  rw [decodeStep?, if_neg other, comparison?, quotedBetween_of_avoids text,
    quotedBetween_of_avoids key]
  rfl

/-- The openings of the branches, and of the line that lowers the text. -/
def branchOpenings : List String :=
  ["if value is ", "key = ", "if text == \"", "if key == \""]

/-- A line whose code begins with three quotes. -/
def IsDescription (line : String) : Prop :=
  ∃ more, code line.toList = '"' :: '"' :: '"' :: more

theorem IsDescription.literal {line : String} {chars more : List Char}
    (h : String.ofList chars = line) (quotes : code chars = '"' :: '"' :: '"' :: more) :
    IsDescription line :=
  ⟨more, by rw [← h, String.toList_ofList, quotes]⟩

theorem IsDescription.append {line : String} (h : IsDescription line) (more : String) :
    IsDescription (line ++ more) := by
  obtain ⟨first, hfirst⟩ := h
  refine ⟨first ++ more.toList, ?_⟩
  rw [String.toList_append, code_append (by rw [hfirst]; exact List.cons_ne_nil _ _), hfirst]
  rfl

/-- The first two quotes make an empty literal, and no comma stands behind it. -/
theorem IsDescription.shownText?_eq {line : String} (h : IsDescription line) :
    shownText? line.toList = none := by
  obtain ⟨more, hmore⟩ := h
  rw [shownText?, hmore]
  simp [quotedBetween, Text.afterChars?, Source.shortBody]

/-- A line of the frame in which the texts and the branches stand. -/
structure IsFrame (enum line : String) : Prop where
  unbroken : isUnbroken line = true
  shown : shownText? line.toList = none
  encode : ∀ next, encodeBranch? enum line.toList next = none
  decode : ∀ next, decodeStep? enum line.toList next = none

namespace IsFrame

variable {enum line : String}

theorem blank : IsFrame enum "" where
  unbroken := rfl
  shown := rfl
  encode := fun _ => by simp [encodeBranch?, nameBetween, code, Text.afterChars?]
  decode := fun _ => rfl

theorem of_isOther (h : IsOther branchOpenings line) (shown : shownText? line.toList = none) :
    IsFrame enum line where
  unbroken := h.unbroken
  shown := shown
  encode := encodeBranch?_of_avoids (h.avoids _ (by decide))
  decode := decodeStep?_of_avoids (h.avoids _ (by decide)) (h.avoids _ (by decide))
    (h.avoids _ (by decide))

/-- A line that begins with neither a quote nor a branch. -/
theorem code (h : IsOther ("\"" :: branchOpenings) line) : IsFrame enum line :=
  of_isOther ⟨h.unbroken, fun opening ho => h.avoids opening (List.mem_cons_of_mem _ ho)⟩
    (quotedBetween_of_avoids (h.avoids _ List.mem_cons_self))

theorem description (h : IsOther branchOpenings line) (quotes : IsDescription line) :
    IsFrame enum line :=
  of_isOther h quotes.shownText?_eq

end IsFrame

/-! ### The frame -/

theorem plain_enumName {conversion : Conversion} (names : conversion.IsWellNamed) :
    PlainText (enumName conversion.target) := by
  unfold enumName
  split
  · exact names.enumFullName.plain
  · exact names.enumName.plain

/-- The line of a visible text. -/
def shownLine (member : VisibleMember) : String :=
  "        \"" ++ member.text ++ "\","

/-- The lines before the visible texts. -/
def linesBeforeShown (layout : Layout) (conversion : Conversion) : List String :=
  headLines layout conversion.target ++
  [exportLine conversion.target, "", "",
    "class " ++ conversion.target.converterName ++ ":",
    "    \"\"\"Converts " ++ enumName conversion.target ++
      " members to and from their JSON strings.\"\"\"",
    "",
    "    PROPERTY_NAME = \"" ++ conversion.diagnosticName ++ "\"",
    "",
    "    # Visible strings in declaration order",
    "    VALUES: tuple[str, ...] = ("]

/-- The lines between the visible texts and the branches that encode. -/
def linesBeforeEncoding (enum : String) : List String :=
  ["    )",
    "",
    "    @classmethod",
    "    def encode(cls, value: " ++ enum ++ ") -> str:",
    "        \"\"\"Return the JSON string of an enum member.\"\"\""]

/-- The lines between the branches that encode and those that decode. -/
def linesBeforeDecoding (enum : String) : List String :=
  ["        raise ValueError(f\"" ++ braced "value!r" ++ " is not a member of " ++
      braced "cls.PROPERTY_NAME" ++ ".\")",
    "",
    "    @classmethod",
    "    def decode(cls, text: str) -> " ++ enum ++ ":",
    "        \"\"\"Return the enum member whose JSON string is text.\"\"\""]

/-- The lines behind the branches that decode. -/
def linesAfterDecoding (layout : Layout) (enum : String) : List String :=
  ["        raise ValueError(",
    "            f'The JSON value \"" ++ braced "text" ++ "\" could not be converted to " ++
      braced "cls.PROPERTY_NAME" ++ ". '",
    "            f'Expected one of: " ++ braced "\", \".join(cls.VALUES)" ++ ".'",
    "        )"] ++
  (if layout.jsonHelpers then helperLines enum else [])

/-- A converter consists of the texts and the branches in their frame. -/
theorem lines_eq (layout : Layout) (conversion : Conversion) :
    lines layout conversion =
      linesBeforeShown layout conversion ++
      (conversion.visibleMembers.map shownLine ++
      (linesBeforeEncoding (enumName conversion.target) ++
      (conversion.visibleMembers.flatMap (encodeBranch (enumName conversion.target)) ++
      (linesBeforeDecoding (enumName conversion.target) ++
      (decodeBranches conversion ++
      linesAfterDecoding layout (enumName conversion.target)))))) := by
  simp [lines, linesBeforeShown, linesBeforeEncoding, linesBeforeDecoding, linesAfterDecoding,
    valueLines, encodeLines, decodeLines, shownLine]

/-! ### The frame is passed over -/

namespace IsFrame

variable {enum : String}

/-- A fixed line. -/
theorem fixed {line : String} {chars : List Char} (h : String.ofList chars = line)
    (ok : (chars.all (!Text.breaksLiteral ·) &&
      ("\"" :: branchOpenings).all (avoids · chars)) = true) : IsFrame enum line :=
  .code (.literal h ok)

/-- A line with a slot behind its beginning. -/
theorem slot {start slot stop : String} {chars : List Char} (h : String.ofList chars = start)
    (ok : (chars.all (!Text.breaksLiteral ·) &&
      ("\"" :: branchOpenings).all (avoids · chars)) = true)
    (unbroken : isUnbroken slot = true) (rest : isUnbroken stop = true) :
    IsFrame enum (start ++ slot ++ stop) :=
  .code (((IsOther.literal h ok).append unbroken).append rest)

/-- A line with two slots behind its beginning. -/
theorem slots {start slot middle slot' stop : String} {chars : List Char}
    (h : String.ofList chars = start)
    (ok : (chars.all (!Text.breaksLiteral ·) &&
      ("\"" :: branchOpenings).all (avoids · chars)) = true)
    (unbroken : isUnbroken slot = true) (between : isUnbroken middle = true)
    (unbroken' : isUnbroken slot' = true) (rest : isUnbroken stop = true) :
    IsFrame enum (start ++ slot ++ middle ++ slot' ++ stop) :=
  .code (((((IsOther.literal h ok).append unbroken).append between).append unbroken').append rest)

/-- A fixed description. -/
theorem fixedDescription {line : String} {chars more : List Char} (h : String.ofList chars = line)
    (ok : (chars.all (!Text.breaksLiteral ·) && branchOpenings.all (avoids · chars)) = true)
    (quotes : Reading.code chars = '"' :: '"' :: '"' :: more) : IsFrame enum line :=
  .description (.literal h ok) (.literal h quotes)

/-- A description with a slot. -/
theorem slotDescription {start slot stop : String} {chars more : List Char}
    (h : String.ofList chars = start)
    (ok : (chars.all (!Text.breaksLiteral ·) && branchOpenings.all (avoids · chars)) = true)
    (quotes : Reading.code chars = '"' :: '"' :: '"' :: more) (unbroken : isUnbroken slot = true)
    (rest : isUnbroken stop = true) : IsFrame enum (start ++ slot ++ stop) :=
  .description (((IsOther.literal h ok).append unbroken).append rest)
    ((IsDescription.literal h quotes).append slot |>.append stop)

end IsFrame

section

open IsFrame

variable {conversion : Conversion} {layout : Layout} {name : String} (enum : String)

theorem headLines_isFrame (whole : layout.IsUnbroken .python) (names : conversion.IsWellNamed) :
    ∀ line ∈ headLines layout conversion.target, IsFrame enum line := by
  have full := isUnbroken_of_plain names.enumFullName.plain
  have module := isUnbroken_of_plain names.enumModule.plain
  have outermost := isUnbroken_of_plain (plain_enumName names).firstPiece
  simp only [headLines, List.forall_mem_append]
  refine ⟨⟨⟨?_, ?_⟩, ?_⟩, ?_⟩
  · intro line hl
    obtain ⟨commandLine, unbroken, rfl⟩ := whole.comment line (Option.mem_toList.1 hl)
    exact slot (rfl : String.ofList _ = "#") (by decide) (isUnbroken_literal rfl (by decide)) unbroken
  · simp only [List.forall_mem_cons]
    exact ⟨slotDescription rfl (by decide) rfl full (isUnbroken_literal rfl (by decide)),
      blank, fixed rfl (by decide), blank, List.forall_mem_nil _⟩
  · split
    · simp only [List.forall_mem_cons]
      exact ⟨fixed rfl (by decide), fixed rfl (by decide), blank, List.forall_mem_nil _⟩
    · exact List.forall_mem_nil _
  · split
    · exact List.forall_mem_nil _
    · simp only [List.forall_mem_cons]
      refine ⟨code (.append (.append (.append (.literal rfl (by decide)) module) ?_) outermost),
        blank, List.forall_mem_nil _⟩
      exact isUnbroken_literal rfl (by decide)

theorem exportLine_isFrame (names : conversion.IsWellNamed) :
    IsFrame enum (exportLine conversion.target) := by
  have converter := isUnbroken_of_plain names.converterName.plain
  unfold exportLine
  split
  · exact slot rfl (by decide) converter (isUnbroken_literal rfl (by decide))
  · exact fixed rfl (by decide)

theorem linesBeforeShown_isFrame (whole : layout.IsUnbroken .python)
    (names : conversion.IsWellNamed) :
    ∀ line ∈ linesBeforeShown layout conversion, IsFrame enum line := by
  have converter := isUnbroken_of_plain names.converterName.plain
  have served := isUnbroken_of_plain (plain_enumName names)
  simp only [linesBeforeShown, List.forall_mem_append, List.forall_mem_cons]
  exact ⟨headLines_isFrame enum whole names, exportLine_isFrame enum names, blank, blank,
    slot rfl (by decide) converter (isUnbroken_literal rfl (by decide)),
    slotDescription rfl (by decide) rfl served (isUnbroken_literal rfl (by decide)),
    blank,
    slot rfl (by decide) (isUnbroken_escape _) (isUnbroken_literal rfl (by decide)),
    blank, fixed rfl (by decide), fixed rfl (by decide), List.forall_mem_nil _⟩

theorem linesBeforeEncoding_isFrame (served : isUnbroken name = true) :
    ∀ line ∈ linesBeforeEncoding name, IsFrame enum line := by
  simp only [linesBeforeEncoding, List.forall_mem_cons]
  exact ⟨fixed rfl (by decide), blank, fixed rfl (by decide),
    slot rfl (by decide) served (isUnbroken_literal rfl (by decide)),
    fixedDescription rfl (by decide) rfl, List.forall_mem_nil _⟩

theorem linesBeforeDecoding_isFrame (served : isUnbroken name = true) :
    ∀ line ∈ linesBeforeDecoding name, IsFrame enum line := by
  simp only [linesBeforeDecoding, List.forall_mem_cons]
  exact ⟨slots rfl (by decide) (isUnbroken_braced (isUnbroken_literal rfl (by decide)))
      (isUnbroken_literal rfl (by decide)) (isUnbroken_braced (isUnbroken_literal rfl (by decide)))
      (isUnbroken_literal rfl (by decide)),
    blank, fixed rfl (by decide),
    slot rfl (by decide) served (isUnbroken_literal rfl (by decide)),
    fixedDescription rfl (by decide) rfl, List.forall_mem_nil _⟩

theorem helperLines_isFrame (served : isUnbroken name = true) :
    ∀ line ∈ helperLines name, IsFrame enum line := by
  simp only [helperLines, List.forall_mem_cons]
  exact ⟨blank,
    -- `dumps`
    fixed rfl (by decide),
    slot rfl (by decide) served (isUnbroken_literal rfl (by decide)),
    fixedDescription rfl (by decide) rfl, fixed rfl (by decide), blank,
    -- `loads`
    fixed rfl (by decide),
    slot rfl (by decide) served (isUnbroken_literal rfl (by decide)),
    fixedDescription rfl (by decide) rfl, fixed rfl (by decide), fixed rfl (by decide),
    slots rfl (by decide) (isUnbroken_braced (isUnbroken_literal rfl (by decide)))
      (isUnbroken_literal rfl (by decide)) (isUnbroken_braced (isUnbroken_literal rfl (by decide)))
      (isUnbroken_literal rfl (by decide)),
    fixed rfl (by decide), blank,
    -- `default`
    fixed rfl (by decide), fixed rfl (by decide), fixedDescription rfl (by decide) rfl,
    slot rfl (by decide) served (isUnbroken_literal rfl (by decide)), fixed rfl (by decide),
    slot rfl (by decide) (isUnbroken_braced (isUnbroken_literal rfl (by decide)))
      (isUnbroken_literal rfl (by decide)),
    List.forall_mem_nil _⟩

theorem linesAfterDecoding_isFrame (served : isUnbroken name = true) :
    ∀ line ∈ linesAfterDecoding layout name, IsFrame enum line := by
  simp only [linesAfterDecoding, List.forall_mem_append, List.forall_mem_cons]
  refine ⟨⟨fixed rfl (by decide),
    slots rfl (by decide) (isUnbroken_braced (isUnbroken_literal rfl (by decide)))
      (isUnbroken_literal rfl (by decide)) (isUnbroken_braced (isUnbroken_literal rfl (by decide)))
      (isUnbroken_literal rfl (by decide)),
    slot rfl (by decide) (isUnbroken_braced (isUnbroken_literal rfl (by decide)))
      (isUnbroken_literal rfl (by decide)),
    fixed rfl (by decide), List.forall_mem_nil _⟩, ?_⟩
  split
  · exact helperLines_isFrame enum served
  · exact List.forall_mem_nil _

end

/-! ### The lines that are read -/

section

variable {enum : String} {chars : List Char}

theorem shownText?_shownLine {member : VisibleMember} (h : Spells member.text.toList chars) :
    shownText? (shownLine member).toList = some member.text := by
  have found : code (shownLine member).toList = ("\"" ++ member.text ++ "\"" ++ ",").toList := by
    simp [shownLine, code]
  rw [shownText?, found, quotedBetween_eq h]

theorem shownLine_isOther {member : VisibleMember} (h : isUnbroken member.text = true) :
    IsOther branchOpenings (shownLine member) :=
  .append (.append (.literal rfl (by decide)) h) (isUnbroken_literal rfl (by decide))

theorem encodeBranch_spec (enum : String) {member : VisibleMember} (h : Spells member.text.toList chars)
    (unbroken : isUnbroken member.text = true) :
    ∃ first second, encodeBranch enum member = [first, second] ∧
      encodeBranch? enum first.toList second.toList = some member ∧ IsFrame enum second := by
  refine ⟨_, _, rfl, ?_, .slot rfl (by decide) unbroken (isUnbroken_literal rfl (by decide))⟩
  have first : code ("        if value is " ++ enum ++ "." ++ member.identifier ++ ":").toList =
      ("if value is " ++ (enum ++ ".") ++ member.identifier ++ ":").toList := by
    simp [code]
  have second : code ("            return \"" ++ member.text ++ "\"").toList =
      ("return \"" ++ member.text ++ "\"" ++ "").toList := by
    simp [code]
  rw [encodeBranch?, first, nameBetween_eq, second, quotedBetween_eq h]
  rfl

theorem encodeBranch_isOther {member : VisibleMember} (served : isUnbroken enum = true)
    (identifier : isUnbroken member.identifier = true) (text : isUnbroken member.text = true) :
    ∀ line ∈ encodeBranch enum member,
      IsOther ["\"", "key = ", "if text == \"", "if key == \""] line := by
  simp only [encodeBranch, List.forall_mem_cons]
  exact ⟨.append (.append (.append (.append (.literal rfl (by decide)) served) rfl) identifier) rfl,
    .append (.append (.literal rfl (by decide)) text) rfl, List.forall_mem_nil _⟩

theorem comparison?_eq (compared : Compared) {literal : String} (h : Spells literal.toList chars) :
    comparison? ("        if " ++ compared.name ++ " == \"" ++ literal ++ "\":").toList =
      some (compared, literal) := by
  cases compared with
  | text =>
      have found : code ("        if " ++ Compared.text.name ++ " == \"" ++ literal ++ "\":").toList =
          ("if text == \"" ++ literal ++ "\"" ++ ":").toList := by
        simp [Compared.name, code]
      rw [comparison?, found, quotedBetween_eq h]
      rfl
  | key =>
      have found : code ("        if " ++ Compared.key.name ++ " == \"" ++ literal ++ "\":").toList =
          ("if key == \"" ++ literal ++ "\"" ++ ":").toList := by
        simp [Compared.name, code]
      have other : quotedBetween "if text == \"" ":"
          ("if key == \"" ++ literal ++ "\"" ++ ":").toList = none := by
        simp [quotedBetween, Text.afterChars?]
      rw [comparison?, found, other, quotedBetween_eq h]
      rfl

theorem decodeBranch_spec (compared : Compared) {literal identifier : String}
    (h : Spells literal.toList chars) (unbroken : isUnbroken (enum ++ "." ++ identifier) = true) :
    ∃ first second, decodeBranch compared.name literal (enum ++ "." ++ identifier) =
        [first, second] ∧
      decodeStep? enum first.toList second.toList = some (.branch compared ⟨identifier, literal⟩) ∧
      IsFrame enum second := by
  refine ⟨_, _, rfl, ?_, .code (.append (.literal rfl (by decide)) unbroken)⟩
  have other : code ("        if " ++ compared.name ++ " == \"" ++ literal ++ "\":").toList ≠
      "key = text.lower()".toList := by
    simp [code]
  have second : code ("            return " ++ (enum ++ "." ++ identifier)).toList =
      ("return " ++ (enum ++ ".") ++ identifier ++ "").toList := by
    simp [code]
  rw [decodeStep?, if_neg other, comparison?_eq compared h, second]
  simp only [Option.bind_eq_bind, Option.bind_some, nameBetween_eq]
  rfl

theorem decodeBranch_isOther (compared : Compared) {literal member : String}
    (unbroken : isUnbroken literal = true) (whole : isUnbroken member = true) :
    ∀ line ∈ decodeBranch compared.name literal member, IsOther ["\"", "if value is "] line := by
  simp only [decodeBranch, List.forall_mem_cons]
  have start : IsOther ["\"", "if value is "] ("        if " ++ compared.name) := by
    cases compared with
    | text =>
        have joined : "        if " ++ Compared.text.name = "        if text" := by decide
        exact joined ▸ .literal rfl (by decide)
    | key =>
        have joined : "        if " ++ Compared.key.name = "        if key" := by decide
        exact joined ▸ .literal rfl (by decide)
  exact ⟨.append (.append (.append start rfl) unbroken) rfl,
    .append (.literal rfl (by decide)) whole, List.forall_mem_nil _⟩

end

/-! ### What is read is what is shown -/

/-- The steps that decode the members of a conversion. -/
def decodeSteps (conversion : Conversion) : List DecodeStep :=
  if conversion.options.caseSensitive then conversion.visibleMembers.map (.branch .text)
  else
    .lower :: conversion.visibleMembers.map fun member =>
      .branch .key ⟨member.identifier, Text.lowercase member.text⟩

section

variable {layout : Layout} {conversion : Conversion}

theorem shownLines_isOther (names : conversion.IsWellNamed) (labels : conversion.HasEscapedLabels) :
    ∀ line ∈ conversion.visibleMembers.map shownLine, IsOther branchOpenings line := by
  intro line hl
  obtain ⟨member, hm, rfl⟩ := List.mem_map.1 hl
  obtain ⟨-, text, htext⟩ := Conversion.visibleMembers_spec names labels hm
  exact shownLine_isOther (htext ▸ isUnbroken_escape text)

theorem encodeBranches_isOther (names : conversion.IsWellNamed)
    (labels : conversion.HasEscapedLabels) :
    ∀ line ∈ conversion.visibleMembers.flatMap (encodeBranch (enumName conversion.target)),
      IsOther ["\"", "key = ", "if text == \"", "if key == \""] line := by
  intro line hl
  obtain ⟨member, hm, hl⟩ := List.mem_flatMap.1 hl
  obtain ⟨plain, text, htext⟩ := Conversion.visibleMembers_spec names labels hm
  exact encodeBranch_isOther (isUnbroken_of_plain (plain_enumName names))
    (isUnbroken_of_plain plain) (htext ▸ isUnbroken_escape text) line hl

theorem decodeBranches_isOther (names : conversion.IsWellNamed)
    (labels : conversion.HasEscapedLabels) :
    ∀ line ∈ decodeBranches conversion, IsOther ["\"", "if value is "] line := by
  have whole {member : VisibleMember} (plain : PlainText member.identifier) :
      isUnbroken (enumName conversion.target ++ "." ++ member.identifier) = true := by
    rw [isUnbroken_append, isUnbroken_append, isUnbroken_of_plain (plain_enumName names),
      isUnbroken_of_plain plain]
    rfl
  intro line hl
  unfold decodeBranches at hl
  split at hl
  · obtain ⟨member, hm, hl⟩ := List.mem_flatMap.1 hl
    obtain ⟨plain, text, htext⟩ := Conversion.visibleMembers_spec names labels hm
    exact decodeBranch_isOther .text (htext ▸ isUnbroken_escape text) (whole plain) line hl
  · rcases List.mem_cons.1 hl with rfl | hl
    · exact .literal rfl (by decide)
    · obtain ⟨member, hm, hl⟩ := List.mem_flatMap.1 hl
      obtain ⟨plain, text, htext⟩ := Conversion.visibleMembers_spec names labels hm
      exact decodeBranch_isOther .key (htext ▸ isUnbroken_lowercase_escape text) (whole plain)
        line hl

/-- No line of a converter holds the end of a line. -/
theorem lines_isUnbroken (whole : layout.IsUnbroken .python) (names : conversion.IsWellNamed)
    (labels : conversion.HasEscapedLabels) :
    ∀ line ∈ lines layout conversion, isUnbroken line = true := by
  have served := isUnbroken_of_plain (plain_enumName names)
  rw [lines_eq]
  simp only [List.forall_mem_append]
  exact ⟨fun line hl => (linesBeforeShown_isFrame "" whole names line hl).unbroken,
    fun line hl => (shownLines_isOther names labels line hl).unbroken,
    fun line hl => (linesBeforeEncoding_isFrame "" served line hl).unbroken,
    fun line hl => (encodeBranches_isOther names labels line hl).unbroken,
    fun line hl => (linesBeforeDecoding_isFrame "" served line hl).unbroken,
    fun line hl => (decodeBranches_isOther names labels line hl).unbroken,
    fun line hl => (linesAfterDecoding_isFrame "" served line hl).unbroken⟩

theorem linesOf_text (whole : layout.IsUnbroken .python) (names : conversion.IsWellNamed)
    (labels : conversion.HasEscapedLabels) :
    linesOf (text layout conversion).toList = (lines layout conversion).map String.toList :=
  linesOf_textOfLines (lines_isUnbroken whole names labels)

/-- **The visible texts are read back.** -/
theorem readShown_text (whole : layout.IsUnbroken .python) (names : conversion.IsWellNamed)
    (labels : conversion.HasEscapedLabels) :
    readShown (text layout conversion) = conversion.visibleMembers.map (·.text) := by
  have served := isUnbroken_of_plain (plain_enumName names)
  have skip {part : List String} (h : ∀ line ∈ part, shownText? line.toList = none) :
      (part.map String.toList).filterMap shownText? = [] := by
    rw [List.filterMap_map, List.filterMap_eq_nil_iff]
    exact h
  have shown : ((conversion.visibleMembers.map shownLine).map String.toList).filterMap shownText? =
      conversion.visibleMembers.map (·.text) := by
    rw [List.map_map, List.filterMap_map, List.filterMap_eq_map_iff_forall_eq_some]
    intro member hm
    obtain ⟨-, raw, htext⟩ := Conversion.visibleMembers_spec names labels hm
    have spells : Spells member.text.toList raw.toList := by simp [htext, Spells.escapeChars]
    exact shownText?_shownLine spells
  rw [readShown, linesOf_text whole names labels, lines_eq]
  simp only [List.map_append, List.filterMap_append]
  rw [skip fun line hl => (linesBeforeShown_isFrame "" whole names line hl).shown, shown,
    skip fun line hl => (linesBeforeEncoding_isFrame "" served line hl).shown,
    skip fun line hl => quotedBetween_of_avoids
      ((encodeBranches_isOther names labels line hl).avoids _ (by decide)),
    skip fun line hl => (linesBeforeDecoding_isFrame "" served line hl).shown,
    skip fun line hl => quotedBetween_of_avoids
      ((decodeBranches_isOther names labels line hl).avoids _ (by decide)),
    skip fun line hl => (linesAfterDecoding_isFrame "" served line hl).shown]
  simp

theorem readPairs_encodeBranches (enum : String) (names : conversion.IsWellNamed)
    (labels : conversion.HasEscapedLabels) (rest : List Line) :
    readPairs (encodeBranch? enum)
        ((conversion.visibleMembers.flatMap (encodeBranch enum)).map String.toList ++ rest) =
      conversion.visibleMembers ++ readPairs (encodeBranch? enum) rest := by
  rw [readPairs_flatMap_append (f := id) _ rest, List.map_id]
  intro member hm
  obtain ⟨-, raw, htext⟩ := Conversion.visibleMembers_spec names labels hm
  have spells : Spells member.text.toList raw.toList := by simp [htext, Spells.escapeChars]
  obtain ⟨first, second, hblock, here, frame⟩ :=
    encodeBranch_spec enum spells (htext ▸ isUnbroken_escape raw)
  exact ⟨first, second, [], hblock, here, by simpa using frame.encode⟩

/-- **The branches that encode are read back.** -/
theorem readEncoding_text (whole : layout.IsUnbroken .python) (names : conversion.IsWellNamed)
    (labels : conversion.HasEscapedLabels) :
    readEncoding (enumName conversion.target) (text layout conversion) =
      conversion.visibleMembers := by
  have served := isUnbroken_of_plain (plain_enumName names)
  rw [readEncoding, linesOf_text whole names labels, lines_eq]
  simp only [List.map_append]
  rw [readPairs_map_append_of_none fun line hl =>
      (linesBeforeShown_isFrame _ whole names line hl).encode,
    readPairs_map_append_of_none fun line hl => encodeBranch?_of_avoids
      ((shownLines_isOther names labels line hl).avoids _ (by decide)),
    readPairs_map_append_of_none fun line hl =>
      (linesBeforeEncoding_isFrame _ served line hl).encode,
    readPairs_encodeBranches _ names labels,
    readPairs_map_append_of_none fun line hl =>
      (linesBeforeDecoding_isFrame _ served line hl).encode,
    readPairs_map_append_of_none fun line hl => encodeBranch?_of_avoids
      ((decodeBranches_isOther names labels line hl).avoids _ (by decide)),
    readPairs_map_of_none fun line hl => (linesAfterDecoding_isFrame _ served line hl).encode,
    List.append_nil]

/-- The branches with one compared variable and a literal for each member. -/
theorem readPairs_decodeBranch (compared : Compared) {literal : VisibleMember → String}
    (names : conversion.IsWellNamed) (labels : conversion.HasEscapedLabels)
    (spelled : ∀ member ∈ conversion.visibleMembers,
      isUnbroken (literal member) = true ∧ ∃ chars, Spells (literal member).toList chars)
    (rest : List Line) :
    readPairs (decodeStep? (enumName conversion.target))
        ((conversion.visibleMembers.flatMap fun member =>
          decodeBranch compared.name (literal member)
            (enumName conversion.target ++ "." ++ member.identifier)).map String.toList ++ rest) =
      (conversion.visibleMembers.map fun member =>
        .branch compared ⟨member.identifier, literal member⟩) ++
        readPairs (decodeStep? (enumName conversion.target)) rest := by
  refine readPairs_flatMap_append (fun member hm => ?_) rest
  obtain ⟨unbroken, chars, h⟩ := spelled member hm
  have plain := (Conversion.visibleMembers_spec names labels hm).1
  have whole : isUnbroken (enumName conversion.target ++ "." ++ member.identifier) = true := by
    rw [isUnbroken_append, isUnbroken_append, isUnbroken_of_plain (plain_enumName names),
      isUnbroken_of_plain plain]
    rfl
  obtain ⟨first, second, hblock, here, frame⟩ := decodeBranch_spec compared h whole
  exact ⟨first, second, [], hblock, here, by simpa using frame.decode⟩

theorem readPairs_decodeBranches (names : conversion.IsWellNamed)
    (labels : conversion.HasEscapedLabels) {rest : List Line} (more : rest ≠ []) :
    readPairs (decodeStep? (enumName conversion.target))
        ((decodeBranches conversion).map String.toList ++ rest) =
      decodeSteps conversion ++ readPairs (decodeStep? (enumName conversion.target)) rest := by
  unfold decodeBranches decodeSteps
  split
  · refine readPairs_decodeBranch .text names labels (fun member hm => ?_) rest
    obtain ⟨-, raw, htext⟩ := Conversion.visibleMembers_spec names labels hm
    exact ⟨htext ▸ isUnbroken_escape raw, raw.toList, by simp [htext, Spells.escapeChars]⟩
  · have lower (next : Line) : decodeStep? (enumName conversion.target)
        "        key = text.lower()".toList next = some .lower := by
      simp [decodeStep?, code]
    rw [List.map_cons, List.cons_append, readPairs_cons_of_some lower (by simp [more]),
      List.cons_append, List.cons.injEq]
    refine ⟨rfl, readPairs_decodeBranch .key names labels (fun member hm => ?_) rest⟩
    obtain ⟨-, raw, htext⟩ := Conversion.visibleMembers_spec names labels hm
    have spelled := Spells.lowercaseAfter [] raw.toList
    refine ⟨htext ▸ isUnbroken_lowercase_escape raw, Text.lowercaseEscapedAfter [] raw.toList, ?_⟩
    rwa [htext, Text.lowercase, String.toList_ofList, Text.toList_escape]

/-- **The steps that decode are read back.** -/
theorem readDecoding_text (whole : layout.IsUnbroken .python) (names : conversion.IsWellNamed)
    (labels : conversion.HasEscapedLabels) :
    readDecoding (enumName conversion.target) (text layout conversion) =
      decodeSteps conversion := by
  have served := isUnbroken_of_plain (plain_enumName names)
  have pass {line : String} {openings : List String} (h : IsOther openings line)
      (lower : "key = " ∈ openings) (text : "if text == \"" ∈ openings)
      (key : "if key == \"" ∈ openings) (next : Line) :
      decodeStep? (enumName conversion.target) line.toList next = none :=
    decodeStep?_of_avoids (h.avoids _ lower) (h.avoids _ text) (h.avoids _ key) next
  rw [readDecoding, linesOf_text whole names labels, lines_eq]
  simp only [List.map_append]
  rw [readPairs_map_append_of_none fun line hl =>
      (linesBeforeShown_isFrame _ whole names line hl).decode,
    readPairs_map_append_of_none fun line hl =>
      pass (shownLines_isOther names labels line hl) (by decide) (by decide) (by decide),
    readPairs_map_append_of_none fun line hl =>
      (linesBeforeEncoding_isFrame _ served line hl).decode,
    readPairs_map_append_of_none fun line hl =>
      pass (encodeBranches_isOther names labels line hl) (by decide) (by decide) (by decide),
    readPairs_map_append_of_none fun line hl =>
      (linesBeforeDecoding_isFrame _ served line hl).decode,
    readPairs_decodeBranches names labels (by simp [linesAfterDecoding]),
    readPairs_map_of_none fun line hl => (linesAfterDecoding_isFrame _ served line hl).decode,
    List.append_nil]

end

end EnumCodec.PythonConverter
