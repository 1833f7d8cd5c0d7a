import EnumCodec.Proofs.Converter.PythonTokens

/-!
# EnumCodec.Proofs.Converter.PythonMethodTokens

**The tokens of the methods, and of the whole text.** A method begins wherever the one before it ends,
and a branch wherever the branch before it ends; the blocks that end there give tokens that belong to
what stands before the line.
-/

namespace EnumCodec.PythonConverter

open Source
open Text (PlainText dotPieces firstPiece)

/-! ### Methods -/

/-- The tokens of a class method with one parameter, but for the end of its block. -/
def openMethodKinds (name parameter : String) (hint returned body : List TokenKind) :
    List TokenKind :=
  [.symbol (.operator .matMul), .name "classmethod", .newline] ++
  (.keyword .defK :: .name name :: .symbol .leftParen :: .name "cls" :: .symbol .comma ::
    .name parameter :: .symbol .colon :: (hint ++ .symbol .rightParen :: .symbol .arrow ::
      (returned ++ [.symbol .colon, .newline]))) ++
  .indent :: body

theorem openMethodKinds_append_dedent (name parameter : String)
    (hint returned body : List TokenKind) :
    openMethodKinds name parameter hint returned body ++ [.dedent] =
      methodKinds name parameter hint returned body := by
  simp [openMethodKinds, methodKinds]

/-- A method is read line by line, wherever a block of the class may end before it. -/
theorem method_reads (name parameter : String) (hint returned : List TokenKind)
    {head text description : String} {lines : List String} {kinds lead : List TokenKind}
    {blocks : List Columns}
    (hblocks : blockTokens ⟨4, 4⟩ blocks = some (lead, classBlocks))
    (hhead : LineReads 4 [] head (.keyword .defK :: .name name :: .symbol .leftParen ::
      .name "cls" :: .symbol .comma :: .name parameter :: .symbol .colon ::
        (hint ++ .symbol .rightParen :: .symbol .arrow ::
          (returned ++ [TokenKind.symbol .colon, .newline]))) [])
    (htext : LineReads 8 [] text (describeKinds description) [])
    (hlines : LinesRead (between methodBlocks) lines kinds (between methodBlocks)) :
    LinesRead (between blocks) (["    @classmethod", head, text] ++ lines)
      (lead ++ openMethodKinds name parameter hint returned (describeKinds description ++ kinds))
      (between methodBlocks) := by
  have decorator : LineReads 4 [] "    @classmethod"
      [.symbol (.operator .matMul), .name "classmethod", .newline] [] :=
    .fixed (toList_literal rfl) ⟨rfl, rfl⟩ 3 (by decide) fun _ _ _ => rfl
  have opened : blockTokens ⟨8, 8⟩ classBlocks = some ([.indent], methodBlocks) := rfl
  have all := (LinesRead.code decorator hblocks).cons
    ((LinesRead.within hhead).cons ((LinesRead.code htext opened).cons hlines))
  simpa [openMethodKinds] using all

/-- Branches of one line each, with other lines behind them. -/
theorem branches_read {α : Type} {xs : List α} {head under : α → String}
    {test body : α → List TokenKind} {lines : List String} {kinds : List TokenKind}
    (heads : ∀ x ∈ xs, LineReads 8 [] (head x)
      (.keyword .ifK :: (test x ++ [TokenKind.symbol .colon, .newline])) [])
    (unders : ∀ x ∈ xs, LineReads 12 [] (under x) (body x) [])
    (last : ∀ blocks lead, blockTokens ⟨8, 8⟩ blocks = some (lead, methodBlocks) →
      LinesRead (between blocks) lines (lead ++ kinds) (between methodBlocks))
    {blocks : List Columns} {lead : List TokenKind}
    (hblocks : blockTokens ⟨8, 8⟩ blocks = some (lead, methodBlocks)) :
    LinesRead (between blocks) (xs.flatMap (fun x => [head x, under x]) ++ lines)
      (lead ++ (xs.flatMap (fun x => branchKinds (test x) (body x)) ++ kinds))
      (between methodBlocks) := by
  induction xs generalizing blocks lead with
  | nil => exact last blocks lead hblocks
  | cons x xs ih =>
      obtain ⟨headx, heads⟩ := List.forall_mem_cons.1 heads
      obtain ⟨underx, unders⟩ := List.forall_mem_cons.1 unders
      have opened : blockTokens ⟨12, 12⟩ methodBlocks =
          some ([.indent], ⟨12, 12⟩ :: methodBlocks) := rfl
      -- The end of the block of this branch is read with the line behind it.
      have closed : blockTokens ⟨8, 8⟩ (⟨12, 12⟩ :: methodBlocks) = some ([.dedent], methodBlocks) :=
        rfl
      have all := (LinesRead.code headx hblocks).cons
        ((LinesRead.code underx opened).cons (ih heads unders closed))
      simpa [branchKinds] using all

/-- The tokens of a statement that raises an error with a message. -/
def raiseKinds (error : String) (fields : List String) : List TokenKind :=
  [.keyword .raiseK, .name error, .symbol .leftParen, .string (.formatted (fields.map String.toList)),
    .symbol .rightParen, .newline]

/-- The tokens of the statement that returns the text of a member. -/
def returnTextKinds (text : String) : List TokenKind :=
  [.keyword .returnK, .string (.text (literalText text)), .newline]

/-- The tokens of the statement that returns what a dotted name stands for. -/
def returnReferenceKinds (name : String) : List TokenKind :=
  .keyword .returnK :: (referenceKinds (dotPieces name) ++ [.newline])

/-! ### The method that encodes members -/

/-- The name of a member of the enum. -/
def memberName (conversion : Conversion) (member : VisibleMember) : String :=
  enumName conversion.target ++ "." ++ member.identifier

theorem isReference_memberName {conversion : Conversion} (python : conversion.HasPythonNames)
    {member : VisibleMember} (h : member ∈ conversion.visibleMembers) :
    IsReference (memberName conversion member) := by
  obtain ⟨source, hs, rfl⟩ := List.mem_map.1 h
  exact python.enumName.join (python.identifiers source hs)

/-- The tokens of the condition under which a member is encoded. -/
def encodeTestKinds (conversion : Conversion) (member : VisibleMember) : List TokenKind :=
  .name "value" :: .keyword .isK :: referenceKinds (dotPieces (memberName conversion member))

/-- The tokens of the statements that encode members. -/
def encodeKinds (conversion : Conversion) : List TokenKind :=
  describeKinds "Return the JSON string of an enum member." ++
  (conversion.visibleMembers.flatMap (fun member =>
    branchKinds (encodeTestKinds conversion member) (returnTextKinds member.text)) ++
  raiseKinds "ValueError" ["value", "cls.PROPERTY_NAME"])

theorem encodeRaise_reads {blocks : List Columns} {lead : List TokenKind}
    (hblocks : blockTokens ⟨8, 8⟩ blocks = some (lead, methodBlocks)) :
    LinesRead (between blocks)
      ["        raise ValueError(f\"" ++ braced "value!r" ++ " is not a member of " ++
        braced "cls.PROPERTY_NAME" ++ ".\")"]
      (lead ++ raiseKinds "ValueError" ["value", "cls.PROPERTY_NAME"]) (between methodBlocks) := by
  have line : LineReads 8 [] ("        raise ValueError(f\"" ++ braced "value!r" ++
      " is not a member of " ++ braced "cls.PROPERTY_NAME" ++ ".\")")
      (raiseKinds "ValueError" ["value", "cls.PROPERTY_NAME"]) [] :=
    .fixed (toList_append (toList_append (toList_append (toList_append (toList_literal rfl)
      (toList_braced (toList_literal rfl))) (toList_literal rfl))
        (toList_braced (toList_literal rfl))) (toList_literal rfl)) ⟨rfl, rfl⟩ 6 (by decide)
      fun _ _ _ => rfl
  exact .code line hblocks

/-- **The method that encodes members.** -/
theorem encode_reads {conversion : Conversion} (python : conversion.HasPythonNames)
    (texts : ∀ member ∈ conversion.visibleMembers, IsLiteral member.text) :
    LinesRead (between classBlocks) (encodeLines conversion)
      (openMethodKinds "encode" "value" (referenceKinds (dotPieces (enumName conversion.target)))
        [.name "str"] (encodeKinds conversion)) (between methodBlocks) := by
  have head : LineReads 4 [] ("    def encode(cls, value: " ++ enumName conversion.target ++
        ") -> str:")
      ([TokenKind.keyword .defK, .name "encode", .symbol .leftParen, .name "cls", .symbol .comma,
        .name "value", .symbol .colon] ++ (referenceKinds (dotPieces (enumName conversion.target)) ++
          [TokenKind.symbol .rightParen, .symbol .arrow, .name "str", .symbol .colon,
            .newline])) [] :=
    .reference (c := 'd') rfl rfl _ [.leftParen] 7 (by decide) (fun _ _ _ => rfl) python.enumName rfl
      (by decide) 5 (by decide) fun _ _ _ => rfl
  have description : LineReads 8 [] "        \"\"\"Return the JSON string of an enum member.\"\"\""
      (describeKinds "Return the JSON string of an enum member.") [] :=
    .fixed (toList_literal rfl) ⟨rfl, rfl⟩ 2 (by decide) fun _ _ _ => rfl
  have heads : ∀ member ∈ conversion.visibleMembers,
      LineReads 8 [] ("        if value is " ++ memberName conversion member ++ ":")
        (.keyword .ifK :: (encodeTestKinds conversion member ++
          [TokenKind.symbol .colon, .newline])) [] :=
    fun member hm => .reference (c := 'i') rfl rfl [.keyword .ifK, .name "value", .keyword .isK] [] 3
      (by decide) (fun _ _ _ => rfl) (isReference_memberName python hm) rfl (by decide) 2
      (by decide) fun _ _ _ => rfl
  have unders : ∀ member ∈ conversion.visibleMembers,
      LineReads 12 [] ("            return \"" ++ member.text ++ "\"") (returnTextKinds member.text)
        [] :=
    fun member hm => .literal (c := 'r') rfl rfl [.keyword .returnK] [] 1 1 (by decide)
      (fun _ _ _ => rfl) (texts member hm) rfl (by decide) 1 (by decide) fun _ _ _ => rfl
  have branches := branches_read heads unders (fun _ _ h => encodeRaise_reads h)
    (rfl : blockTokens ⟨8, 8⟩ methodBlocks = some ([], methodBlocks))
  have all := method_reads "encode" "value" (referenceKinds (dotPieces (enumName conversion.target)))
    [.name "str"] (rfl : blockTokens ⟨4, 4⟩ classBlocks = some ([], classBlocks)) head description
    branches
  have pairs : encodeBranch (enumName conversion.target) = fun member =>
      ["        if value is " ++ memberName conversion member ++ ":",
        "            return \"" ++ member.text ++ "\""] :=
    funext fun member => by rw [encodeBranch, memberName, ← String.append_assoc, ← String.append_assoc]
  simp only [encodeLines, pairs, List.append_assoc]
  exact all

/-! ### The method that decodes texts -/

/-- The variable that a text is decoded by. -/
def decodedName (options : Options) : String :=
  if options.caseSensitive then "text" else "key"

/-- The body of the literal that decodes to a member. -/
def decodedBody (options : Options) (member : VisibleMember) : String :=
  if options.caseSensitive then member.text else Text.lowercase member.text

/-- The tokens of the condition under which a text is decoded to a member. -/
def decodeTestKinds (options : Options) (member : VisibleMember) : List TokenKind :=
  [.name (decodedName options), .symbol .equal,
    .string (.text (literalText (decodedBody options member)))]

/-- The tokens of the statement that lowers the text. -/
def lowerKinds : List TokenKind :=
  [.name "key", .symbol .assign, .name "text", .symbol .dot, .name "lower", .symbol .leftParen,
    .symbol .rightParen, .newline]

/-- The tokens of the statement that raises an error for a text. -/
def decodeRaiseKinds : List TokenKind :=
  [.keyword .raiseK, .name "ValueError", .symbol .leftParen,
    .string (.formatted ["text".toList, "cls.PROPERTY_NAME".toList]),
    .string (.formatted ["\", \".join(cls.VALUES)".toList]), .symbol .rightParen, .newline]

/-- The tokens of the statements that decode texts. -/
def decodeKinds (conversion : Conversion) : List TokenKind :=
  describeKinds "Return the enum member whose JSON string is text." ++
  ((if conversion.options.caseSensitive then [] else lowerKinds) ++
  (conversion.visibleMembers.flatMap (fun member =>
    branchKinds (decodeTestKinds conversion.options member)
      (returnReferenceKinds (memberName conversion member))) ++
  decodeRaiseKinds))

theorem decodeRaise_reads {blocks : List Columns} {lead : List TokenKind}
    (hblocks : blockTokens ⟨8, 8⟩ blocks = some (lead, methodBlocks)) :
    LinesRead (between blocks)
      ["        raise ValueError(",
        "            f'The JSON value \"" ++ braced "text" ++ "\" could not be converted to " ++
          braced "cls.PROPERTY_NAME" ++ ". '",
        "            f'Expected one of: " ++ braced "\", \".join(cls.VALUES)" ++ ".'",
        "        )"]
      (lead ++ decodeRaiseKinds) (between methodBlocks) := by
  have start : LineReads 8 [] "        raise ValueError("
      [.keyword .raiseK, .name "ValueError", .symbol .leftParen] [.leftParen] :=
    .fixed (toList_literal rfl) ⟨rfl, rfl⟩ 4 (by decide) fun _ _ _ => rfl
  have cause : LineReads 12 [.leftParen] ("            f'The JSON value \"" ++ braced "text" ++
      "\" could not be converted to " ++ braced "cls.PROPERTY_NAME" ++ ". '")
      [.string (.formatted ["text".toList, "cls.PROPERTY_NAME".toList])] [.leftParen] :=
    .fixed (toList_append (toList_append (toList_append (toList_append (toList_literal rfl)
      (toList_braced (toList_literal rfl))) (toList_literal rfl))
        (toList_braced (toList_literal rfl))) (toList_literal rfl)) ⟨rfl, rfl⟩ 2 (by decide)
      fun _ _ _ => rfl
  have expected : LineReads 12 [.leftParen] ("            f'Expected one of: " ++
      braced "\", \".join(cls.VALUES)" ++ ".'")
      [.string (.formatted ["\", \".join(cls.VALUES)".toList])] [.leftParen] :=
    .fixed (toList_append (toList_append (toList_literal rfl) (toList_braced (toList_literal rfl)))
      (toList_literal rfl)) ⟨rfl, rfl⟩ 2 (by decide) fun _ _ _ => rfl
  have last : LineReads 8 [.leftParen] "        )" [.symbol .rightParen, .newline] [] :=
    .fixed (toList_literal rfl) ⟨rfl, rfl⟩ 2 (by decide) fun _ _ _ => rfl
  have all := (LinesRead.code start hblocks).cons
    ((LinesRead.inner cause).cons ((LinesRead.inner expected).cons (.inner last)))
  rw [List.append_assoc] at all
  exact all

theorem decodeTest_reads {options : Options} {member : VisibleMember}
    (body : IsLiteral (decodedBody options member)) :
    LineReads 8 [] ("        if " ++ decodedName options ++ " == \"" ++ decodedBody options member ++
        "\":")
      (.keyword .ifK :: (decodeTestKinds options member ++
        [TokenKind.symbol .colon, .newline])) [] := by
  unfold decodeTestKinds decodedName
  split
  · have start : "        if " ++ "text" ++ " == \"" = "        if text == \"" := by decide
    rw [start]
    exact .literal (c := 'i') rfl rfl [.keyword .ifK, .name "text", .symbol .equal] [] 1 3
      (by decide) (fun _ _ _ => rfl) body rfl (by decide) 2 (by decide) fun _ _ _ => rfl
  · have start : "        if " ++ "key" ++ " == \"" = "        if key == \"" := by decide
    rw [start]
    exact .literal (c := 'i') rfl rfl [.keyword .ifK, .name "key", .symbol .equal] [] 1 3
      (by decide) (fun _ _ _ => rfl) body rfl (by decide) 2 (by decide) fun _ _ _ => rfl

/-- With and without regard to case the branches are of one form. -/
theorem decodeBranches_eq (conversion : Conversion) :
    decodeBranches conversion =
      (if conversion.options.caseSensitive then [] else ["        key = text.lower()"]) ++
      conversion.visibleMembers.flatMap fun member =>
        ["        if " ++ decodedName conversion.options ++ " == \"" ++
            decodedBody conversion.options member ++ "\":",
          "            return " ++ memberName conversion member] := by
  unfold decodeBranches decodedName decodedBody
  split
  · rfl
  · rfl

/-- **The method that decodes texts.** -/
theorem decode_reads {conversion : Conversion} (python : conversion.HasPythonNames)
    (texts : ∀ member ∈ conversion.visibleMembers,
      IsLiteral (decodedBody conversion.options member))
    {blocks : List Columns} {lead : List TokenKind}
    (hblocks : blockTokens ⟨4, 4⟩ blocks = some (lead, classBlocks)) :
    LinesRead (between blocks) (decodeLines conversion)
      (lead ++ openMethodKinds "decode" "text" [.name "str"]
        (referenceKinds (dotPieces (enumName conversion.target))) (decodeKinds conversion))
      (between methodBlocks) := by
  have head : LineReads 4 [] ("    def decode(cls, text: str) -> " ++ enumName conversion.target ++ ":")
      ([TokenKind.keyword .defK, .name "decode", .symbol .leftParen, .name "cls", .symbol .comma,
        .name "text", .symbol .colon, .name "str", .symbol .rightParen, .symbol .arrow] ++
          (referenceKinds (dotPieces (enumName conversion.target)) ++
            [TokenKind.symbol .colon, .newline])) [] :=
    .reference (c := 'd') rfl rfl _ [] 10 (by decide) (fun _ _ _ => rfl) python.enumName rfl
      (by decide) 2 (by decide) fun _ _ _ => rfl
  have description : LineReads 8 []
      "        \"\"\"Return the enum member whose JSON string is text.\"\"\""
      (describeKinds "Return the enum member whose JSON string is text.") [] :=
    .fixed (toList_literal rfl) ⟨rfl, rfl⟩ 2 (by decide) fun _ _ _ => rfl
  have lower : LinesRead (between methodBlocks)
      (if conversion.options.caseSensitive then [] else ["        key = text.lower()"])
      (if conversion.options.caseSensitive then [] else lowerKinds) (between methodBlocks) := by
    have line : LineReads 8 [] "        key = text.lower()" lowerKinds [] :=
      .fixed (toList_literal rfl) ⟨rfl, rfl⟩ 8 (by decide) fun _ _ _ => rfl
    split
    · exact .nil
    · exact .within line
  have unders : ∀ member ∈ conversion.visibleMembers,
      LineReads 12 [] ("            return " ++ memberName conversion member)
        (returnReferenceKinds (memberName conversion member)) [] := by
    intro member hm
    have slot := (Finishes.newline.reference (isReference_memberName python hm) (by simp)).blank
      (by simp)
    rw [List.append_nil] at slot
    exact .behind (g := [' ']) (c := 'r') rfl rfl [.keyword .returnK] 1 (by decide) (fun _ _ _ => rfl)
      slot
  have branches := branches_read (fun member hm => decodeTest_reads (texts member hm)) unders
    (fun _ _ h => decodeRaise_reads h)
    (rfl : blockTokens ⟨8, 8⟩ methodBlocks = some ([], methodBlocks))
  have all := method_reads "decode" "text" [.name "str"]
    (referenceKinds (dotPieces (enumName conversion.target))) hblocks head description
    (lower.append branches)
  rw [decodeLines, decodeBranches_eq]
  simp only [List.append_assoc]
  exact all

/-! ### The methods for whole JSON documents -/

/-- The tokens of the statements that write a document. -/
def dumpsKinds : List TokenKind :=
  describeKinds "Serialize an enum member to a JSON document." ++
  [.keyword .returnK, .name "json", .symbol .dot, .name "dumps", .symbol .leftParen, .name "cls",
    .symbol .dot, .name "encode", .symbol .leftParen, .name "value", .symbol .rightParen,
    .symbol .rightParen, .newline]

/-- The tokens of the condition under which a document holds no text. -/
def loadsTestKinds : List TokenKind :=
  [.keyword .notK, .name "isinstance", .symbol .leftParen, .name "text", .symbol .comma, .name "str",
    .symbol .rightParen]

/-- The tokens of the statements that read a document. -/
def loadsKinds : List TokenKind :=
  describeKinds "Deserialize a JSON document holding one string." ++
  ([.name "text", .symbol .assign, .name "json", .symbol .dot, .name "loads", .symbol .leftParen,
    .name "data", .symbol .rightParen, .newline] ++
  (branchKinds loadsTestKinds (raiseKinds "ValueError" ["cls.PROPERTY_NAME", "type(text).__name__"]) ++
  [.keyword .returnK, .name "cls", .symbol .dot, .name "decode", .symbol .leftParen, .name "text",
    .symbol .rightParen, .newline]))

/-- The tokens of the condition that asks for a member of the enum. -/
def defaultTestKinds (enum : String) : List TokenKind :=
  .name "isinstance" :: .symbol .leftParen :: .name "obj" :: .symbol .comma ::
    (referenceKinds (dotPieces enum) ++ [.symbol .rightParen])

/-- The tokens of the statements of the hook. -/
def defaultKinds (enum : String) : List TokenKind :=
  describeKinds "Hook for ``json.dumps(..., default=...)``." ++
  (branchKinds (defaultTestKinds enum)
    [.keyword .returnK, .name "cls", .symbol .dot, .name "encode", .symbol .leftParen, .name "obj",
      .symbol .rightParen, .newline] ++
  raiseKinds "TypeError" ["type(obj).__name__"])

variable {enum : String} {blocks : List Columns} {lead : List TokenKind}

theorem dumps_reads (named : IsReference enum)
    (hblocks : blockTokens ⟨4, 4⟩ blocks = some (lead, classBlocks)) :
    LinesRead (between blocks)
      ["    @classmethod",
        "    def dumps(cls, value: " ++ enum ++ ") -> str:",
        "        \"\"\"Serialize an enum member to a JSON document.\"\"\"",
        "        return json.dumps(cls.encode(value))"]
      (lead ++ openMethodKinds "dumps" "value" (referenceKinds (dotPieces enum)) [.name "str"]
        dumpsKinds) (between methodBlocks) := by
  have head : LineReads 4 [] ("    def dumps(cls, value: " ++ enum ++ ") -> str:")
      ([TokenKind.keyword .defK, .name "dumps", .symbol .leftParen, .name "cls", .symbol .comma,
        .name "value", .symbol .colon] ++ (referenceKinds (dotPieces enum) ++
          [TokenKind.symbol .rightParen, .symbol .arrow, .name "str", .symbol .colon,
            .newline])) [] :=
    .reference (c := 'd') rfl rfl _ [.leftParen] 7 (by decide) (fun _ _ _ => rfl) named rfl
      (by decide) 5 (by decide) fun _ _ _ => rfl
  have description : LineReads 8 []
      "        \"\"\"Serialize an enum member to a JSON document.\"\"\""
      (describeKinds "Serialize an enum member to a JSON document.") [] :=
    .fixed (toList_literal rfl) ⟨rfl, rfl⟩ 2 (by decide) fun _ _ _ => rfl
  have body : LineReads 8 [] "        return json.dumps(cls.encode(value))"
      [.keyword .returnK, .name "json", .symbol .dot, .name "dumps", .symbol .leftParen, .name "cls",
        .symbol .dot, .name "encode", .symbol .leftParen, .name "value", .symbol .rightParen,
        .symbol .rightParen, .newline] [] :=
    .fixed (toList_literal rfl) ⟨rfl, rfl⟩ 13 (by decide) fun _ _ _ => rfl
  exact method_reads "dumps" "value" (referenceKinds (dotPieces enum)) [.name "str"] hblocks head
    description (.within body)

set_option maxRecDepth 1000 in
theorem loads_reads (named : IsReference enum)
    (hblocks : blockTokens ⟨4, 4⟩ blocks = some (lead, classBlocks)) :
    LinesRead (between blocks)
      ["    @classmethod",
        "    def loads(cls, data: str | bytes) -> " ++ enum ++ ":",
        "        \"\"\"Deserialize a JSON document holding one string.\"\"\"",
        "        text = json.loads(data)",
        "        if not isinstance(text, str):",
        "            raise ValueError(f\"Expected a JSON string for " ++ braced "cls.PROPERTY_NAME" ++
          ", got " ++ braced "type(text).__name__" ++ ".\")",
        "        return cls.decode(text)"]
      (lead ++ openMethodKinds "loads" "data"
        [.name "str", .symbol (.operator .bitOr), .name "bytes"]
        (referenceKinds (dotPieces enum)) loadsKinds) (between methodBlocks) := by
  have head : LineReads 4 [] ("    def loads(cls, data: str | bytes) -> " ++ enum ++ ":")
      ([TokenKind.keyword .defK, .name "loads", .symbol .leftParen, .name "cls", .symbol .comma,
        .name "data", .symbol .colon, .name "str", .symbol (.operator .bitOr), .name "bytes",
        .symbol .rightParen, .symbol .arrow] ++
          (referenceKinds (dotPieces enum) ++ [TokenKind.symbol .colon, .newline])) [] :=
    .reference (c := 'd') rfl rfl _ [] 12 (by decide) (fun _ _ _ => rfl) named rfl
      (by decide) 2 (by decide) fun _ _ _ => rfl
  have description : LineReads 8 []
      "        \"\"\"Deserialize a JSON document holding one string.\"\"\""
      (describeKinds "Deserialize a JSON document holding one string.") [] :=
    .fixed (toList_literal rfl) ⟨rfl, rfl⟩ 2 (by decide) fun _ _ _ => rfl
  have read : LineReads 8 [] "        text = json.loads(data)"
      [.name "text", .symbol .assign, .name "json", .symbol .dot, .name "loads", .symbol .leftParen,
        .name "data", .symbol .rightParen, .newline] [] :=
    .fixed (toList_literal rfl) ⟨rfl, rfl⟩ 9 (by decide) fun _ _ _ => rfl
  have test : LineReads 8 [] "        if not isinstance(text, str):"
      (.keyword .ifK :: (loadsTestKinds ++ [TokenKind.symbol .colon, .newline])) [] :=
    .fixed (toList_literal rfl) ⟨rfl, rfl⟩ 10 (by decide) fun _ _ _ => rfl
  have error : LineReads 12 [] ("            raise ValueError(f\"Expected a JSON string for " ++
      braced "cls.PROPERTY_NAME" ++ ", got " ++ braced "type(text).__name__" ++ ".\")")
      (raiseKinds "ValueError" ["cls.PROPERTY_NAME", "type(text).__name__"]) [] :=
    .fixed (toList_append (toList_append (toList_append (toList_append (toList_literal rfl)
      (toList_braced (toList_literal rfl))) (toList_literal rfl))
        (toList_braced (toList_literal rfl))) (toList_literal rfl)) ⟨rfl, rfl⟩ 6 (by decide)
      fun _ _ _ => rfl
  have last : LineReads 8 [] "        return cls.decode(text)"
      [.keyword .returnK, .name "cls", .symbol .dot, .name "decode", .symbol .leftParen,
        .name "text", .symbol .rightParen, .newline] [] :=
    .fixed (toList_literal rfl) ⟨rfl, rfl⟩ 8 (by decide) fun _ _ _ => rfl
  have branch := branches_read (fun _ (_ : _ ∈ [()]) => test) (fun _ _ => error)
    (fun _ _ h => .code last h) (rfl : blockTokens ⟨8, 8⟩ methodBlocks = some ([], methodBlocks))
  exact method_reads "loads" "data" [.name "str", .symbol (.operator .bitOr), .name "bytes"]
    (referenceKinds (dotPieces enum)) hblocks head description ((LinesRead.within read).cons branch)

theorem default_reads (named : IsReference enum)
    (hblocks : blockTokens ⟨4, 4⟩ blocks = some (lead, classBlocks)) :
    LinesRead (between blocks)
      ["    @classmethod",
        "    def default(cls, obj: Any) -> str:",
        "        \"\"\"Hook for ``json.dumps(..., default=...)``.\"\"\"",
        "        if isinstance(obj, " ++ enum ++ "):",
        "            return cls.encode(obj)",
        "        raise TypeError(f\"Object of type " ++ braced "type(obj).__name__" ++
          " is not JSON serializable\")"]
      (lead ++ openMethodKinds "default" "obj" [.name "Any"] [.name "str"] (defaultKinds enum))
      (between methodBlocks) := by
  have head : LineReads 4 [] "    def default(cls, obj: Any) -> str:"
      [.keyword .defK, .name "default", .symbol .leftParen, .name "cls", .symbol .comma,
        .name "obj", .symbol .colon, .name "Any", .symbol .rightParen, .symbol .arrow, .name "str",
        .symbol .colon, .newline] [] :=
    .fixed (toList_literal rfl) ⟨rfl, rfl⟩ 13 (by decide) fun _ _ _ => rfl
  have description : LineReads 8 []
      "        \"\"\"Hook for ``json.dumps(..., default=...)``.\"\"\""
      (describeKinds "Hook for ``json.dumps(..., default=...)``.") [] :=
    .fixed (toList_literal rfl) ⟨rfl, rfl⟩ 2 (by decide) fun _ _ _ => rfl
  have test : LineReads 8 [] ("        if isinstance(obj, " ++ enum ++ "):")
      ([TokenKind.keyword .ifK, .name "isinstance", .symbol .leftParen, .name "obj",
        .symbol .comma] ++ (referenceKinds (dotPieces enum) ++
          [TokenKind.symbol .rightParen, .symbol .colon, .newline])) [] :=
    .reference (c := 'i') rfl rfl _ [.leftParen] 5 (by decide) (fun _ _ _ => rfl) named rfl
      (by decide) 3 (by decide) fun _ _ _ => rfl
  have encoded : LineReads 12 [] "            return cls.encode(obj)"
      [.keyword .returnK, .name "cls", .symbol .dot, .name "encode", .symbol .leftParen, .name "obj",
        .symbol .rightParen, .newline] [] :=
    .fixed (toList_literal rfl) ⟨rfl, rfl⟩ 8 (by decide) fun _ _ _ => rfl
  have error : LineReads 8 [] ("        raise TypeError(f\"Object of type " ++
      braced "type(obj).__name__" ++ " is not JSON serializable\")")
      (raiseKinds "TypeError" ["type(obj).__name__"]) [] :=
    .fixed (toList_append (toList_append (toList_literal rfl) (toList_braced (toList_literal rfl)))
      (toList_literal rfl)) ⟨rfl, rfl⟩ 6 (by decide) fun _ _ _ => rfl
  have opened : blockTokens ⟨12, 12⟩ methodBlocks = some ([.indent], ⟨12, 12⟩ :: methodBlocks) := rfl
  have closed : blockTokens ⟨8, 8⟩ (⟨12, 12⟩ :: methodBlocks) = some ([.dedent], methodBlocks) := rfl
  have body := (LinesRead.within test).cons
    ((LinesRead.code encoded opened).cons (.code error closed))
  have all := method_reads "default" "obj" [.name "Any"] [.name "str"] hblocks head description body
  simpa [defaultKinds, branchKinds, defaultTestKinds] using all

/-! ### The whole text -/

/-- The tokens of the methods for whole documents. -/
def helperKinds (enum : String) : List TokenKind :=
  methodKinds "dumps" "value" (referenceKinds (dotPieces enum)) [.name "str"] dumpsKinds ++
  (methodKinds "loads" "data" [.name "str", .symbol (.operator .bitOr), .name "bytes"]
    (referenceKinds (dotPieces enum)) loadsKinds ++
  methodKinds "default" "obj" [.name "Any"] [.name "str"] (defaultKinds enum))

/-- The tokens of the statements in the class. -/
def bodyKinds (layout : Layout) (conversion : Conversion) : List TokenKind :=
  let enum := referenceKinds (dotPieces (enumName conversion.target))
  valueKinds conversion ++
  (methodKinds "encode" "value" enum [.name "str"] (encodeKinds conversion) ++
  (methodKinds "decode" "text" [.name "str"] enum (decodeKinds conversion) ++
  (if layout.jsonHelpers then helperKinds (enumName conversion.target) else [])))

/-- The tokens of a converter. -/
def moduleKinds (layout : Layout) (conversion : Conversion) : List TokenKind :=
  headKinds layout conversion.target ++
  (exportKinds conversion.target ++
  (.keyword .classK :: nameKind conversion.target.converterName :: .symbol .colon :: .newline ::
    .indent :: (bodyKinds layout conversion ++ [.dedent])))

theorem helpers_read {enum : String} (named : IsReference enum) :
    ∃ kinds, kinds ++ [.dedent] = .dedent :: helperKinds enum ∧
      LinesRead (between methodBlocks) (helperLines enum) kinds (between methodBlocks) := by
  have closed : blockTokens ⟨4, 4⟩ methodBlocks = some ([.dedent], classBlocks) := rfl
  have all := (dumps_reads named closed).afterBlank.append
    ((loads_reads named closed).afterBlank.append (default_reads named closed).afterBlank)
  refine ⟨_, ?_, all⟩
  simp only [helperKinds, ← openMethodKinds_append_dedent]
  simp

/-- The methods, one after the other. -/
theorem methods_read {conversion : Conversion} (names : conversion.IsWellNamed)
    (labels : conversion.HasEscapedLabels) (python : conversion.HasPythonNames) (helpers : Bool) :
    ∃ kinds, kinds ++ [.dedent] =
        methodKinds "encode" "value" (referenceKinds (dotPieces (enumName conversion.target)))
          [.name "str"] (encodeKinds conversion) ++
        (methodKinds "decode" "text" [.name "str"]
          (referenceKinds (dotPieces (enumName conversion.target))) (decodeKinds conversion) ++
        (if helpers then helperKinds (enumName conversion.target) else [])) ∧
      LinesRead (between classBlocks)
        (encodeLines conversion ++ ("" :: (decodeLines conversion ++
          (if helpers then helperLines (enumName conversion.target) else []))))
        kinds (between methodBlocks) := by
  have texts : ∀ member ∈ conversion.visibleMembers, IsLiteral member.text :=
    fun member hm => (isLiteral_visible names labels hm).1
  have bodies : ∀ member ∈ conversion.visibleMembers,
      IsLiteral (decodedBody conversion.options member) := by
    intro member hm
    unfold decodedBody
    split
    · exact texts member hm
    · exact (isLiteral_visible names labels hm).2
  have closed : blockTokens ⟨4, 4⟩ methodBlocks = some ([.dedent], classBlocks) := rfl
  have decoding := decode_reads python bodies closed
  obtain ⟨kinds, shape, last⟩ : ∃ kinds, kinds ++ [.dedent] =
        .dedent :: (if helpers then helperKinds (enumName conversion.target) else []) ∧
      LinesRead (between methodBlocks)
        (if helpers then helperLines (enumName conversion.target) else []) kinds
        (between methodBlocks) := by
    split
    · exact helpers_read python.enumName
    · exact ⟨[], rfl, .nil⟩
  refine ⟨_, ?_, (encode_reads python texts).append ((decoding.append last).afterBlank)⟩
  simp only [← openMethodKinds_append_dedent, List.append_assoc, shape]
  simp

/-- **The lines of a converter are read as its tokens**, but for the ends of the two blocks that are
open at the end of the text. -/
theorem lines_read {layout : Layout} {conversion : Conversion} (whole : layout.IsUnbroken .python)
    (names : conversion.IsWellNamed) (labels : conversion.HasEscapedLabels)
    (python : conversion.HasPythonNames) :
    ∃ kinds, kinds ++ [.dedent, .dedent] = moduleKinds layout conversion ∧
      LinesRead (between []) (lines layout conversion) kinds (between methodBlocks) := by
  have texts : ∀ member ∈ conversion.visibleMembers, IsLiteral member.text :=
    fun member hm => (isLiteral_visible names labels hm).1
  obtain ⟨kinds, shape, methods⟩ := methods_read names labels python layout.jsonHelpers
  have head := head_reads whole names python python.enumName.firstPiece
  have exported := LinesRead.top (export_reads names.converterName.plain)
  have values := values_read names python texts
  have all := head.append (exported.cons (values.append methods.afterBlank).afterBlank.afterBlank)
  refine ⟨_, ?_, by simpa [lines] using all⟩
  simp only [moduleKinds, bodyKinds, List.append_assoc, ← shape]
  simp

/-- A converter holds no line end but line feeds, and no character that makes it unreadable. -/
theorem mem_text {layout : Layout} {conversion : Conversion} (whole : layout.IsUnbroken .python)
    (names : conversion.IsWellNamed) (labels : conversion.HasEscapedLabels) {c : Char}
    (h : c ∈ (text layout conversion).toList) : c = '\n' ∨ Text.breaksLiteral c = false := by
  refine (mem_toList_textOfLines h).imp_right ?_
  rintro ⟨line, hl, hc⟩
  exact Reading.isUnbroken_iff.1 (lines_isUnbroken whole names labels line hl) c hc

/-- **The tokens of a converter.** -/
theorem tokens?_text {layout : Layout} {conversion : Conversion} (whole : layout.IsUnbroken .python)
    (names : conversion.IsWellNamed) (labels : conversion.HasEscapedLabels)
    (python : conversion.HasPythonNames) :
    ∃ tokens, tokens? (Text.unifyNewlines (text layout conversion).toList) = some tokens ∧
      tokens.map Token.kind = moduleKinds layout conversion ++ [.endOfSource] := by
  obtain ⟨kinds, shape, reads⟩ := lines_read whole names labels python
  have unified : '\r' ∉ (text layout conversion).toList := fun h =>
    (mem_text whole names labels h).elim (by decide) (by decide)
  have ended : (text layout conversion).toList.getLast? = some '\n' :=
    getLast?_toList_textOfLines (by simp [lines])
  have all := reads []
  rw [List.append_nil] at all
  rw [unifyNewlines_eq unified, ← shape]
  exact tokens?_of_reads ended all

end EnumCodec.PythonConverter
