import EnumCodec.Proofs.Converter.PythonMethodTokens

/-!
# EnumCodec.Proofs.Converter.PythonTree

**The syntax of a converter in Python.** The tokens of a converter are those of a module: some imports,
what the module exports, and a class with its texts and its methods. So every converter whose names are
names in Python is a module that can be read, and its statements are known.
-/

namespace EnumCodec.PythonConverter

open Source
open Text (dotPieces firstPiece)

/-! ### The statements -/

/-- The lines that the statements of a converter note. -/
structure NotedLines where
  exported : Nat
  converter : Nat
  propertyName : Nat
  values : Nat
  lowered : Nat
  loaded : Nat

/-- A text that stands alone. -/
def describeStmt (text : String) : Stmt :=
  .expression (textExpr text)

/-- The import of the enum. -/
def importStmt (target : Target) : Stmt :=
  .importFrom (some (Text.joinDots ((dotPieces target.enumModule).map nameOf)))
    [⟨nameOf (firstPiece (enumName target)), none⟩] 0

/-- The list of what the module exports. -/
def exportStmt (line : Nat) (target : Target) : Stmt :=
  if target.enumIsPublic then
    .assign line [.name "__all__"] (.list [textExpr (literalText target.converterName)])
  else
    .annotated line (.name "__all__") (.subscript (.name "list") (.name "str")) (some (.list []))

/-- The texts of the class. -/
def valueStmts (propertyName values : Nat) (conversion : Conversion) : List Stmt :=
  [describeStmt ("Converts " ++ enumName conversion.target ++
      " members to and from their JSON strings."),
    .assign propertyName [.name "PROPERTY_NAME"]
      (textExpr (literalText conversion.diagnosticName)),
    .annotated values (.name "VALUES")
      (.subscript (.name "tuple") (.tuple [.name "str", .constant .ellipsis]))
      (some (.tuple ((conversion.visibleMembers.map fun member => literalText member.text).map
        textExpr)))]

/-- The statement that raises an error with a message. -/
def raiseStmt (error : String) (fields : List Expr) : Stmt :=
  .raises (some (.call (.name error) [.formatted fields] [])) none

/-- The branch that encodes a member. -/
def encodeStmt (conversion : Conversion) (member : VisibleMember) : Stmt :=
  .conditional (.compare (.name "value") [(.identical, reference (memberName conversion member))])
    [.returns (some (textExpr (literalText member.text)))] []

/-- The name for messages about texts, as an expression. -/
def propertyExpr : Expr :=
  .attribute (.name "cls") "PROPERTY_NAME"

/-- The statements of the method that encodes members. -/
def encodeStmts (conversion : Conversion) : List Stmt :=
  describeStmt "Return the JSON string of an enum member." ::
    (conversion.visibleMembers.map (encodeStmt conversion) ++
      [raiseStmt "ValueError" [.name "value", propertyExpr]])

/-- The branch that decodes a text. -/
def decodeStmt (conversion : Conversion) (member : VisibleMember) : Stmt :=
  .conditional (.compare (.name (decodedName conversion.options))
      [(.equal, textExpr (literalText (decodedBody conversion.options member)))])
    [.returns (some (reference (memberName conversion member)))] []

/-- The statements of the method that decodes texts. -/
def decodeStmts (line : Nat) (conversion : Conversion) : List Stmt :=
  describeStmt "Return the enum member whose JSON string is text." ::
    ((if conversion.options.caseSensitive then []
      else [.assign line [.name "key"] (.call (.attribute (.name "text") "lower") [] [])]) ++
    (conversion.visibleMembers.map (decodeStmt conversion) ++
      [raiseStmt "ValueError" [.name "text", propertyExpr,
        .call (.attribute (.constant (.text ", ")) "join") [.attribute (.name "cls") "VALUES"] []]]))

/-- The statements of the method that writes a document. -/
def dumpsStmts : List Stmt :=
  [describeStmt "Serialize an enum member to a JSON document.",
    .returns (some (.call (.attribute (.name "json") "dumps")
      [.call (.attribute (.name "cls") "encode") [.name "value"] []] []))]

/-- The name of the type of a value, as an expression. -/
def typeNameExpr (id : String) : Expr :=
  .attribute (.call (.name "type") [.name id] []) "__name__"

/-- The statements of the method that reads a document. -/
def loadsStmts (line : Nat) : List Stmt :=
  [describeStmt "Deserialize a JSON document holding one string.",
    .assign line [.name "text"] (.call (.attribute (.name "json") "loads") [.name "data"] []),
    .conditional (.unary .not (.call (.name "isinstance") [.name "text", .name "str"] []))
      [raiseStmt "ValueError" [propertyExpr, typeNameExpr "text"]] [],
    .returns (some (.call (.attribute (.name "cls") "decode") [.name "text"] []))]

/-- The statements of the hook. -/
def defaultStmts (enum : String) : List Stmt :=
  [describeStmt "Hook for ``json.dumps(..., default=...)``.",
    .conditional (.call (.name "isinstance") [.name "obj", reference enum] [])
      [.returns (some (.call (.attribute (.name "cls") "encode") [.name "obj"] []))] [],
    raiseStmt "TypeError" [typeNameExpr "obj"]]

/-- The methods for whole documents. -/
def helperStmts (line : Nat) (layout : Layout) (enum : String) : List Stmt :=
  if layout.jsonHelpers then
    [classMethod "dumps" "value" (reference enum) (.name "str") dumpsStmts,
      classMethod "loads" "data" (.binary (.name "str") .bitOr (.name "bytes")) (reference enum)
        (loadsStmts line),
      classMethod "default" "obj" (.name "Any") (.name "str") (defaultStmts enum)]
  else []

/-- The methods of the class. -/
def methodStmts (lowered loaded : Nat) (layout : Layout) (conversion : Conversion) : List Stmt :=
  let enum := enumName conversion.target
  classMethod "encode" "value" (reference enum) (.name "str") (encodeStmts conversion) ::
    classMethod "decode" "text" (.name "str") (reference enum)
      (decodeStmts lowered conversion) ::
    helperStmts loaded layout enum

/-- The import of what the helpers need. -/
def helperImportStmts : List Stmt :=
  [.importModules [⟨"json", none⟩], .importFrom (some "typing") [⟨"Any", none⟩] 0]

/-- The class with its texts and its methods. -/
def classStmt (lines : NotedLines) (layout : Layout) (conversion : Conversion) : Stmt :=
  .classDef lines.converter (nameOf conversion.target.converterName) [] [] []
    (valueStmts lines.propertyName lines.values conversion ++
      methodStmts lines.lowered lines.loaded layout conversion)

/-- The statements of a converter. -/
def tree (lines : NotedLines) (layout : Layout) (conversion : Conversion) : Module :=
  [describeStmt ("JSON converter for " ++ conversion.target.enumFullName ++ "."),
    .importFrom (some "__future__") [⟨"annotations", none⟩] 0] ++
  ((if layout.jsonHelpers then helperImportStmts else []) ++
  ((if conversion.target.enumModule = "" then [] else [importStmt conversion.target]) ++
  [exportStmt lines.exported conversion.target, classStmt lines layout conversion]))

/-! ### Errors -/

section

variable (depth : Nat) (more : List TokenKind)

theorem value_field : fieldExpr (rulesTo (depth + 20)) "value".toList = some (.name "value") :=
  fieldExpr_eq [.name "value"] (by decide +kernel) rfl

theorem text_field : fieldExpr (rulesTo (depth + 20)) "text".toList = some (.name "text") :=
  fieldExpr_eq [.name "text"] (by decide +kernel) rfl

theorem property_field :
    fieldExpr (rulesTo (depth + 20)) "cls.PROPERTY_NAME".toList = some propertyExpr :=
  fieldExpr_eq [.name "cls", .symbol .dot, .name "PROPERTY_NAME"] (by decide +kernel) rfl

set_option maxRecDepth 2000 in
theorem values_field :
    fieldExpr (rulesTo (depth + 20)) "\", \".join(cls.VALUES)".toList =
      some (.call (.attribute (.constant (.text ", ")) "join") [.attribute (.name "cls") "VALUES"] []) :=
  fieldExpr_eq [.string (.text ", "), .symbol .dot, .name "join", .symbol .leftParen, .name "cls",
    .symbol .dot, .name "VALUES", .symbol .rightParen] (by decide +kernel) rfl

set_option maxRecDepth 2000 in
theorem textType_field :
    fieldExpr (rulesTo (depth + 20)) "type(text).__name__".toList = some (typeNameExpr "text") :=
  fieldExpr_eq [.name "type", .symbol .leftParen, .name "text", .symbol .rightParen, .symbol .dot,
    .name "__name__"] (by decide +kernel) rfl

set_option maxRecDepth 2000 in
theorem objectType_field :
    fieldExpr (rulesTo (depth + 20)) "type(obj).__name__".toList = some (typeNameExpr "obj") :=
  fieldExpr_eq [.name "type", .symbol .leftParen, .name "obj", .symbol .rightParen, .symbol .dot,
    .name "__name__"] (by decide +kernel) rfl

/-- A statement that raises an error with a message of one literal. -/
theorem raise_takes {fields : List String} {values : List Expr} (error : String)
    (h : FieldsRead (rulesTo (depth + 20)) fields values) :
    Takes (statement (rulesTo (depth + 24))) (raiseKinds error fields) more
      (· = [raiseStmt error values]) := by
  have joined := joinLiterals_formatted (.cons h .nil) (List.cons_ne_nil _ _)
  rw [List.flatten_cons, List.flatten_nil, List.append_nil] at joined
  exact Takes.raises error joined more

theorem decodeRaise_takes :
    Takes (statement (rulesTo (depth + 24))) decodeRaiseKinds more
      (· = [raiseStmt "ValueError" [.name "text", propertyExpr,
        .call (.attribute (.constant (.text ", ")) "join") [.attribute (.name "cls") "VALUES"] []]]) :=
  have first : FieldsRead (rulesTo (depth + 20)) ["text", "cls.PROPERTY_NAME"]
      [.name "text", propertyExpr] :=
    .cons (text_field depth) (.cons (property_field depth) .nil)
  have second : FieldsRead (rulesTo (depth + 20)) ["\", \".join(cls.VALUES)"]
      [.call (.attribute (.constant (.text ", ")) "join") [.attribute (.name "cls") "VALUES"] []] :=
    .cons (values_field depth) .nil
  Takes.raises "ValueError"
    (joinLiterals_formatted (.cons first (.cons second .nil)) (List.cons_ne_nil _ _)) more

end

/-! ### Simple statements -/

section

variable (depth : Nat) (more : List TokenKind)

theorem describe_takes (text : String) :
    Takes (statement (rulesTo (depth + 4))) (describeKinds text) more (· = [describeStmt text]) :=
  fun lines start => ⟨_, start + 2, rfl, by simp [describeStmt, textExpr, tupleUnlessSingle]⟩

theorem export_takes (target : Target) :
    Takes (statement (rulesTo (depth + 7))) (exportKinds target) more
      fun body => ∃ line, body = [exportStmt line target] := by
  unfold exportKinds exportStmt
  split
  · exact fun lines start => ⟨_, start + 6, rfl, lines start, by
      simp [textExpr, tupleUnlessSingle, numbered]⟩
  · exact fun lines start => ⟨_, start + 10, rfl, lines start, rfl⟩

theorem property_takes (conversion : Conversion) :
    Takes (statement (rulesTo (depth + 7)))
      [.name "PROPERTY_NAME", .symbol .assign,
        .string (.text (literalText conversion.diagnosticName)), .newline] more
      fun body => ∃ line, body = [.assign line [.name "PROPERTY_NAME"]
        (textExpr (literalText conversion.diagnosticName))] :=
  fun lines start => ⟨_, start + 4, rfl, lines start, by
    simp [textExpr, tupleUnlessSingle, numbered]⟩

theorem lower_takes :
    Takes (statement (rulesTo (depth + 7))) lowerKinds more
      fun body => ∃ line, body = [.assign line [.name "key"]
        (.call (.attribute (.name "text") "lower") [] [])] :=
  fun lines start => ⟨_, start + 8, rfl, lines start, rfl⟩

theorem values_takes (texts : List String) :
    Takes (statement (rulesTo (depth + 10)))
      (.name "VALUES" :: .symbol .colon :: .name "tuple" :: .symbol .leftBracket :: .name "str" ::
        .symbol .comma :: .symbol .ellipsis :: .symbol .rightBracket :: .symbol .assign ::
        .symbol .leftParen :: (textKinds texts ++ [.symbol .rightParen, .newline])) more
      fun body => ∃ line, body = [.annotated line (.name "VALUES")
        (.subscript (.name "tuple") (.tuple [.name "str", .constant .ellipsis]))
        (some (.tuple (texts.map textExpr)))] := by
  have tuple : Takes (rulesTo (depth + 10) .expressions)
      (.symbol .leftParen :: (textKinds texts ++ [.symbol .rightParen])) (.newline :: more)
      (· = .tuple (texts.map textExpr)) := Takes.textTuple_expressions texts
  have simple : Takes (simpleStatement (rulesTo (depth + 10)))
      (.name "VALUES" :: .symbol .colon :: .name "tuple" :: .symbol .leftBracket :: .name "str" ::
        .symbol .comma :: .symbol .ellipsis :: .symbol .rightBracket :: .symbol .assign ::
        .symbol .leftParen :: (textKinds texts ++ [.symbol .rightParen])) (.newline :: more)
      fun statement => ∃ line, statement = .annotated line (.name "VALUES")
        (.subscript (.name "tuple") (.tuple [.name "str", .constant .ellipsis]))
        (some (.tuple (texts.map textExpr))) := by
    intro lines start
    obtain ⟨_, next, htuple, rfl⟩ := tuple lines (start + 9)
    refine ⟨_, next, ?_, lines start, rfl⟩
    simp only [List.cons_append, List.append_assoc, List.nil_append] at htuple ⊢
    have assigned : (do
          symbol .assign
          assignedValue (rulesTo (depth + 10)))
        (numbered lines (start + 8) (.symbol .assign :: .symbol .leftParen ::
          (textKinds texts ++ TokenKind.symbol .rightParen :: TokenKind.newline :: more))) =
        some (.tuple (texts.map textExpr), numbered lines next (.newline :: more)) :=
      (bind_of_some (a := ()) (r := numbered lines (start + 9) (.symbol .leftParen ::
        (textKinds texts ++ TokenKind.symbol .rightParen :: TokenKind.newline :: more))) rfl).trans
          ((bind_of_some (a := false) rfl).trans htuple)
    have value : possibly (do
          symbol .assign
          assignedValue (rulesTo (depth + 10)))
        (numbered lines (start + 8) (.symbol .assign :: .symbol .leftParen ::
          (textKinds texts ++ TokenKind.symbol .rightParen :: TokenKind.newline :: more))) =
        some (some (.tuple (texts.map textExpr)), numbered lines next (.newline :: more)) := by
      rw [possibly, assigned]
    rw [simpleStatement, bind_of_some (a := some (.name "VALUES")) rfl]
    change expressionStatement (rulesTo (depth + 10)) _ = _
    rw [expressionStatement, bind_of_some (a := lines start) rfl,
      bind_of_some (a := .name "VALUES") (r := numbered lines (start + 1) _) rfl,
      bind_of_some (a := some (.symbol .colon)) rfl]
    change (require true >>= _) _ = _
    rw [bind_of_some (a := ()) rfl, bind_of_some (r := numbered lines (start + 2) _) rfl,
      bind_of_some (a := .subscript (.name "tuple") (.tuple [.name "str", .constant .ellipsis]))
        (r := numbered lines (start + 8) _) rfl, bind_of_some value]
    rfl
  intro lines start
  obtain ⟨_, next, hbody, _, rfl, line, rfl⟩ := Takes.simpleStatements simple lines start
  refine ⟨_, next, ?_, line, rfl⟩
  rw [statement, bind_of_some (a := some (.name "VALUES")) rfl]
  simpa only [List.cons_append, List.append_assoc, List.nil_append] using hbody

end

/-! ### Methods -/

section

variable (depth : Nat) (conversion : Conversion) (more : List TokenKind)

theorem returnText_takes (text : String) :
    Takes (rulesTo (depth + 7) .statements) (returnTextKinds text) (.dedent :: more)
      (· = [.returns (some (textExpr (literalText text)))]) :=
  fun lines start => ⟨_, start + 3, rfl, by simp [textExpr, tupleUnlessSingle]⟩

theorem returnReference_takes (name : String) :
    Takes (rulesTo (depth + 7) .statements) (returnReferenceKinds name) (.dedent :: more)
      (· = [.returns (some (reference name))]) := by
  obtain ⟨word, words, pieces⟩ := dotPieces_eq_cons name
  have value : Takes (rulesTo (depth + 5) .expression) (referenceKinds (dotPieces name))
      (.newline :: .dedent :: more) (· = reference name) := Takes.reference_expression name rfl
  rw [returnReferenceKinds]
  rw [pieces] at value ⊢
  exact TakesBody.only (Takes.returns value (beginsPrimary_nameKind word))

theorem encodeTest_takes (member : VisibleMember) :
    Takes (namedExpression (rulesTo (depth + 2))) (encodeTestKinds conversion member)
      (.symbol .colon :: more)
      (· = .compare (.name "value") [(.identical, reference (memberName conversion member))]) :=
  Takes.namedExpression (Takes.identical "value" _ rfl) rfl (by simp) rfl

theorem decodeTest_takes (member : VisibleMember) :
    Takes (namedExpression (rulesTo (depth + 4))) (decodeTestKinds conversion.options member)
      (.symbol .colon :: more)
      (· = .compare (.name (decodedName conversion.options))
        [(.equal, textExpr (literalText (decodedBody conversion.options member)))]) :=
  fun lines start => ⟨_, start + 3, rfl, by simp [textExpr]⟩

/-- **The method that encodes members.** -/
theorem encode_takes :
    Takes (rulesTo (depth + 27) .statements) (encodeKinds conversion) (.dedent :: more)
      (· = encodeStmts conversion) := by
  have error : TakesBody (rulesTo (depth + 26))
      (raiseKinds "ValueError" ["value", "cls.PROPERTY_NAME"]) (.dedent :: more)
      (· = [raiseStmt "ValueError" [.name "value", propertyExpr]]) :=
    .last (raise_takes (depth + 2) _ "ValueError"
      (.cons (value_field _) (.cons (property_field _) .nil))) (by simp [raiseKinds])
  have branches := TakesBody.branches conversion.visibleMembers (encodeTestKinds conversion)
    (fun member => returnTextKinds member.text)
    (fun member => .compare (.name "value") [(.identical, reference (memberName conversion member))])
    (fun member => [.returns (some (textExpr (literalText member.text)))])
    (fun member _ more => encodeTest_takes (depth + 24) conversion more member)
    (fun member _ more => returnText_takes (depth + 19) more member.text)
    ⟨.keyword .raiseK, _, rfl, by decide, by decide⟩ error
  have block := TakesBody.statements
    (describe_takes (depth + 22) _ "Return the JSON string of an enum member.") branches
  refine block.mono ?_
  rintro _ ⟨_, _, rfl, rfl, _, rfl, rfl⟩
  rfl

/-- The branches that decode texts, and what stands before and behind them. -/
theorem decodeBranches_take :
    TakesBody (rulesTo (depth + 26))
      ((if conversion.options.caseSensitive then [] else lowerKinds) ++
        (conversion.visibleMembers.flatMap (fun member =>
          branchKinds (decodeTestKinds conversion.options member)
            (returnReferenceKinds (memberName conversion member))) ++ decodeRaiseKinds))
      (.dedent :: more)
      fun body => ∃ line,
        describeStmt "Return the enum member whose JSON string is text." :: body =
          decodeStmts line conversion := by
  have error : TakesBody (rulesTo (depth + 26)) decodeRaiseKinds (.dedent :: more)
      (· = [raiseStmt "ValueError" [.name "text", propertyExpr,
        .call (.attribute (.constant (.text ", ")) "join") [.attribute (.name "cls") "VALUES"] []]]) :=
    .last (decodeRaise_takes (depth + 2) _) (by simp [decodeRaiseKinds])
  have branches := TakesBody.branches conversion.visibleMembers (decodeTestKinds conversion.options)
    (fun member => returnReferenceKinds (memberName conversion member))
    (fun member => .compare (.name (decodedName conversion.options))
      [(.equal, textExpr (literalText (decodedBody conversion.options member)))])
    (fun member => [.returns (some (reference (memberName conversion member)))])
    (fun member _ more => decodeTest_takes (depth + 22) conversion more member)
    (fun member _ more => returnReference_takes (depth + 19) more _)
    ⟨.keyword .raiseK, _, rfl, by decide, by decide⟩ error
  unfold decodeStmts
  split
  · refine branches.mono ?_
    rintro _ ⟨_, rfl, rfl⟩
    exact ⟨0, rfl⟩
  · have lowered := TakesBody.cons (lower_takes (depth + 19) _) (by simp [lowerKinds]) branches
    refine lowered.mono ?_
    rintro _ ⟨_, _, rfl, ⟨line, rfl⟩, _, rfl, rfl⟩
    exact ⟨line, rfl⟩

/-- **The method that decodes texts.** -/
theorem decode_takes :
    Takes (rulesTo (depth + 27) .statements) (decodeKinds conversion) (.dedent :: more)
      fun body => ∃ line, body = decodeStmts line conversion := by
  have block := TakesBody.statements
    (describe_takes (depth + 22) _ "Return the enum member whose JSON string is text.")
    (decodeBranches_take depth conversion more)
  refine block.mono ?_
  rintro _ ⟨_, _, rfl, rfl, line, described⟩
  exact ⟨line, described⟩

set_option maxRecDepth 2000 in
theorem dumps_takes :
    Takes (rulesTo (depth + 27) .statements) dumpsKinds (.dedent :: more) (· = dumpsStmts) := by
  have returned : Takes (statement (rulesTo (depth + 26)))
      [.keyword .returnK, .name "json", .symbol .dot, .name "dumps", .symbol .leftParen, .name "cls",
        .symbol .dot, .name "encode", .symbol .leftParen, .name "value", .symbol .rightParen,
        .symbol .rightParen, .newline] (.dedent :: more)
      (· = [.returns (some (.call (.attribute (.name "json") "dumps")
        [.call (.attribute (.name "cls") "encode") [.name "value"] []] []))]) :=
    fun _ start => ⟨_, start + 13, rfl, rfl⟩
  have block := TakesBody.statements
    (describe_takes (depth + 22) _ "Serialize an enum member to a JSON document.")
    (.last returned (by simp))
  refine block.mono ?_
  rintro _ ⟨_, _, rfl, rfl, rfl⟩
  rfl

theorem loads_takes :
    Takes (rulesTo (depth + 27) .statements) loadsKinds (.dedent :: more)
      fun body => ∃ line, body = loadsStmts line := by
  have read (more : List TokenKind) : Takes (statement (rulesTo (depth + 26)))
      [.name "text", .symbol .assign, .name "json", .symbol .dot, .name "loads", .symbol .leftParen,
        .name "data", .symbol .rightParen, .newline] more
      fun body => ∃ line, body = [.assign line [.name "text"]
        (.call (.attribute (.name "json") "loads") [.name "data"] [])] :=
    fun lines start => ⟨_, start + 9, rfl, lines start, rfl⟩
  have test (more : List TokenKind) : Takes (namedExpression (rulesTo (depth + 26))) loadsTestKinds
      (.symbol .colon :: more)
      (· = .unary .not (.call (.name "isinstance") [.name "text", .name "str"] [])) :=
    fun _ start => ⟨_, start + 7, rfl, rfl⟩
  have error (more : List TokenKind) : Takes (rulesTo (depth + 26) .statements)
      (raiseKinds "ValueError" ["cls.PROPERTY_NAME", "type(text).__name__"]) (.dedent :: more)
      (· = [raiseStmt "ValueError" [propertyExpr, typeNameExpr "text"]]) :=
    TakesBody.only (raise_takes (depth + 1) _ "ValueError"
      (.cons (property_field _) (.cons (textType_field _) .nil)))
  have decoded : Takes (statement (rulesTo (depth + 26)))
      [.keyword .returnK, .name "cls", .symbol .dot, .name "decode", .symbol .leftParen,
        .name "text", .symbol .rightParen, .newline] (.dedent :: more)
      (· = [.returns (some (.call (.attribute (.name "cls") "decode") [.name "text"] []))]) :=
    fun _ start => ⟨_, start + 8, rfl, rfl⟩
  have branch := TakesBody.branch test error ⟨.keyword .returnK, _, rfl, by decide, by decide⟩
    (.last decoded (by simp))
  have block := TakesBody.statements
    (describe_takes (depth + 22) _ "Deserialize a JSON document holding one string.")
    (.cons (read _) (by simp) branch)
  refine block.mono ?_
  rintro _ ⟨_, _, rfl, rfl, _, _, rfl, ⟨line, rfl⟩, _, rfl, rfl⟩
  exact ⟨line, rfl⟩

theorem default_takes (enum : String) :
    Takes (rulesTo (depth + 27) .statements) (defaultKinds enum) (.dedent :: more)
      (· = defaultStmts enum) := by
  have test (more : List TokenKind) : Takes (namedExpression (rulesTo (depth + 26)))
      (defaultTestKinds enum) (.symbol .colon :: more)
      (· = .call (.name "isinstance") [.name "obj", reference enum] []) := by
    have call : Takes (rulesTo (depth + 26) .expression) (defaultTestKinds enum)
        (.symbol .colon :: more)
        (· = .call (.name "isinstance") [.name "obj", reference enum] []) :=
      Takes.call "isinstance" "obj" enum rfl
    exact Takes.namedExpression call rfl (by simp) rfl
  have encoded (more : List TokenKind) : Takes (statement (rulesTo (depth + 25)))
      [.keyword .returnK, .name "cls", .symbol .dot, .name "encode", .symbol .leftParen,
        .name "obj", .symbol .rightParen, .newline] (.dedent :: more)
      (· = [.returns (some (.call (.attribute (.name "cls") "encode") [.name "obj"] []))]) :=
    fun _ start => ⟨_, start + 8, rfl, rfl⟩
  have error : Takes (statement (rulesTo (depth + 26)))
      (raiseKinds "TypeError" ["type(obj).__name__"]) (.dedent :: more)
      (· = [raiseStmt "TypeError" [typeNameExpr "obj"]]) :=
    raise_takes (depth + 2) _ "TypeError" (.cons (objectType_field _) .nil)
  have branch := TakesBody.branch test (fun more => TakesBody.only (encoded more))
    ⟨.keyword .raiseK, _, rfl, by decide, by decide⟩ (.last error (by simp [raiseKinds]))
  have block := TakesBody.statements
    (describe_takes (depth + 22) _ "Hook for ``json.dumps(..., default=...)``.") branch
  refine block.mono ?_
  rintro _ ⟨_, _, rfl, rfl, _, rfl, rfl⟩
  rfl

/-- A name alone is taken as an expression. -/
theorem name_takes (id : String) {ending : TokenKind} (ends : endsOperand ending = true) :
    Takes (rulesTo (depth + 6) .expression) [.name id] (ending :: more) (· = .name id) := by
  rcases endsOperand_cases ends with rfl | rfl | rfl
  all_goals exact fun _ start => ⟨_, start + 1, rfl, rfl⟩

/-- The methods for whole documents. -/
theorem helpers_take (enum : String) :
    TakesBody (rulesTo (depth + 27)) (helperKinds enum) (.dedent :: more)
      fun body => ∃ line, body =
        [classMethod "dumps" "value" (reference enum) (.name "str") dumpsStmts,
          classMethod "loads" "data" (.binary (.name "str") .bitOr (.name "bytes")) (reference enum)
            (loadsStmts line),
          classMethod "default" "obj" (.name "Any") (.name "str") (defaultStmts enum)] := by
  have document (more : List TokenKind) : Takes (rulesTo (depth + 27) .expression)
      [.name "str", .symbol (.operator .bitOr), .name "bytes"] (.symbol .rightParen :: more)
      (· = .binary (.name "str") .bitOr (.name "bytes")) :=
    fun _ start => ⟨_, start + 3, rfl, rfl⟩
  have default : Takes (statement (rulesTo (depth + 27)))
      (methodKinds "default" "obj" [.name "Any"] [.name "str"] (defaultKinds enum)) (.dedent :: more) _ :=
    Takes.classMethod (name_takes (depth + 21) _ "Any" rfl) (name_takes (depth + 21) _ "str" rfl)
      (default_takes depth _ enum)
  have loads (more : List TokenKind) : Takes (statement (rulesTo (depth + 27)))
      (methodKinds "loads" "data" [.name "str", .symbol (.operator .bitOr), .name "bytes"]
        (referenceKinds (dotPieces enum)) loadsKinds) more _ :=
    Takes.classMethod (document _) (Takes.reference_expression enum rfl) (loads_takes depth _)
  have dumps (more : List TokenKind) : Takes (statement (rulesTo (depth + 27)))
      (methodKinds "dumps" "value" (referenceKinds (dotPieces enum)) [.name "str"] dumpsKinds) more _ :=
    Takes.classMethod (Takes.reference_expression enum rfl) (name_takes (depth + 21) _ "str" rfl)
      (dumps_takes depth _)
  have all := TakesBody.cons (dumps _) (by simp [methodKinds])
    (.cons (loads _) (by simp [methodKinds]) (.last default (by simp [methodKinds])))
  refine all.mono ?_
  rintro _ ⟨_, _, rfl, ⟨_, rfl, rfl⟩, _, _, rfl, ⟨_, rfl, line, rfl⟩, _, rfl, rfl⟩
  exact ⟨line, rfl⟩

/-- **The methods of the class.** -/
theorem methods_take (layout : Layout) :
    TakesBody (rulesTo (depth + 27))
      (methodKinds "encode" "value" (referenceKinds (dotPieces (enumName conversion.target)))
        [.name "str"] (encodeKinds conversion) ++
      (methodKinds "decode" "text" [.name "str"]
        (referenceKinds (dotPieces (enumName conversion.target))) (decodeKinds conversion) ++
      (if layout.jsonHelpers then helperKinds (enumName conversion.target) else [])))
      (.dedent :: more)
      fun body => ∃ lowered loaded, body = methodStmts lowered loaded layout conversion := by
  have encode (more : List TokenKind) : Takes (statement (rulesTo (depth + 27)))
      (methodKinds "encode" "value" (referenceKinds (dotPieces (enumName conversion.target)))
        [.name "str"] (encodeKinds conversion)) more _ :=
    Takes.classMethod (Takes.reference_expression _ rfl) (name_takes (depth + 21) _ "str" rfl)
      (encode_takes depth conversion _)
  have decode (more : List TokenKind) : Takes (statement (rulesTo (depth + 27)))
      (methodKinds "decode" "text" [.name "str"]
        (referenceKinds (dotPieces (enumName conversion.target))) (decodeKinds conversion)) more _ :=
    Takes.classMethod (name_takes (depth + 21) _ "str" rfl) (Takes.reference_expression _ rfl)
      (decode_takes depth conversion _)
  have helpers : TakesBody (rulesTo (depth + 27))
      (if layout.jsonHelpers then helperKinds (enumName conversion.target) else []) (.dedent :: more)
      fun body => ∃ line, body = helperStmts line layout (enumName conversion.target) := by
    unfold helperStmts
    split
    · exact helpers_take depth more _
    · exact (TakesBody.nil (TakesBody.statement_dedent (depth + 22) more)).mono fun _ h => ⟨0, h⟩
  have all := TakesBody.cons (encode _) (by simp [methodKinds])
    (.cons (decode _) (by simp [methodKinds]) helpers)
  refine all.mono ?_
  rintro _ ⟨_, _, rfl, ⟨_, rfl, rfl⟩, _, _, rfl, ⟨_, rfl, lowered, rfl⟩, loaded, rfl⟩
  exact ⟨lowered, loaded, rfl⟩

/-- **The statements of the class.** -/
theorem body_takes (layout : Layout) :
    Takes (rulesTo (depth + 28) .statements) (bodyKinds layout conversion) (.dedent :: more)
      fun body => ∃ propertyName values lowered loaded, body =
        valueStmts propertyName values conversion ++ methodStmts lowered loaded layout conversion := by
  have values := TakesBody.cons (values_takes (depth + 17) _
    (conversion.visibleMembers.map fun member => literalText member.text)) (by simp)
    (methods_take depth conversion more layout)
  have all := TakesBody.statements (describe_takes (depth + 23) _ ("Converts " ++
    enumName conversion.target ++ " members to and from their JSON strings."))
    (.cons (property_takes (depth + 20) _ conversion) (by simp) values)
  simp only [List.append_assoc, List.cons_append, List.nil_append] at all
  simp only [bodyKinds, valueKinds, List.append_assoc, List.cons_append, List.nil_append]
  refine all.mono ?_
  rintro _ ⟨_, _, rfl, rfl, _, _, rfl, ⟨propertyName, rfl⟩, _, _, rfl, ⟨values, rfl⟩, lowered, loaded,
    rfl⟩
  exact ⟨propertyName, values, lowered, loaded, rfl⟩

end

/-! ### The module -/

/-- The class, and what the module exports. -/
theorem class_takes (depth : Nat) (layout : Layout) (conversion : Conversion) :
    TakesBody (rulesTo (depth + 28))
      (exportKinds conversion.target ++
        (.keyword .classK :: nameKind conversion.target.converterName :: .symbol .colon :: .newline ::
          .indent :: (bodyKinds layout conversion ++ [.dedent]))) [.endOfSource]
      fun body => ∃ lines : NotedLines, body =
        [exportStmt lines.exported conversion.target, classStmt lines layout conversion] := by
  have converter : Takes (statement (rulesTo (depth + 28)))
      (.keyword .classK :: nameKind conversion.target.converterName :: .symbol .colon :: .newline ::
        .indent :: (bodyKinds layout conversion ++ [.dedent])) [.endOfSource] _ :=
    Takes.plainClass (body_takes depth conversion [.endOfSource] layout)
  have all := TakesBody.cons (export_takes (depth + 21) _ conversion.target) (by
    unfold exportKinds; split <;> simp) (.cons converter (by simp) (.nil fun _ _ => rfl))
  rw [List.append_nil] at all
  refine all.mono ?_
  rintro _ ⟨_, _, rfl, ⟨exported, rfl⟩, _, _, rfl, ⟨converter, _, rfl, propertyName, values, lowered,
    loaded, rfl⟩, rfl⟩
  exact ⟨⟨exported, converter, propertyName, values, lowered, loaded⟩, rfl⟩

/-- The statements of a converter behind its description. -/
theorem statements_take (depth : Nat) (layout : Layout) (conversion : Conversion) :
    TakesBody (rulesTo (depth + 28))
      ([.keyword .fromK, .name "__future__", .keyword .importK, .name "annotations", .newline] ++
      ((if layout.jsonHelpers then helperImportKinds else []) ++
      ((if conversion.target.enumModule = "" then [] else importKinds conversion.target) ++
      (exportKinds conversion.target ++
        (.keyword .classK :: nameKind conversion.target.converterName :: .symbol .colon :: .newline ::
          .indent :: (bodyKinds layout conversion ++ [.dedent])))))) [.endOfSource]
      fun body => ∃ lines, describeStmt ("JSON converter for " ++
        conversion.target.enumFullName ++ ".") :: body = tree lines layout conversion := by
  have imported : TakesBody (rulesTo (depth + 28))
      ((if conversion.target.enumModule = "" then [] else importKinds conversion.target) ++
      (exportKinds conversion.target ++
        (.keyword .classK :: nameKind conversion.target.converterName :: .symbol .colon :: .newline ::
          .indent :: (bodyKinds layout conversion ++ [.dedent])))) [.endOfSource]
      fun body => ∃ lines : NotedLines, body =
        (if conversion.target.enumModule = "" then [] else [importStmt conversion.target]) ++
        [exportStmt lines.exported conversion.target, classStmt lines layout conversion] := by
    split
    · exact class_takes depth layout conversion
    · have all := TakesBody.cons (Takes.importFrom conversion.target.enumModule
        (firstPiece (enumName conversion.target))) (by simp) (class_takes depth layout conversion)
      refine all.mono ?_
      rintro _ ⟨_, _, rfl, rfl, lines, rfl⟩
      exact ⟨lines, rfl⟩
  have helpers : TakesBody (rulesTo (depth + 28))
      ((if layout.jsonHelpers then helperImportKinds else []) ++
      ((if conversion.target.enumModule = "" then [] else importKinds conversion.target) ++
      (exportKinds conversion.target ++
        (.keyword .classK :: nameKind conversion.target.converterName :: .symbol .colon :: .newline ::
          .indent :: (bodyKinds layout conversion ++ [.dedent]))))) [.endOfSource]
      fun body => ∃ lines : NotedLines, body =
        (if layout.jsonHelpers then helperImportStmts else []) ++
        ((if conversion.target.enumModule = "" then [] else [importStmt conversion.target]) ++
        [exportStmt lines.exported conversion.target, classStmt lines layout conversion]) := by
    split
    · have json (more : List TokenKind) : Takes (statement (rulesTo (depth + 28)))
          [.keyword .importK, .name "json", .newline] more (· = [.importModules [⟨"json", none⟩]]) :=
        fun _ start => ⟨_, start + 3, rfl, rfl⟩
      have typing (more : List TokenKind) : Takes (statement (rulesTo (depth + 28)))
          [.keyword .fromK, .name "typing", .keyword .importK, .name "Any", .newline] more
          (· = [.importFrom (some "typing") [⟨"Any", none⟩] 0]) :=
        fun _ start => ⟨_, start + 5, rfl, rfl⟩
      have all := TakesBody.cons (json _) (by simp) (.cons (typing _) (by simp) imported)
      refine all.mono ?_
      rintro _ ⟨_, _, rfl, rfl, _, _, rfl, rfl, lines, rfl⟩
      exact ⟨lines, rfl⟩
    · exact imported
  have future (more : List TokenKind) : Takes (statement (rulesTo (depth + 28)))
      [.keyword .fromK, .name "__future__", .keyword .importK, .name "annotations", .newline] more
      (· = [.importFrom (some "__future__") [⟨"annotations", none⟩] 0]) :=
    fun _ start => ⟨_, start + 5, rfl, rfl⟩
  have all := TakesBody.cons (future _) (by simp) helpers
  refine all.mono ?_
  rintro _ ⟨_, _, rfl, rfl, lines, rfl⟩
  exact ⟨lines, rfl⟩

/-- **A converter is a module that can be read, and these are its statements.** -/
theorem readModule_text {layout : Layout} {conversion : Conversion}
    (whole : layout.IsUnbroken .python) (names : conversion.IsWellNamed)
    (labels : conversion.HasEscapedLabels) (python : conversion.HasPythonNames) :
    ∃ lines, readModule (text layout conversion) = .ok (tree lines layout conversion) := by
  obtain ⟨tokens, htokens, kinds⟩ := tokens?_text whole names labels python
  obtain ⟨positions, numbers⟩ := exists_numbered tokens 0
  have readable : (text layout conversion).toList.contains '\x00' = false := by
    rw [List.contains_eq_mem, decide_eq_false_iff_not]
    intro h
    exact (mem_text whole names labels h).elim (by decide) (by decide)
  obtain ⟨depth, deep⟩ : ∃ depth, 4 * (text layout conversion).toList.length + 8 = depth + 29 := by
    have long := length_le_toList_textOfLines (lines layout conversion)
    have enough : 6 ≤ (lines layout conversion).length := by
      simp only [lines, headLines, valueLines, List.length_append, List.length_cons]
      omega
    exact ⟨4 * (text layout conversion).toList.length - 21, by rw [text]; omega⟩
  rw [kinds] at numbers
  obtain ⟨_, _, parsed, rfl, lines, shape⟩ := TakesBody.moduleOfTokens_eq
    (describe_takes (depth + 24) _ ("JSON converter for " ++ conversion.target.enumFullName ++ "."))
    (by simp [describeKinds]) (statements_take depth layout conversion) positions 0
  refine ⟨lines, ?_⟩
  simp only [← List.append_assoc] at parsed
  have read : moduleOfTokens (depth + 29) tokens = some (tree lines layout conversion) := by
    rw [numbers, ← shape]
    simp only [moduleKinds, headKinds, ← List.append_assoc]
    exact parsed
  simp only [readModule, readable, Bool.false_eq_true, if_false, htokens, deep, read]

end EnumCodec.PythonConverter
