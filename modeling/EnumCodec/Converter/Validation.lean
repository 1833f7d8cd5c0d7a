import EnumCodec.Path
import EnumCodec.Source.Reading

/-!
# EnumCodec.Converter.Validation

**Checks before a converter is written.** A converter in Python must be a module that can be read. A
converter in C# is looked at less closely: it must hold a class, and outside its literals as many
braces must open as close. Texts in any other language are not checked.
-/

namespace EnumCodec

/-- Why converters are not written. -/
inductive GenerationError where
  /-- Two converters have the same path. -/
  | sharedPath (first second : String) (path : Path)
  /-- There is something at the path of a converter. -/
  | targetExists (path : Path)
  /-- The text is no Python module. -/
  | invalidPython
  /-- The text holds no C# class. -/
  | noTypeDefinitions
  /-- Braces open and close in different numbers. -/
  | unbalancedBraces (opening closing : Nat)
deriving DecidableEq, Repr, Inhabited

/-- The wording of an error. -/
def GenerationError.message : GenerationError → String
  | .sharedPath first second path =>
    first ++ " and " ++ second ++ " would both be written to " ++ path.text
  | .targetExists path =>
    "Output file already exists: " ++ path.text ++ ". Use force mode to overwrite."
  | .invalidPython => "Generated Python code is not valid: invalid syntax"
  | .noTypeDefinitions => "Generated C# code has no type definitions"
  | .unbalancedBraces opening closing =>
    "Generated C# code has unbalanced braces: " ++ toString opening ++ " open, " ++
      toString closing ++ " close"

namespace Validation

/-! ### Literals -/

/-- What follows the literal whose opening quote has just been read: it ends at the first quote that
no backslash precedes, on the same line. -/
def afterLiteral? : List Char → Option (List Char)
  | [] => none
  | '"' :: rest => some rest
  | '\n' :: _ => none
  | '\\' :: '\n' :: _ => none
  | '\\' :: _ :: rest => afterLiteral? rest
  | ['\\'] => none
  | _ :: rest => afterLiteral? rest

/-- What follows a literal is shorter than the text that begins with it. -/
theorem length_afterLiteral? {text rest : List Char} (h : afterLiteral? text = some rest) :
    rest.length < text.length := by
  fun_induction afterLiteral? text <;> simp_all <;> omega

/-- The text with nothing between the quotes of its literals. -/
def emptyLiterals (text : List Char) : List Char :=
  match text with
  | [] => []
  | c :: rest =>
    if c = '"' then
      match _h : afterLiteral? rest with
      | some others => '"' :: '"' :: emptyLiterals others
      | none => c :: emptyLiterals rest
    else c :: emptyLiterals rest
termination_by text.length
decreasing_by
  · have := length_afterLiteral? _h
    simp
    omega
  · simp
  · simp

/-! ### The checks -/

/-- Does a text occur in another one? -/
def occursIn (part : List Char) : List Char → Bool
  | [] => part.isEmpty
  | c :: rest => part.isPrefixOf (c :: rest) || occursIn part rest

/-- The check of a text in C#. -/
def checkCSharp (content : String) : Except GenerationError Unit :=
  if occursIn "class ".toList content.toList then
    let code := emptyLiterals content.toList
    let opening := code.count '\x7b'
    let closing := code.count '\x7d'
    if opening = closing then .ok () else .error (.unbalancedBraces opening closing)
  else .error .noTypeDefinitions

end Validation

end EnumCodec
