import EnumCodec.Proofs.Converter.PythonReading

/-!
# EnumCodec.Proofs.Converter.PythonRunning

**The two methods of a converter in Python, run.** Branches are tried in the order in which they stand
in the text, and a literal stands for what the escape rules of the language make of it. Members are
told apart by their identifiers, because declarations have no values, so that nothing says which member
is another name for an earlier one. The name of the enum denotes the enum that is served.
-/

namespace EnumCodec.PythonConverter

/-- Why a method gives no result. -/
inductive Refusal where
  /-- No branch holds, so that the error at the end of the method is raised. -/
  | valueError
  /-- The text is no method: a literal cannot be read, or a variable has no value. -/
  | malformed
deriving DecidableEq, Repr

/-- What a literal stands for, given what stands between its quotes. -/
def meaning? (body : String) : Option String :=
  (Text.bodyText false body.toList).map String.ofList

/-- The text that the first branch with the member returns. -/
def runEncode (identifier : String) : List VisibleMember → Except Refusal String
  | [] => .error .valueError
  | branch :: rest =>
    if branch.identifier = identifier then
      match meaning? branch.text with
      | some text => .ok text
      | none => .error .malformed
    else runEncode identifier rest

/-- The value of a variable, given the text and what it was lowered to, if it was. -/
def Compared.value? (text : String) (key : Option String) : Compared → Option String
  | .text => some text
  | .key => key

/-- The member that the first branch with an equal literal returns, given what the text was lowered
to, if it was. -/
def runDecode (text : String) (key : Option String) : List DecodeStep → Except Refusal String
  | [] => .error .valueError
  | .lower :: rest => runDecode text (some (Text.lowercase text)) rest
  | .branch compared member :: rest =>
    match compared.value? text key, meaning? member.text with
    | some value, some literal =>
      if value = literal then .ok member.identifier else runDecode text key rest
    | _, _ => .error .malformed

/-- The text that the converter with a text encodes a member of the enum as. -/
def encode (enum converter identifier : String) : Except Refusal String :=
  runEncode identifier (readEncoding enum converter)

/-- The member of the enum that the converter with a text decodes a text to. -/
def decode (enum converter text : String) : Except Refusal String :=
  runDecode text none (readDecoding enum converter)

/-! ### The first branch that holds -/

theorem meaning?_escape (text : String) : meaning? (Text.escape text) = some text := by
  rw [meaning?, Text.toList_escape, (Text.Spells.escapeChars text.toList).bodyText_eq,
    Option.map_some, String.ofList_toList]

section

variable {α : Type} (name raw : α → String)

/-- What a search among the members gives, or the error at the end of the method. -/
def resultOf (value : α → String) : Option α → Except Refusal String
  | some member => .ok (value member)
  | none => .error .valueError

/-- The first member with the identifier is encoded as the text that it stands for. -/
theorem runEncode_eq (identifier : String) (members : List α) :
    runEncode identifier (members.map fun member => ⟨name member, Text.escape (raw member)⟩) =
      resultOf raw (members.find? (name · = identifier)) := by
  induction members with
  | nil => rfl
  | cons member members ih =>
      rw [List.map_cons, runEncode, List.find?_cons]
      by_cases here : name member = identifier
      · rw [if_pos here, meaning?_escape, decide_eq_true here]
        rfl
      · rw [if_neg here, decide_eq_false here]
        exact ih

/-- The first member whose literal has the value that is compared is the result. -/
theorem runDecode_eq (text : String) (key : Option String) (compared : Compared)
    {literal meaning : α → String} {members : List α}
    (means : ∀ member ∈ members, meaning? (literal member) = some (meaning member))
    {value : String} (hvalue : compared.value? text key = some value) :
    runDecode text key
        (members.map fun member => .branch compared ⟨name member, literal member⟩) =
      resultOf name (members.find? (meaning · = value)) := by
  induction members with
  | nil => rfl
  | cons member members ih =>
      have rest := ih fun other ho => means other (List.mem_cons_of_mem member ho)
      rw [List.map_cons, runDecode, List.find?_cons]
      simp only [hvalue, means member List.mem_cons_self]
      by_cases here : meaning member = value
      · rw [if_pos here.symm, decide_eq_true here]
        rfl
      · rw [if_neg (Ne.symm here), decide_eq_false here]
        exact rest

end

end EnumCodec.PythonConverter
