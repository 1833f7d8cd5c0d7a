import EnumCodec.Source.Grammar.Statement
import EnumCodec.Text.Newline

/-!
# EnumCodec.Source.Reading

**Reading a module.** The rules of the grammar are tied together here, each part using the rules one
step deeper; the text bounds how deep parts can stand in one another, and nothing else does.
-/

namespace EnumCodec.Source

/-- The rule for a part, given the rules one step deeper. -/
def ruleFor (rules : Rules) : Rules
  | .expression => expression rules
  | .factor => factor rules
  | .primary => primary rules
  | .expressions => starExpressions rules
  | .pattern => pattern rules
  | .statements => statements rules

/-- The rules for parts that stand in one another at most so many times. -/
def rulesTo : (depth : Nat) → Rules
  | 0 => fun _ _ => none
  | depth + 1 => fun part tokens => ruleFor (rulesTo depth) part tokens

/-- The statements of a module from its tokens. -/
def moduleOfTokens (depth : Nat) (tokens : List Token) : Option Module :=
  match tokens with
  | [⟨.endOfSource, _⟩] => some []
  | _ =>
    match rulesTo depth .statements tokens with
    | some (body, [⟨.endOfSource, _⟩]) => some body
    | _ => none

/-- Why a text is no module. -/
inductive SourceError where
  /-- The text holds the character U+0000. -/
  | nullCharacter
  /-- The text breaks a rule of the language. -/
  | malformed
deriving DecidableEq, Repr

/-- The statements of a module from its text. -/
def readModule (text : String) : Except SourceError Module :=
  let chars := text.toList
  if chars.contains '\x00' then .error .nullCharacter
  else
    match tokens? (Text.unifyNewlines chars) with
    | none => .error .malformed
    | some tokens =>
      match moduleOfTokens (4 * chars.length + 8) tokens with
      | none => .error .malformed
      | some body => .ok body

end EnumCodec.Source
