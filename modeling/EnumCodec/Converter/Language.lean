/-!
# EnumCodec.Converter.Language

**The languages of converters.** A converter is written in one of two languages.
-/

namespace EnumCodec

/-- A language that converters are written in. -/
inductive Language where
  | python
  | cSharp
deriving DecidableEq, Repr, Inhabited

namespace Language

/-- The name by which a language is chosen. -/
def name : Language → String
  | .python => "python"
  | .cSharp => "cs"

/-- The language with a name. -/
def ofName? (name : String) : Option Language :=
  if name = "python" then some .python
  else if name = "cs" then some .cSharp
  else none

/-- What begins a comment. -/
def commentMark : Language → String
  | .python => "#"
  | .cSharp => "//"

@[simp] theorem ofName?_name (language : Language) : ofName? language.name = some language := by
  cases language <;> decide

end Language

end EnumCodec
