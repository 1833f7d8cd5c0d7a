import EnumCodec.Json.Basic
import EnumCodec.Marker.Kind

/-!
# EnumCodec.Marker.Binding

**What a marker keeps of its arguments.** At run time a marker does nothing but keep the values of its
parameters. Arguments go to the parameters in order, keywords to those of their names; a parameter that
gets no value has its default.
-/

namespace EnumCodec

/-- A parameter of a marker. -/
structure MarkerParameter where
  name : String
  /-- Can it be given by a keyword only? -/
  keywordOnly : Bool
  default : Option Json
deriving Inhabited

namespace MarkerKind

/-- The parameters of a marker. -/
def parameters : MarkerKind → List MarkerParameter
  | .enumJsonConverter => [
      ⟨"enum_type", false, none⟩,
      ⟨"CaseSensitive", true, some (.bool false)⟩,
      ⟨"CamelCase", true, some (.bool false)⟩,
      ⟨"PropertyName", true, some .null⟩]
  | .jsonConverter => [⟨"converter_type", false, none⟩]
  | .display => [⟨"Name", true, some .null⟩]
  | .description => [⟨"description", false, none⟩]

/-- Does a marker decorate an enum, and so give back what it is called with? -/
def isDecorator : MarkerKind → Bool
  | .enumJsonConverter | .jsonConverter => true
  | .display | .description => false

/-- The marker with a short name. -/
def ofName? (name : String) : Option MarkerKind :=
  [.enumJsonConverter, .jsonConverter, .display, .description].find?
    fun kind : MarkerKind => kind.name == name

end MarkerKind

/-- The values of parameters, or nothing if an argument or a keyword fits no parameter, or a
parameter gets two values or none. -/
def bindParameters (arguments : List Json) (keywords : List (String × Json)) :
    List MarkerParameter → Option (List (String × Json))
  | [] => if arguments.isEmpty && keywords.isEmpty then some [] else none
  | parameter :: rest => do
    let others := keywords.filter (·.1 != parameter.name)
    match arguments, parameter.keywordOnly, keywords.lookup parameter.name with
    | value :: arguments, false, none =>
      return (parameter.name, value) :: (← bindParameters arguments others rest)
    | _ :: _, false, some _ => none
    | arguments, _, some value =>
      return (parameter.name, value) :: (← bindParameters arguments others rest)
    | arguments, _, none =>
      return (parameter.name, ← parameter.default) :: (← bindParameters arguments others rest)

/-- What a marker keeps. -/
def MarkerKind.bind? (kind : MarkerKind) (arguments : List Json)
    (keywords : List (String × Json)) : Option (List (String × Json)) :=
  bindParameters arguments keywords kind.parameters

end EnumCodec
