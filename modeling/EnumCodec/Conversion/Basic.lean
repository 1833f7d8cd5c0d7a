import EnumCodec.Text.CodePoint

/-!
# EnumCodec.Conversion.Basic

**Conversions.** A conversion says all that a converter's text depends on: the options, the members with
their labels, and the names of the converter and of the enum. Conversions with equal fields are
interchangeable.
-/

namespace EnumCodec

/-- The options that a marker can set. -/
structure Options where
  /-- Are texts compared with regard to case when they are decoded? -/
  caseSensitive : Bool := false
  /-- Does a member without a label begin with a small letter? -/
  camelCase : Bool := false
  /-- The name in the messages about texts that cannot be decoded, if it is not that of the enum. -/
  propertyName : Option Text.CodeText := none
deriving DecidableEq, Repr, Inhabited

/-- A member of an enum as a converter knows it. -/
structure MemberDescriptor where
  identifier : String := ""
  /-- The label, escaped for a double-quoted literal; without one the identifier is shown. -/
  label : Option Text.CodeText := none
deriving DecidableEq, Repr, Inhabited

/-- The names of a converter and of the enum that it serves. -/
structure Target where
  converterName : String := ""
  /-- The dotted namespace of the converter; empty for the global one. -/
  converterNamespace : String := ""
  enumFullName : String := ""
  enumIsPublic : Bool := true
  enumModule : String := ""
  /-- The name of the enum inside its module. -/
  enumName : String := ""
deriving DecidableEq, Repr, Inhabited

/-- All that the text of a converter depends on. -/
structure Conversion where
  options : Options := {}
  members : List MemberDescriptor := []
  target : Target := {}
deriving DecidableEq, Repr, Inhabited

/-- Can the texts that a conversion shows all be encoded? -/
def Conversion.isWhole (conversion : Conversion) : Bool :=
  (conversion.options.propertyName.all (·.isWhole)) &&
    conversion.members.all fun member => member.label.all (·.isWhole)

end EnumCodec
