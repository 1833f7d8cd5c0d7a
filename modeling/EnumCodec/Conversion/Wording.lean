import EnumCodec.Conversion.Basic
import EnumCodec.Text.Camel
import EnumCodec.Text.Escape

/-!
# EnumCodec.Conversion.Wording

**The texts that a conversion shows.** Each member has one visible text, which is its JSON string, and
the messages name the enum or the property. Both are ready to stand between double quotes. A conversion
is whole if all of them can be encoded; else the replacement character stands in them for what cannot.
-/

namespace EnumCodec

/-- A member with the text that stands for it. -/
structure VisibleMember where
  identifier : String
  /-- The text, ready to stand between double quotes. -/
  text : String
deriving DecidableEq, Repr, Inhabited

/-- The text that stands for a member: its label, or else its identifier. -/
def MemberDescriptor.visibleText (options : Options) (member : MemberDescriptor) : String :=
  match member.label with
  | some label => label.shown
  | none =>
    if options.camelCase then Text.lowerFirst member.identifier else member.identifier

namespace Conversion

/-- The members with their texts, in the order of declaration. -/
def visibleMembers (conversion : Conversion) : List VisibleMember :=
  conversion.members.map fun member =>
    ⟨member.identifier, member.visibleText conversion.options⟩

/-- The name in the messages about texts that cannot be decoded, ready to stand between double
quotes. -/
def diagnosticName (conversion : Conversion) : String :=
  Text.escape ((conversion.options.propertyName.map (·.shown)).getD conversion.target.enumFullName)

end Conversion

end EnumCodec
