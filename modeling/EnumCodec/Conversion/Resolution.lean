import EnumCodec.Conversion.Basic
import EnumCodec.Declaration.Basic
import EnumCodec.Log
import EnumCodec.Marker.Kind
import EnumCodec.Text.Blank
import EnumCodec.Text.Escape
import EnumCodec.Text.Identifier
import EnumCodec.Text.Lowercase

/-!
# EnumCodec.Conversion.Resolution

**From a declaration with markers to a conversion.** A declaration that does not ask for a converter, or
does not describe it fully, has no conversion; an option that is not understood keeps its default. Both
are reported, and neither is an error.
-/

namespace EnumCodec

/-! ### Markers -/

/-- Is the attribute the marker? Its qualified name must be that of the marker; a name without a dot,
which no import explains, may also be the short one. -/
def Attribute.isMarker (marker : Attribute) (kind : MarkerKind) : Bool :=
  marker.qualifiedName == kind.qualifiedName ||
    (!marker.qualifiedName.toList.contains '.' && marker.name == kind.name)

/-- The first of the attributes that is the marker. -/
def findMarker (attributes : List Attribute) (kind : MarkerKind) : Option Attribute :=
  attributes.find? (·.isMarker kind)

/-! ### Labels -/

/-- The sources of labels. -/
inductive LabelProvider where
  | display
  | description
deriving DecidableEq, Repr

/-- The label that an attribute gives to a member. -/
def LabelProvider.label? (provider : LabelProvider) (marker : Attribute) : Option Text.CodeText :=
  match provider with
  | .display =>
    if marker.isMarker .display then
      match marker.keywords.lookup "Name" with
      | some value => value.text?
      | none => none
    else none
  | .description =>
    if marker.isMarker .description then
      match marker.args with
      | [value] => value.text?
      | _ => none
    else none

/-- The sources of labels in the order in which they are tried. -/
def LabelProvider.standard : List LabelProvider := [.display, .description]

/-- The first label that the attributes of a member give; for each attribute all sources are tried. -/
def memberLabel? (providers : List LabelProvider) (attributes : List Attribute) :
    Option Text.CodeText :=
  attributes.findSome? fun marker => providers.findSome? (·.label? marker)

/-- A member with its label escaped. -/
def describeMember (providers : List LabelProvider) (member : Member) : MemberDescriptor where
  identifier := member.name
  label := (memberLabel? providers member.attributes).map Text.CodeText.escape

/-! ### Options -/

/-- The report of an option that is not understood. -/
def ignoredOption (declaration : EnumDeclaration) (key : String) (value : Value) : LogRecord where
  source := .resolution
  message := declaration.fullName ++ ": ignoring malformed " ++ key ++ " " ++ value.describe

/-- The truth value that an argument spells out: one of the two, or its name in letters of any case
with or without white space around it. -/
def flagOf? : Value → Option Bool
  | .bool value => some value
  | .text value =>
    let word := Text.lowercaseChars (Text.trimBlank value.toList)
    if word = "true".toList then some true
    else if word = "false".toList then some false
    else none
  | _ => none

/-- A flag among the keyword arguments, and the report if it is not understood. -/
def resolveFlag (declaration : EnumDeclaration) (keywords : List (String × Value)) (key : String)
    (default : Bool) : Bool × List LogRecord :=
  match keywords.lookup key with
  | none => (default, [])
  | some value =>
    match flagOf? value with
    | some flag => (flag, [])
    | none => (default, [ignoredOption declaration key value])

/-- The name for messages among the keyword arguments, and the report if it is no text. -/
def resolvePropertyName (declaration : EnumDeclaration) (keywords : List (String × Value)) :
    Option Text.CodeText × List LogRecord :=
  match keywords.lookup "PropertyName" with
  | none => (none, [])
  | some .none => (none, [])
  | some value =>
    match value.text? with
    | some name => (some name, [])
    | none => (none, [ignoredOption declaration "PropertyName" value])

/-- The options among the keyword arguments, and the reports of those that are not understood. -/
def resolveOptions (declaration : EnumDeclaration) (keywords : List (String × Value)) :
    Options × List LogRecord :=
  let (caseSensitive, first) := resolveFlag declaration keywords "CaseSensitive" false
  let (camelCase, second) := resolveFlag declaration keywords "CamelCase" false
  let (propertyName, third) := resolvePropertyName declaration keywords
  ({ caseSensitive, camelCase, propertyName }, first ++ second ++ third)

/-! ### The conversion -/

/-- The type that an argument names: a reference with a name, or a text of identifiers with dots
between them, whose white space at the ends does not count. -/
def converterType? : Value → Option TypeRef
  | .ref ref => if ref.name = "" then none else some ref
  | .text value =>
    let parts := Text.splitDots (Text.trimBlank value.toList)
    if parts.all Text.isIdentifier then
      let names := parts.map String.ofList
      some { name := names.getLastD "", namespacePath := Text.joinDots names.dropLast }
    else none
  | _ => none

/-- Why a declaration that asks for a converter has no conversion. -/
inductive SkipReason where
  /-- The enum is not among the declarations. -/
  | unknownEnum
  /-- There is no marker that names exactly one type of converter. -/
  | noConverter
  /-- The argument of that marker names no type. -/
  | notAType
deriving DecidableEq, Repr

/-- The wording of a reason. -/
def SkipReason.message : SkipReason → String
  | .unknownEnum => "EnumJsonConverter target type cannot be resolved"
  | .noConverter => "no JsonConverter naming exactly one converter type"
  | .notAType => "JsonConverter argument is not a type name"

/-- The enum and the converter that a declaration with a request names. -/
def resolveTarget (declarations : ModuleDeclarations) (declaration : EnumDeclaration)
    (request : Attribute) : Except SkipReason (EnumDeclaration × TypeRef) := do
  let enum ←
    match request.args with
    | [] => .error .unknownEnum
    | target :: _ =>
      match declarations.find? target with
      | some enum => .ok enum
      | none => .error .unknownEnum
  let value ←
    match (findMarker declaration.attributes .jsonConverter).map (·.args) with
    | some [value] => .ok value
    | _ => .error .noConverter
  match converterType? value with
  | some converter => .ok (enum, converter)
  | none => .error .notAType

/-- The conversion that a declaration asks for, and the reports on the way. -/
def resolve (providers : List LabelProvider) (declarations : ModuleDeclarations)
    (declaration : EnumDeclaration) : Option Conversion × List LogRecord :=
  match findMarker declaration.attributes .enumJsonConverter with
  | none => (none, [])
  | some request =>
    match resolveTarget declarations declaration request with
    | .error reason =>
      (none, [⟨.resolution, "Skipping " ++ declaration.fullName ++ ": " ++ reason.message⟩])
    | .ok (enum, converter) =>
      let (options, records) := resolveOptions declaration request.keywords
      let members := (enum.members.filter (·.hasValue)).map (describeMember providers)
      let target : Target := {
        converterName := converter.name
        converterNamespace := converter.namespacePath
        enumFullName := enum.fullName
        enumIsPublic := declaration.isPublic
        enumModule := enum.module
        enumName := enum.name }
      (some { options, members, target }, records)

end EnumCodec
