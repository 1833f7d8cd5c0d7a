/-!
# EnumCodec.Marker.Kind

**The markers.** Two of them decorate enums and two describe members; each is known by its short name
and by its name with the module that offers it.
-/

namespace EnumCodec

/-- The markers that ask for and describe a converter. -/
inductive MarkerKind where
  /-- Asks for a converter and names the enum. -/
  | enumJsonConverter
  /-- Names the type of the converter. -/
  | jsonConverter
  /-- Gives a member a label by the keyword `Name`. -/
  | display
  /-- Gives a member a label by position. -/
  | description
deriving DecidableEq, Repr

/-- The short name of a marker. -/
def MarkerKind.name : MarkerKind → String
  | .enumJsonConverter => "EnumJsonConverter"
  | .jsonConverter => "JsonConverter"
  | .display => "Display"
  | .description => "Description"

/-- The name of a marker with its module. -/
def MarkerKind.qualifiedName (kind : MarkerKind) : String :=
  "enum_json_converter.markers." ++ kind.name

end EnumCodec
