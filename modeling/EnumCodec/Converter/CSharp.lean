import EnumCodec.Conversion.Wording
import EnumCodec.Converter.Layout
import EnumCodec.Text.Blank

/-!
# EnumCodec.Converter.CSharp

**Converters in C#.** A converter is a class that derives from `JsonConverter`: its method `Read` has a
comparison for every member and its method `Write` a case, in the order of declaration. The class
stands in a namespace if the conversion names one.
-/

namespace EnumCodec.CSharpConverter

/-- So many steps of indentation. -/
def indent (level : Nat) : String :=
  String.ofList (List.replicate (4 * level) ' ')

/-- A line moved to the right; a blank one stays. -/
def indentLine (level : Nat) (line : String) : String :=
  if line.toList.all Text.isBlank then line else indent level ++ line

/-- The namespaces that every converter opens. -/
def standardUsings : List String :=
  ["System", "System.Text.Json", "System.Text.Json.Serialization"]

/-- The type of the enum, from the global namespace on. -/
def enumType (target : Target) : String :=
  "global::" ++ target.enumFullName

/-- The comparison that reads a member. -/
def readBranch (enum comparison : String) (member : VisibleMember) : List String :=
  [indent 2 ++ "if (string.Equals(value, \"" ++ member.text ++ "\", " ++ comparison ++ "))",
    indent 3 ++ "return " ++ enum ++ "." ++ member.identifier ++ ";"]

/-- The case that writes a member. -/
def writeCase (enum : String) (member : VisibleMember) : List String :=
  [indent 3 ++ "case " ++ enum ++ "." ++ member.identifier ++ ":",
    indent 4 ++ "writer.WriteStringValue(\"" ++ member.text ++ "\");",
    indent 4 ++ "return;"]

/-- How texts are compared. -/
def comparison (options : Options) : String :=
  if options.caseSensitive then "StringComparison.Ordinal"
  else "StringComparison.OrdinalIgnoreCase"

/-- The lines of the class. -/
def classLines (conversion : Conversion) : List String :=
  let target := conversion.target
  let enum := enumType target
  [(if target.enumIsPublic then "public" else "internal") ++ " partial class " ++
      target.converterName ++ " : JsonConverter<" ++ enum ++ ">",
    "\x7b",
    indent 1 ++ "private const string PropertyName = \"" ++ conversion.diagnosticName ++ "\";",
    "",
    indent 1 ++ "public override " ++ enum ++
      " Read(ref Utf8JsonReader reader, Type typeToConvert, JsonSerializerOptions options)",
    indent 1 ++ "\x7b",
    indent 2 ++ "var value = reader.GetString();"] ++
  conversion.visibleMembers.flatMap (readBranch enum (comparison conversion.options)) ++
  [indent 2 ++ "throw new JsonException($\"The JSON value \\\"" ++ braced "value" ++
      "\\\" could not be converted to " ++ braced "PropertyName" ++ ".\");",
    indent 1 ++ "\x7d",
    "",
    indent 1 ++ "public override void Write(Utf8JsonWriter writer, " ++ enum ++
      " value, JsonSerializerOptions options)",
    indent 1 ++ "\x7b",
    indent 2 ++ "switch (value)",
    indent 2 ++ "\x7b"] ++
  conversion.visibleMembers.flatMap (writeCase enum) ++
  [indent 3 ++ "default:",
    indent 4 ++ "throw new ArgumentOutOfRangeException(nameof(value), value, null);",
    indent 2 ++ "\x7d",
    indent 1 ++ "\x7d",
    "\x7d"]

/-- The lines of the class in its namespace. -/
def namespaceLines (conversion : Conversion) : List String :=
  let path := conversion.target.converterNamespace
  if path = "" then classLines conversion
  else
    ["namespace " ++ path, "\x7b"] ++ (classLines conversion).map (indentLine 1) ++ ["\x7d"]

/-- The lines of a converter. -/
def lines (layout : Layout) (conversion : Conversion) : List String :=
  "// <auto-generated />" :: layout.comment.toList ++
  ["#nullable enable", ""] ++
  layout.usings.map (fun name => "using " ++ name ++ ";") ++ [""] ++
  namespaceLines conversion

/-- The text of a converter. -/
def text (layout : Layout) (conversion : Conversion) : String :=
  textOfLines (lines layout conversion)

end EnumCodec.CSharpConverter
