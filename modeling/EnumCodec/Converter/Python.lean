import EnumCodec.Conversion.Wording
import EnumCodec.Converter.Layout
import EnumCodec.Text.Identifier
import EnumCodec.Text.Lowercase

/-!
# EnumCodec.Converter.Python

**Converters in Python.** A converter is a module with one class: the visible texts, a method that
encodes a member and one that decodes a text, each with a branch for every member in the order of
declaration. A conversion without regard to case compares the lowered text with lowered literals.
-/

namespace EnumCodec.PythonConverter

/-- The name of the enum in the converter. -/
def enumName (target : Target) : String :=
  if target.enumName = "" then target.enumFullName else target.enumName

/-- The comment, the description and the imports. The enum is imported through its outermost
class. -/
def headLines (layout : Layout) (target : Target) : List String :=
  layout.comment.toList ++
  ["\"\"\"JSON converter for " ++ target.enumFullName ++ ".\"\"\"",
    "",
    "from __future__ import annotations",
    ""] ++
  (if layout.jsonHelpers then ["import json", "from typing import Any", ""] else []) ++
  (if target.enumModule = "" then []
   else
    ["from " ++ target.enumModule ++ " import " ++ Text.firstPiece (enumName target), ""])

/-- The list of what the module exports. -/
def exportLine (target : Target) : String :=
  if target.enumIsPublic then "__all__ = [\"" ++ target.converterName ++ "\"]"
  else "__all__: list[str] = []"

/-- The beginning of the class, with the visible texts. -/
def valueLines (conversion : Conversion) : List String :=
  ["class " ++ conversion.target.converterName ++ ":",
    "    \"\"\"Converts " ++ enumName conversion.target ++
      " members to and from their JSON strings.\"\"\"",
    "",
    "    PROPERTY_NAME = \"" ++ conversion.diagnosticName ++ "\"",
    "",
    "    # Visible strings in declaration order",
    "    VALUES: tuple[str, ...] = ("] ++
  conversion.visibleMembers.map (fun member => "        \"" ++ member.text ++ "\",") ++
  ["    )"]

/-- The branch that encodes a member. -/
def encodeBranch (enum : String) (member : VisibleMember) : List String :=
  ["        if value is " ++ enum ++ "." ++ member.identifier ++ ":",
    "            return \"" ++ member.text ++ "\""]

/-- The method that encodes members. -/
def encodeLines (conversion : Conversion) : List String :=
  let enum := enumName conversion.target
  ["    @classmethod",
    "    def encode(cls, value: " ++ enum ++ ") -> str:",
    "        \"\"\"Return the JSON string of an enum member.\"\"\""] ++
  conversion.visibleMembers.flatMap (encodeBranch enum) ++
  ["        raise ValueError(f\"" ++ braced "value!r" ++ " is not a member of " ++
    braced "cls.PROPERTY_NAME" ++ ".\")"]

/-- The branch that decodes a text: the compared variable, the literal and the member. -/
def decodeBranch (compared literal member : String) : List String :=
  ["        if " ++ compared ++ " == \"" ++ literal ++ "\":",
    "            return " ++ member]

/-- The branches of the method that decodes texts. -/
def decodeBranches (conversion : Conversion) : List String :=
  let enum := enumName conversion.target
  if conversion.options.caseSensitive then
    conversion.visibleMembers.flatMap fun member =>
      decodeBranch "text" member.text (enum ++ "." ++ member.identifier)
  else
    "        key = text.lower()" ::
      conversion.visibleMembers.flatMap fun member =>
        decodeBranch "key" (Text.lowercase member.text) (enum ++ "." ++ member.identifier)

/-- The method that decodes texts. -/
def decodeLines (conversion : Conversion) : List String :=
  ["    @classmethod",
    "    def decode(cls, text: str) -> " ++ enumName conversion.target ++ ":",
    "        \"\"\"Return the enum member whose JSON string is text.\"\"\""] ++
  decodeBranches conversion ++
  ["        raise ValueError(",
    "            f'The JSON value \"" ++ braced "text" ++ "\" could not be converted to " ++
      braced "cls.PROPERTY_NAME" ++ ". '",
    "            f'Expected one of: " ++ braced "\", \".join(cls.VALUES)" ++ ".'",
    "        )"]

/-- The methods for whole JSON documents. -/
def helperLines (enum : String) : List String :=
  ["",
    "    @classmethod",
    "    def dumps(cls, value: " ++ enum ++ ") -> str:",
    "        \"\"\"Serialize an enum member to a JSON document.\"\"\"",
    "        return json.dumps(cls.encode(value))",
    "",
    "    @classmethod",
    "    def loads(cls, data: str | bytes) -> " ++ enum ++ ":",
    "        \"\"\"Deserialize a JSON document holding one string.\"\"\"",
    "        text = json.loads(data)",
    "        if not isinstance(text, str):",
    "            raise ValueError(f\"Expected a JSON string for " ++ braced "cls.PROPERTY_NAME" ++
      ", got " ++ braced "type(text).__name__" ++ ".\")",
    "        return cls.decode(text)",
    "",
    "    @classmethod",
    "    def default(cls, obj: Any) -> str:",
    "        \"\"\"Hook for ``json.dumps(..., default=...)``.\"\"\"",
    "        if isinstance(obj, " ++ enum ++ "):",
    "            return cls.encode(obj)",
    "        raise TypeError(f\"Object of type " ++ braced "type(obj).__name__" ++
      " is not JSON serializable\")"]

/-- The lines of a converter. -/
def lines (layout : Layout) (conversion : Conversion) : List String :=
  headLines layout conversion.target ++
  [exportLine conversion.target, "", ""] ++
  valueLines conversion ++ [""] ++
  encodeLines conversion ++ [""] ++
  decodeLines conversion ++
  (if layout.jsonHelpers then helperLines (enumName conversion.target) else [])

/-- The text of a converter. -/
def text (layout : Layout) (conversion : Conversion) : String :=
  textOfLines (lines layout conversion)

end EnumCodec.PythonConverter
