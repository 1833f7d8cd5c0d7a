import EnumCodec.Converter.CSharp
import EnumCodec.Converter.Python
import EnumCodec.Path
import EnumCodec.Text.Content
import EnumCodec.Text.Words

/-!
# EnumCodec.Converter.File

**Converters as files.** A converter in Python stands at the path that its namespace names, in a file
named by the words of its own name; one in C# stands in a file of its own name.
-/

namespace EnumCodec

/-- A converter that has been generated. -/
structure ConverterFile where
  /-- The name of the converter. -/
  name : String
  /-- The path below the directory for converters. -/
  path : Path
  content : Content
deriving Repr, Inhabited

namespace Conversion

/-- The path of a converter below the directory for converters. -/
def unitPath (language : Language) (conversion : Conversion) : Path :=
  let target := conversion.target
  match language with
  | .python =>
    let file := Text.snakeCase target.converterName ++ ".py"
    if target.converterNamespace = "" then Path.ofText file
    else Path.ofTexts (Text.dotPieces target.converterNamespace ++ [file])
  | .cSharp => Path.ofText (target.converterName ++ ".g.cs")

/-- The text of a converter. -/
def converterText (language : Language) (layout : Layout) (conversion : Conversion) : Content where
  shown :=
    match language with
    | .python => PythonConverter.text layout conversion
    | .cSharp => CSharpConverter.text layout conversion
  isWhole := conversion.isWhole && layout.isWhole

end Conversion

end EnumCodec
