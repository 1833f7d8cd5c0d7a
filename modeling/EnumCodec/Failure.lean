import EnumCodec.Config.Basic
import EnumCodec.Converter.Language
import EnumCodec.Converter.Validation
import EnumCodec.Formatter.Tool
import EnumCodec.Storage.FileTree
import EnumCodec.Text.Content

/-!
# EnumCodec.Failure

**What can go wrong between a source and its converters.** Each cause has one constructor, and the
wording is in one function.
-/

namespace EnumCodec

/-- Why a run of the generator fails. -/
inductive Failure where
  /-- The source is no module. -/
  | source (cause : Source.SourceError)
  /-- The source joins an imaginary part to an integer beyond the floating-point numbers. -/
  | integerTooLarge
  /-- There is no such language. -/
  | unsupportedLanguage (name : String)
  /-- A converter cannot import its enum without the name of a module. -/
  | missingModule (enum : String)
  /-- The configuration cannot be used. -/
  | config (cause : ConfigError)
  /-- The converters must not be written. -/
  | generation (cause : GenerationError)
  /-- Files cannot be read or changed. -/
  | storage (cause : StorageError)
  /-- The chosen formatter gives no text. -/
  | formatter (cause : FormatterError)
  /-- A text that holds half of a surrogate pair is to be encoded. -/
  | notEncodable
deriving Inhabited

/-- The wording of the errors of a source. -/
def Source.SourceError.message : Source.SourceError → String
  | .nullCharacter => "source code string cannot contain null bytes"
  | .malformed => "invalid syntax"

/-- The wording of the errors of storage. -/
def StorageError.message : StorageError → String
  | .notFound => "no such file or directory"
  | .alreadyExists => "file exists"
  | .notADirectory => "not a directory"
  | .isADirectory => "is a directory"
  | .nameTooLong => "file name too long"
  | .busy => "device or resource busy"

/-- The wording about a text that cannot be encoded. -/
def notEncodableMessage : String := "half of a surrogate pair cannot be encoded"

/-- The wording of the errors of formatters. -/
def FormatterError.message : FormatterError → String
  | .missingProgram => "no such file or directory"
  | .versionNotText => "the target version is no text"
  | .argumentNotText => "an argument of a program must be a text"
  | .nullArgument => "embedded null byte"
  | .notEncodable => notEncodableMessage
  | .library _ => "the formatter has failed"

/-- The wording of a failure. -/
def Failure.message : Failure → String
  | .source cause => cause.message
  | .integerTooLarge => "int too large to convert to float"
  | .unsupportedLanguage name =>
    "Unsupported language " ++ Text.quoted name ++ ", expected one of ['cs', 'python']"
  | .missingModule enum => "A module name is required to import " ++ enum ++ " from its converter"
  | .config cause => cause.message
  | .generation cause => cause.message
  | .storage cause => cause.message
  | .formatter cause => cause.message
  | .notEncodable => notEncodableMessage

/-- The bytes of a text. -/
def Content.encode (content : Content) : Except Failure ByteArray :=
  match content.encode? with
  | some bytes => .ok bytes
  | none => .error .notEncodable

theorem Content.encode_of_isWhole {content : Content} (whole : content.isWhole = true) :
    content.encode = .ok content.bytes := by
  rw [encode, encode?_of_isWhole whole]

theorem Content.encode_of_not_isWhole {content : Content} (broken : content.isWhole = false) :
    content.encode = .error .notEncodable := by
  rw [encode, encode?_of_not_isWhole broken]

/-- The check of a text in the language of a name. A module is read from its encoded form. -/
def validate (language : String) (content : Content) : Except Failure Unit :=
  match Language.ofName? language with
  | some .python =>
    if content.isWhole then
      match Source.readModule content.shown with
      | .ok _ => .ok ()
      | .error .malformed => .error (.generation .invalidPython)
      | .error .nullCharacter => .error (.source .nullCharacter)
    else .error .notEncodable
  | some .cSharp =>
    match Validation.checkCSharp content.shown with
    | .ok () => .ok ()
    | .error cause => .error (.generation cause)
  | none => .ok ()

end EnumCodec
