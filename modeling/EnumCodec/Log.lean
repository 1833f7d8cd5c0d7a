/-!
# EnumCodec.Log

**What a run reports besides its results.** Each stage names itself in its records, which all are for
debugging.
-/

namespace EnumCodec

/-- The stages that report. -/
inductive LogSource where
  /-- The reading of declarations. -/
  | declarations
  /-- The resolution of markers. -/
  | resolution
  /-- The generator. -/
  | generator
  /-- The choice of a formatter. -/
  | formatting
  /-- The writing of files. -/
  | writing
deriving DecidableEq, Repr

/-- The name by which a stage is known in a log. -/
def LogSource.name : LogSource → String
  | .declarations => "enum_json_converter.pipeline.declarations.parser"
  | .resolution => "enum_json_converter.pipeline.analyzer.resolver"
  | .generator => "enum_json_converter.pipeline.generator"
  | .formatting => "enum_json_converter.pipeline.formatters.base"
  | .writing => "enum_json_converter.pipeline.writer.atomic_writer"

/-- A record of a log. -/
structure LogRecord where
  source : LogSource
  message : String
deriving DecidableEq, Repr

/-- The line of a record in a log. -/
def LogRecord.line (record : LogRecord) : String :=
  "DEBUG " ++ record.source.name ++ ": " ++ record.message

end EnumCodec
