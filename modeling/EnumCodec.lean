import EnumCodec.CommandLine.Run
import EnumCodec.Formatter.Black
import EnumCodec.Formatter.Ruff
import EnumCodec.Generator.Session
import EnumCodec.Json.Writer
import EnumCodec.Main
import EnumCodec.Marker.Binding
import EnumCodec.Proofs.Text.TwoLanguages
import EnumCodec.Proofs.Converter.Lines
import EnumCodec.Proofs.Conversion.Names
import EnumCodec.Proofs.Converter.PythonReading
import EnumCodec.Proofs.Converter.CSharpReading
import EnumCodec.Proofs.Conversion.Resolved
import EnumCodec.Proofs.Converter.PythonRunning
import EnumCodec.Proofs.Converter.RoundTrip
import EnumCodec.Proofs.Converter.Agreement
import EnumCodec.Proofs.Source.Scanning
import EnumCodec.Proofs.Source.Words
import EnumCodec.Proofs.Source.Lines
import EnumCodec.Proofs.Source.Parsing
import EnumCodec.Proofs.Source.Statements
import EnumCodec.Proofs.Converter.PythonTokens
import EnumCodec.Proofs.Converter.PythonMethodTokens
import EnumCodec.Proofs.Converter.PythonTree
import EnumCodec.Proofs.Source.Scopes
import EnumCodec.Proofs.Activity
import EnumCodec.Proofs.Storage.Tree
import EnumCodec.Proofs.Generator.Caching
import EnumCodec.Proofs.Generator.Writing
import EnumCodec.Proofs.Declaration.Classes
import EnumCodec.Proofs.Declaration.Names
import EnumCodec.Proofs.Generator.Validity
import EnumCodec.Proofs.CommandLine.Reading
import EnumCodec.Proofs.Converter.PythonScopes
import EnumCodec.Proofs.Generator.Meanings
import EnumCodec.Proofs.Generator.Rewriting
import EnumCodec.Proofs.Generator.Targets
import EnumCodec.Proofs.CommandLine.Generation
import EnumCodec.Proofs.CommandLine.Rerunning
import EnumCodec.Proofs.Conversion.TargetEnum
import EnumCodec.Proofs.Declaration.Literals
import EnumCodec.Proofs.Declaration.RelativeImports
import EnumCodec.Proofs.Generator.Completion
import EnumCodec.Proofs.Generator.Protection
import EnumCodec.Proofs.Generator.Containment
import EnumCodec.Proofs.Declaration.Members
import EnumCodec.Proofs.CommandLine.Failing
import EnumCodec.Proofs.Storage.Interruption
import EnumCodec.Proofs.Converter.LiteralScan
import EnumCodec.Proofs.Converter.CSharpLiterals
import EnumCodec.Proofs.Generator.CSharpValidity
import EnumCodec.Proofs.Conversion.Naming
import EnumCodec.Proofs.Declaration.Renaming
import EnumCodec.Proofs.Declaration.Visibility
import EnumCodec.Proofs.Declaration.EnumClasses
import EnumCodec.Proofs.Source.NameNodes
import EnumCodec.Proofs.Declaration.AliasRenaming
import EnumCodec.Proofs.Declaration.FullNames
import EnumCodec.Proofs.Conversion.Additions
import EnumCodec.Proofs.Text.SnakeCase
import EnumCodec.Proofs.Text.WordEnds
import EnumCodec.Proofs.Text.WordPattern
import EnumCodec.Proofs.Text.WordBoundaries
import EnumCodec.Proofs.Converter.FileNames
import EnumCodec.Proofs.Text.FinalNewline
import EnumCodec.Proofs.Formatter.Ruff
import EnumCodec.Proofs.Config.UnknownKeys
import EnumCodec.Proofs.Config.RoundTrip
import EnumCodec.Proofs.Text.LineEnds
import EnumCodec.Proofs.CommandLine.Comment
