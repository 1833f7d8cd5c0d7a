/-!
# EnumCodec.Text.Newline

**Line ends.** A carriage return, with or without a line feed after it, ends a line just as a line
feed does; texts are read with a line feed for each of the three.
-/

namespace EnumCodec.Text

/-- The text with a line feed for every line end. -/
def unifyNewlines : List Char → List Char
  | [] => []
  | '\r' :: '\n' :: rest => '\n' :: unifyNewlines rest
  | '\r' :: rest => '\n' :: unifyNewlines rest
  | c :: rest => c :: unifyNewlines rest

/-- The text without the line feeds at its end. -/
def dropFinalNewlines (text : List Char) : List Char :=
  (text.reverse.dropWhile (· == '\n')).reverse

/-- The text with exactly one line feed at its end. -/
def endWithNewline (text : String) : String :=
  String.ofList (dropFinalNewlines text.toList ++ ['\n'])

end EnumCodec.Text
