import EnumCodec.Text.Ranges
import EnumCodec.Text.IdentifierTable

/-!
# EnumCodec.Text.Identifier

**Identifiers and dotted names.** An identifier begins with a letter or an underscore and goes on
with letters, digits, marks and underscores, in the sense of the Unicode standard. The ASCII
characters are decided without the table.
-/

namespace EnumCodec.Text

/-- An ASCII letter or the underscore. -/
def isAsciiIdentifierStart (c : Char) : Bool :=
  ('a' ≤ c && c ≤ 'z') || ('A' ≤ c && c ≤ 'Z') || c == '_'

/-- May the character begin an identifier? -/
def isIdentifierStart (c : Char) : Bool :=
  isAsciiIdentifierStart c ||
    (128 ≤ c.toNat && inRanges identifierStartRanges c.toNat)

/-- May the character continue an identifier? -/
def isIdentifierPart (c : Char) : Bool :=
  isAsciiIdentifierStart c || ('0' ≤ c && c ≤ '9') ||
    (128 ≤ c.toNat &&
      (inRanges identifierStartRanges c.toNat || inRanges identifierContinueRanges c.toNat))

/-- Is the text one identifier? Keywords are not told apart. -/
def isIdentifier : List Char → Bool
  | [] => false
  | c :: rest => isIdentifierStart c && rest.all isIdentifierPart

/-- The pieces of a text between its dots; a text without dots is its only piece. -/
def splitDots : List Char → List (List Char)
  | [] => [[]]
  | c :: rest =>
    if c = '.' then [] :: splitDots rest
    else
      match splitDots rest with
      | [] => [[c]]
      | piece :: pieces => (c :: piece) :: pieces

/-- The pieces of a string between its dots. -/
def dotPieces (text : String) : List String :=
  (splitDots text.toList).map String.ofList

/-- Names joined by dots. -/
def joinDots (pieces : List String) : String :=
  ".".intercalate pieces

/-- A dotted name cut at its last dot: what stands before it, and the last piece. A name without a
dot has nothing before it. -/
def splitLastDot (text : String) : String × String :=
  let pieces := dotPieces text
  (joinDots pieces.dropLast, pieces.getLastD "")

/-- The piece before the first dot. -/
def firstPiece (text : String) : String :=
  (dotPieces text).headD ""

/-- The piece after the last dot. -/
def lastPiece (text : String) : String :=
  (dotPieces text).getLastD ""

/-- A text has at least one piece. -/
theorem splitDots_ne_nil (text : List Char) : splitDots text ≠ [] := by
  cases text with
  | nil => simp [splitDots]
  | cons c rest =>
    unfold splitDots
    split
    · simp
    · split <;> simp

end EnumCodec.Text
