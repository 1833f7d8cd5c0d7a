/-!
# EnumCodec.Text.Words

**The words of a name, and the spellings built from them.** A word is a run of ASCII digits, a run of
ASCII capitals, or a run of small letters with at most one capital before it. A capital that a small
letter follows begins a word of its own, so `HTTPStatus2` has the words `HTTP`, `Status` and `2`. All
other characters only separate words.
-/

namespace EnumCodec.Text

/-- An ASCII capital. -/
def isCapital (c : Char) : Bool := 'A' ≤ c && c ≤ 'Z'

/-- An ASCII small letter. -/
def isSmall (c : Char) : Bool := 'a' ≤ c && c ≤ 'z'

/-- An ASCII digit. -/
def isDigit (c : Char) : Bool := '0' ≤ c && c ≤ '9'

/-- Does a character that stands directly before a word belong to it? Digits go with digits, small
letters with small letters; a capital goes with a word of capitals or of small letters, but not with
a word that has its own capital before small letters. -/
def joinsWord (c : Char) : List Char → Bool
  | [] => false
  | first :: rest =>
    if isDigit c then isDigit first
    else if isSmall c then isSmall first
    else if isCapital c then
      isSmall first || (isCapital first && !(rest.any isSmall))
    else false

/-- The words of a text. The first part is the word that begins right at its start, if one does. -/
def leadingWords : List Char → List Char × List (List Char)
  | [] => ([], [])
  | c :: rest =>
    let (word, others) := leadingWords rest
    let finished := if word.isEmpty then others else word :: others
    if joinsWord c word then (c :: word, others)
    else if isDigit c || isSmall c || isCapital c then ([c], finished)
    else ([], finished)

/-- The words of a text in order. -/
def words (text : List Char) : List (List Char) :=
  let (word, others) := leadingWords text
  if word.isEmpty then others else word :: others

/-- The small letter of an ASCII capital; any other character stays. -/
def smallForm (c : Char) : Char :=
  if isCapital c then Char.ofNat (c.toNat + 32) else c

/-- The words of a text in small letters, joined by underscores. -/
def snakeCaseChars (text : List Char) : List Char :=
  ['_'].intercalate ((words text).map (List.map smallForm))

/-- The words of a string in small letters, joined by underscores. -/
def snakeCase (text : String) : String :=
  String.ofList (snakeCaseChars text.toList)

end EnumCodec.Text
