/-!
# EnumCodec.Text.Blank

**White space.** The characters that are stripped from the ends of a text and that separate the words
of a list of names: the 25 of the Unicode property `White_Space` and the four separators from U+001C
to U+001F.
-/

namespace EnumCodec.Text

/-- Is the character white space? -/
def isBlank (c : Char) : Bool :=
  let n := c.toNat
  (9 ≤ n && n ≤ 13) || (28 ≤ n && n ≤ 32) || n == 0x85 || n == 0xA0 || n == 0x1680 ||
    (0x2000 ≤ n && n ≤ 0x200A) || n == 0x2028 || n == 0x2029 || n == 0x202F || n == 0x205F ||
    n == 0x3000

/-- The text without the white space at its ends. -/
def trimBlank (text : List Char) : List Char :=
  ((text.dropWhile isBlank).reverse.dropWhile isBlank).reverse

/-- The words of a text, which white space separates. -/
def blankWords : List Char → List (List Char)
  | [] => []
  | c :: rest =>
    if isBlank c then blankWords rest
    else
      match rest, blankWords rest with
      | [], _ => [[c]]
      | next :: _, words =>
        if isBlank next then [c] :: words
        else
          match words with
          | [] => [[c]]
          | word :: others => (c :: word) :: others

end EnumCodec.Text
