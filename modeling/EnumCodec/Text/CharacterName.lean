import EnumCodec.Text.CharacterName.Alphabets
import EnumCodec.Text.CharacterName.Ancient
import EnumCodec.Text.CharacterName.EastAsia
import EnumCodec.Text.CharacterName.Pictures
import EnumCodec.Text.CharacterName.Scripts
import EnumCodec.Text.CharacterName.Signs
import EnumCodec.Text.CharacterName.Symbols
import EnumCodec.Text.Hexadecimal
import EnumCodec.Text.Ranges
import EnumCodec.Text.Words

/-!
# EnumCodec.Text.CharacterName

**Characters by their names.** A name is one of the Unicode standard, version 14: a name or an alias
from the tables, in capitals or small letters, or, in capitals alone, a name that a rule gives to a
unified ideograph or to a syllable of Hangul.

The tables are told in pieces of names, which end behind a blank, behind a hyphen or with the name.
An entry ends in a comma. It begins with the distance of its character from the one of the entry
before, which is left out where it is one. A small letter follows for the number of pieces that the
name has in common with the name before at its front, where `a` stands for none, and another one for
those at its end, which is left out where there are none. The pieces between them end the entry.
-/

namespace EnumCodec.Text

/-! ### Names from tables -/

/-- An entry of the tables: a character and the pieces of one of its names. -/
structure NameEntry where
  code : Nat := 0
  pieces : List (List Char) := []
deriving DecidableEq, Repr, Inhabited

/-- The pieces of a text. -/
def namePieces : List Char → List (List Char)
  | [] => []
  | c :: rest =>
    if c = ' ' ∨ c = '-' then [c] :: namePieces rest
    else
      match namePieces rest with
      | [] => [[c]]
      | piece :: pieces => (c :: piece) :: pieces

/-- The number for which a small letter stands. -/
def pieceCount (letter : Char) : Nat :=
  letter.toNat - 97

/-- The number of pieces at the end, and the pieces before them. -/
def endPieces : List Char → Nat × List Char
  | [] => (0, [])
  | c :: rest => if isSmall c then (pieceCount c, rest) else (0, c :: rest)

/-- The entry that a text tells from the entry before. -/
def NameEntry.next (before : NameEntry) (text : List Char) : NameEntry :=
  match text.span fun c => !isSmall c with
  | (_, []) => before
  | (distance, letter :: rest) =>
    let (last, between) := endPieces rest
    { code := before.code + (if distance.isEmpty then 1 else tableNumber distance)
      pieces := before.pieces.take (pieceCount letter) ++ namePieces between ++
        before.pieces.drop (before.pieces.length - last) }

/-- The code point of a name in a table, given the entry before and the reverse of what is read of
an entry. -/
def findName (name : List Char) (before : NameEntry) (read : List Char) : List Char → Option Nat
  | [] => none
  | c :: rest =>
    if c = ',' then
      let entry := before.next read.reverse
      if entry.pieces.flatten = name then some entry.code else findName name entry [] rest
    else findName name before (c :: read) rest

/-- The tables of names. -/
def nameTables : List (List String) :=
  [alphabetNameRows, symbolNameRows, eastAsianNameRows, scriptNameRows, ancientNameRows,
   signNameRows, pictureNameRows]

/-- The code point of a name in capitals, by the tables. -/
def listedCode? (name : List Char) : Option Nat :=
  nameTables.findSome? fun rows => findName name {} [] (rows.flatMap String.toList)

/-! ### Names by rule -/

/-- What follows some characters in a text that begins with them. -/
def afterChars? : List Char → List Char → Option (List Char)
  | [], text => some text
  | _ :: _, [] => none
  | c :: front, d :: text => if c = d then afterChars? front text else none

/-- The unified ideographs. -/
def ideographRanges : List (Nat × Nat) :=
  [(0x3400, 0x4DBF), (0x4E00, 0x9FFF), (0x20000, 0x2A6DF), (0x2A700, 0x2B738), (0x2B740, 0x2B81D),
   (0x2B820, 0x2CEA1), (0x2CEB0, 0x2EBE0), (0x30000, 0x3134A)]

/-- The code point of the name of a unified ideograph, which ends in that code point. -/
def ideographCode? (name : List Char) : Option Nat := do
  let digits ← afterChars? "CJK UNIFIED IDEOGRAPH-".toList name
  let code := tableNumber digits
  if (digits.length = 4 ∨ digits.length = 5) ∧ digits.all isTableDigit ∧ inRanges ideographRanges code
  then some code else none

/-- The names of the letters that begin a syllable. -/
def leadNames : List String :=
  ["G", "GG", "N", "D", "DD", "R", "M", "B", "BB", "S", "SS", "", "J", "JJ", "C", "K", "T", "P", "H"]

/-- The names of the vowels of a syllable. -/
def vowelNames : List String :=
  ["A", "AE", "YA", "YAE", "EO", "E", "YEO", "YE", "O", "WA", "WAE", "OE", "YO", "U", "WEO", "WE",
   "WI", "YU", "EU", "YI", "I"]

/-- The names of what may end a syllable. -/
def tailNames : List String :=
  ["", "G", "GG", "GS", "N", "NJ", "NH", "D", "L", "LG", "LM", "LB", "LS", "LT", "LP", "LH", "M",
   "B", "BS", "S", "SS", "NG", "J", "C", "K", "T", "P", "H"]

/-- The index of the longest of some names that a text begins with, the names being counted from
`index` on, and what follows it. -/
def longestName? (index : Nat) : List String → List Char → Option (Nat × List Char)
  | [], _ => none
  | name :: names, text =>
    match afterChars? name.toList text, longestName? (index + 1) names text with
    | some rest, some (other, shorter) =>
      if rest.length < shorter.length then some (index, rest) else some (other, shorter)
    | some rest, none => some (index, rest)
    | none, found => found

/-- The code point of the name of a syllable of Hangul, which ends in the names of its letters. -/
def syllableCode? (name : List Char) : Option Nat := do
  let letters ← afterChars? "HANGUL SYLLABLE ".toList name
  let (lead, rest) ← longestName? 0 leadNames letters
  let (vowel, rest) ← longestName? 0 vowelNames rest
  let (tail, rest) ← longestName? 0 tailNames rest
  if rest.isEmpty then some (0xAC00 + 588 * lead + 28 * vowel + tail) else none

/-! ### All names -/

/-- The capital of an ASCII small letter; any other character stays. -/
def capitalForm (c : Char) : Char :=
  if isSmall c then Char.ofNat (c.toNat - 32) else c

/-- The character of a name. -/
def characterNamed? (name : List Char) : Option Char :=
  (((syllableCode? name).or (ideographCode? name)).or (listedCode? (name.map capitalForm))).map
    Char.ofNat

end EnumCodec.Text
