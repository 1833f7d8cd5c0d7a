import EnumCodec.Text.CompatibilityTable
import EnumCodec.Text.Hexadecimal

/-!
# EnumCodec.Text.Compatibility

**The compatibility form of a text, in which names are compared.** This is the normalization form
KC of the Unicode standard: every character is decomposed, marks are put in the order of their
combining classes, and pairs are composed again. A text of ASCII characters is its own form.
-/

namespace EnumCodec.Text

/-! ### Reading the tables -/

/-- The entries of table rows: a comma ends an entry, a dot separates the numbers in it. The entry
and the number read so far are carried along, the entry in reverse. -/
def tableEntries (entry : List Nat) (number : Nat) : List Char → List (List Nat)
  | [] => []
  | c :: rest =>
    if c = ',' then (number :: entry).reverse :: tableEntries [] 0 rest
    else if c = '.' then tableEntries (number :: entry) 0 rest
    else tableEntries entry (16 * number + tableDigit c) rest

/-- The entries of a table. -/
def readTable (rows : List String) : List (List Nat) :=
  rows.flatMap fun row => tableEntries [] 0 row.toList

/-- Entries whose first number is the distance from that of the entry before. -/
def undoDistances (last : Nat) : List (List Nat) → List (Nat × List Char)
  | [] => []
  | [] :: rest => undoDistances last rest
  | (distance :: codes) :: rest =>
    (last + distance, codes.map Char.ofNat) :: undoDistances (last + distance) rest

/-- Characters with their full compatibility decompositions. -/
def decompositions : List (Nat × List Char) :=
  undoDistances 0 (readTable decompositionRows)

/-- Ranges of characters with their combining class. -/
def combiningClasses : List (List Nat) :=
  readTable combiningClassRows

/-- Pairs of characters with the character that they compose to. -/
def compositions : List (List Nat) :=
  readTable compositionRows

/-! ### Decomposition -/

/-- The letters of a Hangul syllable, by the formula of the standard. -/
def hangulLetters (code : Nat) : List Char :=
  let index := code - 0xAC00
  let lead := Char.ofNat (0x1100 + index / 588)
  let vowel := Char.ofNat (0x1161 + index % 588 / 28)
  if index % 28 = 0 then [lead, vowel] else [lead, vowel, Char.ofNat (0x11A7 + index % 28)]

/-- The full compatibility decomposition of a character. -/
def decomposeChar (c : Char) : List Char :=
  let code := c.toNat
  if code < 160 then [c]
  else if 0xAC00 ≤ code && code ≤ 0xD7A3 then hangulLetters code
  else (decompositions.lookup code).getD [c]

/-- The combining class of a character; zero for one that begins a new group. -/
def combiningClass (c : Char) : Nat :=
  let code := c.toNat
  if code < 0x300 then 0
  else
    (combiningClasses.findSome? fun
      | [first, last, k] => if first ≤ code && code ≤ last then some k else none
      | _ => none).getD 0

/-- Puts a character into a list whose leading marks are in order: behind those of a smaller
class, and before all else. -/
def insertMark (c : Char) : List Char → List Char
  | [] => [c]
  | d :: rest =>
    if combiningClass d ≠ 0 ∧ combiningClass d < combiningClass c then
      d :: insertMark c rest
    else c :: d :: rest

/-- The text with each run of marks in the order of their classes; marks of one class keep their
order. -/
def orderMarks : List Char → List Char
  | [] => []
  | c :: rest =>
    if combiningClass c = 0 then c :: orderMarks rest else insertMark c (orderMarks rest)

/-! ### Composition -/

/-- The character that two characters compose to. -/
def composePair (a b : Char) : Option Char :=
  let m := a.toNat
  let n := b.toNat
  if 0x1100 ≤ m && m ≤ 0x1112 && 0x1161 ≤ n && n ≤ 0x1175 then
    some (Char.ofNat (0xAC00 + (m - 0x1100) * 588 + (n - 0x1161) * 28))
  else if 0xAC00 ≤ m && m ≤ 0xD7A3 && (m - 0xAC00) % 28 == 0 && 0x11A8 ≤ n && n ≤ 0x11C2 then
    some (Char.ofNat (m + (n - 0x11A7)))
  else
    compositions.findSome? fun
      | [x, y, z] => if x = m ∧ y = n then some (Char.ofNat z) else none
      | _ => none

/-- Composes what follows a character of class zero with it. `passed` holds, in reverse, the marks
after it that did not compose; the last of them has class `last`. -/
def composeAfter (starter : Char) (passed : List Char) (last : Nat) : List Char → List Char
  | [] => starter :: passed.reverse
  | c :: rest =>
    let k := combiningClass c
    let composed := if !passed.isEmpty && k ≤ last then none else composePair starter c
    match composed with
    | some joined => composeAfter joined passed last rest
    | none =>
      if k = 0 then starter :: passed.reverse ++ composeAfter c [] 0 rest
      else composeAfter starter (c :: passed) k rest

/-- The text with its pairs composed. -/
def compose : List Char → List Char
  | [] => []
  | c :: rest => if combiningClass c = 0 then composeAfter c [] 0 rest else c :: compose rest

/-- The compatibility form of a text. -/
def compatibilityChars (text : List Char) : List Char :=
  if text.all (·.toNat < 128) then text
  else compose (orderMarks (text.flatMap decomposeChar))

/-- A text of ASCII characters is its own compatibility form. -/
theorem compatibilityChars_of_ascii {text : List Char} (h : text.all (·.toNat < 128) = true) :
    compatibilityChars text = text := by
  simp [compatibilityChars, h]

end EnumCodec.Text
