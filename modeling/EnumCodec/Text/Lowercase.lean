import EnumCodec.Text.Ranges
import EnumCodec.Text.LowercaseTable

/-!
# EnumCodec.Text.Lowercase

**The lowercase form of a text.** Each character goes to its own lowercase form, with two exceptions
of the Unicode standard: the capital I with a dot above becomes two characters, and a capital sigma
at the end of a word becomes the final form of the small letter. A sigma ends a word if a letter with
a case stands before it and none after it, where characters that the case ignores are passed over.
-/

namespace EnumCodec.Text

/-- The character that a run `(first, last, step, shift)` of capitals gives for a code point in it. -/
def lowercaseInRun (code : Nat) : Nat × Nat × Nat × Int → Option Char
  | (first, last, step, shift) =>
    if first ≤ code && code ≤ last && (code - first) % step == 0 then
      some (Char.ofNat (Int.toNat (code + shift)))
    else none

/-- The lowercase form of a character on its own; ASCII is decided without the table. -/
def lowercaseChar (c : Char) : Char :=
  if c.toNat < 128 then
    if 'A' ≤ c && c ≤ 'Z' then Char.ofNat (c.toNat + 32) else c
  else (lowercaseRuns.findSome? (lowercaseInRun c.toNat)).getD c

/-- What a character means for a capital sigma near it. -/
inductive CaseRole where
  /-- The character is passed over. -/
  | ignorable
  /-- A letter that has a case. -/
  | cased
  /-- Any other character. -/
  | other
deriving DecidableEq, Repr

/-- The role of a character; ASCII is decided without the tables. -/
def caseRole (c : Char) : CaseRole :=
  if c.toNat < 128 then
    if ('a' ≤ c && c ≤ 'z') || ('A' ≤ c && c ≤ 'Z') then .cased
    else if c == '\'' || c == '.' || c == ':' || c == '^' || c == '\x60' then .ignorable
    else .other
  else if inRanges caseIgnorableRanges c.toNat then .ignorable
  else if inRanges casedRanges c.toNat then .cased
  else .other

/-- Is the first character that is not passed over a letter with a case? -/
def beginsCased (text : List Char) : Bool :=
  match text.find? (fun c => caseRole c != .ignorable) with
  | some c => caseRole c == .cased
  | none => false

/-- The lowercase forms of the characters of a text, given what stands before it, in reverse. -/
def lowercaseAfter (before : List Char) : List Char → List Char
  | [] => []
  | c :: rest =>
    (if c = 'Σ' then
      [if beginsCased before && !beginsCased rest then 'ς' else 'σ']
    else if c = 'İ' then ['i', '\u0307']
    else [lowercaseChar c]) ++ lowercaseAfter (c :: before) rest

/-- The lowercase form of a text. -/
def lowercaseChars (text : List Char) : List Char :=
  lowercaseAfter [] text

/-- The lowercase form of a string. -/
def lowercase (text : String) : String :=
  String.ofList (lowercaseChars text.toList)

end EnumCodec.Text
