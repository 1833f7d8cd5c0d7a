import EnumCodec.Text.Escape
import EnumCodec.Text.Quoted

/-!
# EnumCodec.Text.CodePoint

**Texts with halves of surrogate pairs.** An escape in a literal can name half of a surrogate pair, which
is no character. A text that holds one is like any other as long as it is only compared and put together,
but no encoding has a form for it. Such texts are kept by their code points; where one is shown, the
replacement character stands for each half.
-/

namespace EnumCodec.Text

/-! ### Code points -/

/-- A character, or half of a surrogate pair. -/
inductive CodePoint where
  | char (c : Char)
  /-- The half that comes so many places after the first one. -/
  | half (offset : Fin 0x800)
deriving DecidableEq, Repr

namespace CodePoint

/-- The code point of a number; beyond the last one there is none. -/
def ofNat? (code : Nat) : Option CodePoint :=
  if code < 0xD800 then some (.char (Char.ofNat code))
  else if code < 0xE000 then some (.half (Fin.ofNat 0x800 (code - 0xD800)))
  else if code < 0x110000 then some (.char (Char.ofNat code))
  else none

theorem ofNat?_toNat (c : Char) : ofNat? c.toNat = some (.char c) := by
  have valid : c.toNat < 0xD800 ∨ 0xDFFF < c.toNat ∧ c.toNat < 0x110000 := c.valid
  by_cases low : c.toNat < 0xD800
  · rw [ofNat?, if_pos low, Char.ofNat_toNat]
  · rw [ofNat?, if_neg low, if_neg (by omega), if_pos (by omega), Char.ofNat_toNat]

/-- The number of a code point. -/
def toNat : CodePoint → Nat
  | .char c => c.toNat
  | .half offset => 0xD800 + offset

def isHalf : CodePoint → Bool
  | .char _ => false
  | .half _ => true

/-- The character that stands for a code point where it is shown. -/
def shown : CodePoint → Char
  | .char c => c
  | .half _ => '\uFFFD'

/-- The character that a code point is, if it is one. -/
def char? : CodePoint → Option Char
  | .char c => some c
  | .half _ => none

/-- The form of a code point inside a double-quoted literal; a half has no escape. -/
def escape : CodePoint → List CodePoint
  | .char c => (escapeChar c).map .char
  | .half offset => [.half offset]

/-- The form of a code point between quotes in a message. -/
def quoted (quote : Char) : CodePoint → List Char
  | .char c => quotedChar quote c
  | .half offset => '\\' :: 'u' :: hexDigits 4 (half offset).toNat

theorem map_shown_escape (code : CodePoint) : code.escape.map shown = escapeChar code.shown := by
  cases code with
  | char c => rw [escape, List.map_map]; exact List.map_id _
  | half offset => rfl

theorem any_isHalf_escape (code : CodePoint) : code.escape.any isHalf = code.isHalf := by
  cases code with
  | char c => simp [escape, isHalf]
  | half offset => rfl

theorem any_isHalf_chars (chars : List Char) : (chars.map char).any isHalf = false := by
  induction chars with
  | nil => rfl
  | cons c chars ih => exact ih

@[simp]
theorem map_shown_chars (chars : List Char) : (chars.map char).map shown = chars := by
  rw [List.map_map]
  exact List.map_id chars

@[simp]
theorem mapM_char?_chars (chars : List Char) : (chars.map char).mapM char? = some chars := by
  induction chars with
  | nil => rfl
  | cons c chars ih =>
      rw [List.map_cons, List.mapM_cons, ih]
      rfl

end CodePoint

/-! ### Texts -/

/-- A text that no encoding has a form for. -/
structure BrokenText where
  codes : List CodePoint
  broken : codes.any CodePoint.isHalf = true
deriving DecidableEq, Repr

namespace BrokenText

/-- The text as it is shown. -/
def shown (text : BrokenText) : String :=
  String.ofList (text.codes.map CodePoint.shown)

/-- The text in quotes. -/
def quoted (text : BrokenText) : String :=
  let quote := enclosingQuote (text.codes.map CodePoint.shown)
  String.ofList (quote :: text.codes.flatMap (·.quoted quote) ++ [quote])

end BrokenText

/-- A text of characters, or one that holds halves of pairs. -/
inductive CodeText where
  | plain (text : String)
  | broken (text : BrokenText)
deriving DecidableEq, Repr

namespace CodeText

instance : Inhabited CodeText := ⟨.plain ""⟩

instance : Coe String CodeText := ⟨.plain⟩

/-- The text of some code points. -/
def ofCodes (codes : List CodePoint) : CodeText :=
  if broken : codes.any CodePoint.isHalf = true then .broken ⟨codes, broken⟩
  else .plain (String.ofList (codes.map CodePoint.shown))

/-- Characters alone are a text of characters. -/
@[simp]
theorem ofCodes_chars (chars : List Char) :
    ofCodes (chars.map .char) = .plain (String.ofList chars) := by
  rw [ofCodes, dif_neg (by rw [CodePoint.any_isHalf_chars]; decide), CodePoint.map_shown_chars]

/-- The code points of a text. -/
def codes : CodeText → List CodePoint
  | .plain text => text.toList.map .char
  | .broken text => text.codes

/-- The text as it is shown. -/
def shown : CodeText → String
  | .plain text => text
  | .broken text => text.shown

/-- Is every code point a character? -/
def isWhole : CodeText → Bool
  | .plain _ => true
  | .broken _ => false

/-- The body of the double-quoted literal for a text. -/
def escape : CodeText → CodeText
  | .plain text => .plain (Text.escape text)
  | .broken text => ofCodes (text.codes.flatMap CodePoint.escape)

theorem shown_ofCodes (codes : List CodePoint) :
    (ofCodes codes).shown = String.ofList (codes.map CodePoint.shown) := by
  rw [ofCodes]
  split <;> rfl

theorem isWhole_ofCodes (codes : List CodePoint) :
    (ofCodes codes).isWhole = !codes.any CodePoint.isHalf := by
  rw [ofCodes]
  split
  · next broken => rw [broken]; rfl
  · next whole => rw [Bool.not_eq_true _ |>.mp whole]; rfl

theorem isWhole_eq (text : CodeText) : text.isWhole = !text.codes.any CodePoint.isHalf := by
  cases text with
  | plain text => rw [codes, CodePoint.any_isHalf_chars]; rfl
  | broken text => rw [codes, text.broken]; rfl

theorem shown_escape (text : CodeText) : text.escape.shown = Text.escape text.shown := by
  cases text with
  | plain text => rfl
  | broken text =>
      rw [escape, shown_ofCodes, List.map_flatMap]
      simp only [CodePoint.map_shown_escape]
      simp [shown, BrokenText.shown, Text.escape, escapeChars, List.flatMap_map]

/-- An escape neither makes nor mends halves of surrogate pairs. -/
@[simp]
theorem isWhole_escape (text : CodeText) : text.escape.isWhole = text.isWhole := by
  cases text with
  | plain text => rfl
  | broken text =>
      rw [escape, isWhole_ofCodes, List.any_flatMap, isWhole_eq, codes]
      simp only [CodePoint.any_isHalf_escape]

end CodeText

end EnumCodec.Text
