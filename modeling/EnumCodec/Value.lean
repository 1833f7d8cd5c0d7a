import EnumCodec.Declaration.TypeRef
import EnumCodec.Json.Basic
import EnumCodec.Number.Shortest
import EnumCodec.Text.Quoted

/-!
# EnumCodec.Value

**Values that source code spells out.** A literal in the arguments of a marker has such a value, and
so has the name of a type. Two values are compared across the kinds of numbers, so that `1`, `1.0` and
`True` are one key of a mapping, and each value has a text for messages.
-/

namespace EnumCodec

open Number

/-- The value of a literal expression, or a reference to a type. -/
inductive Value where
  /-- The value `None`. -/
  | none
  /-- A truth value. -/
  | bool (value : Bool)
  /-- An integer of any size. -/
  | int (value : Int)
  /-- A floating-point number. -/
  | float (value : Binary64)
  /-- A complex number. -/
  | complex (re im : Binary64)
  /-- A text. -/
  | text (value : String)
  /-- A text that holds halves of surrogate pairs. -/
  | broken (value : Text.BrokenText)
  /-- A byte string. -/
  | bytes (value : List UInt8)
  /-- The value `...`. -/
  | ellipsis
  /-- A list. -/
  | list (items : List Value)
  /-- A tuple. -/
  | tuple (items : List Value)
  /-- A set; its elements are distinct. -/
  | set (items : List Value)
  /-- A mapping; its keys are distinct and in the order in which they first appear. -/
  | dict (entries : List (Value × Value))
  /-- A reference to a type. -/
  | ref (target : TypeRef)
deriving Inhabited

namespace Value

/-- The value that is a text. -/
def ofText : Text.CodeText → Value
  | .plain value => .text value
  | .broken value => .broken value

/-- The text that a value is. -/
def text? : Value → Option Text.CodeText
  | .text value => some (.plain value)
  | .broken value => some (.broken value)
  | _ => Option.none

/-! ### Equality -/

/-- A truth value as the number that it equals; any other value stays. -/
def unbool : Value → Value
  | .bool value => .int (if value then 1 else 0)
  | value => value

/-- Equality of two values that may be numbers, across their kinds; false if one is no number. -/
def numericEq (a b : Value) : Bool :=
  match unbool a, unbool b with
  | .int a, .int b => a == b
  | .int a, .float b => b.equalsInt a
  | .int a, .complex re im => re.equalsInt a && im.isZero
  | .float a, .int b => a.equalsInt b
  | .float a, .float b => a.numericEq b
  | .float a, .complex re im => a.numericEq re && im.isZero
  | .complex re im, .int b => re.equalsInt b && im.isZero
  | .complex re im, .float b => re.numericEq b && im.isZero
  | .complex re im, .complex re' im' => re.numericEq re' && im.numericEq im'
  | _, _ => false

mutual

/-- Are two values equal? -/
def same : Value → Value → Bool
  | .none, .none => true
  | .text a, .text b => a == b
  | .broken a, .broken b => a == b
  | .bytes a, .bytes b => a == b
  | .ellipsis, .ellipsis => true
  | .ref a, .ref b => a == b
  | .list a, .list b => sameItems a b
  | .tuple a, .tuple b => sameItems a b
  | .set a, .set b => a.length == b.length && eachWithin a b
  | .dict a, .dict b => a.length == b.length && entriesWithin a b
  | a, b => numericEq a b

/-- Are two sequences equal, item by item? -/
def sameItems : List Value → List Value → Bool
  | [], [] => true
  | a :: as, b :: bs => same a b && sameItems as bs
  | _, _ => false

/-- Is each value equal to one of the others? -/
def eachWithin : List Value → List Value → Bool
  | [], _ => true
  | a :: as, bs => bs.any (fun b => same a b) && eachWithin as bs

/-- Is each entry equal to one of the others in key and value? -/
def entriesWithin : List (Value × Value) → List (Value × Value) → Bool
  | [], _ => true
  | (k, v) :: rest, others =>
    others.any (fun entry => same k entry.1 && same v entry.2) && entriesWithin rest others

end

/-- Puts a value into a set, if no equal one is there. -/
def insertItem (items : List Value) (item : Value) : List Value :=
  if items.any (fun other => same other item) then items else items ++ [item]

/-- Puts an entry into a mapping: the first of equal keys stays, and the last value. -/
def insertEntry : List (Value × Value) → Value → Value → List (Value × Value)
  | [], key, value => [(key, value)]
  | (k, v) :: rest, key, value =>
    if same k key then (k, value) :: rest else (k, v) :: insertEntry rest key value

mutual

/-- Can the value be a key or an element of a set? Lists, sets and mappings cannot, nor can a tuple
that holds one. -/
def isKey : Value → Bool
  | .list _ => false
  | .set _ => false
  | .dict _ => false
  | .tuple items => areKeys items
  | _ => true

/-- Can all the values be keys? -/
def areKeys : List Value → Bool
  | [] => true
  | item :: rest => isKey item && areKeys rest

end

/-! ### Texts -/

/-- Texts joined by commas. -/
def commaSeparated (parts : List String) : String :=
  ", ".intercalate parts

mutual

/-- The text of a value in a message. -/
def describe : Value → String
  | .none => "None"
  | .bool value => if value then "True" else "False"
  | .int value => toString value
  | .float value => value.text true
  | .complex re im => complexText re im
  | .text value => Text.quoted value
  | .broken value => value.quoted
  | .bytes value => Text.quotedBytes value
  | .ellipsis => "Ellipsis"
  | .list items => "[" ++ commaSeparated (describeAll items) ++ "]"
  | .tuple [item] => "(" ++ describe item ++ ",)"
  | .tuple items => "(" ++ commaSeparated (describeAll items) ++ ")"
  | .set [] => "set()"
  | .set items => "\x7b" ++ commaSeparated (describeAll items) ++ "\x7d"
  | .dict entries => "\x7b" ++ commaSeparated (describeEntries entries) ++ "\x7d"
  | .ref target =>
    "TypeRef(name=" ++ Text.quoted target.name ++ ", namespace="
      ++ Text.quoted target.namespacePath ++ ")"

/-- The texts of values. -/
def describeAll : List Value → List String
  | [] => []
  | item :: rest => describe item :: describeAll rest

/-- The texts of the entries of a mapping. -/
def describeEntries : List (Value × Value) → List String
  | [] => []
  | (key, value) :: rest => (describe key ++ ": " ++ describe value) :: describeEntries rest

end

/-- The text of a value that is put into another text: a text stands for itself. -/
def displayText (value : Value) : Text.CodeText :=
  value.text?.getD value.describe

@[simp]
theorem displayText_ofText (text : Text.CodeText) : (ofText text).displayText = text := by
  cases text <;> rfl

/-- The text of a value that is put into another text, as it is shown. -/
def display (value : Value) : String :=
  value.displayText.shown

/-! ### JSON values as values -/

mutual

/-- The value that a JSON value stands for. -/
def ofJson : Json → Value
  | .null => .none
  | .bool value => .bool value
  | .int value => .int value
  | .float value => .float value
  | .string value => .text value
  | .broken value => .broken value
  | .array items => .list (ofJsonItems items)
  | .object entries => .dict (ofJsonEntries entries)
  | .brokenObject entries => .dict (ofJsonBrokenEntries entries)

/-- The values that JSON values stand for. -/
def ofJsonItems : List Json → List Value
  | [] => []
  | item :: rest => ofJson item :: ofJsonItems rest

/-- The entries that an object's entries stand for. -/
def ofJsonEntries : List (String × Json) → List (Value × Value)
  | [] => []
  | (key, value) :: rest => (.text key, ofJson value) :: ofJsonEntries rest

/-- The entries that an object's entries stand for, whatever their keys are. -/
def ofJsonBrokenEntries : List (Text.CodeText × Json) → List (Value × Value)
  | [] => []
  | (key, value) :: rest => (ofText key, ofJson value) :: ofJsonBrokenEntries rest

end

/-- Texts stand for themselves. -/
theorem ofJsonItems_strings (texts : List String) :
    ofJsonItems (texts.map .string) = texts.map .text := by
  induction texts with
  | nil => rfl
  | cons text texts ih => rw [List.map_cons, ofJsonItems, ih, ofJson, List.map_cons]

theorem ofJsonItems_ofText (texts : List Text.CodeText) :
    ofJsonItems (texts.map .ofText) = texts.map .ofText := by
  induction texts with
  | nil => rfl
  | cons text texts ih =>
    have own : ofJson (.ofText text) = .ofText text := by cases text <;> rfl
    rw [List.map_cons, ofJsonItems, ih, own, List.map_cons]

end Value

end EnumCodec
