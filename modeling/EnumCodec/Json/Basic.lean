import EnumCodec.Number.Binary64
import EnumCodec.Text.CodePoint

/-!
# EnumCodec.Json.Basic

**JSON values.** Integers and floating-point numbers are kept apart, and an object is the list of its
entries in the order in which their keys first appear. A text or a key that names half of a surrogate
pair keeps its code points.
-/

namespace EnumCodec

open Number

/-- A JSON value. -/
inductive Json where
  /-- The value `null`. -/
  | null
  /-- A truth value. -/
  | bool (value : Bool)
  /-- A number written without fraction and exponent. -/
  | int (value : Int)
  /-- A number written with a fraction or an exponent, or one of the words for what is no finite
  number. -/
  | float (value : Binary64)
  /-- A text. -/
  | string (value : String)
  /-- A text that holds halves of surrogate pairs. -/
  | broken (value : Text.BrokenText)
  /-- A sequence of values. -/
  | array (items : List Json)
  /-- Entries with distinct keys. -/
  | object (entries : List (String × Json))
  /-- Entries with distinct keys, some of which hold halves of surrogate pairs. -/
  | brokenObject (entries : List (Text.CodeText × Json))
deriving Inhabited

namespace Json

/-- The value that is a text. -/
def ofText : Text.CodeText → Json
  | .plain value => .string value
  | .broken value => .broken value

/-- The entries with plain keys. -/
def plainEntries (entries : List (Text.CodeText × Json)) : List (String × Json) :=
  entries.filterMap fun
    | (.plain key, value) => some (key, value)
    | (.broken _, _) => none

@[simp]
theorem plainEntries_plain (key : String) (value : Json) (rest : List (Text.CodeText × Json)) :
    plainEntries ((.plain key, value) :: rest) = (key, value) :: plainEntries rest := rfl

@[simp]
theorem plainEntries_broken (key : Text.BrokenText) (value : Json)
    (rest : List (Text.CodeText × Json)) :
    plainEntries ((.broken key, value) :: rest) = plainEntries rest := rfl

/-- The object with some entries. -/
def ofEntries (entries : List (Text.CodeText × Json)) : Json :=
  if entries.all (·.1.isWhole) then .object (plainEntries entries) else .brokenObject entries

/-- The value of an object's key. -/
def get? (json : Json) (key : String) : Option Json :=
  match json with
  | .object entries => entries.lookup key
  | .brokenObject entries => (plainEntries entries).lookup key
  | _ => none

/-- What counts as true: everything but null, false, the zeros, and empty texts, arrays and
objects. -/
def truthy : Json → Bool
  | .null => false
  | .bool value => value
  | .int value => value != 0
  | .float value => !value.isZero
  | .string value => !value.isEmpty
  | .broken _ => true
  | .array items => !items.isEmpty
  | .object entries => !entries.isEmpty
  | .brokenObject entries => !entries.isEmpty

end Json

end EnumCodec
