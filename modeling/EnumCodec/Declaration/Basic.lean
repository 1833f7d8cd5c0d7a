import EnumCodec.Value

/-!
# EnumCodec.Declaration.Basic

**Declared enums.** A module declares enums with members; decorators and annotations are attributes
whose names have been followed through the imports of the module. No attribute is interpreted here.
-/

namespace EnumCodec

/-- A decorator of a class, or a call in the annotation of a member. -/
structure Attribute where
  /-- The last part of the qualified name. -/
  name : String := ""
  /-- The name followed through the imports. -/
  qualifiedName : String := ""
  /-- The arguments by position; what has no static value is `none`. -/
  args : List Value := []
  /-- The arguments by keyword, in the order in which the keywords first appear. -/
  keywords : List (String × Value) := []
deriving Inhabited

/-- A name that is assigned in the body of an enum. -/
structure Member where
  name : String := ""
  /-- Does the assignment make a member of the enum? -/
  hasValue : Bool := true
  attributes : List Attribute := []
  line : Nat := 0
deriving Inhabited

/-- An enum. -/
structure EnumDeclaration where
  /-- The names of the classes around the enum and its own, joined by dots. -/
  name : String := ""
  module : String := ""
  isPublic : Bool := true
  members : List Member := []
  attributes : List Attribute := []
  line : Nat := 0
deriving Inhabited

/-- The name of an enum with its module before it. -/
def EnumDeclaration.fullName (enum : EnumDeclaration) : String :=
  if enum.module = "" then enum.name else enum.module ++ "." ++ enum.name

/-- The enums of a module in source order. -/
structure ModuleDeclarations where
  module : String := ""
  enums : List EnumDeclaration := []
deriving Inhabited

namespace ModuleDeclarations

/-- The names that an argument denotes in a module. A text denotes itself unless it is empty; no name
holds half of a surrogate pair. A reference denotes its full name, and its short name too if its
namespace is empty or the module. -/
def denotedNames (module : String) : Value → List String
  | .text name => if name = "" then [] else [name]
  | .ref ref =>
    ref.fullName ::
      (if ref.namespacePath = "" ∨ ref.namespacePath = module then [ref.name] else [])
  | _ => []

/-- Is the enum called by one of the names, with or without its module? -/
def goesBy (names : List String) (enum : EnumDeclaration) : Bool :=
  names.contains enum.name || names.contains enum.fullName

/-- The place of the first enum that an argument denotes. -/
def findIndex? (declarations : ModuleDeclarations) (target : Value) : Option Nat :=
  declarations.enums.findIdx? (goesBy (denotedNames declarations.module target))

/-- The first enum that an argument denotes. -/
def find? (declarations : ModuleDeclarations) (target : Value) : Option EnumDeclaration :=
  declarations.enums.find? (goesBy (denotedNames declarations.module target))

end ModuleDeclarations

end EnumCodec
