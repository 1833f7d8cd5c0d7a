/-!
# EnumCodec.Declaration.TypeRef

**References to types.** A reference is a short name and the dotted path of the namespace that holds
it; the path is empty for a name that is bare or local.
-/

namespace EnumCodec

/-- A named type in a namespace. -/
structure TypeRef where
  /-- The last part of the type's name. -/
  name : String := ""
  /-- The dotted path before it, or nothing. -/
  namespacePath : String := ""
deriving DecidableEq, Repr, Inhabited

/-- The namespace and the name joined by a dot, or the name alone. -/
def TypeRef.fullName (ref : TypeRef) : String :=
  if ref.namespacePath = "" then ref.name else ref.namespacePath ++ "." ++ ref.name

end EnumCodec
