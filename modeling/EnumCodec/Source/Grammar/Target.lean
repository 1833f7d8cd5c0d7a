import EnumCodec.Source.Expr

/-!
# EnumCodec.Source.Grammar.Target

**Expressions that can stand left of an assignment.** A target is a name, an attribute or a subscript,
or a tuple or list of targets. A star may stand before a target that is assigned to, and nowhere
else.
-/

namespace EnumCodec.Source

/-- A name, an attribute or a subscript. -/
def Expr.isSingleTarget : Expr → Bool
  | .name _ => true
  | .attribute _ _ => true
  | .subscript _ _ => true
  | _ => false

mutual

/-- Can the expression be assigned to? `stars` tells whether items may have a star before them. -/
def Expr.isTarget (stars : Bool) : Expr → Bool
  | .name _ => true
  | .attribute _ _ => true
  | .subscript _ _ => true
  | .tuple items => areTargets stars items
  | .list items => areTargets stars items
  | _ => false

/-- Can all the items of a tuple or list be assigned to? -/
def areTargets (stars : Bool) : List Expr → Bool
  | [] => true
  | .starred value :: rest => stars && value.isTarget stars && areTargets stars rest
  | item :: rest => item.isTarget stars && areTargets stars rest

end

/-- Can the expression be assigned to, with a star before it or not? -/
def Expr.isStarTarget : Expr → Bool
  | .starred value => value.isTarget true
  | value => value.isTarget true

end EnumCodec.Source
