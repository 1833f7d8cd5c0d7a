import EnumCodec.Formatter.Black
import EnumCodec.Formatter.Ruff

/-!
# EnumCodec.Formatter.Tools

**The two formatters side by side.** What they do is given. Each has a state of its own, which lives as
long as the generator that uses it.
-/

namespace EnumCodec

/-- What the formatters do. -/
structure Tools where
  ruff : Ruff.Environment
  black : Black.Environment

/-- No formatter is there. -/
def Tools.absent : Tools where
  ruff := { version := .missing, run := fun _ _ => .missing }
  black := { installed := false, versions := [], answer := fun _ _ => .refused }

instance : Inhabited Tools := ⟨.absent⟩

/-- What the formatters know and have done. -/
structure FormatterState where
  ruff : Ruff.State := {}
  /-- The texts that have been given to the library. -/
  black : List Black.Call := []
deriving Inhabited

namespace FormatterState

/-- An activity of the program. -/
def onRuff {α : Type} (action : StateM Ruff.State α) : StateM FormatterState α := do
  let state ← get
  let (value, ruff) := action.run state.ruff
  set { state with ruff }
  return value

/-- An activity of the library. -/
def onBlack {α : Type} (action : StateM (List Black.Call) α) : StateM FormatterState α := do
  let state ← get
  let (value, black) := action.run state.black
  set { state with black }
  return value

end FormatterState

namespace FormatterTool

open FormatterState

/-- Can the formatter be used? -/
def isAvailable (tools : Tools) : FormatterTool → StateM FormatterState Bool
  | .ruff => onRuff (Ruff.isAvailable tools.ruff)
  | .black => return tools.black.installed

/-- Formats a converter. -/
def formatConverter (tools : Tools) (tool : FormatterTool) (settings : FormatterSettings)
    (code : Content) : StateM FormatterState (Except FormatterError Content) :=
  match tool with
  | .ruff => onRuff (Ruff.formatConverter tools.ruff settings code)
  | .black => onBlack (Black.formatConverter tools.black settings code)

end FormatterTool

end EnumCodec
