/-!
# Macro operations

A shader holds a sequence of macro operations. Order matters and nothing is merged: what a name
means in the end is decided by the last operation on it.
-/

namespace ShaderAssembly

inductive MacroOp where
  | define (name value : String)
  | undefine (name : String)
  deriving DecidableEq, Repr

namespace MacroOp

def name : MacroOp → String
  | define name _ => name
  | undefine name => name

/-- The directive for an operation. A value that is empty is not separated from its name. -/
def directive : MacroOp → String
  | define name value =>
    if value.isEmpty then "#define " ++ name else "#define " ++ name ++ " " ++ value
  | undefine name => "#undef " ++ name

end MacroOp

/-- The end of a sequence at which something is added. -/
inductive Side where
  | back
  | front
  deriving DecidableEq, Repr, Inhabited

/-- Adds to one end of a list. -/
def Side.add {α : Type} (side : Side) (x : α) (xs : List α) : List α :=
  match side with
  | back => xs ++ [x]
  | front => x :: xs

end ShaderAssembly
