import ShaderAssembly.FileTree.Path

/-!
# Debouncing

Editors tend to write a file several times in a row. A debouncer accepts a call for a path unless it
accepted one for the same path less than a window of time before. A rejected call leaves no trace,
so however fast calls come, one is accepted whenever the window is over; and calls for other paths
do not matter.
-/

namespace ShaderAssembly

/-- The window, and for each path the time of the last call that was accepted. Times are in one
unit, whichever it is. -/
structure Debouncer where
  window : Nat
  accepted : List (String × Nat)

namespace Debouncer

def fresh (window : Nat) : Debouncer := ⟨window, []⟩

def lastAccepted? (d : Debouncer) (path : String) : Option Nat :=
  (d.accepted.find? fun (p, _) => Path.same p path).map (·.2)

/-- Whether a call is accepted. Where time went backwards no time has passed. -/
def isReady (d : Debouncer) (path : String) (now : Nat) : Bool :=
  match d.lastAccepted? path with
  | some last => !decide (now - last < d.window)
  | none => true

def ready (d : Debouncer) (path : String) (now : Nat) : Bool × Debouncer :=
  if d.isReady path now then (true, { d with accepted := (path, now) :: d.accepted })
  else (false, d)

def answers (d : Debouncer) : List (String × Nat) → List Bool
  | [] => []
  | (path, now) :: calls =>
    let (answer, after) := d.ready path now
    answer :: after.answers calls

end Debouncer

end ShaderAssembly
