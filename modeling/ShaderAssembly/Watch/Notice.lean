import ShaderAssembly.Watch.Debounce

/-!
# From notices to reports

The system sends a notice for whatever happens in a watched directory. A watcher reports a change
only if something was created or modified, and names the first path of the notice that is no
directory. Reports of one path are debounced; all other notices pass by the debouncer, so none of
them can hide a change. A failure is always reported.
-/

namespace ShaderAssembly

/-- What a notice says happened. -/
inductive Happening where
  | access
  | create
  | modify
  | remove
  | other
  deriving DecidableEq, Repr

/-- Whether what happened can change the input of a shader. -/
def Happening.isChange : Happening → Bool
  | create | modify => true
  | _ => false

inductive Notice where
  | event (happening : Happening) (paths : List String)
  | failure (message : String)
  deriving DecidableEq, Repr

inductive Report where
  | changed (path : String)
  | failed (message : String)
  deriving DecidableEq, Repr

/-- The path that a notice reports as changed, before debouncing. -/
def Notice.changedPath? (isDirectory : String → Bool) : Notice → Option String
  | event happening paths =>
    if happening.isChange then paths.find? (!isDirectory ·) else none
  | failure _ => none

namespace Debouncer

def receive (d : Debouncer) (isDirectory : String → Bool) (now : Nat) (notice : Notice) :
    Option Report × Debouncer :=
  match notice, notice.changedPath? isDirectory with
  | .failure message, _ => (some (.failed message), d)
  | .event _ _, none => (none, d)
  | .event _ _, some path =>
    match d.ready path now with
    | (true, after) => (some (.changed path), after)
    | (false, after) => (none, after)

def receiveAll (d : Debouncer) (isDirectory : String → Bool) :
    List (Nat × Notice) → List Report × Debouncer
  | [] => ([], d)
  | (now, notice) :: notices =>
    let (report, after) := d.receive isDirectory now notice
    let (reports, last) := after.receiveAll isDirectory notices
    (report.toList ++ reports, last)

end Debouncer

end ShaderAssembly
