import ShaderAssembly.Pipeline.Basic
import ShaderAssembly.Pipeline.Override

/-!
# Command line arguments

The command takes one manifest and options, in any order. A long option has its value after an
equals sign or as the next argument; a short one has it attached, with or without an equals sign, or
as the next argument. The next argument is a value unless it starts with a dash and goes on. After
two dashes nothing is an option.

The values of the two options about macros are collected in one list each, and their places on the
command line in another one; by these places the operations are put in order again.
-/

namespace ShaderAssembly

/-- What is wrong with the arguments. -/
inductive UsageError where
  | unknownOption (argument : String)
  | missingValue (option : String)
  | unexpectedValue (option : String)
  | repeated (option : String)
  | emptyPath (option : String)
  | extraArgument (argument : String)
  | missingManifest
  deriving DecidableEq, Repr

def UsageError.message : UsageError → String
  | unknownOption argument => "unexpected argument " ++ argument
  | missingValue option => "a value is required for " ++ option
  | unexpectedValue option => "unexpected value for " ++ option
  | repeated option => option ++ " cannot be used multiple times"
  | emptyPath option => "a path is required for " ++ option
  | extraArgument argument => "unexpected argument " ++ argument
  | missingManifest => "a manifest is required"

namespace CommandLine

/-- The options without a value. -/
inductive Flag where
  | watch
  | noPrelude
  | version
  | help
  deriving DecidableEq, Repr

/-- The options with a value. -/
inductive ValueOption where
  | output
  | version
  | config
  | define
  | undefine
  deriving DecidableEq, Repr

def Flag.name : Flag → String
  | watch => "--watch"
  | noPrelude => "--no-prelude"
  | version => "--version"
  | help => "--help"

def ValueOption.name : ValueOption → String
  | output => "--output"
  | version => "--glsl-version"
  | config => "--config"
  | define => "-D"
  | undefine => "-U"

/-- What an argument is, taken for itself. -/
inductive Argument where
  | plain
  | endOfOptions
  | flag (flag : Flag)
  | option (option : ValueOption) (attached : Option String)
  | bad (error : UsageError)
  deriving DecidableEq, Repr

def longFlag? (name : String) : Option Flag :=
  [Flag.watch, .noPrelude, .version, .help].find? (·.name == name)

def longOption? (name : String) : Option ValueOption :=
  [ValueOption.output, .version, .config].find? (·.name == name)

/-- What a long option is, given its name with the dashes and its value. -/
def long (name : String) (value : Option String) : Argument :=
  match longFlag? name, longOption? name, value with
  | some flag, _, none => .flag flag
  | some flag, _, some _ => .bad (.unexpectedValue flag.name)
  | none, some option, value => .option option value
  | none, none, _ => .bad (.unknownOption name)

/-- The value attached to a short option, without the equals sign before it. -/
def attachedValue : List Char → Option String
  | [] => none
  | '=' :: rest => some (String.ofList rest)
  | rest => some (String.ofList rest)

/-- What an argument is. -/
def classify (argument : String) : Argument :=
  match argument.toList with
  | ['-', '-'] => .endOfOptions
  | '-' :: '-' :: rest =>
    match Text.splitFirst '=' rest with
    | some (name, value) => long ("--" ++ String.ofList name) (some (String.ofList value))
    | none => long argument none
  | ['-'] => .plain
  | '-' :: 'o' :: rest => .option .output (attachedValue rest)
  | '-' :: 'D' :: rest => .option .define (attachedValue rest)
  | '-' :: 'U' :: rest => .option .undefine (attachedValue rest)
  | '-' :: 'V' :: _ => .flag .version
  | '-' :: 'h' :: _ => .flag .help
  | '-' :: _ => .bad (.unknownOption argument)
  | _ => .plain

/-- The values of an option that may be repeated and, in a list of their own, their places. -/
structure Repeated where
  values : List String := []
  places : List Nat := []
  deriving Repr

def Repeated.add (repeated : Repeated) (place : Nat) (value : String) : Repeated :=
  { values := repeated.values ++ [value], places := repeated.places ++ [place] }

/-- The arguments read so far. -/
structure Collected where
  manifest : Option String := none
  output : Option String := none
  config : Option String := none
  version : Option String := none
  watch : Bool := false
  noPrelude : Bool := false
  defines : Repeated := {}
  undefines : Repeated := {}
  place : Nat := 0
  deriving Repr

/-- The arguments of a command that assembles. -/
structure Arguments where
  manifest : String
  output : Option String
  config : Option String
  watch : Bool
  options : BuildOptions

/-- What the user asks for. -/
inductive Request where
  | assemble (arguments : Arguments)
  | version
  | help

/-- A value where there was none. -/
def setOnce (option : String) (old : Option String) (new : String) :
    Except UsageError (Option String) :=
  if old.isSome then .error (.repeated option) else .ok (some new)

/-- A path where there was none. -/
def setPathOnce (option : String) (old : Option String) (new : String) :
    Except UsageError (Option String) :=
  if new.isEmpty then .error (.emptyPath option) else setOnce option old new

/-- The macro operations that the values ask for, in the order of their places. -/
def inOrder (defines undefines : Repeated) : List MacroOp :=
  let definitions := defines.places.zip (defines.values.map MacroOp.ofDefinition)
  let removals := undefines.places.zip (undefines.values.map MacroOp.ofRemoval)
  ((definitions ++ removals).mergeSort fun a b => a.1 ≤ b.1).map (·.2)

namespace Collected

/-- Takes the value of an option. -/
def setOption (c : Collected) (option : ValueOption) (value : String) :
    Except UsageError Collected :=
  match option with
  | .output => do
    return { c with output := ← setPathOnce option.name c.output value, place := c.place + 1 }
  | .config => do
    return { c with config := ← setPathOnce option.name c.config value, place := c.place + 1 }
  | .version => do
    return { c with version := ← setOnce option.name c.version value, place := c.place + 1 }
  | .define => .ok { c with defines := c.defines.add c.place value, place := c.place + 1 }
  | .undefine => .ok { c with undefines := c.undefines.add c.place value, place := c.place + 1 }

def setManifest (c : Collected) (argument : String) : Except UsageError Collected :=
  match c.manifest with
  | some _ => .error (.extraArgument argument)
  | none =>
    if argument.isEmpty then .error (.emptyPath "the manifest")
    else .ok { c with manifest := some argument, place := c.place + 1 }

def finish (c : Collected) : Except UsageError Request :=
  match c.manifest with
  | none => .error .missingManifest
  | some manifest =>
    .ok (.assemble
      { manifest := manifest
        output := c.output
        config := c.config
        watch := c.watch
        options :=
          { version := c.version
            noPrelude := c.noPrelude
            macros := inOrder c.defines c.undefines } })

/-- Reads arguments none of which is an option. -/
def readPlain (c : Collected) : List String → Except UsageError Request
  | [] => c.finish
  | argument :: rest => do (← c.setManifest argument).readPlain rest

def read (c : Collected) : List String → Except UsageError Request
  | [] => c.finish
  | argument :: rest =>
    match classify argument with
    | .bad e => .error e
    | .endOfOptions => c.readPlain rest
    | .plain => do (← c.setManifest argument).read rest
    | .flag .version => .ok .version
    | .flag .help => .ok .help
    | .flag .watch =>
      if c.watch then .error (.repeated Flag.watch.name) else { c with watch := true }.read rest
    | .flag .noPrelude =>
      if c.noPrelude then .error (.repeated Flag.noPrelude.name)
      else { c with noPrelude := true }.read rest
    | .option option (some value) => do (← c.setOption option value).read rest
    | .option option none =>
      match rest with
      | [] => .error (.missingValue option.name)
      | value :: rest =>
        if classify value = .plain then do (← c.setOption option value).read rest
        else .error (.missingValue option.name)

end Collected

def parse (arguments : List String) : Except UsageError Request := ({} : Collected).read arguments

end CommandLine

end ShaderAssembly
