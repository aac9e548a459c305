import ShaderAssembly.CommandLine.Arguments
import ShaderAssembly.CommandLine.Session
import ShaderAssembly.Config.File

/-!
# The command

The command reads its configuration, runs the pipeline and gives the code to the output file or to
the standard output. It is a function of the file tree, the environment and the arguments; what it
does to files is the tree it gives back. All code is there before anything is written, so a run that
fails leaves the output as it was.
-/

namespace ShaderAssembly

namespace CommandLine

/-- How the command ends. -/
inductive Ending where
  /-- It is done, and this is its standard output. -/
  | done (output : String)
  | failed (message : String)
  | misused (error : UsageError)
  /-- It goes on as a session. -/
  | watching (session : Session)

def versionText : String := "sasm 0.0.10\n"

/-- What the help says of both options that override macros. -/
def overrideOrder : String :=
  "after the manifest's macros; -D and -U apply in the order given"

/-- The text that explains the command. -/
def helpText : String :=
  Text.ofLines
    ["Assemble GLSL shader source from a manifest",
     "",
     "Usage: sasm [OPTIONS] <MANIFEST>",
     "",
     "Arguments:",
     "  <MANIFEST>  Shader manifest (TOML)",
     "",
     "Options:",
     "  -o, --output <FILE>           Write the assembled code here instead of stdout",
     "      --watch                   Re-assemble whenever the manifest or a shader file changes",
     "      --no-prelude              Do not emit the built-in prelude",
     "      --glsl-version <VERSION>  Override the #version directive (\"\" removes it)",
     "  -D <NAME[=VALUE]>             Define a macro " ++ overrideOrder,
     "  -U <NAME>                     Undefine a macro " ++ overrideOrder,
     "      --config <FILE>           Configuration file (default: ~/.sasm/config.toml)",
     "  -h, --help                    Print help",
     "  -V, --version                 Print version"]

/-- The configuration of the command. One that is asked for must be there and be good; without it
the defaults take the place of one that cannot be used. -/
def loadConfig (tree : FileTree) (env : Environment) (config : Option String) :
    FileTree × Except String Config :=
  match config with
  | some path =>
    match Config.loadFrom tree path with
    | .ok config => (tree, .ok config)
    | .error _ => (tree, .error ("Failed to load config " ++ Text.quoted path))
  | none =>
    match Config.load tree env with
    | (tree, .ok config) => (tree, .ok config)
    | (tree, .error _) => (tree, .ok {})

/-- Assembles once and ends. A failure is told by its first message. -/
def assembleOnce (tree : FileTree) (pipeline : Pipeline) (output : Option String) :
    FileTree × Ending :=
  match emit tree pipeline output with
  | (after, .ok emission) => (after, .done emission.output)
  | (after, .error messages) => (after, .failed (messages.headD ""))

/-- Makes sure that an output file is there, and starts to watch. -/
def startWatching (tree : FileTree) (pipeline : Pipeline) (output : Option String) :
    FileTree × Ending :=
  let begin (tree : FileTree) : FileTree × Ending :=
    match Session.start tree pipeline output with
    | .error e => (tree, .failed e.message)
    | .ok session => (tree, .watching session)
  match output with
  | none => begin tree
  | some path =>
    if tree.contains path then begin tree
    else match tree.write path (.text "") with
      | .ok after => begin after
      | .error _ => (tree, .failed ("Failed to create " ++ Text.quoted path))

def assemble (tree : FileTree) (env : Environment) (arguments : Arguments) : FileTree × Ending :=
  match loadConfig tree env arguments.config with
  | (tree, .error message) => (tree, .failed message)
  | (tree, .ok config) =>
    let pipeline : Pipeline := ⟨arguments.manifest, config, arguments.options⟩
    if arguments.watch then startWatching tree pipeline arguments.output
    else assembleOnce tree pipeline arguments.output

def run (tree : FileTree) (env : Environment) (arguments : List String) : FileTree × Ending :=
  match parse arguments with
  | .error e => (tree, .misused e)
  | .ok .version => (tree, .done versionText)
  | .ok .help => (tree, .done helpText)
  | .ok (.assemble arguments) => assemble tree env arguments

namespace Ending

def exitCode : Ending → Nat
  | done _ => 0
  | failed _ => 1
  | misused _ => 2
  | watching _ => 0

/-- What a command that ends leaves on the standard output. -/
def standardOutput : Ending → String
  | done output => output
  | _ => ""

/-- The first line of a failure. -/
def errorLine? : Ending → Option String
  | failed message => some ("Error: " ++ message)
  | _ => none

end Ending

end CommandLine

end ShaderAssembly
