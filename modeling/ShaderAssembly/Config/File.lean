import ShaderAssembly.Config.Basic
import ShaderAssembly.Config.Error
import ShaderAssembly.FileTree.Change
import ShaderAssembly.Text.Lines

/-!
# The configuration file

The configuration lies in a directory of its own, which the environment names or which lies in the
home directory. When it is asked for and there is no file, a file with the defaults is written
first; a file that is there is never touched.
-/

namespace ShaderAssembly

/-- What the environment says about where the configuration is. -/
structure Environment where
  configDir : Option String
  home : Option String

def Environment.configDirectory (env : Environment) : Except SetupError String :=
  match env.configDir, env.home with
  | some dir, _ => .ok dir
  | none, some home => .ok (Path.join home ".sasm")
  | none, none => .error .noHomeDirectory

def Environment.configFile (env : Environment) : Except SetupError String :=
  env.configDirectory.map (Path.join · "config.toml")

namespace Config

/-- The lines of the file that is written when there is none. -/
def defaultLines : List String :=
  ["# SASM Shader Assembler Configuration",
   "#",
   "# include_dirs are searched in order for relative shader file names.",
   "# Every *.glsl file in resource_dirs can be added as a resource by file name.",
   "",
   "[general]",
   "default_version = \"330\"",
   "pre_added_source = true",
   "",
   "[paths]",
   "include_dirs = []",
   "resource_dirs = []"]

def defaultText : String := Text.ofLines defaultLines

def loadFrom (tree : FileTree) (path : String) : Except SetupError Config := do
  let text ← (tree.readText path).mapError (.unreadable path)
  match parse? text with
  | some config => .ok config
  | none => .error (.malformed path)

/-- Writes the defaults to a file in a directory, which is created if it is missing. -/
def createIn (tree : FileTree) (dir file : String) : FileTree × Except SetupError Unit :=
  match tree.makeDirectories dir with
  | (tree, some e) => (tree, .error (.noDirectory dir e))
  | (tree, none) =>
    match tree.write file (.text defaultText) with
    | .error e => (tree, .error (.unwritable file e))
    | .ok tree => (tree, .ok ())

/-- Writes the defaults where the environment wants the configuration. -/
def createDefault (tree : FileTree) (env : Environment) : FileTree × Except SetupError Unit :=
  match env.configDirectory, env.configFile with
  | .ok dir, .ok file => createIn tree dir file
  | .error e, _ => (tree, .error e)
  | _, .error e => (tree, .error e)

/-- Reads the configuration that the environment asks for, after writing it if it is missing. -/
def load (tree : FileTree) (env : Environment) : FileTree × Except SetupError Config :=
  match env.configFile with
  | .error e => (tree, .error e)
  | .ok file =>
    if tree.contains file then (tree, loadFrom tree file)
    else match createDefault tree env with
      | (tree, .error e) => (tree, .error e)
      | (tree, .ok ()) => (tree, loadFrom tree file)

end Config

end ShaderAssembly
