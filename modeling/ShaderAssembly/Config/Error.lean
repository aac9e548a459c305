import ShaderAssembly.FileTree.Error
import ShaderAssembly.FileTree.Path
import ShaderAssembly.Text.Quoted
import ShaderAssembly.Toml.Document

/-!
# Why a shader cannot be set up

The causes for which a configuration or a manifest cannot be used. Each names the path it is about
as the user wrote it or as it was joined from what the user wrote.
-/

namespace ShaderAssembly

/-- What is wrong with a manifest that can be read. -/
inductive ManifestFault where
  /-- A source entry names nothing. -/
  | noSource
  /-- A source entry names several things. -/
  | severalSources
  /-- The manifests in progress, and one of them that is included again. -/
  | libraryCycle (chain : List Location) (again : Location)
  /-- Any other fault, in its own words. -/
  | other (message : String)
  deriving DecidableEq, Repr

def ManifestFault.message : ManifestFault → String
  | noSource => "source entry needs one of file, string or resource"
  | severalSources => "source entry sets more than one of file, string and resource"
  | libraryCycle chain again =>
    "library cycle: " ++ String.intercalate " -> " ((chain ++ [again]).map Location.path)
  | other message => message

/-- The cause for which a shader cannot be set up. -/
inductive SetupError where
  | noHomeDirectory
  | unreadable (path : String) (cause : FileError)
  | malformed (path : String)
  | unwritableConfig (message : String)
  | unwritable (path : String) (cause : FileError)
  | noDirectory (path : String) (cause : FileError)
  | unwatchable (message : String)
  | invalidManifest (path : String) (fault : ManifestFault)
  deriving DecidableEq, Repr

namespace SetupError

open Text (quoted)

def message : SetupError → String
  | noHomeDirectory => "Could not determine home directory"
  | unreadable path cause => "Failed to read " ++ quoted path ++ ": " ++ cause.message
  | malformed path => "Failed to parse " ++ quoted path ++ ": " ++ Toml.faultText
  | unwritableConfig message => "Failed to serialize config: " ++ message
  | unwritable path cause => "Failed to write " ++ quoted path ++ ": " ++ cause.message
  | noDirectory path cause => "Failed to create " ++ quoted path ++ ": " ++ cause.message
  | unwatchable message => "Failed to watch files: " ++ message
  | invalidManifest path fault => "Invalid manifest " ++ quoted path ++ ": " ++ fault.message

/-- The failed file operation behind a cause, if there is one. -/
def fileError? : SetupError → Option FileError
  | unreadable _ cause => some cause
  | unwritable _ cause => some cause
  | noDirectory _ cause => some cause
  | _ => none

end SetupError

end ShaderAssembly
