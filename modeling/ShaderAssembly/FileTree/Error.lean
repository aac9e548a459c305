/-!
# Why a file cannot be used

Each failure of a file operation has one cause, and each cause one message. The causes of the file
tree itself carry the numbers by which operating systems know them; the others come from the places
that look files up on behalf of a shader.
-/

namespace ShaderAssembly

/-- The cause of a failed file operation. -/
inductive FileError where
  | notFound
  | busy
  | alreadyExists
  | notADirectory
  | isADirectory
  | invalidMove
  | nameTooLong
  | directoryNotEmpty
  /-- The path holds a null character. -/
  | nullInPath
  /-- The file is no UTF-8 text. -/
  | notText
  /-- A search of that many include directories found no such file. -/
  | notLocated (path : String) (searched : Nat)
  /-- A set of named texts has none of that name. -/
  | noSuchText (name : String)
  /-- A table of resources was asked for a file. -/
  | resourcesOnly (path : String)
  /-- Any other cause, in its own words. -/
  | other (message : String)
  deriving DecidableEq, Repr

namespace FileError

def message : FileError → String
  | notFound => "No such file or directory (os error 2)"
  | busy => "Device or resource busy (os error 16)"
  | alreadyExists => "File exists (os error 17)"
  | notADirectory => "Not a directory (os error 20)"
  | isADirectory => "Is a directory (os error 21)"
  | invalidMove => "Invalid argument (os error 22)"
  | nameTooLong => "File name too long (os error 36)"
  | directoryNotEmpty => "Directory not empty (os error 39)"
  | nullInPath => "file name contained an unexpected NUL byte"
  | notText => "stream did not contain valid UTF-8"
  | notLocated path searched => path ++ " not found in " ++ toString searched ++ " include dir(s)"
  | noSuchText name => name
  | resourcesOnly path => "resource table cannot read file " ++ path
  | other message => message

end FileError

end ShaderAssembly
