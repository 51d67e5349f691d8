import ApiAtlas.Text.Blank

/-!
# Paths of files

How the text of a path is taken apart, and why a file or directory cannot be used.
-/

namespace ApiAtlas.Files

inductive FileError where
  | notFound
  | alreadyThere
  | busy
  | notDirectory
  | isDirectory
  | nameTooLong
  | zeroByte
  | other (detail : String)
  deriving DecidableEq, Repr

def FileError.message : FileError → String
  | .notFound => "No such file or directory (os error 2)"
  | .alreadyThere => "File exists (os error 17)"
  | .busy => "Device or resource busy (os error 16)"
  | .notDirectory => "Not a directory (os error 20)"
  | .isDirectory => "Is a directory (os error 21)"
  | .nameTooLong => "File name too long (os error 36)"
  | .zeroByte => "file name contained an unexpected NUL byte"
  | .other detail => detail

/-- The names from the top down to a file or directory. -/
abbrev Path := List String

/-- The texts between the slashes of a path. -/
def pieces (path : String) : List String := (path.toList.splitOn '/').map String.ofList

/-- A piece that leads nowhere. -/
def isIdle (piece : String) : Bool := piece == "" || piece == "."

/-- Drops the pieces at the end that lead nowhere; the first piece stays. -/
def trimPieces : List String → List String
  | [] => []
  | first :: rest => first :: Text.dropEndWhile isIdle rest

/-- The directory that a path lies in, as it is written in the path. -/
def parentText (path : String) : String :=
  match trimPieces (trimPieces (pieces path)).dropLast with
  | [] => "."
  | [""] => "/"
  | parent => "/".intercalate parent

/-- The number of bytes that a path and a name in it may have at most. -/
def pathLimit : Nat := 4095

def nameLimit : Nat := 255

/-- Refuses texts that cannot be given to the file system. -/
def checkText (path : String) : Except FileError Unit :=
  if path.toList.contains '\x00' then .error .zeroByte
  else if pathLimit < path.utf8ByteSize then .error .nameTooLong
  else if path = "" then .error .notFound
  else .ok ()

end ApiAtlas.Files
