import ApiAtlas.Command.Explore
import ApiAtlas.Command.Produce

/-!
# The command line

The first word of the command line says which of the two tools is meant, `pve` or `gen_client`. This
build reaches no network: a request fails where it would be sent.
-/

namespace ApiAtlas

open Command Files Request

/-- The error of the file system that an error stands for. -/
def fileError : IO.Error → FileError
  | .noFileOrDirectory .. => .notFound
  | .alreadyExists .. => .alreadyThere
  | .resourceBusy .. => .busy
  | .inappropriateType .. => .notDirectory
  | e => .other (toString e)

/-- Replaces a file by way of a file beside it. -/
def replaceFile (path content : String) : IO (Except FileTree.WriteError Unit) := do
  let parent := parentText path
  try
    IO.FS.createDirAll parent
  catch e => return .error ⟨parent, fileError e⟩
  let staged := parent ++ "/.tmp" ++ toString (← IO.monoNanosNow)
  try
    IO.FS.writeFile staged content
    IO.FS.rename staged path
    return .ok ()
  catch e =>
    try
      IO.FS.removeFile staged
    catch _ => pure ()
    return .error ⟨path, fileError e⟩

/-- The machine that the program runs on. -/
def machine : System IO where
  valueOf? name := IO.getEnv name
  read path := do
    try
      return .ok (← IO.FS.readFile path)
    catch e => return .error (fileError e)
  replace := replaceFile
  send _ := return .error (.transport "no network")

end ApiAtlas

open ApiAtlas Command in
def main (words : List String) : IO UInt32 := do
  let action := match words with
    | "pve" :: words => explore machine words
    | "gen_client" :: words => produce machine words
    | _ => throw CommandError.usage
  match ← action.run with
  | .ok text =>
    IO.print text
    return 0
  | .error e =>
    IO.eprintln ("error: " ++ e.message)
    return e.exitCode.toUInt32
