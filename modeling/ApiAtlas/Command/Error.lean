import ApiAtlas.Client.Generate
import ApiAtlas.Files.Tree
import ApiAtlas.Request.Error

/-!
# Failures of commands

Why a command has nothing to show. The wording of a failure names what was tried before the cause;
a cause that is also told by what was tried appears twice.
-/

namespace ApiAtlas.Command

open Client Descriptor Files Request Resources

inductive CommandError where
  /-- The words do not make a command. -/
  | usage
  /-- A variable is not set that something needs. -/
  | unset (need : String)
  | unreadableSchema (path : String) (reason : FileError)
  | invalidSchema (step : String) (reason : BuildError)
  | unreadableSettings (path : String) (reason : FileError)
  | invalidSettings (path : String)
  | unknownResource (path : String)
  | unknownVerb (name : String)
  | noMethods (path : String)
  /-- A word does not give a field a value. -/
  | notAField (word : String)
  | request (reason : RequestError)
  | code (reason : CodeError)
  | write (reason : FileTree.WriteError)
  deriving DecidableEq, Repr

namespace CommandError

def message : CommandError → String
  | .usage => "the words do not make a command"
  | .unset need => need ++ ": environment variable not found"
  | .unreadableSchema path reason => "read schema " ++ path ++ ": " ++ reason.message
  | .invalidSchema step reason => step ++ ": " ++ reason.message
  | .unreadableSettings path reason =>
    "failed to read config '" ++ path ++ "': " ++ reason.message ++ ": " ++ reason.message
  | .invalidSettings path => "invalid config '" ++ path ++ "': the text holds no settings"
  | .unknownResource path => "unknown resource " ++ path
  | .unknownVerb name => Verb.unknownMessage name
  | .noMethods path => "no methods on " ++ path
  | .notAField word => "invalid parameter '" ++ word ++ "', expected KEY=VALUE"
  | .request reason => reason.message
  | .code reason => reason.message
  | .write ⟨path, reason⟩ =>
    "failed to write output file '" ++ path ++ "': " ++ reason.message ++ ": " ++ reason.message

def exitCode : CommandError → Nat
  | .usage => 2
  | _ => 1

end CommandError

end ApiAtlas.Command
