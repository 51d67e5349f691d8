import ApiAtlas.Descriptor.Verb

/-!
# Failures of requests

Why a request was not sent, or what the server said against it.
-/

namespace ApiAtlas.Request

open Descriptor

inductive RequestError where
  | unsupportedVerb (verb : Verb) (path : String)
  | missingParameter (wireName : String)
  | status (code : Nat) (body : String)
  | transport (detail : String)
  | invalidUrl (detail : String)
  deriving DecidableEq, Repr

def RequestError.message : RequestError → String
  | .unsupportedVerb verb path => verb.text ++ " is not available on " ++ path
  | .missingParameter wireName => "missing required parameter '" ++ wireName ++ "'"
  | .status code body => "http " ++ toString code ++ ": " ++ body
  | .transport detail => "transport failure: " ++ detail
  | .invalidUrl detail => "invalid url: " ++ detail

end ApiAtlas.Request
