import ApiAtlas.Json.Reader
import ApiAtlas.Request.Error
import ApiAtlas.Request.Params
import ApiAtlas.Request.Url

/-!
# Requests and replies

What is sent to a server for a verb, a path and fields, and what its reply says. Verbs that send a
body carry the fields in it as a form; the others carry them in the query.
-/

namespace ApiAtlas.Request

open Descriptor

/-- Where a server is and what it is shown. -/
structure Access where
  base : String
  token : String
  deriving DecidableEq, Repr

structure HttpRequest where
  verb : Verb
  url : WebUrl
  authorization : String
  /-- The body, which is a form. -/
  form : Option String
  deriving DecidableEq, Repr

structure Reply where
  status : Nat
  body : String
  deriving DecidableEq, Repr

def userAgent : String := "pve-apigen"

def formType : String := "application/x-www-form-urlencoded"

def HttpRequest.headers (r : HttpRequest) : List (String × String) :=
  [("user-agent", userAgent), ("authorization", r.authorization)] ++
    (r.form.map fun _ => ("content-type", formType)).toList

def isHeaderChar (c : Char) : Bool := (' ' ≤ c && c != '\x7f') || c == '\t'

def resourceUrl (base path : String) : Except RequestError WebUrl :=
  let text := resourceText base path
  match WebUrl.ofText text.toList with
  | .error e => .error (.invalidUrl (text ++ ": " ++ e.message))
  | .ok none => .error (.transport "the scheme is neither http nor https")
  | .ok (some url) => .ok url

def httpRequest (access : Access) (verb : Verb) (path : String) (fields : Params) :
    Except RequestError HttpRequest := do
  let url ← resourceUrl access.base path
  if !access.token.toList.all isHeaderChar then
    .error (.transport "the token cannot stand in a header")
  let authorization := "PVEAPIToken=" ++ access.token
  return if verb.sendsBody then ⟨verb, url, authorization, some (formPairs fields.fields)⟩
    else ⟨verb, url.addPairs fields.fields, authorization, none⟩

/-- The member of an answer that holds the data, if it has one. -/
def unwrapData (answer : Json) : Json := (answer.member? "data").getD answer

/-- What a reply says: the data of its body, which is a text if it is not JSON. -/
def Reply.answer (r : Reply) : Except RequestError Json :=
  if 400 ≤ r.status then .error (.status r.status r.body)
  else .ok (unwrapData ((Json.read? 127 r.body.toList).getD (.str r.body)))

end ApiAtlas.Request
