import ApiAtlas.Command.System
import ApiAtlas.Command.Words
import ApiAtlas.Explorer.Answer
import ApiAtlas.Explorer.Listing
import ApiAtlas.Explorer.Usage

/-!
# Exploring a catalog

The commands that show the resources of a catalog, how to use them, and what a server answers for
them. A request is sent only once everything that can be checked without the server has been.
-/

namespace ApiAtlas.Command

open Descriptor Explorer Request Resources

inductive Exploration where
  | list (path : String) (isRemote isJson : Bool)
  | usage (path : String) (verb : Option String) (isVerbose : Bool)
  | tree (isJson : Bool)
  | call (verb path : String) (isRendered : Bool) (fields : List String)
  deriving DecidableEq, Repr

/-- What is asked for, about which schema, and how values are to be shown. -/
structure ExploreRequest where
  schema : Option String
  isPretty : Bool
  exploration : Exploration
  deriving DecidableEq, Repr

namespace ExploreRequest

/-- What can be given in front of a command and behind it. -/
def grammar : Grammar := { flags := ["pretty"], options := ["schema"] }

def grammarOf? (command : String) : Option Grammar :=
  let withFlags (flags : List String) : Grammar := { grammar with flags := "pretty" :: flags }
  match command with
  | "ls" => some (withFlags ["remote", "json"])
  | "usage" => some { withFlags ["verbose"] with
      letters := [('v', "verbose")], options := ["schema", "verb"] }
  | "tree" => some (withFlags ["json"])
  | "call" => some (withFlags ["render"])
  | _ => none

/-- The exploration that a command and the words behind it ask for. -/
def exploration? (command : String) (w : Words) : Option Exploration :=
  match command, w.plain with
  | "ls", [] => some (.list "/" (w.hasFlag "remote") (w.hasFlag "json"))
  | "ls", [path] => some (.list path (w.hasFlag "remote") (w.hasFlag "json"))
  | "usage", [path] => some (.usage path (w.option? "verb") (w.hasFlag "verbose"))
  | "tree", [] => some (.tree (w.hasFlag "json"))
  | "call", verb :: path :: fields => some (.call verb path (w.hasFlag "render") fields)
  | _, _ => none

/-- What the words of a command line ask for. A schema behind the command takes the place of one in
front of it. -/
def ofWords? (words : List String) : Option ExploreRequest := do
  let (front, command, rest) ← Words.sortUntilCommand? grammar {} words
  let back ← Words.sort? (← grammarOf? command) rest
  return {
    schema := (back.option? "schema").or (front.option? "schema")
    isPretty := front.hasFlag "pretty" || back.hasFlag "pretty"
    exploration := ← exploration? command back }

end ExploreRequest

/-! ## What needs no server -/

/-- Lines, each with its end. -/
def unlines (lines : List String) : String := String.join (lines.map (· ++ "\n"))

def jsonText (isPretty : Bool) (v : Json) : String :=
  (if isPretty then v.pretty else v.compact) ++ "\n"

def resourceAt (c : Catalog) (path : String) : Except CommandError Nat :=
  match c.locate? path with
  | some id => .ok id
  | none => .error (.unknownResource path)

def verbOf (name : String) : Except CommandError Verb :=
  match Verb.ofText? name with
  | some verb => .ok verb
  | none => .error (.unknownVerb name)

def childrenJson (c : Catalog) (id : Nat) : Json :=
  .arr ((c.get id).children.map fun child =>
    let r := c.get child
    .obj [("name", .str r.name), ("path", .str r.path), ("flags", .str (flags r))])

/-- The usage of a resource: of one method, or of all if there are any. -/
def usageText (c : Catalog) (path : String) (verb : Option String) (isVerbose : Bool) :
    Except CommandError String := do
  let r := c.get (← resourceAt c path)
  let blocks ← match verb with
    | some name => do
      let verb ← verbOf name
      match usage? isVerbose r verb with
      | some block => .ok [block]
      | none => .error (.request (.unsupportedVerb verb r.path))
    | none => .ok (usageAll isVerbose r)
  if blocks.isEmpty then .error (.noMethods path)
  else .ok ((if isVerbose then "\n\n" else "\n").intercalate blocks ++ "\n")

def treeLine (r : Resource) : String :=
  if r.methods.isEmpty then r.path
  else r.path ++ " (" ++ ", ".intercalate (r.methods.map (·.verb.text)) ++ ")"

def treeText (c : Catalog) (isJson : Bool) : String :=
  if isJson then jsonText true c.toJson
  else unlines ((c.descendants Catalog.root).map fun id => treeLine (c.get id))

/-! ## Calls -/

/-- The name and the value of a field: what is in front of the first equals sign, or else of the
first colon, and what is behind it. -/
def splitField? (word : String) : Option (String × String) :=
  let cs := word.toList
  let splitAt (mark : Char) : String × String :=
    (String.ofList (cs.takeWhile (· != mark)), String.ofList ((cs.dropWhile (· != mark)).drop 1))
  if cs.contains '=' then some (splitAt '=')
  else if cs.contains ':' then some (splitAt ':')
  else none

/-- The fields that words give; a later word for a field counts. -/
def fieldsOf (words : List String) : Except CommandError Params :=
  words.foldlM (fun fields word =>
    match splitField? word with
    | some (name, value) => .ok (fields.insert name value)
    | none => .error (.notAField word)) {}

def supplies (fields : Params) (p : Parameter) : Bool :=
  if p.isFamily then fields.hasFamily p.wireName else (fields.get? p.wireName).isSome

/-- The first required parameter that neither the path nor the fields give a value. -/
def firstMissing? (m : Method) (bound : List String) (fields : Params) : Option Parameter :=
  m.required.find? fun p => !bound.contains p.wireName && !supplies fields p

/-- A call that is ready to be sent. -/
structure Call where
  verb : Verb
  path : String
  method : Method
  fields : Params

/-- Checks a call: its verb, its path, whether the resource has the verb, its fields, and whether
they are all there, in this order. -/
def Call.check (c : Catalog) (verb path : String) (words : List String) :
    Except CommandError Call := do
  let verb ← verbOf verb
  let r := c.get (← resourceAt c path)
  match r.method? verb with
  | none => .error (.request (.unsupportedVerb verb r.path))
  | some method =>
    let fields ← fieldsOf words
    let bound := ((c.bindKeys? path).getD []).map (·.1)
    match firstMissing? method bound fields with
    | some p => .error (.request (.missingParameter p.wireName))
    | none => .ok ⟨verb, path, method, fields⟩

/-! ## Running -/

section

variable {m : Type → Type} [Monad m] (sys : System m)

def ask (verb : Verb) (path : String) (fields : Params) : Action m Json := do
  let base ← sys.require "PVE_HOST" "PVE_HOST missing"
  let token ← sys.require "PVE_API_TOKEN" "PVE_API_TOKEN missing"
  let request ← settle .request (httpRequest ⟨base, token⟩ verb path fields)
  let reply ← attempt .request (sys.send request)
  settle .request reply.answer

/-- Shows the children of a resource. A server that is to name them is asked only if the resource
can be. -/
def listing (c : Catalog) (path : String) (isRemote isJson : Bool) : Action m String := do
  let id ← settle (fun e => e) (resourceAt c path)
  if isJson then return jsonText true (childrenJson c id)
  else if isRemote && (c.get id).hasMethod .get then
    return unlines (listValues c id (← ask sys .get path {}))
  else return unlines (listChildren c id)

def makeCall (c : Catalog) (verb path : String) (fields : List String)
    (isRendered isPretty : Bool) : Action m String := do
  let call ← settle (fun e => e) (Call.check c verb path fields)
  let answer ← ask sys call.verb call.path call.fields
  return jsonText isPretty (if isRendered then renderAnswer call.method answer else answer)

/-- The catalog of a schema, which a variable names if nothing else does. -/
def loadCatalog (schema : Option String) : Action m Catalog := do
  let path ← match schema with
    | some path => pure path
    | none => sys.require "PVE_SCHEMA" "--schema or PVE_SCHEMA required"
  let text ← attempt (.unreadableSchema path) (sys.read path)
  settle (.invalidSchema ("load schema " ++ path)) (Catalog.ofText text)

/-- Does what the words of a command line ask for; gives what is to be shown. -/
def explore (words : List String) : Action m String := do
  match ExploreRequest.ofWords? words with
  | none => throw .usage
  | some r =>
    let c ← loadCatalog sys r.schema
    match r.exploration with
    | .list path isRemote isJson => listing sys c path isRemote isJson
    | .usage path verb isVerbose => settle (fun e => e) (usageText c path verb isVerbose)
    | .tree isJson => return treeText c isJson
    | .call verb path isRendered fields => makeCall sys c verb path fields isRendered r.isPretty

end

end ApiAtlas.Command
