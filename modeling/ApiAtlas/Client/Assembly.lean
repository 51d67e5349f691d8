import ApiAtlas.Client.Model
import ApiAtlas.Client.Settings
import ApiAtlas.Naming.Scope
import ApiAtlas.Resources.Locate
import ApiAtlas.Text.Blank

/-!
# From catalogs to clients

Types are named after the path of their resource: the name of the parent's base and the last
segment, with a counter behind it if that is taken. Within a type the accessors and then the
operations are given names of their own; so are the arguments within an operation.
-/

namespace ApiAtlas.Client

open Descriptor Naming Resources

/-- The bases and the names of the types of the resources numbered so far. -/
structure TypeNames where
  bases : Array String
  names : Array String

/-- What a resource adds to the base of its parent. -/
def nameFragment (r : Resource) : String :=
  if r.isPlaceholder then "Item" ++ pascalCase r.indexName else pascalCase r.name

/-- A base if it is not taken, otherwise with the first counter from 2 on that makes it free. -/
def freeName (taken : List String) (base : String) : String :=
  if taken.contains base then numberedFree taken base else base

def TypeNames.add (t : TypeNames) (r : Resource) : TypeNames :=
  let base := (r.parent.bind (t.bases[·]?)).getD "" ++ nameFragment r
  ⟨t.bases.push base, t.names.push (freeName t.names.toList base)⟩

def typeNames (c : Catalog) (s : Settings) : Array String :=
  ((c.rows.toList.drop 1).foldl TypeNames.add ⟨#[s.typeStem], #[s.rootName]⟩).names

def keyField (reserved : Reserved) (key : String) : String :=
  let name := reserved.member key
  if name = "client" then name ++ "_" else name

/-- A text as lines of documentation: each has a space in front, unless it is empty. -/
def docLines (text : String) : List String :=
  (Text.linesOf text.toList).map fun line =>
    if line.isEmpty then "" else String.ofList (' ' :: Text.trimEnd line)

def codeQuoted (text : String) : String := "`" ++ text ++ "`"

/-- The template of a path: a segment that starts with a brace is a hole, filled with the next
key. -/
def pathTemplate (reserved : Reserved) (r : Resource) : PathTemplate :=
  let segments := segmentsOf r.path
  let isHole := isPlaceholderName
  ⟨String.join (segments.map fun s => if isHole s then "/\x7b\x7d" else "/" ++ s),
    (r.keyChain.take (segments.countP isHole)).map (keyField reserved)⟩

def fieldsVariable : String := "req_params"

def argumentsOf (reserved : Reserved) (parameters : List Parameter) : List Argument :=
  let scope := (({} : NameScope).claim fieldsVariable "").2
  let names := (scope.claimAll (parameters.map fun p =>
    (reserved.member (familyStem p.wireName), "arg"))).1
  names.zipWith (fun name p => ⟨name, p.wireName, p.valueType, p.isOptional⟩) parameters

def argumentDoc (a : Argument) (description : Option String) : String :=
  "* " ++ codeQuoted a.name ++ " - " ++ codeQuoted a.wireName ++
    match description with
    | some text => ": " ++ text.map fun c => if c == '\n' then ' ' else c
    | none => ""

def operationDoc (r : Resource) (m : Method) (arguments : List String) : String :=
  let comment := m.comment.getD ""
  (if comment.isEmpty then "" else comment ++ "\n\n") ++
    codeQuoted (m.verb.text ++ " " ++ r.path) ++
    (if m.returns.kind = .none then "" else "\n\nReturns: " ++ m.returns.kind.text ++ ".") ++
    if arguments.isEmpty then "" else "\n\n# Arguments\n\n" ++ "\n".intercalate arguments

def operationOf (reserved : Reserved) (r : Resource) (m : Method) (name : String) : Operation :=
  let parameters := m.orderedParameters r.keyChain
  let arguments := argumentsOf reserved parameters
  { name
    doc := docLines (operationDoc r m
      (arguments.zipWith (fun a p => argumentDoc a p.description) parameters))
    verb := m.verb
    path := pathTemplate reserved r
    arguments
    returnsAnswer := m.returns.kind ≠ .none }

def accessorOf (reserved : Reserved) (r : Resource) (child : Resource) (target name : String) :
    Accessor :=
  let inherited := r.keyChain.map (keyField reserved)
  if child.isPlaceholder then
    ⟨name, docLines (codeQuoted child.path), target, inherited,
      some (keyField reserved child.indexName)⟩
  else ⟨name, [], target, inherited, none⟩

/-- The name that an accessor would like to have, and its qualifier. -/
def accessorClaim (reserved : Reserved) (child : Resource) : String × String :=
  if child.isPlaceholder then (reserved.member child.indexName, "item")
  else (reserved.member child.name, "resource")

def typeOf (c : Catalog) (reserved : Reserved) (names : Array String) (id : Nat) : ClientType :=
  let r := c.get id
  let nameOf (id : Nat) : String := names[id]?.getD ""
  let children := c.children id
  let (accessorNames, scope) :=
    ({} : NameScope).claimAll (children.map fun (_, child) => accessorClaim reserved child)
  let operationNames :=
    (scope.claimAll (r.methods.map fun m => (reserved.member m.name, m.verb.lowerText))).1
  { name := nameOf id
    doc := docLines (if r.path.isEmpty then "Entry point of the API resource tree."
      else codeQuoted r.path)
    keys := r.keyChain.map (keyField reserved)
    accessors := accessorNames.zipWith
      (fun name (child, row) => accessorOf reserved r row (nameOf child) name) children
    operations := operationNames.zipWith (fun name m => operationOf reserved r m name) r.methods }

def assemble (c : Catalog) (s : Settings) : ClientModule :=
  ⟨s.runtimePath,
    (Catalog.root :: c.descendants Catalog.root).map
      (typeOf c s.reserved (typeNames c s))⟩

end ApiAtlas.Client
