import ApiAtlas.Yaml.Lexer

/-!
# Documents

The nodes that tokens stand for. An empty place holds the empty plain scalar, and so does a text
without a document. A text has at most one document.
-/

namespace ApiAtlas.Yaml

/-- What may stand in front of a node. -/
structure Properties where
  anchor : Option Nat := none
  tag : Option String := none
  deriving DecidableEq, Repr

inductive Node where
  | alias (anchor : Nat)
  | scalar (properties : Properties) (isPlain : Bool) (text : String)
  | sequence (properties : Properties) (items : List Node)
  | mapping (properties : Properties) (entries : List (Node × Node))
  deriving Repr

namespace Node

def empty : Node := .scalar {} true ""

def anchor? : Node → Option Nat
  | .alias _ => none
  | .scalar p _ _ => p.anchor
  | .sequence p _ => p.anchor
  | .mapping p _ => p.anchor

mutual

/-- A node and the nodes in it, in the order of the text. -/
def nodes : Node → List Node
  | .sequence p items => .sequence p items :: nodesOfItems items
  | .mapping p entries => .mapping p entries :: nodesOfEntries entries
  | n => [n]

def nodesOfItems : List Node → List Node
  | [] => []
  | item :: items => item.nodes ++ nodesOfItems items

def nodesOfEntries : List (Node × Node) → List Node
  | [] => []
  | (key, value) :: entries => key.nodes ++ value.nodes ++ nodesOfEntries entries

end

/-- The node that a node of a document stands for: for an alias, the last with its anchor. -/
def resolve (document : Node) : Node → Node
  | .alias number =>
    ((document.nodes.filter (·.anchor? == some number)).getLast?).getD (.alias number)
  | n => n

end Node

/-! ## Nodes of tokens -/

/-- Takes something off the front of tokens. -/
abbrev Taking (α : Type) := List Token → Option (α × List Token)

/-- The meanings of handles. -/
abbrev Handles := List (String × String)

/-- The handles that every document has, unless it gives them a meaning of its own. -/
def commonHandles : Handles := [("!", "!"), ("!!", "tag:yaml.org,2002:")]

def tagText? (handles : Handles) (handle ending : String) : Option String :=
  if handle.isEmpty then some ending else (handles.lookup handle).map (· ++ ending)

/-- Takes an anchor and a tag, in either order. -/
def takeProperties? (handles : Handles) : Taking Properties
  | .anchor number :: .tag handle ending :: ts | .tag handle ending :: .anchor number :: ts =>
    (tagText? handles handle ending).map fun tag => (⟨some number, some tag⟩, ts)
  | .anchor number :: ts => some (⟨some number, none⟩, ts)
  | .tag handle ending :: ts => (tagText? handles handle ending).map fun tag => (⟨none, tag⟩, ts)
  | ts => some ({}, ts)

/-- Takes a node, or the empty node in front of some tokens. -/
def orEmpty (ends : List Token) (node : Taking Node) : Taking Node := fun ts =>
  if ts.head?.any ends.contains then some (.empty, ts) else node ts

/-- Takes the value of a key, which is empty if its token is missing. -/
def takeValue? (ends : List Token) (node : Taking Node) : Taking Node
  | .value :: ts => orEmpty ends node ts
  | ts => some (.empty, ts)

/-- Takes entries that begin with a token, at most `fuel` of them. -/
def takeEntries? {α : Type} (first : Token) (entry : Taking α) : Nat → Taking (List α)
  | 0, _ => none
  | fuel + 1, ts =>
    if ts.head? = some first then do
      let (x, ts) ← entry (ts.drop 1)
      let (xs, ts) ← takeEntries? first entry fuel ts
      return (x :: xs, ts)
    else some ([], ts)

def takeEnd? {α : Type} (last : Token) : α × List Token → Option (α × List Token)
  | (x, t :: ts) => if t = last then some (x, ts) else none
  | (_, []) => none

/-- Takes what is in brackets, up to the closing one, which a comma may stand in front of. -/
def takeFlow? {α : Type} (last : Token) (entry : Taking α) : Nat → Taking (List α)
  | 0, _ => none
  | fuel + 1, ts =>
    if ts.head? = some last then some ([], ts.drop 1)
    else do
      let (x, ts) ← entry ts
      match ts with
      | .flowEntry :: ts =>
        let (xs, ts) ← takeFlow? last entry fuel ts
        return (x :: xs, ts)
      | _ => takeEnd? last ([x], ts)

/-- An entry of a block mapping, behind the token of its key. -/
def blockPair (node : Taking Node) : Taking (Node × Node) := fun ts => do
  let ends : List Token := [.key, .value, .blockEnd]
  let (key, ts) ← orEmpty ends node ts
  let (value, ts) ← takeValue? ends node ts
  return ((key, value), ts)

def flowPair (node : Taking Node) : Taking (Node × Node)
  | .key :: ts => do
    let (key, ts) ← orEmpty [.value, .flowEntry, .flowMappingEnd] node ts
    let (value, ts) ← takeValue? [.flowEntry, .flowMappingEnd] node ts
    return ((key, value), ts)
  | ts => (node ts).map fun (key, ts) => ((key, .empty), ts)

/-- An item of a sequence in brackets; a pair is a mapping. The token behind an empty key is lost
with it. -/
def flowItem (node : Taking Node) : Taking Node
  | .key :: ts => do
    let isEmpty := ts.head?.any [.value, .flowEntry, .flowSequenceEnd].contains
    let (key, ts) ← if isEmpty then some (.empty, ts.drop 1) else node ts
    let (value, ts) ← takeValue? [.flowEntry, .flowSequenceEnd] node ts
    return (.mapping {} [(key, value)], ts)
  | ts => node ts

/-- The properties of a scalar that is not empty: the tag of a single mark says nothing of it. -/
def Properties.ofScalar (p : Properties) : Properties := { p with tag := p.tag.filter (· != "!") }

/-- Takes a node, nested at most `fuel` deep. As a key or value in a block mapping, a sequence needs
no indentation of its own. -/
def takeNode? (handles : Handles) : Nat → Bool → Taking Node
  | 0, _, _ => none
  | _, _, .alias number :: ts => some (.alias number, ts)
  | fuel + 1, inPair, ts => do
    let (p, ts) ← takeProperties? handles ts
    let bound := ts.length + 1
    let plainNode := takeNode? handles fuel false
    let pairNode := takeNode? handles fuel true
    match ts with
    | .scalar isPlain text :: ts => some (.scalar p.ofScalar isPlain text, ts)
    | .flowSequenceStart :: ts =>
      (takeFlow? .flowSequenceEnd (flowItem plainNode) bound ts).map fun (items, ts) =>
        (.sequence p items, ts)
    | .flowMappingStart :: ts =>
      (takeFlow? .flowMappingEnd (flowPair plainNode) bound ts).map fun (entries, ts) =>
        (.mapping p entries, ts)
    | .blockSequenceStart :: ts => do
      let item := orEmpty [.blockEntry, .blockEnd] plainNode
      let (items, ts) ← takeEnd? .blockEnd (← takeEntries? .blockEntry item bound ts)
      return (.sequence p items, ts)
    | .blockMappingStart :: ts => do
      let (entries, ts) ← takeEnd? .blockEnd (← takeEntries? .key (blockPair pairNode) bound ts)
      return (.mapping p entries, ts)
    | _ =>
      if inPair && ts.head? == some .blockEntry then
        let item := orEmpty [.blockEntry, .key, .value, .blockEnd] plainNode
        (takeEntries? .blockEntry item bound ts).map fun (items, ts) => (.sequence p items, ts)
      else if p = {} then none
      else some (.scalar p true "", ts)

/-! ## Documents of tokens -/

/-- Takes directives: at most one version, which must be known, and one meaning for a handle. -/
def takeDirectives? (hasVersion : Bool) (handles : Handles) : Taking Handles
  | .version major minor :: ts =>
    if hasVersion || major != 1 || !(minor == 1 || minor == 2) then none
    else takeDirectives? true handles ts
  | .handle name start :: ts =>
    if (handles.lookup name).isSome then none
    else takeDirectives? hasVersion ((name, start) :: handles) ts
  | ts => some (handles, ts)

/-- Whether nothing is between the start of a document and what follows it. -/
def endsDocument : Token → Bool
  | .version .. | .handle .. | .documentStart | .documentEnd => true
  | _ => false

def takeDocument? (ts : List Token) : Option (Node × List Token) := do
  let (handles, content) ← takeDirectives? false [] ts
  let node (ts : List Token) := takeNode? (handles ++ commonHandles) (ts.length + 1) false ts
  match content with
  | .documentStart :: content =>
    if content.head?.all endsDocument then some (.empty, content) else node content
  | _ => if content = ts then node ts else none

def Node.ofText? (cs : List Char) : Option Node := do
  match ← tokens? cs with
  | [] => some .empty
  | ts =>
    let (n, rest) ← takeDocument? ts
    if rest.all (· == .documentEnd) then some n else none

end ApiAtlas.Yaml
