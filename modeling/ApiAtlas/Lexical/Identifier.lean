import ApiAtlas.Unicode.Identifier

/-!
# Identifiers and keywords

An identifier is a start character or underscore and then continue characters. With `r#` in front it
is raw: it may then be spelled like a keyword, with a few exceptions.
-/

namespace ApiAtlas.Lexical

/-- The words that are never plain identifiers. -/
def keywords : List String := [
  "_", "abstract", "as", "async", "await", "become", "box", "break", "const", "continue", "crate",
  "do", "dyn", "else", "enum", "extern", "false", "final", "fn", "for", "if", "impl", "in", "let",
  "loop", "macro", "match", "mod", "move", "mut", "override", "priv", "pub", "ref", "return",
  "Self", "self", "static", "struct", "super", "trait", "true", "try", "type", "typeof", "unsafe",
  "unsized", "use", "virtual", "where", "while", "yield"]

def isKeyword (name : String) : Bool := keywords.contains name

/-- The identifiers that cannot be raw. -/
def neverRaw : List String := ["_", "super", "self", "Self", "crate"]

def startsIdentifier (c : Char) : Bool := c == '_' || Unicode.isStart c

/-- Whether a list of characters is spelled as an identifier, a keyword or not. -/
def isWord : List Char → Bool
  | [] => false
  | c :: cs => startsIdentifier c && cs.all Unicode.isContinue

/-- Whether a name is spelled as a raw identifier or a word. -/
def isName (name : String) : Bool :=
  match name.toList with
  | 'r' :: '#' :: cs => isWord cs && !neverRaw.contains (String.ofList cs)
  | cs => isWord cs

def takeWord? : List Char → Option (List Char × List Char)
  | [] => none
  | c :: cs =>
    if startsIdentifier c then
      let (word, rest) := cs.span Unicode.isContinue
      some (c :: word, rest)
    else none

end ApiAtlas.Lexical
