import ApiAtlas.Naming.Case

/-!
# Reserved words

Names that a generated member must not have: the keywords of the generated language and the words
of the generated interface, together with words of the user's choice.
-/

namespace ApiAtlas.Naming

/-- The words that are always reserved. -/
def builtinWords : List String := [
  "lock", "base", "default", "abstract", "as", "async", "await", "become", "box", "break", "const",
  "continue", "crate", "do", "dyn", "else", "enum", "extern", "false", "final", "fn", "for", "gen",
  "if", "impl", "in", "let", "loop", "macro", "match", "mod", "move", "mut", "override", "priv",
  "pub", "ref", "return", "self", "Self", "static", "struct", "super", "trait", "true", "try",
  "type", "typeof", "union", "unsafe", "unsized", "use", "virtual", "where", "while", "yield",
  "new"]

/-- The reserved words, given by those beyond the built-in ones. -/
structure Reserved where
  extra : List String := []

namespace Reserved

def contains (r : Reserved) (name : String) : Bool :=
  builtinWords.contains name || r.extra.contains name

/-- A name that can start an identifier: an empty one is `value`, and one that starts with a digit
has an underscore in front. -/
def startable (name : String) : String :=
  match name.toList with
  | [] => "value"
  | c :: _ => if c.isDigit then "_" ++ name else name

/-- A startable name, with an underscore behind it if it is reserved. -/
def escape (r : Reserved) (name : String) : String :=
  let name := startable name
  if r.contains name then name ++ "_" else name

/-- The name of a member for a raw name. -/
def member (r : Reserved) (raw : String) : String := r.escape (snakeCase raw)

end Reserved

end ApiAtlas.Naming
