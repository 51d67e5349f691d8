/-!
# Identifier cases

A raw name is cut into its runs of ASCII letters and digits; the runs are joined again in one of
three cases.
-/

namespace ApiAtlas.Naming

/-- The characters that a case keeps: ASCII letters and digits. -/
def isWordChar (c : Char) : Bool := c.isAlphanum

/-- The runs of word characters of a name. -/
def wordsOf (raw : List Char) : List (List Char) :=
  (raw.splitOnP (!isWordChar ·)).filter (!·.isEmpty)

def capitalize : List Char → List Char
  | [] => []
  | c :: cs => c.toUpper :: cs

/-- Every word capitalized. -/
def pascalCase (raw : String) : String :=
  String.ofList ((wordsOf raw.toList).flatMap capitalize)

/-- Every word but the first capitalized. -/
def camelCase (raw : String) : String :=
  match wordsOf raw.toList with
  | [] => ""
  | first :: rest => String.ofList (first ++ rest.flatMap capitalize)

/-- The words in lower case with underscores between them. -/
def snakeCase (raw : String) : String :=
  String.ofList (['_'].intercalate ((wordsOf raw.toList).map (·.map Char.toLower)))

end ApiAtlas.Naming
