import ApiAtlas.Unicode.Printable

/-!
# Text literals

A text as a literal of the generated code: in double quotes, with escapes for quotes, backslashes
and all characters that do not show by themselves.
-/

namespace ApiAtlas.Lexical

/-- A character of a literal, given the one behind it. A zero before an octal digit is spelled out,
for it could be taken for a longer escape. -/
def literalChar (c : Char) (next : Option Char) : List Char :=
  match c with
  | '\x00' =>
    if next.any fun d => '0' ≤ d && d ≤ '7' then ['\\', 'x', '0', '0'] else ['\\', '0']
  | '\t' => ['\\', 't']
  | '\n' => ['\\', 'n']
  | '\r' => ['\\', 'r']
  | '"' => ['\\', '"']
  | '\\' => ['\\', '\\']
  | c =>
    if Unicode.isShown c then [c]
    else ['\\', 'u', '{'] ++ Nat.toDigits 16 c.toNat ++ ['}']

def literalBody : List Char → List Char
  | [] => []
  | c :: cs => literalChar c cs.head? ++ literalBody cs

def literal (text : String) : String := String.ofList ('"' :: literalBody text.toList ++ ['"'])

end ApiAtlas.Lexical
