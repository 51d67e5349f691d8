import ApiAtlas.Resources.Catalog
import ApiAtlas.Text.Lines

/-!
# Usage texts

How a method is called: its verb and path, the arguments that must be given, and whether there are
others. A verbose text goes on with the description, all parameters and the returned fields.
-/

namespace ApiAtlas.Explorer

open Descriptor Resources

def argumentHint (p : Parameter) : String :=
  p.wireName ++ ":" ++
    if !p.enumValues.isEmpty then "<" ++ "|".intercalate p.enumValues ++ ">"
    else
      match p.typeText with
      | some text => if text.toList.head? == some '<' then text else "<" ++ text ++ ">"
      | none => "<" ++ p.valueType.text ++ ">"

def boundsText : Option Binary64 → Option Binary64 → String
  | some low, some high => " [" ++ low.plainText ++ " - " ++ high.plainText ++ "]"
  | some low, none => " [>= " ++ low.plainText ++ "]"
  | none, some high => " [<= " ++ high.plainText ++ "]"
  | none, none => ""

/-- The lines about a parameter without those about its parts. -/
def headLines (indent wireName displayType : String) (isOptional : Bool)
    (minimum maximum : Option Binary64) (defaultText : Option String)
    (enumValues : List String) (description : Option String) : List String :=
  let line := indent ++ Text.padRight 24 wireName ++ " " ++ displayType ++
    (if isOptional then " (optional)" else "") ++ boundsText minimum maximum ++
    (defaultText.map (" default=" ++ ·)).getD ""
  line ::
    (if enumValues.isEmpty then []
      else [indent ++ "    one of: " ++ ", ".intercalate enumValues]) ++
    (Text.lines (description.getD "")).map (indent ++ "    " ++ ·)

mutual

def describe (indent : String) : Parameter → List String
  | ⟨wireName, valueType, typeText, isOptional, description, enumValues, _, parts, minimum, maximum,
      defaultText, _⟩ =>
    headLines indent wireName (typeText.getD valueType.text) isOptional minimum maximum defaultText
        enumValues description ++
      if parts.isEmpty then []
      else (indent ++ "    format:") :: describeAll (indent ++ "      ") parts

def describeAll (indent : String) : List Parameter → List String
  | [] => []
  | p :: rest => describe indent p ++ describeAll indent rest

end

def methodLines (m : Method) (parameters : List Parameter) : List String :=
  (match m.comment with
    | some comment => "" :: (Text.lines comment).map ("  " ++ ·)
    | none => []) ++
  (if parameters.isEmpty then [] else "" :: "Parameters:" :: describeAll "  " parameters) ++
  if m.returns.kind = .none then []
  else "" :: ("Returns: " ++ m.returns.kind.text) :: describeAll "  " m.returns.fields

def callLine (r : Resource) (m : Method) : String :=
  let parameters := m.orderedParameters r.keyChain
  m.verb.text ++ " " ++ r.path ++
    String.join ((parameters.filter (!·.isOptional)).map (" " ++ argumentHint ·)) ++
    if parameters.any (·.isOptional) then " [OPTIONS]" else ""

def methodUsage (verbose : Bool) (r : Resource) (m : Method) : String :=
  if verbose then
    "\n".intercalate (callLine r m :: methodLines m (m.orderedParameters r.keyChain))
  else callLine r m

def usage? (verbose : Bool) (r : Resource) (verb : Verb) : Option String :=
  (r.method? verb).map (methodUsage verbose r)

/-- The usage for every method of a resource, looked up by its verb. -/
def usageAll (verbose : Bool) (r : Resource) : List String :=
  r.methods.filterMap fun m => usage? verbose r m.verb

end ApiAtlas.Explorer
