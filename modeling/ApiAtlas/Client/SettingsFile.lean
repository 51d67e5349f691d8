import ApiAtlas.Client.Settings
import ApiAtlas.Text.Blank
import ApiAtlas.Yaml.Node

/-!
# Files of settings

Settings are written as a mapping of YAML. What it leaves out has its usual value, and names that
mean nothing are passed over. A scalar is its text, whatever it looks like; only the header tells
nothing from the text of nothing.
-/

namespace ApiAtlas.Client

open Yaml

namespace SettingsFile

def names : List String := ["prefix", "root_suffix", "runtime_path", "extra_reserved", "header"]

def isNull (text : String) : Bool := ["null", "Null", "NULL", "~"].contains text

def text? : Node → Option String
  | .scalar _ _ text => some text
  | _ => none

/-- A list of texts; an empty place is the empty list. -/
def texts? (document : Node) : Node → Option (List String)
  | .sequence _ items => items.mapM fun item => text? (document.resolve item)
  | .scalar _ true "" => some []
  | _ => none

/-- A text or nothing, where the outer option says whether it is either. -/
def optional? : Node → Option (Option String)
  | .scalar p isPlain text =>
    if isPlain && p.tag == some "tag:yaml.org,2002:null" then
      if isNull text then some none else none
    else if isPlain && p.tag.isNone && (text.isEmpty || isNull text) then some none
    else some (some text)
  | _ => none

/-- The values of a mapping by their keys, which must be texts. -/
def fields? (document : Node) (entries : List (Node × Node)) : Option (List (String × Node)) :=
  entries.mapM fun (key, value) =>
    (text? (document.resolve key)).map fun name => (name, document.resolve value)

/-- The settings that fields give. A name that means something is given at most once. -/
def ofFields? (document : Node) (fields : List (String × Node)) : Option Settings := do
  if names.any fun name => 1 < (fields.filter (·.1 == name)).length then none
  let read {α : Type} (name : String) (usual : α) (value? : Node → Option α) : Option α :=
    match fields.lookup name with
    | some n => value? n
    | none => some usual
  let usual : Settings := {}
  return {
    typeStem := ← read "prefix" usual.typeStem text?
    rootSuffix := ← read "root_suffix" usual.rootSuffix text?
    runtimePath := ← read "runtime_path" usual.runtimePath text?
    extraReserved := ← read "extra_reserved" usual.extraReserved (texts? document)
    header := ← read "header" usual.header optional? }

end SettingsFile

/-- Reads settings. A text of white space and an empty document are the usual settings. -/
def Settings.ofYaml? (text : String) : Option Settings :=
  if (Text.trim text.toList).isEmpty then some {}
  else
    (Node.ofText? text.toList).bind fun document =>
      match document with
      | .scalar _ true "" => some {}
      | .mapping _ entries =>
        (SettingsFile.fields? document entries).bind (SettingsFile.ofFields? document)
      | _ => none

end ApiAtlas.Client
