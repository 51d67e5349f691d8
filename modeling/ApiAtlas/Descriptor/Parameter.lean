import ApiAtlas.Rendering.Value
import ApiAtlas.Schema.Cursor

/-!
# Parameters

A parameter or a returned field, as its property in a descriptor tells it. A wire name that ends in
`[n]` stands for a family of fields with a number in that place. A format is either the name of one
or an object; an object without a reference to a named format describes the parts of the value,
again as parameters.
-/

namespace ApiAtlas.Descriptor

open Schema Rendering

inductive ValueType where
  | bool
  | int
  | string
  deriving DecidableEq, Repr

namespace ValueType

/-- The type of a type name; an unknown name and none at all mean a string. -/
def ofName? : Option String → ValueType
  | some "boolean" => .bool
  | some "integer" | some "number" => .int
  | _ => .string

def text : ValueType → String
  | .bool => "boolean"
  | .int => "integer"
  | .string => "string"

def code : ValueType → String
  | .bool => "bool"
  | .int => "int"
  | .string => "string"

end ValueType

/-- The end of the wire name of a family. -/
def familyMarker : List Char := "[n]".toList

/-- The wire name of a family without its marker; any other name as it is. -/
def familyStem (wireName : String) : String :=
  match familyMarker.isSuffixOf? wireName.toList with
  | some stem => String.ofList stem
  | none => wireName

/-- Whether a wire name stands for a family. -/
def isFamilyName (wireName : String) : Bool := familyMarker.isSuffixOf wireName.toList

structure Parameter where
  wireName : String
  valueType : ValueType
  typeText : Option String
  isOptional : Bool
  description : Option String
  enumValues : List String
  formatName : Option String
  parts : List Parameter
  minimum : Option Binary64
  maximum : Option Binary64
  defaultText : Option String
  renderer : Renderer

/-- The named format that a format refers to, by a string or by a type that starts with `pve-`. -/
def formatName? (format : Cursor) : Option String :=
  match format.value with
  | .str name => some name
  | _ => (format.text? "type").filter fun name => "pve-".toList.isPrefixOf name.toList

/-- The objects among the members of a format that names no other. -/
def formatParts (format : Cursor) : List (String × Cursor) :=
  match formatName? format, format.entries with
  | none, .ok entries => entries.filter (·.2.isObject)
  | _, _ => []

/-- The parts of the format of a property. -/
def propertyParts (schema : Cursor) : List (String × Cursor) :=
  match schema.get? "format" with
  | some format => formatParts format
  | none => []

theorem sizeOf_lt_of_mem_propertyParts {schema part : Cursor} {name : String}
    (h : (name, part) ∈ propertyParts schema) : sizeOf part.value < sizeOf schema.value := by
  unfold propertyParts at h
  split at h
  · rename_i format hf
    unfold formatParts at h
    split at h
    · rename_i entries _ he
      exact Nat.lt_trans (Cursor.sizeOf_lt_of_mem_entries he (List.mem_filter.1 h).1)
        (Cursor.sizeOf_lt_of_get? hf)
    · simp at h
  · simp at h

def enumTexts (schema : Cursor) : Except SchemaError (List String) :=
  match schema.get? "enum" with
  | some values => do return (← values.items).filterMap Cursor.scalarText?
  | none => .ok []

def bound? (schema : Cursor) (name : String) : Except SchemaError (Option Binary64) :=
  match schema.get? name with
  | some value => some <$> value.asNumber
  | none => .ok none

namespace Parameter

def ofProperty (name : String) (schema : Cursor) : Except SchemaError Parameter := do
  let enumValues ← enumTexts schema
  let parts ← (propertyParts schema).attach.mapM fun ⟨(key, part), _⟩ => ofProperty key part
  let minimum ← bound? schema "minimum"
  let maximum ← bound? schema "maximum"
  return {
    wireName := name
    valueType := .ofName? (schema.text? "type")
    typeText := schema.text? "typetext"
    isOptional := (schema.get? "optional").bind Cursor.scalarText? == some "1"
    description := schema.text? "description"
    enumValues, parts, minimum, maximum
    formatName := (schema.get? "format").bind formatName?
    defaultText := (schema.get? "default").bind Cursor.scalarText?
    renderer := .ofHint (schema.text? "renderer") }
termination_by sizeOf schema.value
decreasing_by exact sizeOf_lt_of_mem_propertyParts ‹_›

/-- Reads the members of an object as properties, in document order. -/
def ofProperties (schema : Cursor) : Except SchemaError (List Parameter) := do
  (← schema.entries).mapM fun (name, property) => ofProperty name property

def isFamily (p : Parameter) : Bool := isFamilyName p.wireName

def displayType (p : Parameter) : String := p.typeText.getD p.valueType.text

def boundJson : Option Binary64 → Json
  | some x => .ofBinary64 x
  | none => .null

mutual

def toJson : Parameter → Json
  | ⟨wireName, valueType, typeText, isOptional, description, enumValues, formatName, parts, minimum,
      maximum, defaultText, renderer⟩ => .obj [
    ("wire_name", .str wireName),
    ("is_indexed_family", .bool (isFamilyName wireName)),
    ("param_type", .str valueType.code),
    ("type_text", .ofText? typeText),
    ("optional", .bool isOptional),
    ("description", .ofText? description),
    ("enum_values", .arr (enumValues.map .str)),
    ("format_name", .ofText? formatName),
    ("nested_formats", .arr (listToJson parts)),
    ("minimum", boundJson minimum),
    ("maximum", boundJson maximum),
    ("default", .ofText? defaultText),
    ("renderer", renderer.toJson)]

def listToJson : List Parameter → List Json
  | [] => []
  | p :: rest => toJson p :: listToJson rest

end

end Parameter

end ApiAtlas.Descriptor
