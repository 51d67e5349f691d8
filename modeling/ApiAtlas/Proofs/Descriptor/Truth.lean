import ApiAtlas.Proofs.Descriptor.Reading
import ApiAtlas.Proofs.Schema.Truth

/-!
# What is said of descriptions

The readers of properties, returned values and methods go from a cursor to those below it and
complain of nothing but what is true of the document.
-/

namespace ApiAtlas.Descriptor

open Checks Schema

variable {document : Json} {c d : Cursor} {name : String}

/-! ## Properties -/

theorem failsOnly_enumTexts (h : c.In document) :
    FailsOnly (SchemaError.TrueOf document) (enumTexts c) := by
  rw [enumTexts]
  cases hvalues : c.get? "enum" with
  | none => exact failsOnly_ok _
  | some values => exact ((h.get? hvalues).failsOnly Cursor.items_eq_error).bind_pure _

theorem failsOnly_bound? (h : c.In document) (name : String) :
    FailsOnly (SchemaError.TrueOf document) (bound? c name) := by
  rw [bound?]
  cases hvalue : c.get? name with
  | none => exact failsOnly_ok _
  | some value => exact ((h.get? hvalue).failsOnly Cursor.asNumber_eq_error).map _

theorem in_of_mem_propertyParts (h : c.In document) (hd : (name, d) ∈ propertyParts c) :
    d.In document := by
  obtain ⟨format, hformat, hd⟩ := mem_propertyParts.mp hd
  obtain ⟨-, v, hv, -, rfl⟩ := mem_formatParts.mp hd
  exact (h.get? hformat).step hv

/-- The parts of formats are read as properties themselves, at any depth. -/
theorem failsOnly_ofProperty (name : String) (c : Cursor) (h : c.In document) :
    FailsOnly (SchemaError.TrueOf document) (Parameter.ofProperty name c) := by
  have hparts : FailsOnly (SchemaError.TrueOf document)
      ((propertyParts c).mapM fun part => Parameter.ofProperty part.1 part.2) :=
    FailsOnly.mapM fun part hpart =>
      failsOnly_ofProperty part.1 part.2 (in_of_mem_propertyParts h hpart)
  rw [ofProperty_eq]
  exact (failsOnly_enumTexts h).bind fun _ _ => hparts.bind fun _ _ =>
    (failsOnly_bound? h _).bind fun _ _ => (failsOnly_bound? h _).bind_pure _
termination_by sizeOf c.value
decreasing_by exact sizeOf_lt_of_mem_propertyParts ‹_›

theorem failsOnly_ofProperties (h : c.In document) :
    FailsOnly (SchemaError.TrueOf document) (Parameter.ofProperties c) := by
  rw [Parameter.ofProperties]
  refine (h.failsOnly Cursor.entries_eq_error).bind fun entries hentries => ?_
  exact FailsOnly.mapM fun entry hentry =>
    failsOnly_ofProperty entry.1 entry.2 (h.entry hentries hentry)

/-! ## Methods -/

theorem failsOnly_linkKeyOf (h : c.In document) :
    FailsOnly (SchemaError.TrueOf document) (linkKeyOf c) := by
  rw [linkKeyOf]
  cases hlinks : c.get? "links" with
  | none => exact failsOnly_ok _
  | some links => exact ((h.get? hlinks).failsOnly Cursor.items_eq_error).bind_pure _

theorem failsOnly_returns (h : c.In document) :
    FailsOnly (SchemaError.TrueOf document) (Returns.ofSchema c) := by
  rw [Returns.ofSchema]
  refine (failsOnly_linkKeyOf h).bind fun key _ => ?_
  cases hproperties : c.get? "properties" with
  | some properties => exact (failsOnly_ofProperties (h.get? hproperties)).bind_pure _
  | none =>
    cases hitems : c.getPath? ["items", "properties"] with
    | some properties => exact (failsOnly_ofProperties (h.getPath? hitems)).bind_pure _
    | none => exact failsOnly_ok _

theorem failsOnly_methodParameters (h : c.In document) :
    FailsOnly (SchemaError.TrueOf document) (methodParameters c) := by
  rw [methodParameters]
  cases hproperties : c.getPath? ["parameters", "properties"] with
  | some properties => exact failsOnly_ofProperties (h.getPath? hproperties)
  | none => exact failsOnly_ok _

theorem failsOnly_methodReturns (h : c.In document) :
    FailsOnly (SchemaError.TrueOf document) (methodReturns c) := by
  rw [methodReturns]
  cases hreturns : c.get? "returns" with
  | some returns => exact failsOnly_returns (h.get? hreturns)
  | none => exact failsOnly_ok _

theorem failsOnly_ofSchema (verb : Verb) (h : c.In document) :
    FailsOnly (SchemaError.TrueOf document) (Method.ofSchema verb c) := by
  rw [ofSchema_eq]
  refine (h.failsOnly_field "name").bind fun found hfound => ?_
  have hname : found.In document := h.get? (Cursor.field_eq_ok.mp hfound)
  exact (hname.failsOnly Cursor.asText_eq_error).bind fun _ _ =>
    (failsOnly_methodParameters h).bind fun _ _ => (failsOnly_methodReturns h).bind_pure _

end ApiAtlas.Descriptor
