import ApiAtlas.Proofs.Descriptor.Reading
import ApiAtlas.Proofs.Descriptor.Views

/-!
# Descriptors without descriptions

The descriptions of methods, parameters and returned fields are members of their objects. A
descriptor without them is read as before, only that what is read has no descriptions.
-/

namespace ApiAtlas.Descriptor

open Checks Schema

/-- Whether a member of an object is a description. -/
def Part.describes : Part → String → Bool
  | .method, name | .property, name => name == "description"
  | _, _ => false

mutual

/-- A value of a descriptor without the descriptions of methods and properties in it. -/
def undescribed (part : Part) : Json → Json
  | .arr items => .arr (undescribedItems part.item items)
  | .obj fields => .obj (undescribedFields part fields)
  | v => v

def undescribedItems (part : Part) : List Json → List Json
  | [] => []
  | v :: rest => undescribed part v :: undescribedItems part rest

def undescribedFields (part : Part) : List (String × Json) → List (String × Json)
  | [] => []
  | (name, v) :: rest =>
    if part.describes name then undescribedFields part rest
    else (name, undescribed (part.member name) v) :: undescribedFields part rest

end

/-! ## The view without descriptions -/

/-- The view that leaves out descriptions and sorts nothing. -/
def descriptionless : View where
  omits := Part.describes
  sorts _ := false
  omits_other _ := rfl
  sorts_other := rfl

mutual

theorem undescribed_eq_see (part : Part) : ∀ v : Json, undescribed part v = descriptionless.see part v
  | .arr items => congrArg Json.arr (undescribedItems_eq_see part.item items)
  | .obj fields => congrArg Json.obj (undescribedFields_eq_see part fields)
  | .null | .bool _ | .int _ | .real _ | .str _ => rfl

theorem undescribedItems_eq_see (part : Part) : ∀ items : List Json,
    undescribedItems part items = descriptionless.seeItems part items
  | [] => rfl
  | v :: rest => by
    rw [undescribedItems, View.seeItems, undescribed_eq_see part v,
      undescribedItems_eq_see part rest]

theorem undescribedFields_eq_see (part : Part) : ∀ fields : List (String × Json),
    undescribedFields part fields = descriptionless.seeFields part fields
  | [] => rfl
  | (name, v) :: rest => by
    rw [undescribedFields, View.seeFields, undescribed_eq_see (part.member name) v,
      undescribedFields_eq_see part rest]
    rfl

end

/-- The cursor at the same place of the document without descriptions. -/
def bare (part : Part) (c : Cursor) : Cursor := ⟨undescribed part c.value, c.place⟩

variable {part : Part} {c : Cursor}

theorem bare_eq_look (part : Part) : bare part = descriptionless.look part := by
  funext c
  rw [bare, undescribed_eq_see, View.look]

theorem isObject_bare : (bare part c).isObject = c.isObject := by
  rw [bare_eq_look]
  exact View.isObject_look

theorem get?_bare (name : String) :
    (bare part c).get? name =
      if part.describes name then none else (c.get? name).map (bare (part.member name)) := by
  rw [bare_eq_look, bare_eq_look]
  exact View.get?_look rfl name

/-- A member that tells nothing of methods and properties stays as it is. -/
theorem get?_bare_other {name : String} (h : part.describes name = false)
    (hmember : part.member name = .other) : (bare part c).get? name = c.get? name := by
  rw [bare_eq_look]
  exact View.get?_look_other rfl h hmember

theorem text?_bare (name : String) :
    (bare part c).text? name = if part.describes name then none else c.text? name := by
  rw [bare_eq_look]
  exact View.text?_look rfl name

theorem getPath?_bare {outer inner : String} (houter : part.describes outer = false)
    (hinner : (part.member outer).describes inner = false) :
    (bare part c).getPath? [outer, inner] =
      (c.getPath? [outer, inner]).map (bare ((part.member outer).member inner)) := by
  rw [bare_eq_look, bare_eq_look]
  exact View.getPath?_look houter hinner rfl rfl

theorem entries_bare (h : ∀ name, part.describes name = false) :
    (bare part c).entries =
      (List.map fun entry => (entry.1, bare (part.member entry.1) entry.2)) <$> c.entries := by
  simp only [bare_eq_look]
  exact View.entries_look rfl h

theorem items_bare : (bare part c).items = List.map (bare part.item) <$> c.items := by
  rw [bare_eq_look, bare_eq_look]
  exact View.items_look

/-! ## Parameters -/

mutual

def Parameter.undescribed : Parameter → Parameter
  | ⟨wireName, valueType, typeText, isOptional, _, enumValues, formatName, parts, minimum, maximum,
      defaultText, renderer⟩ =>
    ⟨wireName, valueType, typeText, isOptional, none, enumValues, formatName,
      Parameter.undescribedList parts, minimum, maximum, defaultText, renderer⟩

def Parameter.undescribedList : List Parameter → List Parameter
  | [] => []
  | p :: rest => p.undescribed :: Parameter.undescribedList rest

end

namespace Parameter

theorem undescribedList_eq_map (parameters : List Parameter) :
    undescribedList parameters = parameters.map undescribed := by
  induction parameters with
  | nil => rfl
  | cons p rest ih => rw [undescribedList, ih, List.map_cons]

@[simp] theorem wireName_undescribed (p : Parameter) : p.undescribed.wireName = p.wireName := by
  cases p
  rfl

@[simp] theorem valueType_undescribed (p : Parameter) : p.undescribed.valueType = p.valueType := by
  cases p
  rfl

@[simp] theorem isOptional_undescribed (p : Parameter) :
    p.undescribed.isOptional = p.isOptional := by
  cases p
  rfl

end Parameter

theorem formatName?_bare : formatName? (bare .properties c) = formatName? c := by
  have htext : (bare .properties c).text? "type" = c.text? "type" := text?_bare "type"
  unfold formatName?
  rw [htext]
  cases hc : c.value <;> simp [bare, hc, undescribed]

theorem formatParts_bare :
    formatParts (bare .properties c) =
      (formatParts c).map fun entry => (entry.1, bare .property entry.2) := by
  unfold formatParts
  rw [formatName?_bare, entries_bare fun _ => rfl]
  cases formatName? c with
  | some name => rfl
  | none =>
    cases c.entries with
    | error e => rfl
    | ok entries =>
      change (entries.map fun entry => (entry.1, bare .property entry.2)).filter (·.2.isObject) = _
      simp only [List.filter_map, Function.comp_def, isObject_bare]

theorem propertyParts_bare :
    propertyParts (bare .property c) =
      (propertyParts c).map fun entry => (entry.1, bare .property entry.2) := by
  have hformat : (bare .property c).get? "format" = (c.get? "format").map (bare .properties) :=
    get?_bare "format"
  unfold propertyParts
  rw [hformat]
  cases c.get? "format" with
  | none => rfl
  | some format => exact formatParts_bare

theorem enumTexts_bare : enumTexts (bare .property c) = enumTexts c := by
  rw [enumTexts, get?_bare_other rfl rfl]
  rfl

theorem bound?_bare {name : String} (h : Part.property.describes name = false)
    (hmember : Part.property.member name = .other) :
    bound? (bare .property c) name = bound? c name := by
  rw [bound?, get?_bare_other h hmember]
  rfl

/-- A property without descriptions tells the parameter without descriptions. -/
theorem ofProperty_bare (name : String) (c : Cursor) :
    Parameter.ofProperty name (bare .property c) =
      Parameter.undescribed <$> Parameter.ofProperty name c := by
  have hparts : (propertyParts (bare .property c)).mapM
        (fun part => Parameter.ofProperty part.1 part.2) =
      List.map Parameter.undescribed <$> (propertyParts c).mapM
        fun part => Parameter.ofProperty part.1 part.2 := by
    rw [propertyParts_bare]
    exact mapM_map fun part _ => ofProperty_bare part.1 part.2
  have hformat : ((bare .property c).get? "format").bind formatName? =
      (c.get? "format").bind formatName? := by
    rw [get?_bare]
    cases c.get? "format" with
    | none => rfl
    | some format => exact formatName?_bare
  have hdescription : (bare .property c).text? "description" = none := text?_bare "description"
  have htext : ∀ member, Part.property.describes member = false →
      (bare .property c).text? member = c.text? member := fun member hmember => by
    rw [text?_bare, hmember, if_neg Bool.false_ne_true]
  rw [ofProperty_eq, ofProperty_eq, hparts, enumTexts_bare, bound?_bare rfl rfl,
    bound?_bare rfl rfl, hformat, hdescription, htext "type" rfl, htext "typetext" rfl,
    htext "renderer" rfl, get?_bare_other rfl rfl, get?_bare_other rfl rfl]
  cases enumTexts c with
  | error e => rfl
  | ok enumValues =>
    cases (propertyParts c).mapM fun part => Parameter.ofProperty part.1 part.2 with
    | error e => rfl
    | ok parts =>
      cases bound? c "minimum" with
      | error e => rfl
      | ok minimum =>
        cases bound? c "maximum" with
        | error e => rfl
        | ok maximum => simp [bind, Except.bind, Functor.map, Except.map, pure, Except.pure,
            Parameter.undescribed, Parameter.undescribedList_eq_map]
termination_by sizeOf c.value
decreasing_by exact sizeOf_lt_of_mem_propertyParts ‹_›

theorem ofProperties_bare (c : Cursor) :
    Parameter.ofProperties (bare .properties c) =
      List.map Parameter.undescribed <$> Parameter.ofProperties c := by
  rw [Parameter.ofProperties, Parameter.ofProperties, entries_bare fun _ => rfl]
  cases c.entries with
  | error e => rfl
  | ok entries => exact mapM_map fun entry _ => ofProperty_bare entry.1 entry.2

/-! ## Methods -/

def Returns.undescribed (r : Returns) : Returns :=
  { r with fields := r.fields.map Parameter.undescribed }

def Method.undescribed (m : Method) : Method :=
  { m with
    comment := none
    parameters := m.parameters.map Parameter.undescribed
    returns := m.returns.undescribed }

theorem returns_bare (c : Cursor) :
    Returns.ofSchema (bare .returns c) = Returns.undescribed <$> Returns.ofSchema c := by
  have hlink : linkKeyOf (bare .returns c) = linkKeyOf c := by
    rw [linkKeyOf, get?_bare_other rfl rfl]
    rfl
  have hproperties : (bare .returns c).get? "properties" =
      (c.get? "properties").map (bare .properties) := get?_bare "properties"
  have hitems : (bare .returns c).getPath? ["items", "properties"] =
      (c.getPath? ["items", "properties"]).map (bare .properties) := getPath?_bare rfl rfl
  have htype : (bare .returns c).text? "type" = c.text? "type" := text?_bare "type"
  unfold Returns.ofSchema
  rw [hlink, hproperties, hitems, htype]
  cases linkKeyOf c with
  | error e => rfl
  | ok key =>
    cases c.get? "properties" with
    | some properties =>
      simp only [Option.map_some, ofProperties_bare]
      cases Parameter.ofProperties properties <;> rfl
    | none =>
      cases c.getPath? ["items", "properties"] with
      | some properties =>
        simp only [Option.map_none, Option.map_some, ofProperties_bare]
        cases Parameter.ofProperties properties <;> rfl
      | none => rfl

theorem methodParameters_bare (c : Cursor) :
    methodParameters (bare .method c) = List.map Parameter.undescribed <$> methodParameters c := by
  have hproperties : (bare .method c).getPath? ["parameters", "properties"] =
      (c.getPath? ["parameters", "properties"]).map (bare .properties) := getPath?_bare rfl rfl
  rw [methodParameters, methodParameters, hproperties]
  cases c.getPath? ["parameters", "properties"] with
  | some properties => exact ofProperties_bare properties
  | none => rfl

theorem methodReturns_bare (c : Cursor) :
    methodReturns (bare .method c) = Returns.undescribed <$> methodReturns c := by
  have hreturns : (bare .method c).get? "returns" = (c.get? "returns").map (bare .returns) :=
    get?_bare "returns"
  rw [methodReturns, methodReturns, hreturns]
  cases c.get? "returns" with
  | some returns => exact returns_bare returns
  | none => rfl

/-- A method without descriptions is read as the method that is read, without descriptions. -/
theorem method_bare (verb : Verb) (c : Cursor) :
    Method.ofSchema verb (bare .method c) = Method.undescribed <$> Method.ofSchema verb c := by
  have hname : (bare .method c).field "name" = c.field "name" := by
    rw [bare_eq_look]
    exact View.field_look_other rfl rfl rfl
  have hdescription : (bare .method c).text? "description" = none := text?_bare "description"
  rw [ofSchema_eq, ofSchema_eq, hname, methodParameters_bare, methodReturns_bare, hdescription]
  cases c.field "name" with
  | error e => rfl
  | ok d =>
    change (d.asText >>= fun name => _) = Method.undescribed <$> (d.asText >>= fun name => _)
    cases d.asText with
    | error e => rfl
    | ok name => cases methodParameters c <;> cases methodReturns c <;> rfl

end ApiAtlas.Descriptor
