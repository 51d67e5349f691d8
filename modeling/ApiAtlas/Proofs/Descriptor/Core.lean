import ApiAtlas.Proofs.Descriptor.Reading
import ApiAtlas.Proofs.Descriptor.Views

/-!
# The core of a descriptor

Some members of properties are there for readers, checks and renderings only, and properties are
told apart by their names, whatever their order. What is left of a descriptor without these members
and with sorted properties is its core. Methods that are read from descriptions with the same core
have the same core themselves: their parameters, sorted, agree in all that code depends on.
-/

namespace ApiAtlas.Descriptor

open Checks Schema

/-- The members of a property that code does not depend on. -/
def sideMembers : List String :=
  ["enum", "format", "minimum", "maximum", "default", "typetext", "renderer"]

/-- The view that leaves out the side members of properties and sorts properties by name. -/
def coreView : View where
  omits part name := part == .property && sideMembers.contains name
  sorts part := part == .properties
  omits_other _ := rfl
  sorts_other := rfl

/-- The core of a value of a descriptor. -/
def core (part : Part) (v : Json) : Json := coreView.see part v

/-- The order of properties with distinct names is not in the core. -/
theorem core_properties_of_perm {fields fields' : Fields Json} (hperm : fields.Perm fields')
    (h : (fields.map (·.1)).Nodup) :
    core .properties (.obj fields) = core .properties (.obj fields') := by
  have hsee : ∀ fields : Fields Json, coreView.seeFields .properties fields =
      fields.map fun field => (field.1, coreView.see .property field.2) :=
    View.seeFields_eq_map fun _ => rfl
  have hnodup : ((coreView.seeFields .properties fields).map (·.1)).Nodup := by
    rwa [hsee, List.map_map]
  have hsame : (coreView.seeFields .properties fields).Perm
      (coreView.seeFields .properties fields') := by
    rw [hsee, hsee]
    exact hperm.map _
  exact congrArg Json.obj (Fields.sorted_eq_of_perm hnodup hsame)

/-- The side members of a property are not in the core. -/
theorem core_property_filter (fields : Fields Json) :
    core .property (.obj (fields.filter fun field => !sideMembers.contains field.1)) =
      core .property (.obj fields) := by
  have hsee : ∀ fields : Fields Json,
      coreView.seeFields .property (fields.filter fun field => !sideMembers.contains field.1) =
        coreView.seeFields .property fields := by
    intro fields
    induction fields with
    | nil => rfl
    | cons field rest ih =>
      obtain ⟨name, v⟩ := field
      by_cases hside : sideMembers.contains name = true
      · rw [List.filter_cons_of_neg (by simpa using hside), ih, View.seeFields,
          if_pos (by simpa [coreView] using hside)]
      · rw [List.filter_cons_of_pos (by simpa using hside), View.seeFields, View.seeFields, ih]
  exact congrArg Json.obj (hsee fields)

variable {c d : Cursor}

/-! ## Parameters -/

namespace Parameter

/-- What code depends on in a parameter. -/
def core (p : Parameter) : Parameter :=
  { p with
    typeText := none, enumValues := [], formatName := none, parts := []
    minimum := none, maximum := none, defaultText := none, renderer := .ofHint none }

/-- What code depends on in the parameter that a property tells. -/
def coreOf (name : String) (schema : Cursor) : Parameter where
  wireName := name
  valueType := .ofName? (schema.text? "type")
  typeText := none
  isOptional := (schema.get? "optional").bind Cursor.scalarText? == some "1"
  description := schema.text? "description"
  enumValues := []
  formatName := none
  parts := []
  minimum := none
  maximum := none
  defaultText := none
  renderer := .ofHint none

theorem core_of_ofProperty {name : String} {p : Parameter} (h : ofProperty name c = .ok p) :
    p.core = coreOf name c := by
  rw [ofProperty_eq] at h
  simp only [bind_eq_ok, pure, Except.pure, Except.ok.injEq] at h
  obtain ⟨enumValues, -, parts, -, minimum, -, maximum, -, rfl⟩ := h
  rfl

/-- The core of a property tells what code depends on. -/
theorem coreOf_look (name : String) (c : Cursor) :
    coreOf name (coreView.look .property c) = coreOf name c := by
  have htype : (coreView.look .property c).text? "type" = c.text? "type" :=
    View.text?_look rfl "type"
  have hdescription : (coreView.look .property c).text? "description" = c.text? "description" :=
    View.text?_look rfl "description"
  have hoptional : (coreView.look .property c).get? "optional" = c.get? "optional" :=
    View.get?_look_other rfl rfl rfl
  rw [coreOf, coreOf, htype, hdescription, hoptional]

theorem map_core_of_ofProperties {entries : List (String × Cursor)} {parameters : List Parameter}
    (hc : c.entries = .ok entries) (h : ofProperties c = .ok parameters) :
    parameters.map core = entries.map fun entry => coreOf entry.1 entry.2 := by
  simp only [ofProperties, hc, bind, Except.bind, mapM_eq_ok] at h
  rw [eq_comm, ← List.forall₂_eq_eq_eq, List.forall₂_map_left_iff, List.forall₂_map_right_iff]
  exact h.imp fun _ _ hread => (core_of_ofProperty hread).symm

theorem exists_entries_of_ofProperties {parameters : List Parameter}
    (h : ofProperties c = .ok parameters) : ∃ entries, c.entries = .ok entries := by
  rw [ofProperties, bind_eq_ok] at h
  obtain ⟨entries, hentries, -⟩ := h
  exact ⟨entries, hentries⟩

theorem nodup_wireNames_of_ofProperties {parameters : List Parameter}
    (h : ofProperties c = .ok parameters) : (parameters.map (·.wireName)).Nodup := by
  obtain ⟨entries, hentries⟩ := exists_entries_of_ofProperties h
  have hnames := congrArg (List.map (·.wireName)) (map_core_of_ofProperties hentries h)
  obtain ⟨fields, hfields, rfl⟩ := Cursor.entries_eq_ok.mp hentries
  simp only [List.map_map, Function.comp_def] at hnames
  change parameters.map (·.wireName) = fields.map (·.1) at hnames
  rw [hnames]
  cases hv : c.value with
  | obj raw =>
    rw [hv] at hfields
    obtain rfl := Option.some.inj hfields
    exact Fields.nodup_resolve raw
  | _ =>
    rw [hv] at hfields
    contradiction

/-- Properties with the same core tell the same parameters, as far as code depends on them, in some
order. -/
theorem map_core_perm_of_look (hsame : coreView.look .properties c = coreView.look .properties d)
    {ps qs : List Parameter} (hps : ofProperties c = .ok ps) (hqs : ofProperties d = .ok qs) :
    (ps.map core).Perm (qs.map core) := by
  obtain ⟨xs, hxs⟩ := exists_entries_of_ofProperties hps
  obtain ⟨ys, hys⟩ := exists_entries_of_ofProperties hqs
  have hperm := (View.entries_perm_of_look rfl (fun _ => rfl) hsame hxs hys).map
    fun entry : String × Cursor => coreOf entry.1 entry.2
  simp only [List.map_map, Function.comp_def] at hperm
  rw [map_core_of_ofProperties hxs hps, map_core_of_ofProperties hys hqs]
  change (xs.map fun entry => coreOf entry.1 (coreView.look .property entry.2)).Perm
    (ys.map fun entry => coreOf entry.1 (coreView.look .property entry.2)) at hperm
  simpa only [coreOf_look] using hperm

end Parameter

/-! ## Returned values -/

namespace Returns

def kindOf (schema : Cursor) : ReturnKind :=
  if (schema.get? "properties").isSome then .object
  else if (schema.getPath? ["items", "properties"]).isSome then .array
  else .ofName? (schema.text? "type")

/-- The fields that are returned are those of an object, those of the objects in an array, or there
are none. -/
theorem ofSchema_cases {r : Returns} (h : ofSchema c = .ok r) :
    (∃ properties, c.get? "properties" = some properties ∧ r.kind = .object ∧
      Parameter.ofProperties properties = .ok r.fields) ∨
    (c.get? "properties" = none ∧ ∃ properties,
      c.getPath? ["items", "properties"] = some properties ∧ r.kind = .array ∧
        Parameter.ofProperties properties = .ok r.fields) ∨
    (c.get? "properties" = none ∧ c.getPath? ["items", "properties"] = none ∧
      r.kind = .ofName? (c.text? "type") ∧ r.fields = []) := by
  rw [ofSchema, bind_eq_ok] at h
  obtain ⟨key, -, h⟩ := h
  cases hproperties : c.get? "properties" with
  | some properties =>
    simp only [hproperties, bind_eq_ok, pure, Except.pure, Except.ok.injEq] at h
    obtain ⟨fields, hfields, rfl⟩ := h
    exact .inl ⟨properties, rfl, rfl, hfields⟩
  | none =>
    cases hitems : c.getPath? ["items", "properties"] with
    | some properties =>
      simp only [hproperties, hitems, bind_eq_ok, pure, Except.pure, Except.ok.injEq] at h
      obtain ⟨fields, hfields, rfl⟩ := h
      exact .inr (.inl ⟨rfl, properties, rfl, rfl, hfields⟩)
    | none =>
      simp only [hproperties, hitems, pure, Except.pure, Except.ok.injEq] at h
      obtain rfl := h
      exact .inr (.inr ⟨rfl, rfl, rfl, rfl⟩)

theorem kind_of_ofSchema {r : Returns} (h : ofSchema c = .ok r) : r.kind = kindOf c := by
  unfold kindOf
  rcases ofSchema_cases h with ⟨_, hobject, hkind, -⟩ | ⟨hobject, _, harray, hkind, -⟩ |
    ⟨hobject, harray, hkind, -⟩
  · simp [hobject, hkind]
  · simp [hobject, harray, hkind]
  · simp [hobject, harray, hkind]

theorem nodup_fieldNames_of_ofSchema {r : Returns} (h : ofSchema c = .ok r) :
    (r.fields.map (·.wireName)).Nodup := by
  rcases ofSchema_cases h with ⟨_, -, -, hfields⟩ | ⟨-, _, -, -, hfields⟩ | ⟨-, -, -, hfields⟩
  · exact Parameter.nodup_wireNames_of_ofProperties hfields
  · exact Parameter.nodup_wireNames_of_ofProperties hfields
  · rw [hfields]
    exact List.nodup_nil

theorem kindOf_look (c : Cursor) : kindOf (coreView.look .returns c) = kindOf c := by
  have hproperties : (coreView.look .returns c).get? "properties" =
      (c.get? "properties").map (coreView.look .properties) := View.get?_look rfl "properties"
  have hitems : (coreView.look .returns c).getPath? ["items", "properties"] =
      (c.getPath? ["items", "properties"]).map (coreView.look .properties) :=
    View.getPath?_look rfl rfl rfl rfl
  have htype : (coreView.look .returns c).text? "type" = c.text? "type" :=
    View.text?_look rfl "type"
  rw [kindOf, kindOf, hproperties, hitems, htype, Option.isSome_map, Option.isSome_map]

end Returns

/-! ## Methods -/

namespace Method

/-- A required parameter precedes an optional one, and otherwise the names decide. -/
theorem precedes_iff (p q : Parameter) : precedes p q = true ↔
    (p.isOptional = false ∧ q.isOptional = true) ∨
      (p.isOptional = q.isOptional ∧ p.wireName ≤ q.wireName) := by
  unfold precedes
  cases p.isOptional <;> cases q.isOptional <;> simp

theorem precedes_trans {p q r : Parameter} (hpq : precedes p q = true)
    (hqr : precedes q r = true) : precedes p r = true := by
  rw [precedes_iff] at *
  rcases hpq with ⟨hp, hq⟩ | ⟨hpq, hle⟩ <;> rcases hqr with ⟨hq', hr⟩ | ⟨hqr, hle'⟩
  · exact .inl ⟨hp, hr⟩
  · exact .inl ⟨hp, hqr ▸ hq⟩
  · exact .inl ⟨hpq.trans hq', hr⟩
  · exact .inr ⟨hpq.trans hqr, String.le_trans hle hle'⟩

theorem precedes_total (p q : Parameter) : (precedes p q || precedes q p) = true := by
  rw [Bool.or_eq_true, precedes_iff, precedes_iff]
  rcases String.le_total p.wireName q.wireName with hle | hle <;>
    cases p.isOptional <;> cases q.isOptional <;> simp [hle]

theorem precedes_antisymm {p q : Parameter} (hpq : precedes p q = true)
    (hqp : precedes q p = true) : p.wireName = q.wireName := by
  rw [precedes_iff] at *
  rcases hpq with ⟨hp, hq⟩ | ⟨hpq, hle⟩ <;> rcases hqp with ⟨hq', hp'⟩ | ⟨hqp, hle'⟩
  · simp [hp] at hp'
  · simp [hp, hq] at hqp
  · simp [hp', hq'] at hpq
  · exact String.le_antisymm hle hle'

theorem pairwise_mergeSort_precedes :
    ∀ list : List Parameter, (list.mergeSort precedes).Pairwise fun p q => precedes p q = true :=
  List.pairwise_mergeSort (fun _ _ _ => precedes_trans) precedes_total

/-- Parameters with distinct names can be sorted in one way only. -/
theorem mergeSort_eq_of_perm {ps qs : List Parameter} (hperm : ps.Perm qs)
    (hnodup : (ps.map (·.wireName)).Nodup) : ps.mergeSort precedes = qs.mergeSort precedes := by
  have hsame : (ps.mergeSort precedes).Perm (qs.mergeSort precedes) :=
    ((List.mergeSort_perm ps precedes).trans hperm).trans (List.mergeSort_perm qs precedes).symm
  refine hsame.eq_of_pairwise (fun p q hp hq hpq hqp => ?_) (pairwise_mergeSort_precedes ps)
    (pairwise_mergeSort_precedes qs)
  have hp' := (List.mergeSort_perm ps precedes).mem_iff.mp hp
  have hq' := hperm.mem_iff.mpr ((List.mergeSort_perm qs precedes).mem_iff.mp hq)
  exact List.inj_on_of_nodup_map hnodup hp' hq' (precedes_antisymm hpq hqp)

/-- What code depends on in a method, with sorted parameters. -/
def core (m : Method) : Method :=
  { m with
    parameters := (m.parameters.map Parameter.core).mergeSort precedes
    returns := ⟨m.returns.kind, [], ""⟩ }

theorem nodup_wireNames_of_ofSchema {verb : Verb} {m : Method} (h : ofSchema verb c = .ok m) :
    (m.parameters.map (·.wireName)).Nodup := by
  simp only [ofSchema_eq, bind_eq_ok, pure, Except.pure, Except.ok.injEq] at h
  obtain ⟨-, -, name, -, parameters, hparameters, returns, -, rfl⟩ := h
  rw [methodParameters] at hparameters
  split at hparameters
  · exact Parameter.nodup_wireNames_of_ofProperties hparameters
  · obtain rfl := Except.ok.inj hparameters
    exact List.nodup_nil

/-- A parameter of a method is found by its wire name. -/
theorem parameter?_eq_some_iff {verb : Verb} {m : Method} (h : ofSchema verb c = .ok m)
    {wireName : String} {p : Parameter} :
    m.parameter? wireName = some p ↔ p ∈ m.parameters ∧ p.wireName = wireName := by
  rw [parameter?]
  constructor
  · intro hp
    exact ⟨List.mem_of_find?_eq_some hp, by simpa using List.find?_some hp⟩
  · rintro ⟨hp, rfl⟩
    cases hq : m.parameters.find? (·.wireName == p.wireName) with
    | none => simpa using List.find?_eq_none.mp hq p hp
    | some q =>
      have hname : q.wireName = p.wireName := by simpa using List.find?_some hq
      rw [List.inj_on_of_nodup_map (nodup_wireNames_of_ofSchema h) (List.mem_of_find?_eq_some hq) hp
        hname]

theorem nodup_fieldNames_of_ofSchema {verb : Verb} {m : Method} (h : ofSchema verb c = .ok m) :
    (m.returns.fields.map (·.wireName)).Nodup := by
  simp only [ofSchema_eq, bind_eq_ok, pure, Except.pure, Except.ok.injEq] at h
  obtain ⟨-, -, name, -, parameters, -, returns, hreturns, rfl⟩ := h
  unfold methodReturns at hreturns
  split at hreturns
  · exact Returns.nodup_fieldNames_of_ofSchema hreturns
  · obtain rfl := Except.ok.inj hreturns
    exact List.nodup_nil

def kindOf (schema : Cursor) : ReturnKind :=
  match schema.get? "returns" with
  | some returns => Returns.kindOf returns
  | none => .none

theorem kind_of_methodReturns {r : Returns} (h : methodReturns c = .ok r) : r.kind = kindOf c := by
  rw [methodReturns] at h
  rw [kindOf]
  cases hreturns : c.get? "returns" with
  | some returns =>
    rw [hreturns] at h
    exact Returns.kind_of_ofSchema h
  | none =>
    rw [hreturns] at h
    obtain rfl := Except.ok.inj h
    rfl

theorem kindOf_look (c : Cursor) : kindOf (coreView.look .method c) = kindOf c := by
  have hreturns : (coreView.look .method c).get? "returns" =
      (c.get? "returns").map (coreView.look .returns) := View.get?_look rfl "returns"
  rw [kindOf, kindOf, hreturns]
  cases c.get? "returns" with
  | some returns => exact Returns.kindOf_look returns
  | none => rfl

section Same

variable (hsame : coreView.look .method c = coreView.look .method d)
include hsame

theorem parameters_perm_of_look {ps qs : List Parameter} (hps : methodParameters c = .ok ps)
    (hqs : methodParameters d = .ok qs) :
    (ps.map Parameter.core).Perm (qs.map Parameter.core) := by
  have hproperties : (c.getPath? ["parameters", "properties"]).map (coreView.look .properties) =
      (d.getPath? ["parameters", "properties"]).map (coreView.look .properties) := by
    have hlook : ∀ e : Cursor, (coreView.look .method e).getPath? ["parameters", "properties"] =
        (e.getPath? ["parameters", "properties"]).map (coreView.look .properties) := fun _ =>
      View.getPath?_look rfl rfl rfl rfl
    rw [← hlook, hsame, hlook]
  rw [methodParameters] at hps hqs
  cases hc : c.getPath? ["parameters", "properties"] with
  | none =>
    cases hd : d.getPath? ["parameters", "properties"] with
    | none =>
      rw [hc] at hps
      rw [hd] at hqs
      obtain rfl := Except.ok.inj hps
      obtain rfl := Except.ok.inj hqs
      exact .refl _
    | some properties => simp [hc, hd] at hproperties
  | some properties =>
    cases hd : d.getPath? ["parameters", "properties"] with
    | none => simp [hc, hd] at hproperties
    | some properties' =>
      rw [hc] at hps
      rw [hd] at hqs
      rw [hc, hd, Option.map_some, Option.map_some, Option.some_inj] at hproperties
      exact Parameter.map_core_perm_of_look hproperties hps hqs

/-- Methods that are described with the same core have the same core. -/
theorem core_eq_of_look {verb : Verb} {m n : Method} (hm : ofSchema verb c = .ok m)
    (hn : ofSchema verb d = .ok n) : m.core = n.core := by
  have hfield : c.field "name" = d.field "name" := by
    have hlook : ∀ e : Cursor, (coreView.look .method e).field "name" = e.field "name" :=
      fun _ => View.field_look_other rfl rfl rfl
    rw [← hlook, hsame, hlook]
  have hcomment : c.text? "description" = d.text? "description" := by
    have hlook : ∀ e : Cursor,
        (coreView.look .method e).text? "description" = e.text? "description" :=
      fun _ => View.text?_look rfl "description"
    rw [← hlook, hsame, hlook]
  have hkind : kindOf c = kindOf d := by rw [← kindOf_look, hsame, kindOf_look]
  have hdistinct := nodup_wireNames_of_ofSchema hm
  simp only [ofSchema_eq, bind_eq_ok, pure, Except.pure, Except.ok.injEq] at hm hn
  obtain ⟨e, he, name, hname, ps, hps, r, hr, rfl⟩ := hm
  obtain ⟨e', he', name', hname', qs, hqs, r', hr', rfl⟩ := hn
  obtain rfl := Except.ok.inj (he.symm.trans (hfield.trans he'))
  obtain rfl := Except.ok.inj (hname.symm.trans hname')
  have hnodup : ((ps.map Parameter.core).map (·.wireName)).Nodup := by
    rw [List.map_map]
    exact hdistinct
  have hparameters := mergeSort_eq_of_perm (parameters_perm_of_look hsame hps hqs) hnodup
  rw [core, core, hparameters, hcomment, kind_of_methodReturns hr, kind_of_methodReturns hr',
    hkind]

end Same

end Method

end ApiAtlas.Descriptor
