import ApiAtlas.Explorer.Answer
import ApiAtlas.Proofs.Descriptor.Core

/-!
# What is shown of an answer

Rendering an answer goes into the objects that its method describes and changes the values of the
fields with a renderer. Everything else is left as it is: the items of an array, the names of an
object and their order, and any value of another shape. A field that is rendered is a text, and
texts are rendered as they are, so rendering once more changes nothing.
-/

namespace ApiAtlas.Explorer

open Checks Descriptor Rendering Schema

/-! ## What may be shown -/

/-- What is shown of a member of an answer: the text of a field with a renderer, and any other
member itself. -/
structure ShowsMember (m : Method) (before after : String × Json) : Prop where
  name : after.1 = before.1
  hinted : ∀ p ∈ m.returns.fields, p.wireName = before.1 → p.renderer ≠ .none →
    after.2 = .str (valueText p.renderer before.2)
  plain : (∀ p ∈ m.returns.fields, p.wireName = before.1 → p.renderer = .none) →
    after.2 = before.2

/-- What is shown of an item of an answer: of an object its members, one by one and in order, and
any other value itself. -/
inductive ShowsItem (m : Method) : Json → Json → Prop
  | object {before after : Json} {members shown : Fields Json} :
    before.members? = some members → after.members? = some shown →
      List.Forall₂ (ShowsMember m) members shown → ShowsItem m before after
  | other {value : Json} : value.members? = none → ShowsItem m value value

/-- What is shown of an answer: of an array where an array is returned its items, one by one and in
order, an object where an object is returned as an item, and any other answer itself. -/
inductive ShowsAnswer (m : Method) : Json → Json → Prop
  | array {before after : List Json} : m.returns.kind = .array →
      List.Forall₂ (ShowsItem m) before after → ShowsAnswer m (.arr before) (.arr after)
  | object {before after : Json} : m.returns.kind = .object → before.members?.isSome = true →
      ShowsItem m before after → ShowsAnswer m before after
  | other {answer : Json} : (m.returns.kind = .array → answer.items? = none) →
      (m.returns.kind = .object → answer.members? = none) → ShowsAnswer m answer answer

/-! ## Members -/

section Members

variable {m : Method} {name : String} {value : Json}

@[simp] theorem mem_hintedFields {p : Parameter} :
    p ∈ hintedFields m ↔ p ∈ m.returns.fields ∧ p.renderer ≠ .none := by
  simp [hintedFields]

/-- Fields with distinct names are found by their names. -/
theorem find?_hintedFields (h : (m.returns.fields.map (·.wireName)).Nodup) {p : Parameter}
    (hp : p ∈ m.returns.fields) (hr : p.renderer ≠ .none) :
    (hintedFields m).find? (·.wireName == p.wireName) = some p := by
  have hsome : ((hintedFields m).find? (·.wireName == p.wireName)).isSome = true :=
    List.find?_isSome.mpr ⟨p, mem_hintedFields.mpr ⟨hp, hr⟩, beq_self_eq_true _⟩
  obtain ⟨q, hq⟩ := Option.isSome_iff_exists.mp hsome
  have hname : q.wireName = p.wireName := by simpa using List.find?_some hq
  have hmem := (mem_hintedFields.mp (List.mem_of_find?_eq_some hq)).1
  rw [hq, List.inj_on_of_nodup_map h hmem hp hname]

theorem renderMember_hinted (h : (m.returns.fields.map (·.wireName)).Nodup) {p : Parameter}
    (hp : p ∈ m.returns.fields) (hr : p.renderer ≠ .none) (value : Json) :
    renderMember (hintedFields m) p.wireName value = .str (valueText p.renderer value) := by
  unfold renderMember
  rw [find?_hintedFields h hp hr]

theorem renderMember_plain
    (h : ∀ p ∈ m.returns.fields, p.wireName = name → p.renderer = .none) (value : Json) :
    renderMember (hintedFields m) name value = value := by
  have hnone : (hintedFields m).find? (·.wireName == name) = none := by
    rw [List.find?_eq_none]
    intro p hp hname
    obtain ⟨hmem, hr⟩ := mem_hintedFields.mp hp
    exact hr (h p hmem (by simpa using hname))
  unfold renderMember
  rw [hnone]

/-- A text is rendered as it is, whatever the renderer. -/
theorem valueText_str (renderer : Renderer) (text : String) :
    valueText renderer (.str text) = text := rfl

theorem renderMember_renderMember (hinted : List Parameter) (name : String) (value : Json) :
    renderMember hinted name (renderMember hinted name value) = renderMember hinted name value := by
  unfold renderMember
  cases hinted.find? (·.wireName == name) with
  | some p => exact congrArg Json.str (valueText_str p.renderer _)
  | none => rfl

theorem showsMember_renderMember (h : (m.returns.fields.map (·.wireName)).Nodup) :
    ShowsMember m (name, value) (name, renderMember (hintedFields m) name value) where
  name := rfl
  hinted := by
    rintro p hp rfl hr
    exact renderMember_hinted h hp hr value
  plain hplain := renderMember_plain hplain value

end Members

/-! ## Items -/

section Items

variable {m : Method}

/-- The members of a rendered object are the rendered members. -/
theorem members?_renderObject (hinted : List Parameter) (item : Json) :
    (renderObject hinted item).members? =
      item.members?.map fun members => members.map fun field =>
        (field.1, renderMember hinted field.1 field.2) := by
  cases item with
  | obj fields =>
    have hresolve := Fields.resolve_map (renderMember hinted) (Fields.resolve fields)
    rw [Fields.resolve_eq_self (Fields.nodup_resolve fields)] at hresolve
    exact congrArg some hresolve
  | _ => rfl

theorem renderObject_of_members?_eq_none (hinted : List Parameter) {item : Json}
    (h : item.members? = none) : renderObject hinted item = item := by
  unfold renderObject
  rw [h]

theorem renderObject_of_members? (hinted : List Parameter) {item : Json} {members : Fields Json}
    (h : item.members? = some members) :
    renderObject hinted item =
      .obj (members.map fun field => (field.1, renderMember hinted field.1 field.2)) := by
  unfold renderObject
  rw [h]

theorem renderObject_renderObject (hinted : List Parameter) (item : Json) :
    renderObject hinted (renderObject hinted item) = renderObject hinted item := by
  cases hmembers : item.members? with
  | none =>
    rw [renderObject_of_members?_eq_none hinted hmembers,
      renderObject_of_members?_eq_none hinted hmembers]
  | some members =>
    have hrendered := members?_renderObject hinted item
    rw [hmembers, Option.map_some] at hrendered
    rw [renderObject_of_members? hinted hrendered, renderObject_of_members? hinted hmembers,
      List.map_map]
    congr 1
    apply List.map_congr_left
    intro field _
    simp only [Function.comp_apply, renderMember_renderMember]

theorem showsItem_renderObject (h : (m.returns.fields.map (·.wireName)).Nodup) (item : Json) :
    ShowsItem m item (renderObject (hintedFields m) item) := by
  cases hmembers : item.members? with
  | none =>
    rw [renderObject_of_members?_eq_none _ hmembers]
    exact .other hmembers
  | some members =>
    have hrendered := members?_renderObject (hintedFields m) item
    rw [hmembers, Option.map_some] at hrendered
    apply ShowsItem.object hmembers hrendered
    rw [List.forall₂_map_right_iff, List.forall₂_same]
    intro field _
    exact showsMember_renderMember h

/-- Without a field that has a renderer every value is shown itself. -/
theorem showsItem_self (h : hintedFields m = []) (item : Json) : ShowsItem m item item := by
  have hplain : ∀ p ∈ m.returns.fields, p.renderer = .none := by
    intro p hp
    by_contra hr
    have hmem := mem_hintedFields.mpr ⟨hp, hr⟩
    rw [h] at hmem
    exact List.not_mem_nil hmem
  cases hmembers : item.members? with
  | none => exact .other hmembers
  | some members =>
    apply ShowsItem.object hmembers hmembers
    rw [List.forall₂_same]
    intro field _
    exact ⟨rfl, fun p hp _ hr => absurd (hplain p hp) hr, fun _ => rfl⟩

end Items

/-! ## Answers -/

section Answers

variable {m : Method}

theorem renderAnswer_of_no_hints (h : hintedFields m = []) (answer : Json) :
    renderAnswer m answer = answer := by
  simp [renderAnswer, h]

theorem renderAnswer_array (h : hintedFields m ≠ []) (hkind : m.returns.kind = .array)
    (items : List Json) :
    renderAnswer m (.arr items) = .arr (items.map (renderObject (hintedFields m))) := by
  simp [renderAnswer, h, hkind]

theorem renderAnswer_object (h : hintedFields m ≠ []) (hkind : m.returns.kind = .object)
    {answer : Json} (hobject : answer.members?.isSome = true) :
    renderAnswer m answer = renderObject (hintedFields m) answer := by
  cases answer with
  | obj fields => simp [renderAnswer, h, hkind]
  | _ => simp [Json.members?] at hobject

/-- An answer that is not of the returned kind is left as it is. -/
theorem renderAnswer_other {answer : Json} (harray : m.returns.kind = .array → answer.items? = none)
    (hobject : m.returns.kind = .object → answer.members? = none) :
    renderAnswer m answer = answer := by
  unfold renderAnswer
  cases hkind : m.returns.kind <;> cases answer <;> simp_all [Json.items?, Json.members?]

theorem answer_cases (m : Method) (answer : Json) :
    (m.returns.kind = .array ∧ ∃ items, answer = .arr items) ∨
      (m.returns.kind = .object ∧ answer.members?.isSome = true) ∨
      ((m.returns.kind = .array → answer.items? = none) ∧
        (m.returns.kind = .object → answer.members? = none)) := by
  cases m.returns.kind <;> cases answer <;> simp [Json.items?, Json.members?]

theorem showsAnswer_renderAnswer (h : (m.returns.fields.map (·.wireName)).Nodup) (answer : Json) :
    ShowsAnswer m answer (renderAnswer m answer) := by
  rcases answer_cases m answer with ⟨hkind, items, rfl⟩ | ⟨hkind, hobject⟩ | ⟨harray, hobject⟩
  · by_cases hhints : hintedFields m = []
    · rw [renderAnswer_of_no_hints hhints]
      apply ShowsAnswer.array hkind
      rw [List.forall₂_same]
      intro item _
      exact showsItem_self hhints item
    · rw [renderAnswer_array hhints hkind]
      apply ShowsAnswer.array hkind
      rw [List.forall₂_map_right_iff, List.forall₂_same]
      intro item _
      exact showsItem_renderObject h item
  · apply ShowsAnswer.object hkind hobject
    by_cases hhints : hintedFields m = []
    · rw [renderAnswer_of_no_hints hhints]
      exact showsItem_self hhints answer
    · rw [renderAnswer_object hhints hkind hobject]
      exact showsItem_renderObject h answer
  · rw [renderAnswer_other harray hobject]
    exact .other harray hobject

theorem renderAnswer_renderAnswer (m : Method) (answer : Json) :
    renderAnswer m (renderAnswer m answer) = renderAnswer m answer := by
  by_cases hhints : hintedFields m = []
  · rw [renderAnswer_of_no_hints hhints, renderAnswer_of_no_hints hhints]
  · rcases answer_cases m answer with ⟨hkind, items, rfl⟩ | ⟨hkind, hobject⟩ | ⟨harray, hobject⟩
    · have hitems : renderObject (hintedFields m) ∘ renderObject (hintedFields m) =
          renderObject (hintedFields m) := funext (renderObject_renderObject (hintedFields m))
      rw [renderAnswer_array hhints hkind, renderAnswer_array hhints hkind, List.map_map, hitems]
    · have hrendered : (renderObject (hintedFields m) answer).members?.isSome = true := by
        rw [members?_renderObject, Option.isSome_map, hobject]
      rw [renderAnswer_object hhints hkind hobject, renderAnswer_object hhints hkind hrendered,
        renderObject_renderObject]
    · rw [renderAnswer_other harray hobject, renderAnswer_other harray hobject]

end Answers

/-- Of the answer to a method that a description tells, just the fields that are described with a
renderer are shown as texts, in the objects that are described; everything else is shown as it is.
Rendering what is shown changes nothing. -/
theorem renderAnswer_shows {verb : Verb} {schema : Cursor} {m : Method}
    (h : Method.ofSchema verb schema = .ok m) (answer : Json) :
    ShowsAnswer m answer (renderAnswer m answer) ∧
      renderAnswer m (renderAnswer m answer) = renderAnswer m answer :=
  ⟨showsAnswer_renderAnswer (Method.nodup_fieldNames_of_ofSchema h) answer,
    renderAnswer_renderAnswer m answer⟩

def machinesSchema : Json :=
  .obj [
    ("name", .str "vmlist"),
    ("returns", .obj [("type", .str "array"), ("items", .obj [("properties", .obj [
      ("vmid", .obj []),
      ("maxmem", .obj [("renderer", .str "bytes")]),
      ("uptime", .obj [("renderer", .str "duration")])])])])]

def machinesAnswer : Json :=
  .arr [
    .obj [("uptime", .int 93784), ("vmid", .int 100), ("maxmem", .int 2147483648)],
    .obj [("maxmem", .null), ("name", .str "b")],
    .int 3723]

def machinesShown : Json :=
  .arr [
    .obj [("uptime", .str "1d 02:03:04"), ("vmid", .int 100), ("maxmem", .str "2.00 GiB")],
    .obj [("maxmem", .str ""), ("name", .str "b")],
    .int 3723]

theorem renderAnswer_shows_machines : ∃ m, Method.ofSchema .get ⟨machinesSchema, []⟩ = .ok m ∧
    ShowsAnswer m machinesAnswer (renderAnswer m machinesAnswer) ∧
      renderAnswer m (renderAnswer m machinesAnswer) = renderAnswer m machinesAnswer ∧
        (renderAnswer m machinesAnswer).compact = machinesShown.compact := by
  obtain ⟨m, hm, htext⟩ := exists_ok_and (x := Method.ofSchema .get ⟨machinesSchema, []⟩)
    (P := fun m => (renderAnswer m machinesAnswer).compact = machinesShown.compact)
    (by decide +kernel)
  obtain ⟨hshows, hagain⟩ := renderAnswer_shows hm machinesAnswer
  exact ⟨m, hm, hshows, hagain, htext⟩

end ApiAtlas.Explorer
