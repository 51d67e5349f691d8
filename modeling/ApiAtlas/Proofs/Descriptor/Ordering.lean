import ApiAtlas.Proofs.Descriptor.Core
import ApiAtlas.Proofs.Text.Bytes

/-!
# The order of parameters

A call states the parameters of its method that no key binds, the required ones first and each group
in the order of the UTF-8 bytes of the wire names. Since no two parameters of a method have one wire
name, there is just one such list, and it does not depend on the order in which a description has
the properties.
-/

namespace ApiAtlas.Fields

variable {α : Type} {name key : String}

theorem find?_between_of_ne (h : key ≠ name) (before after : Fields α) (v : α) :
    find? name (before ++ (key, v) :: after) = (find? name after).or (find? name before) := by
  rw [find?_append, find?, if_neg h, Option.or_none]

theorem find?_between_self (before after : Fields α) (v : α) :
    find? key (before ++ (key, v) :: after) = (find? key after).or (some v) := by
  rw [find?_append, find?, if_pos rfl, Option.or_assoc, Option.some_or]

end ApiAtlas.Fields

namespace ApiAtlas.Descriptor

open Checks Schema

/-! ## Objects around a value -/

/-- The members of an object before and behind one of them. -/
structure Surroundings where
  before : Fields Json := []
  behind : Fields Json := []

namespace Surroundings

/-- The object in which a member stands between the others. -/
def object (s : Surroundings) (name : String) (v : Json) : Json :=
  .obj (s.before ++ (name, v) :: s.behind)

variable {s : Surroundings} {name : String} {v w : Json} {place : Location}

theorem get?_object_of_ne {other : String} (h : name ≠ other) :
    Cursor.get? ⟨s.object name v, place⟩ other = Cursor.get? ⟨s.object name w, place⟩ other := by
  simp only [Cursor.get?, object, Json.member?, Fields.find?_between_of_ne h]
  rfl

theorem get?_object_self (h : Fields.find? name s.behind = none) (hv : v ≠ .null) :
    Cursor.get? ⟨s.object name v, place⟩ name = some ⟨v, place ++ [.key name]⟩ := by
  simp only [Cursor.get?, object, Json.member?, Fields.find?_between_self, h, Option.none_or]
  cases v <;> first | contradiction | rfl

/-- A later member of the same name hides the member. -/
theorem get?_object_hidden {last : Json} (h : Fields.find? name s.behind = some last) :
    Cursor.get? ⟨s.object name v, place⟩ name = Cursor.get? ⟨s.object name w, place⟩ name := by
  simp only [Cursor.get?, object, Json.member?, Fields.find?_between_self, h, Option.some_or]
  rfl

end Surroundings

/-! ## Properties in another order -/

section Reordered

variable {outer inner : Surroundings} {properties others : Fields Json} {place : Location}

def describing (outer inner : Surroundings) (properties : Fields Json) : Json :=
  outer.object "parameters" (inner.object "properties" (.obj properties))

theorem exists_ofProperties_of_perm
    (hperm : (Fields.resolve properties).Perm (Fields.resolve others)) {ps : List Parameter}
    (h : Parameter.ofProperties ⟨.obj properties, place⟩ = .ok ps) :
    ∃ qs, Parameter.ofProperties ⟨.obj others, place⟩ = .ok qs ∧ ps.Perm qs :=
  exists_mapM_of_perm (hperm.map _) h

theorem exists_methodParameters_of_perm
    (hperm : (Fields.resolve properties).Perm (Fields.resolve others)) {ps : List Parameter}
    (h : methodParameters ⟨describing outer inner properties, place⟩ = .ok ps) :
    ∃ qs, methodParameters ⟨describing outer inner others, place⟩ = .ok qs ∧ ps.Perm qs := by
  have hsame : methodParameters ⟨describing outer inner others, place⟩ =
      methodParameters ⟨describing outer inner properties, place⟩ →
      ∃ qs, methodParameters ⟨describing outer inner others, place⟩ = .ok qs ∧ ps.Perm qs :=
    fun heq => ⟨ps, heq.trans h, .refl ps⟩
  unfold methodParameters at *
  simp only [Cursor.getPath?, List.foldlM_cons, List.foldlM_nil, describing] at *
  cases houter : Fields.find? "parameters" outer.behind with
  | some last => exact hsame (by rw [Surroundings.get?_object_hidden houter])
  | none =>
    have hobject : ∀ properties, inner.object "properties" (.obj properties) ≠ .null := by
      simp [Surroundings.object]
    simp only [Surroundings.get?_object_self houter (hobject _), Option.bind_eq_bind,
      Option.bind_some] at *
    cases hinner : Fields.find? "properties" inner.behind with
    | some last => exact hsame (by rw [Surroundings.get?_object_hidden hinner])
    | none =>
      have hfound : ∀ properties, Json.obj properties ≠ .null := by simp
      simp only [Surroundings.get?_object_self hinner (hfound _), Option.bind_some] at *
      exact exists_ofProperties_of_perm hperm h

/-- A description with the properties in another order is accepted as well, and tells the same
method but for the order of its parameters. -/
theorem exists_ofSchema_of_perm {verb : Verb} {m : Method}
    (hperm : (Fields.resolve properties).Perm (Fields.resolve others))
    (h : Method.ofSchema verb ⟨describing outer inner properties, place⟩ = .ok m) :
    ∃ qs, Method.ofSchema verb ⟨describing outer inner others, place⟩ =
      .ok { m with parameters := qs } ∧ m.parameters.Perm qs := by
  simp only [ofSchema_eq, bind_eq_ok, pure, Except.pure, Except.ok.injEq] at h
  obtain ⟨found, hfield, name, hname, ps, hps, returns, hreturns, rfl⟩ := h
  obtain ⟨qs, hqs, hsame⟩ := exists_methodParameters_of_perm hperm hps
  have hget : ∀ member, "parameters" ≠ member →
      Cursor.get? ⟨describing outer inner others, place⟩ member =
        Cursor.get? ⟨describing outer inner properties, place⟩ member := fun _ hne =>
    Surroundings.get?_object_of_ne hne
  rw [Cursor.field_eq_ok] at hfield
  refine ⟨qs, ?_, hsame⟩
  have hfield' : Cursor.field ⟨describing outer inner others, place⟩ "name" = .ok found := by
    rw [Cursor.field_eq_ok, hget "name" (by decide)]
    exact hfield
  have hreturns' : methodReturns ⟨describing outer inner others, place⟩ = .ok returns := by
    rw [methodReturns, hget "returns" (by decide)]
    exact hreturns
  have hcomment : Cursor.text? ⟨describing outer inner others, place⟩ "description" =
      Cursor.text? ⟨describing outer inner properties, place⟩ "description" := by
    rw [Cursor.text?, hget "description" (by decide), Cursor.text?]
  simp only [ofSchema_eq, hfield', hname, hqs, hreturns', hcomment, bind, Except.bind, pure,
    Except.pure]

end Reordered

/-! ## The list of a call -/

theorem mem_orderedParameters {m : Method} {keyChain : List String} {p : Parameter} :
    p ∈ m.orderedParameters keyChain ↔ p ∈ m.parameters ∧ p.wireName ∉ keyChain := by
  simp [Method.orderedParameters]

namespace Method

/-- A list that states the parameters of a method that no key binds: all of them, each once and
nothing else, first the required ones and then the optional ones, and each of the two groups with
wire names that strictly increase by their UTF-8 bytes. -/
structure States (m : Method) (keyChain : List String) (list : List Parameter) : Prop where
  mem_iff : ∀ p, p ∈ list ↔ p ∈ m.parameters ∧ p.wireName ∉ keyChain
  nodup : list.Nodup
  required_first : list.Pairwise fun p q => p.isOptional = true → q.isOptional = true
  increasing : list.Pairwise fun p q => p.isOptional = q.isOptional →
    p.wireName.toUTF8.data.toList < q.wireName.toUTF8.data.toList

variable {m : Method} {keyChain : List String} {list : List Parameter}

theorem States.sorted (h : m.States keyChain list) :
    list.Pairwise fun p q => precedes p q = true := by
  refine (h.required_first.and h.increasing).imp fun {p q} ⟨hfirst, hless⟩ => ?_
  rw [precedes_iff]
  by_cases hsame : p.isOptional = q.isOptional
  · exact .inr ⟨hsame, (Text.toUTF8_lt_iff.mp (hless hsame)).le⟩
  · cases hp : p.isOptional with
    | true => exact absurd (hp.trans (hfirst hp).symm) hsame
    | false =>
      cases hq : q.isOptional with
      | true => exact .inl ⟨rfl, rfl⟩
      | false => exact absurd (hp.trans hq.symm) hsame

section Distinct

variable (hdistinct : (m.parameters.map (·.wireName)).Nodup)
include hdistinct

theorem nodup_statedNames :
    ((m.parameters.filter fun p => !keyChain.contains p.wireName).map (·.wireName)).Nodup :=
  hdistinct.sublist (List.filter_sublist.map _)

theorem states_orderedParameters : m.States keyChain (m.orderedParameters keyChain) := by
  have hperm := List.mergeSort_perm
    (m.parameters.filter fun p => !keyChain.contains p.wireName) precedes
  have hnames : ((m.orderedParameters keyChain).map (·.wireName)).Nodup :=
    (hperm.map _).nodup_iff.mpr (nodup_statedNames hdistinct)
  have hsorted : (m.orderedParameters keyChain).Pairwise fun p q => precedes p q = true :=
    pairwise_mergeSort_precedes _
  have hboth := hsorted.and (List.pairwise_map.mp hnames)
  refine ⟨fun p => mem_orderedParameters, hnames.of_map _, ?_, ?_⟩
  · refine hsorted.imp fun {p q} hpq hp => ?_
    rcases (precedes_iff p q).mp hpq with ⟨hrequired, -⟩ | ⟨hsame, -⟩
    · rw [hp] at hrequired
      contradiction
    · exact hsame ▸ hp
  · refine hboth.imp fun {p q} ⟨hpq, hne⟩ hsame => Text.toUTF8_lt_iff.mpr ?_
    rcases (precedes_iff p q).mp hpq with ⟨hrequired, hoptional⟩ | ⟨-, hle⟩
    · rw [hrequired, hoptional] at hsame
      contradiction
    · exact lt_of_le_of_ne hle hne

theorem eq_orderedParameters (h : m.States keyChain list) :
    list = m.orderedParameters keyChain := by
  have hperm : list.Perm (m.parameters.filter fun p => !keyChain.contains p.wireName) := by
    refine (List.perm_ext_iff_of_nodup h.nodup ((nodup_statedNames hdistinct).of_map _)).mpr
      fun p => ?_
    rw [h.mem_iff, List.mem_filter]
    simp
  have hnames : (list.map (·.wireName)).Nodup :=
    (hperm.map _).nodup_iff.mpr (nodup_statedNames hdistinct)
  rw [orderedParameters, ← mergeSort_eq_of_perm hperm hnames]
  exact (List.mergeSort_of_pairwise h.sorted).symm

end Distinct

/-- The parameters that a call of an accepted method states are the only list of those which no key
binds, each once, with the required ones first and both groups in strictly increasing order of the
UTF-8 bytes of the wire names. A description that has the properties in another order is accepted,
too, and gives the same list. -/
theorem orderedParameters_unique {verb : Verb} {c : Cursor} (h : ofSchema verb c = .ok m)
    (keyChain : List String) :
    (∀ list, list = m.orderedParameters keyChain ↔ m.States keyChain list) ∧
      ∀ (outer inner : Surroundings) (properties others : Fields Json),
        c.value = describing outer inner properties →
        (Fields.resolve properties).Perm (Fields.resolve others) →
        ∃ n, ofSchema verb ⟨describing outer inner others, c.place⟩ = .ok n ∧
          n.orderedParameters keyChain = m.orderedParameters keyChain := by
  have hdistinct := nodup_wireNames_of_ofSchema h
  refine ⟨fun list => ⟨?_, eq_orderedParameters hdistinct⟩,
    fun outer inner properties others hvalue hperm => ?_⟩
  · rintro rfl
    exact states_orderedParameters hdistinct
  · obtain ⟨value, place⟩ := c
    obtain rfl := hvalue
    obtain ⟨qs, hqs, hsame⟩ := exists_ofSchema_of_perm hperm h
    refine ⟨_, hqs, (mergeSort_eq_of_perm (hsame.filter _) ?_).symm⟩
    exact nodup_statedNames hdistinct

def updateProperties : Fields Json :=
  [("z", .obj []), ("é", .obj []), ("node", .obj []), ("b", .obj [("optional", .int 1)])]

theorem orderedParameters_unique_update : ∃ m n,
    ofSchema .put ⟨describing ⟨[("name", .str "update")], []⟩ {} updateProperties, []⟩ = .ok m ∧
    ofSchema .put ⟨describing ⟨[("name", .str "update")], []⟩ {} updateProperties.reverse, []⟩ =
      .ok n ∧
    (m.orderedParameters ["node"]).map (·.wireName) = ["z", "é", "b"] ∧
    n.orderedParameters ["node"] = m.orderedParameters ["node"] := by
  let stated (m : Method) : List Parameter :=
    m.parameters.filter fun p => !(["node"].contains p.wireName)
  obtain ⟨m, hm, hsorted, hnames⟩ : ∃ m,
      ofSchema .put ⟨describing ⟨[("name", .str "update")], []⟩ {} updateProperties, []⟩ = .ok m ∧
        (stated m).Pairwise (precedes · · = true) ∧
        (stated m).map (·.wireName) = ["z", "é", "b"] :=
    exists_ok_and (by decide +kernel)
  have hordered : m.orderedParameters ["node"] = stated m := List.mergeSort_of_pairwise hsorted
  have hperm :
      (Fields.resolve updateProperties).Perm (Fields.resolve updateProperties.reverse) := by
    rw [Fields.resolve_eq_self (by decide), Fields.resolve_eq_self (by decide)]
    exact (List.reverse_perm updateProperties).symm
  obtain ⟨-, hreordered⟩ := orderedParameters_unique hm ["node"]
  obtain ⟨n, hn, hsame⟩ := hreordered _ _ _ _ rfl hperm
  exact ⟨m, n, hm, hn, hordered ▸ hnames, hsame⟩

end Method

end ApiAtlas.Descriptor
