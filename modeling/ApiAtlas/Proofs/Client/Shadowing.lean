import ApiAtlas.Proofs.Client.Paths
import ApiAtlas.Proofs.Client.ReservedWords
import ApiAtlas.Proofs.Layout.Pages

/-!
# Arguments that shadow a function

The code of an operation calls a function for each key, which encodes it. The arguments of the
operation are named apart from each other and from the local variable, but not from this function:
an argument has its name exactly if a parameter has it for its plain name and the user has not
reserved it.
-/

namespace ApiAtlas.Client

open Descriptor Layout ListLaws Naming Resources

/-- The function that encodes the value of a key. -/
def encodeFunction : String := "encode_segment"

/-! ## Calls -/

/-- Whether the code for the path of an operation calls the function that encodes a key. -/
def Operation.CallsEncode (o : Operation) : Prop :=
  encodeFunction ++ "(&" ∈ textsOf (Code.path o.path)

theorem mem_textsOf_intercalate {text : String} {separator item : List Doc}
    {items : List (List Doc)} (hitem : item ∈ items) (htext : text ∈ textsOf item) :
    text ∈ textsOf (separator.intercalate items) := by
  induction items with
  | nil => exact absurd hitem List.not_mem_nil
  | cons first rest ih =>
    cases rest with
    | nil =>
      obtain rfl := List.mem_singleton.mp hitem
      rwa [List.intercalate_singleton]
    | cons next rest =>
      rw [List.intercalate_cons_cons, textsOf_append, textsOf_append, List.append_assoc]
      rcases List.mem_cons.mp hitem with rfl | hrest
      · exact List.mem_append_left _ htext
      · exact List.mem_append_right _ (List.mem_append_right _ (ih hrest))

theorem callsEncode_iff (o : Operation) : o.CallsEncode ↔ o.path.keys ≠ [] := by
  unfold Operation.CallsEncode Code.path
  cases hkeys : o.path.keys with
  | nil =>
    have hquote : encodeFunction ++ "(&" ≠ Lexical.literal o.path.text := by
      intro heq
      have hhead := congrArg (fun text : String => text.toList.head?) heq
      simp [Lexical.literal, encodeFunction] at hhead
    simp [Code.word, textsOf, Doc.texts, hquote]
  | cons key keys =>
    have hcall : encodeFunction ++ "(&" ∈ textsOf (Code.separated
        (Code.word (Lexical.literal o.path.text) :: (key :: keys).map fun k =>
          Code.word "encode_segment(&" ++ [Code.blank] ++ Code.word "self" ++ Code.link k ++
            Code.word ")")) := by
      apply mem_textsOf_intercalate (List.mem_cons_of_mem _ List.mem_cons_self)
      exact List.mem_cons_self
    simp only [Code.cbox, Code.ibox, textsOf_append, textsOf, Doc.texts, List.mem_append, hcall,
      List.isEmpty_cons, Bool.false_eq_true, if_false, true_or, or_true, ne_eq, reduceCtorEq,
      not_false_eq_true]

/-! ## Names of arguments -/

/-- What alters the name of an argument ends with another character than the function. -/
theorem not_altered_encodeFunction (plain : String) :
    ¬ Altered ["arg"] plain encodeFunction := by
  have hlast : encodeFunction.toList.getLast? = some 't' := rfl
  intro halt
  generalize encodeFunction = name at halt hlast
  cases halt with
  | escaped => simp at hlast
  | qualified _ hq =>
    obtain rfl := List.mem_singleton.mp hq
    simp at hlast
  | @numbered base qualifier k _ _ _ =>
    have hdigits : (toString k).toList ≠ [] := by simp
    rw [String.toList_append, List.getLast?_append_of_ne_nil _ hdigits] at hlast
    exact absurd (isDigit_of_mem_toString 't' (List.mem_of_getLast? hlast)) (by decide)

section Arguments

variable (reserved : Reserved)

theorem contains_encodeFunction :
    reserved.contains encodeFunction = true ↔ encodeFunction ∈ reserved.extra := by
  have hbuiltin : encodeFunction ∉ builtinWords := by decide +kernel
  simp [Reserved.contains, hbuiltin]

/-- An argument is called like the function exactly if the function is not reserved and a parameter
has its name for a plain name. -/
theorem encodeFunction_mem_iff (parameters : List Parameter) :
    encodeFunction ∈ (argumentsOf reserved parameters).map (·.name) ↔
      encodeFunction ∉ reserved.extra ∧
        ∃ p ∈ parameters, plainName (familyStem p.wireName) = encodeFunction := by
  constructor
  · intro hmem
    have hgiven := givenFor_argumentsOf reserved (List.mem_singleton_self "arg") parameters
    obtain ⟨stem, hstem, hname⟩ := exists_of_mem_forall₂ hgiven.flip encodeFunction hmem
    obtain ⟨p, hp, rfl⟩ := List.mem_map.mp hstem
    have hplain : encodeFunction = plainName (familyStem p.wireName) :=
      hname.eq_or_altered.resolve_right (not_altered_encodeFunction _)
    refine ⟨?_, p, hp, hplain.symm⟩
    intro hextra
    exact (hname.contains_iff.mp ((contains_encodeFunction reserved).mpr hextra)).2 hplain
  · intro ⟨hfree, p, hp, hplain⟩
    have hmember : reserved.member (familyStem p.wireName) = encodeFunction := by
      rcases reserved.member_cases (familyStem p.wireName) with ⟨-, heq⟩ | ⟨hcontains, -⟩
      · rw [heq, hplain]
      · rw [hplain, contains_encodeFunction] at hcontains
        exact absurd hcontains hfree
    have hclaim : (encodeFunction, "arg") ∈
        parameters.map fun p => (reserved.member (familyStem p.wireName), "arg") := by
      rw [← hmember]
      exact List.mem_map_of_mem hp
    have htaken := NameScope.base_mem_claimAll hclaim
      (({} : NameScope).claim fieldsVariable "").2
    rw [NameScope.taken_claimAll, List.mem_append, List.mem_reverse] at htaken
    rw [argumentsOf, List.map_zipWith, zipWith_fst (by simp)]
    apply htaken.resolve_right
    decide

end Arguments

/-! ## Operations of a client -/

/-- The operations of a resource call the function exactly if the resource has keys. -/
theorem callsEncode_operationOf {document : Json} {c : Catalog} (h : Catalog.build document = .ok c)
    (reserved : Reserved) {id : Nat} (hid : id < c.rows.size) (m : Method) (name : String) :
    (operationOf reserved (c.get id) m name).CallsEncode ↔ (c.get id).keyChain ≠ [] := by
  have hkeys : (operationOf reserved (c.get id) m name).path.keys =
      (c.get id).keyChain.map (keyField reserved) :=
    congrArg PathTemplate.keys (pathTemplate_eq (Catalog.build_rooted h) hid reserved)
  rw [callsEncode_iff, hkeys, ne_eq, List.map_eq_nil_iff]

/-- In the client of a built catalog no operation that calls the function that encodes a key has an
argument of the same name exactly if the user has reserved the name, or no resource with keys has a
method with a parameter, not bound by a key, whose plain name it is. -/
theorem encode_unshadowed_iff {document : Json} {c : Catalog} (h : Catalog.build document = .ok c)
    (s : Settings) :
    (∀ o ∈ (assemble c s).operations, o.CallsEncode →
        encodeFunction ∉ o.arguments.map (·.name)) ↔
      encodeFunction ∈ s.extraReserved ∨
        ∀ id < c.rows.size, (c.get id).keyChain ≠ [] → ∀ m ∈ (c.get id).methods,
          ∀ p ∈ m.parameters, p.wireName ∉ (c.get id).keyChain →
            plainName (familyStem p.wireName) ≠ encodeFunction := by
  constructor
  · intro hfree
    by_cases hreserved : encodeFunction ∈ s.extraReserved
    · exact .inl hreserved
    · right
      intro id hid hkeys m hm p hp hwire hplain
      obtain ⟨name, ho⟩ := exists_clientOperation h s hid hm
      apply hfree _ ho ((callsEncode_operationOf h s.reserved hid m name).mpr hkeys)
      apply (encodeFunction_mem_iff s.reserved (m.orderedParameters (c.get id).keyChain)).mpr
      exact ⟨hreserved, p, mem_orderedParameters.mpr ⟨hp, hwire⟩, hplain⟩
  · intro hfree o ho hcalls hmem
    obtain ⟨id, hid, m, hm, name, rfl⟩ := exists_of_mem_clientOperations h s ho
    obtain ⟨hreserved, p, hp, hplain⟩ :=
      (encodeFunction_mem_iff s.reserved (m.orderedParameters (c.get id).keyChain)).mp hmem
    have hkeys := (callsEncode_operationOf h s.reserved hid m name).mp hcalls
    obtain ⟨hparameter, hwire⟩ := mem_orderedParameters.mp hp
    rcases hfree with hextra | hnone
    · exact hreserved hextra
    · exact hnone id hid hkeys m hm p hparameter hwire hplain

def segmentDocument : Json :=
  .arr [.obj [
    ("text", .str "\x7bnode\x7d"), ("path", .str "/\x7bnode\x7d"),
    ("info", .obj [("GET", .obj [
      ("name", .str "index"),
      ("parameters", .obj [("properties", .obj [("encode-segment", .obj [])])])])])]]

theorem encode_unshadowed_reserved : ∃ c o, Catalog.build segmentDocument = .ok c ∧
    o ∈ (assemble c { extraReserved := [encodeFunction] }).operations ∧ o.CallsEncode ∧
      o.arguments.map (·.name) = ["encode_segment_"] ∧
        encodeFunction ∉ o.arguments.map (·.name) := by
  obtain ⟨c, hc, hoperations⟩ := Catalog.exists_built segmentDocument
    (P := fun c => (assemble c { extraReserved := [encodeFunction] }).operations.map
      (fun o => (o.path.keys, o.arguments.map (·.name))) = [(["node"], ["encode_segment_"])])
    (by decide +kernel)
  obtain ⟨o, ho, hparts⟩ := List.map_eq_singleton_iff.mp hoperations
  obtain ⟨hkeys, hnames⟩ := Prod.mk.inj hparts
  have hmem : o ∈ (assemble c { extraReserved := [encodeFunction] }).operations := by
    rw [ho]
    exact List.mem_cons_self
  have hcalls : o.CallsEncode := (callsEncode_iff o).mpr (by rw [hkeys]; decide)
  have hfree := (encode_unshadowed_iff hc { extraReserved := [encodeFunction] }).mpr
    (.inl List.mem_cons_self)
  exact ⟨c, o, hc, hmem, hcalls, hnames, hfree o hmem hcalls⟩

/-- With the usual settings the parameter shadows the function that the path of the same operation
calls. -/
theorem not_encode_unshadowed_segment : ∃ c o, Catalog.build segmentDocument = .ok c ∧
    (∃ code, generate c {} = .ok code) ∧ o ∈ (assemble c {}).operations ∧ o.CallsEncode ∧
      encodeFunction ∈ o.arguments.map (·.name) := by
  obtain ⟨c, hc, hcode, hoperations⟩ := Catalog.exists_built segmentDocument
    (P := fun c => (generate c {}).toOption.isSome = true ∧ (assemble c {}).operations.map
      (fun o => (o.path.keys, o.arguments.map (·.name))) = [(["node"], [encodeFunction])])
    (by decide +kernel)
  obtain ⟨o, ho, hparts⟩ := List.map_eq_singleton_iff.mp hoperations
  obtain ⟨hkeys, hnames⟩ := Prod.mk.inj hparts
  have hmem : o ∈ (assemble c {}).operations := by
    rw [ho]
    exact List.mem_cons_self
  have hcalls : o.CallsEncode := (callsEncode_iff o).mpr (by rw [hkeys]; decide)
  exact ⟨c, o, hc, Checks.exists_eq_ok hcode, hmem, hcalls, by rw [hnames]; decide⟩

end ApiAtlas.Client
