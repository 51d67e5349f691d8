import ApiAtlas.Proofs.Client.Identifiers
import ApiAtlas.Proofs.Client.Spelling

/-!
# Names of members

The functions of a type have their names from one scope, first the accessors and then the
operations; so have the arguments of an operation, from a scope of their own in which the local
variable has been named before. A name that a scope gives out is none that it gave out earlier, so
that all of them differ, whichever raw names coincide and whatever names a qualifier or a counter
brings about.
-/

namespace ApiAtlas.Client

open Descriptor Layout ListLaws Naming Resources

/-! ## Functions -/

@[simp] theorem name_accessorOf (reserved : Reserved) (r child : Resource) (target name : String) :
    (accessorOf reserved r child target name).name = name := by
  unfold accessorOf
  split <;> rfl

/-- The functions of a type have the names that one scope gives out. -/
theorem functionNames_typeOf (c : Catalog) (reserved : Reserved) (names : Array String) (id : Nat) :
    let accessors := ({} : NameScope).claimAll
      ((c.children id).map fun (_, child) => accessorClaim reserved child)
    let operations := accessors.2.claimAll
      ((c.get id).methods.map fun m => (reserved.member m.name, m.verb.lowerText))
    (typeOf c reserved names id).functionNames = accessors.1 ++ operations.1 := by
  simp only [ClientType.functionNames, typeOf, List.map_zipWith, name_accessorOf, operationOf]
  rw [zipWith_fst (by simp), zipWith_fst (by simp)]

theorem nodup_functionNames (c : Catalog) (reserved : Reserved) (names : Array String) (id : Nat) :
    (typeOf c reserved names id).functionNames.Nodup := by
  have hempty : ({} : NameScope).taken.Nodup := List.nodup_nil
  have haccessors := NameScope.nodup_claimAll hempty
    ((c.children id).map fun (_, child) => accessorClaim reserved child)
  have hboth := NameScope.nodup_claimAll haccessors
    ((c.get id).methods.map fun m => (reserved.member m.name, m.verb.lowerText))
  rw [NameScope.taken_claimAll, NameScope.taken_claimAll, List.append_nil, ← List.reverse_append,
    List.nodup_reverse] at hboth
  rw [functionNames_typeOf]
  exact hboth

theorem isIdentifier_of_mem_functionNames (c : Catalog) (reserved : Reserved)
    (names : Array String) (id : Nat) :
    ∀ name ∈ (typeOf c reserved names id).functionNames, IsIdentifier name := by
  rw [functionNames_typeOf]
  exact List.forall_mem_append.mpr ⟨isIdentifier_of_mem_accessorNames reserved _ _,
    isIdentifier_of_mem_operationNames reserved _ _⟩

/-! ## Arguments -/

/-- The arguments of an operation differ from each other and from the local variable. -/
theorem nodup_argumentsOf (reserved : Reserved) (parameters : List Parameter) :
    (fieldsVariable :: (argumentsOf reserved parameters).map (·.name)).Nodup := by
  have hlocal : (({} : NameScope).claim fieldsVariable "").2.taken.Nodup :=
    List.nodup_singleton fieldsVariable
  have hall := NameScope.nodup_claimAll hlocal (parameters.map fun p =>
    (reserved.member (familyStem p.wireName), "arg"))
  have htaken : (({} : NameScope).claim fieldsVariable "").2.taken = [fieldsVariable].reverse := rfl
  rw [NameScope.taken_claimAll, htaken, ← List.reverse_append, List.nodup_reverse] at hall
  rw [argumentsOf, List.map_zipWith, zipWith_fst (by simp)]
  exact hall

/-! ## Types -/

/-- The client of a built catalog has a type for each resource, with a function for each child and
then one for each method. Their names differ from each other and from that of the function that
makes the values of the type. An operation has an argument for each parameter that its method lists;
the names of the arguments differ from each other, from the value at hand and from the local
variable. These are the names that the code of the type is written with. -/
theorem memberNames_apart {document : Json} {c : Catalog} (h : Catalog.build document = .ok c)
    (s : Settings) :
    (assemble c s).types.length = c.rows.size ∧
      ∀ id < c.rows.size, ∃ t, (assemble c s).types[id]? = some t ∧
        t.accessors.length = (c.get id).children.length ∧
        t.operations.length = (c.get id).methods.length ∧
        t.functionNames.Nodup ∧ "new" ∉ t.functionNames ∧
        (∃ functions, List.Forall₂ IsFunction ("new" :: t.functionNames) functions ∧
          spellingOf (Code.implementation t) =
            "impl<'a> " ++ t.name ++ "<'a> \x7b\n" ++ withEnds functions ++ "\x7d\n") ∧
        ∀ (i : Nat) (m : Method), (c.get id).methods[i]? = some m →
          ∃ o : Operation, t.operations[i]? = some o ∧
            o.arguments.map (·.wireName) =
              (m.orderedParameters (c.get id).keyChain).map (·.wireName) ∧
            (∃ rest, spellingOf (Code.operation o) =
              docSpelling o.doc ++ "pub fn " ++ o.name ++ "(" ++
                ",".intercalate ("&self" :: o.arguments.map fun a =>
                  a.name ++ ": " ++ a.type.spelling) ++ ") -> " ++ rest) ∧
            (o.arguments.map (·.name)).Nodup ∧ "self" ∉ o.arguments.map (·.name) ∧
            fieldsVariable ∉ o.arguments.map (·.name) := by
  refine ⟨length_types h s, fun id hid =>
    ⟨_, getElem?_types h s hid, ?_, ?_, nodup_functionNames c s.reserved _ id, ?_,
      ClientType.exists_functions _, ?_⟩⟩
  · simp [typeOf, Catalog.children]
  · simp [typeOf]
  · intro hnew
    exact (isIdentifier_of_mem_functionNames c s.reserved _ id "new" hnew).not_builtin (by decide)
  · intro i m hm
    obtain ⟨name, ho⟩ := getElem?_operations s.reserved (typeNames c s) hm
    obtain ⟨hlocal, hnodup⟩ := List.nodup_cons.mp
      (nodup_argumentsOf s.reserved (m.orderedParameters (c.get id).keyChain))
    refine ⟨_, ho, ?_, Operation.exists_signature _, hnodup, fun hself => ?_, hlocal⟩
    · have hpairs := congrArg (List.map Prod.fst)
        (map_argumentsOf s.reserved (m.orderedParameters (c.get id).keyChain))
      rw [List.map_map, List.map_map] at hpairs
      exact hpairs
    · obtain ⟨a, ha, hname⟩ := List.mem_map.mp hself
      exact (hname ▸ isIdentifier_of_mem_argumentsOf a ha : IsIdentifier "self").not_builtin
        (by decide)

/-- A document in which names of members coincide, also with names that are made to differ. -/
def namesakesDocument : Json :=
  .arr [.obj [
    ("text", .str "ha"), ("path", .str "/ha"),
    ("info", .obj [
      ("GET", .obj [("name", .str "status"), ("parameters", .obj [("properties", .obj [
        ("a-b", .obj []), ("a_b", .obj []), ("req-params", .obj []), ("self", .obj [])])])]),
      ("POST", .obj [("name", .str "status")])]),
    ("children", .arr [
      .obj [("text", .str "status"), ("path", .str "/ha/status")],
      .obj [("text", .str "status-get"), ("path", .str "/ha/status-get")]])]]

theorem memberNames_apart_namesakes : ∃ c t o, Catalog.build namesakesDocument = .ok c ∧
    1 < c.rows.size ∧ (assemble c {}).types[1]? = some t ∧
      t.functionNames = ["status", "status_get", "status_get_2", "status_post"] ∧
      t.functionNames.Nodup ∧ 0 < (c.get 1).methods.length ∧ t.operations[0]? = some o ∧
      (o.arguments.map (·.name)).Nodup ∧ fieldsVariable ∉ o.arguments.map (·.name) := by
  obtain ⟨c, hc, hid, hmethods, hnames⟩ := Catalog.exists_built namesakesDocument
    (P := fun c => 1 < c.rows.size ∧ 0 < (c.get 1).methods.length ∧
      ((assemble c {}).types[1]?).map (·.functionNames) =
        some ["status", "status_get", "status_get_2", "status_post"]) (by decide +kernel)
  obtain ⟨-, htypes⟩ := memberNames_apart hc {}
  obtain ⟨t, ht, -, -, hnodup, -, -, hoperations⟩ := htypes 1 hid
  rw [ht, Option.map_some, Option.some_inj] at hnames
  obtain ⟨o, ho, -, -, harguments, -, hlocal⟩ :=
    hoperations 0 _ (List.getElem?_eq_getElem hmethods)
  exact ⟨c, t, o, hc, hid, ht, hnames, hnodup, hmethods, ho, harguments, hlocal⟩

end ApiAtlas.Client
