import ApiAtlas.Client.Assembly
import ApiAtlas.Client.Source
import ApiAtlas.Proofs.Descriptor.Ordering
import ApiAtlas.Proofs.Lists
import ApiAtlas.Proofs.Resources.DepthFirst

/-!
# The types of a client

The types of a client are in the order of the resources, so that each has the number of its
resource, and the operations of a type are in the order of the methods of its resource. The
arguments of an operation are the parameters that its method states, with names; those of optional
parameters are options.
-/

namespace ApiAtlas.Client

open Descriptor ListLaws Naming Resources

variable {c : Catalog} {id : Nat}

theorem getElem?_types {document : Json} (h : Catalog.build document = .ok c) (s : Settings)
    (hid : id < c.rows.size) :
    (assemble c s).types[id]? = some (typeOf c s.reserved (typeNames c s) id) := by
  rw [assemble, Catalog.cons_descendants_root h, List.getElem?_map, List.getElem?_range hid]
  rfl

theorem length_types {document : Json} (h : Catalog.build document = .ok c) (s : Settings) :
    (assemble c s).types.length = c.rows.size := by
  rw [assemble, Catalog.cons_descendants_root h, List.length_map, List.length_range]

theorem getElem?_operations (reserved : Reserved) (names : Array String) {i : Nat} {m : Method}
    (hm : (c.get id).methods[i]? = some m) :
    ∃ name, (typeOf c reserved names id).operations[i]? =
      some (operationOf reserved (c.get id) m name) := by
  have hlt := (List.getElem?_eq_some_iff.mp hm).choose
  simp only [typeOf, List.getElem?_zipWith_eq_some]
  refine ⟨_, _, m, List.getElem?_eq_getElem ?_, hm, rfl⟩
  rwa [NameScope.length_claimAll, List.length_map]

theorem exists_of_mem_operations {reserved : Reserved} {names : Array String} {o : Operation}
    (ho : o ∈ (typeOf c reserved names id).operations) :
    ∃ m ∈ (c.get id).methods, ∃ name, o = operationOf reserved (c.get id) m name := by
  obtain ⟨i, hi⟩ := List.mem_iff_getElem?.mp ho
  simp only [typeOf, List.getElem?_zipWith_eq_some] at hi
  obtain ⟨name, m, -, hm, rfl⟩ := hi
  exact ⟨m, List.mem_of_getElem? hm, name, rfl⟩

/-- The operations of a client are those for the methods of the resources. -/
theorem exists_of_mem_clientOperations {document : Json} (h : Catalog.build document = .ok c)
    (s : Settings) {o : Operation} (ho : o ∈ (assemble c s).operations) :
    ∃ id < c.rows.size, ∃ m ∈ (c.get id).methods, ∃ name,
      o = operationOf s.reserved (c.get id) m name := by
  obtain ⟨t, ht, hmem⟩ := List.mem_flatMap.mp ho
  obtain ⟨id, hget⟩ := List.mem_iff_getElem?.mp ht
  have hid : id < c.rows.size := by
    rw [← length_types h s]
    exact (List.getElem?_eq_some_iff.mp hget).choose
  rw [getElem?_types h s hid] at hget
  obtain rfl := Option.some.inj hget
  exact ⟨id, hid, exists_of_mem_operations hmem⟩

theorem exists_clientOperation {document : Json} (h : Catalog.build document = .ok c)
    (s : Settings) (hid : id < c.rows.size) {m : Method} (hm : m ∈ (c.get id).methods) :
    ∃ name, operationOf s.reserved (c.get id) m name ∈ (assemble c s).operations := by
  obtain ⟨i, hi⟩ := List.mem_iff_getElem?.mp hm
  obtain ⟨name, ho⟩ := getElem?_operations s.reserved (typeNames c s) hi
  have ht := List.mem_of_getElem? (getElem?_types h s hid)
  exact ⟨name, List.mem_flatMap.mpr ⟨_, ht, List.mem_of_getElem? ho⟩⟩

/-! ## Arguments -/

/-- The arguments for parameters are these with names. -/
theorem map_argumentsOf (reserved : Reserved) (parameters : List Parameter) :
    (argumentsOf reserved parameters).map (fun a => (a.wireName, a.isOptional)) =
      parameters.map fun p => (p.wireName, p.isOptional) := by
  rw [argumentsOf, List.map_zipWith]
  exact zipWith_snd (by simp) fun p : Parameter => (p.wireName, p.isOptional)

theorem required_argumentsOf (reserved : Reserved) (parameters : List Parameter) :
    ((argumentsOf reserved parameters).filter (!·.isOptional)).map (·.wireName) =
      (parameters.filter (!·.isOptional)).map (·.wireName) := by
  have hpairs := congrArg (fun pairs => (pairs.filter (!·.2)).map (·.1))
    (map_argumentsOf reserved parameters)
  simpa only [List.filter_map, List.map_map, Function.comp_def] using hpairs

/-- A document with a method on a literal below a placeholder. The placeholder binds one of its
parameters. -/
def leafDocument (leaf : String) : Json :=
  .arr [.obj [
    ("text", .str "\x7bnode\x7d"), ("path", .str "/\x7bnode\x7d"),
    ("children", .arr [.obj [
      ("text", .str leaf), ("path", .str ("/\x7bnode\x7d/" ++ leaf)),
      ("info", .obj [("GET", .obj [
        ("name", .str "index"),
        ("parameters", .obj [("properties", .obj [
          ("node", .obj []), ("limit", .obj [("optional", .bool true)]),
          ("digest", .obj [])])]),
        ("returns", .obj [("type", .str "null")])])])]])]]

end ApiAtlas.Client
