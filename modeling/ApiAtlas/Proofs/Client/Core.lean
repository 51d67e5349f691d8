import ApiAtlas.Client.Generate
import ApiAtlas.Proofs.Client.Methods
import ApiAtlas.Proofs.Resources.Core
import ApiAtlas.Proofs.Resources.Keys
import ApiAtlas.Proofs.Resources.Visits

/-!
# Code and the core of descriptors

The code of a client depends on the core of a document only: parameters are sorted by their names,
which differ, before anything is made of them, and the side members of properties are not looked at.
-/

namespace ApiAtlas.Client

open Descriptor Naming Resources

/-- A call states the same parameters of a method and of its core, in the same order. -/
theorem orderedParameters_core {m : Method} (h : (m.parameters.map (·.wireName)).Nodup)
    (keyChain : List String) :
    m.core.orderedParameters keyChain = (m.orderedParameters keyChain).map Parameter.core := by
  have hperm : (m.core.parameters.filter fun p => !keyChain.contains p.wireName).Perm
      ((m.parameters.map Parameter.core).filter fun p => !keyChain.contains p.wireName) :=
    (List.mergeSort_perm _ _).filter _
  have hfilter : (m.parameters.map Parameter.core).filter
        (fun p => !keyChain.contains p.wireName) =
      (m.parameters.filter fun p => !keyChain.contains p.wireName).map Parameter.core :=
    List.filter_map
  have hnodup : ((m.core.parameters.filter fun p => !keyChain.contains p.wireName).map
      (·.wireName)).Nodup := by
    rw [(hperm.map (·.wireName)).nodup_iff, hfilter, List.map_map]
    exact h.sublist (List.filter_sublist.map _)
  have hprecedes : ∀ p q : Parameter, Method.precedes p q = Method.precedes p.core q.core :=
    fun _ _ => rfl
  rw [Method.orderedParameters, Method.mergeSort_eq_of_perm hperm hnodup, hfilter,
    Method.orderedParameters, List.map_mergeSort fun p _ q _ => hprecedes p q]

theorem operationOf_core (reserved : Reserved) (r : Resource) {m : Method}
    (h : (m.parameters.map (·.wireName)).Nodup) (name : String) :
    operationOf reserved r m.core name = operationOf reserved r m name := by
  have harguments : argumentsOf reserved ((m.orderedParameters r.keyChain).map Parameter.core) =
      argumentsOf reserved (m.orderedParameters r.keyChain) :=
    argumentsOf_map (f := Parameter.core) (fun _ => rfl) (fun _ => rfl) (fun _ => rfl) reserved _
  simp only [operationOf, orderedParameters_core h, harguments, List.zipWith_map_right]
  rfl

variable {c : Catalog}

/-- The methods of all resources have parameters with distinct names. -/
def DistinctParameters (c : Catalog) : Prop :=
  ∀ id, ∀ m ∈ (c.get id).methods, (m.parameters.map (·.wireName)).Nodup

theorem distinctParameters_of_build {document : Json} (h : Catalog.build document = .ok c) :
    DistinctParameters c := fun _ _ hm =>
  have ⟨_, _, hread⟩ := Catalog.exists_ofSchema_of_mem_methods h hm
  Method.nodup_wireNames_of_ofSchema hread

theorem typeOf_core (h : DistinctParameters c) (reserved : Reserved) (names : Array String)
    (id : Nat) :
    typeOf (c.mapMethods Method.core) reserved names id = typeOf c reserved names id := by
  have hoperations : List.zipWith (fun name m => operationOf reserved (c.get id) m.core name)
        (operationNames c reserved id) (c.get id).methods =
      (typeOf c reserved names id).operations := by
    rw [operations_typeOf, ← List.map_uncurry_zip_eq_zipWith, ← List.map_uncurry_zip_eq_zipWith]
    exact List.map_congr_left fun pair hpair =>
      operationOf_core reserved (c.get id) (h id pair.2 (List.of_mem_zip hpair).2) pair.1
  rw [typeOf_mapMethods Method.core (fun _ => rfl) fun _ => rfl, hoperations]

theorem assemble_core (h : DistinctParameters c) (s : Settings) :
    assemble (c.mapMethods Method.core) s = assemble c s := by
  simp only [assemble, Catalog.descendants_mapMethods, typeNames_mapMethods]
  exact congrArg (ClientModule.mk s.runtimePath) <|
    List.map_congr_left fun id _ => typeOf_core h s.reserved _ id

/-- Documents that are accepted and have the same core, which differ in the order of properties and
in side members of properties alone, give the same code, or the same complaint about it. -/
theorem generate_eq_of_core_eq {first second : Json}
    (hsame : core .entries first = core .entries second) {c d : Catalog}
    (hc : Catalog.build first = .ok c) (hd : Catalog.build second = .ok d) (s : Settings) :
    generate c s = generate d s := by
  have hclients : assemble c s = assemble d s := by
    rw [← assemble_core (distinctParameters_of_build hc),
      Catalog.mapMethods_core_of_build hsame hc hd,
      assemble_core (distinctParameters_of_build hd)]
  rw [generate, generate, hclients]

def documentOf (properties field : List (String × Json)) : Json :=
  .arr [.obj [("text", .str "x"), ("path", .str "/x"), ("info", .obj [("GET", .obj [
    ("name", .str "x"),
    ("parameters", .obj [("properties", .obj properties)]),
    ("returns", .obj [("items", .obj [("properties", .obj [("id", .obj field)])])])])])]]

def boundedDocument : Json :=
  documentOf
    [("vm-id", .obj [("type", .str "integer"), ("minimum", .int 100)]),
      ("vm_id", .obj [("type", .str "string"), ("enum", .arr [.str "a"])])]
    [("type", .str "integer"), ("renderer", .str "bytes")]

/-- The same parameters the other way round, with a default and a format for the bounds. -/
def formattedDocument : Json :=
  documentOf
    [("vm_id", .obj [("format", .str "pve-name"), ("type", .str "string")]),
      ("vm-id", .obj [("type", .str "integer"), ("default", .int 100)])]
    [("typetext", .str "<id>"), ("type", .str "integer")]

theorem generate_bounded_formatted : ∃ c d, Catalog.build boundedDocument = .ok c ∧
    Catalog.build formattedDocument = .ok d ∧ (generate c {}).toOption.isSome = true ∧
    generate c {} = generate d {} := by
  have hsame : core .entries boundedDocument = core .entries formattedDocument := rfl
  obtain ⟨c, hc, hcode⟩ := Catalog.exists_built boundedDocument
    (P := fun c => (generate c {}).toOption.isSome = true) (by decide +kernel)
  obtain ⟨d, hd, -⟩ := Catalog.exists_built formattedDocument (P := fun _ => True)
    (by decide +kernel)
  exact ⟨c, d, hc, hd, hcode, generate_eq_of_core_eq hsame hc hd {}⟩

end ApiAtlas.Client
