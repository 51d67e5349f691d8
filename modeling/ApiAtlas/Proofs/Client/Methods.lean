import ApiAtlas.Client.Assembly
import ApiAtlas.Proofs.Resources.Methods

/-!
# Clients of catalogs with other methods

The methods of a resource decide about the operations of its type and nothing else in a client, as
long as they keep their names and verbs.
-/

namespace ApiAtlas.Client

open Descriptor Naming Resources

/-- Arguments do not depend on what else is told of their parameters. -/
theorem argumentsOf_map {f : Parameter → Parameter} (hwire : ∀ p, (f p).wireName = p.wireName)
    (htype : ∀ p, (f p).valueType = p.valueType) (hoptional : ∀ p, (f p).isOptional = p.isOptional)
    (reserved : Reserved) (parameters : List Parameter) :
    argumentsOf reserved (parameters.map f) = argumentsOf reserved parameters := by
  simp [argumentsOf, List.zipWith_map_right, Function.comp_def, hwire, htype, hoptional]

theorem typeNames_mapMethods (f : Method → Method) (c : Catalog) (s : Settings) :
    typeNames (c.mapMethods f) s = typeNames c s := by
  have hadd : ∀ (t : TypeNames) (r : Resource), t.add (r.mapMethods f) = t.add r := fun _ _ => rfl
  simp only [typeNames, Catalog.mapMethods, Array.toList_map, ← List.map_drop, List.foldl_map,
    hadd]

def operationNames (c : Catalog) (reserved : Reserved) (id : Nat) : List String :=
  ((({} : NameScope).claimAll ((c.children id).map fun (_, child) =>
    accessorClaim reserved child)).2.claimAll
      ((c.get id).methods.map fun m => (reserved.member m.name, m.verb.lowerText))).1

theorem operations_typeOf (c : Catalog) (reserved : Reserved) (names : Array String) (id : Nat) :
    (typeOf c reserved names id).operations =
      List.zipWith (fun name m => operationOf reserved (c.get id) m name)
        (operationNames c reserved id) (c.get id).methods := rfl

/-- The type of a resource whose methods are changed has the operations of the changed methods. -/
theorem typeOf_mapMethods (f : Method → Method) (hname : ∀ m, (f m).name = m.name)
    (hverb : ∀ m, (f m).verb = m.verb) (c : Catalog) (reserved : Reserved) (names : Array String)
    (id : Nat) :
    typeOf (c.mapMethods f) reserved names id =
      { typeOf c reserved names id with
        operations := List.zipWith (fun name m => operationOf reserved (c.get id) (f m) name)
          (operationNames c reserved id) (c.get id).methods } := by
  have hmethods : ((c.get id).mapMethods f).methods = (c.get id).methods.map f := rfl
  have hchain : ((c.get id).mapMethods f).keyChain = (c.get id).keyChain := rfl
  have hpath : ((c.get id).mapMethods f).path = (c.get id).path := rfl
  have haccessor : ∀ (child : Resource) (target name : String),
      accessorOf reserved ((c.get id).mapMethods f) (child.mapMethods f) target name =
        accessorOf reserved (c.get id) child target name := fun _ _ _ => rfl
  have hclaim : ∀ child : Resource,
      accessorClaim reserved (child.mapMethods f) = accessorClaim reserved child := fun _ => rfl
  have hoperation : ∀ (m : Method) (name : String),
      operationOf reserved ((c.get id).mapMethods f) m name =
        operationOf reserved (c.get id) m name := fun _ _ => rfl
  simp only [typeOf, operationNames, Catalog.get_mapMethods, Catalog.children_mapMethods, hmethods,
    hchain, hpath, hname, hverb, List.map_map, Function.comp_def, hclaim, List.zipWith_map_right,
    haccessor, hoperation]

end ApiAtlas.Client
