import ApiAtlas.Proofs.Client.Documentation
import ApiAtlas.Proofs.Client.Methods
import ApiAtlas.Proofs.Resources.Undescribed

/-!
# Descriptions and code

The descriptions of a document and the header of the settings get into comment lines of the code and
nowhere else: documents that differ in descriptions alone give code that is the same outside of
comment lines.
-/

namespace ApiAtlas.Client

open Descriptor Lexical Naming Resources Text

/-! ## Clients of catalogs without descriptions -/

theorem orderedParameters_undescribed (m : Method) (keyChain : List String) :
    m.undescribed.orderedParameters keyChain =
      (m.orderedParameters keyChain).map Parameter.undescribed := by
  have hprecedes : ∀ a b : Parameter,
      Method.precedes a b = Method.precedes a.undescribed b.undescribed := by
    simp [Method.precedes]
  rw [Method.orderedParameters, Method.orderedParameters,
    List.map_mergeSort fun a _ b _ => hprecedes a b]
  simp [Method.undescribed, List.filter_map, Function.comp_def]

theorem operationOf_undescribed (reserved : Reserved) (r : Resource) (m : Method) (name : String) :
    (operationOf reserved r m.undescribed name).undocumented =
      (operationOf reserved r m name).undocumented := by
  have harguments : argumentsOf reserved (m.undescribed.orderedParameters r.keyChain) =
      argumentsOf reserved (m.orderedParameters r.keyChain) := by
    rw [orderedParameters_undescribed, argumentsOf_map Parameter.wireName_undescribed
      Parameter.valueType_undescribed Parameter.isOptional_undescribed]
  simp only [operationOf, Operation.undocumented, harguments]
  rfl

theorem typeOf_undescribed (c : Catalog) (reserved : Reserved) (names : Array String) (id : Nat) :
    (typeOf (c.mapMethods Method.undescribed) reserved names id).undocumented =
      (typeOf c reserved names id).undocumented := by
  rw [typeOf_mapMethods Method.undescribed (fun _ => rfl) fun _ => rfl]
  simp only [ClientType.undocumented, operations_typeOf, List.map_zipWith, operationOf_undescribed]

/-- Without documentation, the client of a catalog has nothing of its descriptions. -/
theorem assemble_undescribed (c : Catalog) (s : Settings) :
    (assemble c.undescribed s).undocumented = (assemble c s).undocumented := by
  simp only [assemble, ClientModule.undocumented, List.map_map, Catalog.undescribed_eq_mapMethods,
    Catalog.descendants_mapMethods, typeNames_mapMethods, Function.comp_def, typeOf_undescribed]

/-! ## Code outside of comments -/

theorem checkNames_undocumented (m : ClientModule) : checkNames m.undocumented = checkNames m := by
  have hfind : ∀ p : String → Bool,
      (m.undocumented.types.find? fun t => p t.name) =
        (m.types.find? fun t => p t.name).map ClientType.undocumented := by
    intro p
    simp [ClientModule.undocumented, List.find?_map, Function.comp_def, ClientType.undocumented]
  have hpath : m.undocumented.runtimePath = m.runtimePath := rfl
  unfold checkNames
  rw [hfind fun name => !isName name, hfind isKeyword, hpath]
  cases m.types.find? fun t => !isName t.name with
  | some t => rfl
  | none =>
    cases ModulePath.ofText? m.runtimePath with
    | none => rfl
    | some runtime => cases m.types.find? fun t => isKeyword t.name <;> rfl

/-- Outside of comment lines there is nothing of the documentation and the header in the code. -/
theorem withoutComments_generate (c : Catalog) (s : Settings) :
    withoutComments <$> generate c s =
      (fun runtime => withoutComments ("\n" ++ Code.text runtime (assemble c s).undocumented)) <$>
        checkNames (assemble c s).undocumented := by
  rw [checkNames_undocumented]
  cases hchecked : checkNames (assemble c s) with
  | error e =>
    rw [generate, hchecked]
    rfl
  | ok runtime =>
    have hcode : generate c s =
        .ok (headerText s.header ++ Code.text runtime (assemble c s)) := by
      rw [generate, hchecked]
      rfl
    obtain ⟨runtime', notes, hruntime, -, hannotated⟩ := annotated_generate hcode
    obtain rfl := Except.ok.inj (hchecked.symm.trans hruntime)
    have hbare : Annotated (notes ++ (assemble c s).types.flatMap (·.notes))
        (headerText s.header ++ Code.text runtime (assemble c s)).toList
        ("\n" ++ Code.text runtime (assemble c s).undocumented).toList := by
      simpa using hannotated
    rw [hcode]
    exact congrArg Except.ok hbare.withoutComments_eq

/-- Documents that are accepted and differ in descriptions of methods, parameters and returned
fields alone give the same code outside of comment lines, whatever the headers are: there is code
for both or for none of them. -/
theorem descriptions_apart_from_code {first second : Json}
    (hsame : undescribed .entries first = undescribed .entries second) {c d : Catalog}
    (hc : Catalog.build first = .ok c) (hd : Catalog.build second = .ok d) (s : Settings)
    (header header' : Option String) :
    withoutComments <$> generate c { s with header } =
      withoutComments <$> generate d { s with header := header' } := by
  have hcatalogs : c.undescribed = d.undescribed := by
    have hbuilt := Catalog.build_undescribed first
    rw [hsame, Catalog.build_undescribed second, hc, hd] at hbuilt
    exact (Except.ok.inj hbuilt).symm
  have hclients : (assemble c { s with header }).undocumented =
      (assemble d { s with header := header' }).undocumented := by
    rw [← assemble_undescribed c, ← assemble_undescribed d, hcatalogs]
    rfl
  rw [withoutComments_generate, withoutComments_generate, hclients]

/-- A document of one method and its parameter `description`, with the same text in the description
of both. -/
def documentDescribed (text : Option String) : Json :=
  let description := text.toList.map fun text => ("description", Json.str text)
  .arr [.obj [("text", .str "x"), ("path", .str "/x"), ("info", .obj [("GET", .obj (description ++ [
    ("name", .str "x"), ("parameters", .obj [("properties", .obj [
      ("description", .obj (description ++ [("type", .str "string")]))])])]))])]]

theorem descriptions_apart_from_code_comment_end : ∃ c d,
    Catalog.build (documentDescribed "*/ \"\nmod x;\n// y") = .ok c ∧
    Catalog.build (documentDescribed none) = .ok d ∧
    (generate c { header := some "*/\nmod z;" }).toOption.isSome = true ∧
    withoutComments <$> generate c { header := some "*/\nmod z;" } =
      withoutComments <$> generate d {} := by
  have hsame : undescribed .entries (documentDescribed "*/ \"\nmod x;\n// y") =
    undescribed .entries (documentDescribed none) := rfl
  obtain ⟨c, hc, hcode⟩ := Catalog.exists_built (documentDescribed "*/ \"\nmod x;\n// y")
    (P := fun c => (generate c { header := some "*/\nmod z;" }).toOption.isSome = true)
    (by decide +kernel)
  obtain ⟨d, hd, -⟩ := Catalog.exists_built (documentDescribed none) (P := fun _ => True)
    (by decide +kernel)
  exact ⟨c, d, hc, hd, hcode, descriptions_apart_from_code hsame hc hd {} _ _⟩

end ApiAtlas.Client
