import ApiAtlas.Client.Generate
import ApiAtlas.Proofs.Client.Members
import ApiAtlas.Proofs.Client.Methods
import ApiAtlas.Proofs.Naming.Alterations

/-!
# Reserved words among the members

Every member of a client is named for a raw name: a key field for its key, an accessor for its
child, an operation for its method and an argument for its parameter. No member has a built-in word
for its name. A word that the user has reserved becomes the name of a member exactly if a plain name
is altered to it, since what alters a name does not look at the reserved words again.
-/

namespace ApiAtlas.Client

open Descriptor ListLaws Naming Resources

/-- The key fields, the functions and the arguments of a type. -/
def ClientType.memberNames (t : ClientType) : List String :=
  t.keys ++ t.functionNames ++ t.operations.flatMap fun o => o.arguments.map (·.name)

def accessorStem (child : Resource) : String :=
  if child.isPlaceholder then child.indexName else child.name

def argumentStems (r : Resource) (m : Method) : List String :=
  (m.orderedParameters r.keyChain).map fun p => familyStem p.wireName

/-- The raw names that the members of the type of a resource are named for, in their order. -/
def rawNames (c : Catalog) (id : Nat) : List String :=
  (c.get id).keyChain ++
    ((c.children id).map (fun (_, child) => accessorStem child) ++
      (c.get id).methods.map (·.name)) ++
    (c.get id).methods.flatMap (argumentStems (c.get id))

/-- What can be put behind a name that is taken. -/
def memberQualifiers : List String :=
  ["item", "resource", "arg", "get", "post", "put", "delete"]

section Names

variable (reserved : Reserved)

/-- The connection's name comes from a member that was not escaped, so that one underscore is put
behind it all the same. -/
theorem givenFor_keyField (qualifiers : List String) (key : String) :
    GivenFor reserved qualifiers key (keyField reserved key) := by
  simp only [keyField]
  split
  · rename_i hclient
    rcases reserved.member_cases key with ⟨-, heq⟩ | ⟨-, heq⟩
    · rw [heq]
      exact .altered .escaped
    · have hmem : '_' ∈ ("client" : String).toList := by
        rw [← hclient, heq, String.toList_append]
        exact List.mem_append_right _ List.mem_cons_self
      exact absurd hmem (by decide)
  · exact givenFor_member reserved qualifiers key

def accessorQualifier (child : Resource) : String :=
  if child.isPlaceholder then "item" else "resource"

theorem accessorClaim_eq (child : Resource) : accessorClaim reserved child =
    (reserved.member (accessorStem child), accessorQualifier child) := by
  unfold accessorClaim accessorStem accessorQualifier
  split <;> rfl

theorem accessorQualifier_mem (child : Resource) : accessorQualifier child ∈ memberQualifiers := by
  unfold accessorQualifier
  split <;> decide

theorem lowerText_mem (verb : Verb) : verb.lowerText ∈ memberQualifiers := by
  cases verb <;> decide

theorem givenFor_accessorNames (children : List (Nat × Resource)) (scope : NameScope) :
    List.Forall₂ (GivenFor reserved memberQualifiers)
      (children.map fun (_, child) => accessorStem child)
      (scope.claimAll (children.map fun (_, child) => accessorClaim reserved child)).1 := by
  simp only [accessorClaim_eq]
  exact scope.givenFor_claimAll reserved fun x _ => accessorQualifier_mem x.2

theorem givenFor_operationNames (methods : List Method) (scope : NameScope) :
    List.Forall₂ (GivenFor reserved memberQualifiers) (methods.map (·.name))
      (scope.claimAll (methods.map fun m => (reserved.member m.name, m.verb.lowerText))).1 :=
  scope.givenFor_claimAll reserved fun m _ => lowerText_mem m.verb

theorem givenFor_argumentsOf {qualifiers : List String} (harg : "arg" ∈ qualifiers)
    (parameters : List Parameter) :
    List.Forall₂ (GivenFor reserved qualifiers) (parameters.map fun p => familyStem p.wireName)
      ((argumentsOf reserved parameters).map (·.name)) := by
  rw [argumentsOf, List.map_zipWith, zipWith_fst (by simp)]
  exact NameScope.givenFor_claimAll reserved (fun _ _ => harg) _

end Names

section Types

variable (c : Catalog) (reserved : Reserved) (names : Array String) (id : Nat)

theorem argumentNames_typeOf :
    ((typeOf c reserved names id).operations.map fun o => o.arguments.map (·.name)) =
      (c.get id).methods.map fun m =>
        (argumentsOf reserved (m.orderedParameters (c.get id).keyChain)).map (·.name) := by
  rw [operations_typeOf, List.map_zipWith]
  apply zipWith_snd _ fun m : Method =>
    (argumentsOf reserved (m.orderedParameters (c.get id).keyChain)).map (·.name)
  simp [operationNames]

/-- The members of the type of a resource are named for its raw names. -/
theorem givenFor_memberNames :
    List.Forall₂ (GivenFor reserved memberQualifiers) (rawNames c id)
      (typeOf c reserved names id).memberNames := by
  have hkeys : List.Forall₂ (GivenFor reserved memberQualifiers) (c.get id).keyChain
      (typeOf c reserved names id).keys := by
    apply List.forall₂_map_right_iff.mpr
    rw [List.forall₂_same]
    intro key _
    exact givenFor_keyField reserved memberQualifiers key
  have harguments : List.Forall₂ (GivenFor reserved memberQualifiers)
      ((c.get id).methods.flatMap (argumentStems (c.get id)))
      ((typeOf c reserved names id).operations.flatMap fun o => o.arguments.map (·.name)) := by
    rw [List.flatMap_def, List.flatMap_def, argumentNames_typeOf]
    apply List.rel_flatten
    rw [List.forall₂_map_left_iff, List.forall₂_map_right_iff, List.forall₂_same]
    intro m _
    exact givenFor_argumentsOf reserved (by decide) (m.orderedParameters (c.get id).keyChain)
  unfold rawNames ClientType.memberNames
  rw [functionNames_typeOf]
  apply List.rel_append _ harguments
  apply List.rel_append hkeys
  exact List.rel_append (givenFor_accessorNames reserved _ _) (givenFor_operationNames reserved _ _)

end Types

/-- In the client of a built catalog the members of the type of a resource are named for its raw
names: plainly or by an alteration. None of them has a built-in word for its name, and one has a
word that the user has reserved exactly if this is not the plain name. So words without an
underscore are never the names of members. -/
theorem members_reserved_iff {document : Json} {c : Catalog} (h : Catalog.build document = .ok c)
    (s : Settings) :
    (assemble c s).types.length = c.rows.size ∧
      ∀ id < c.rows.size, ∃ t, (assemble c s).types[id]? = some t ∧
        List.Forall₂ (fun raw name => name ∉ builtinWords ∧
          (name = plainName raw ∨ Altered memberQualifiers (plainName raw) name) ∧
          (s.reserved.contains name = true ↔ name ∈ s.extraReserved ∧ name ≠ plainName raw))
            (rawNames c id) t.memberNames ∧
        ((∀ word ∈ s.extraReserved, '_' ∉ word.toList) →
          ∀ name ∈ t.memberNames, s.reserved.contains name = false) := by
  refine ⟨length_types h s, ?_⟩
  intro id hid
  have hgiven := givenFor_memberNames c s.reserved (typeNames c s) id
  refine ⟨_, getElem?_types h s hid, ?_, ?_⟩
  · apply hgiven.imp
    intro raw name hname
    exact ⟨hname.not_mem_builtinWords, hname.eq_or_altered, hname.contains_iff⟩
  · intro hplain name hname
    obtain ⟨raw, -, hraw⟩ := exists_of_mem_forall₂ hgiven.flip name hname
    exact hraw.not_contains_of_no_underscore hplain

def takenDocument : Json :=
  .arr [.obj [
    ("text", .str "a"), ("path", .str "/a"),
    ("info", .obj [("GET", .obj [("name", .str "b")])]),
    ("children", .arr [.obj [("text", .str "b"), ("path", .str "/a/b")]])]]

theorem members_reserved_iff_taken : ∃ c t, Catalog.build takenDocument = .ok c ∧
    1 < c.rows.size ∧ (assemble c { extraReserved := ["b"] }).types[1]? = some t ∧
      t.memberNames = ["b_", "b__get"] ∧
        ∀ name ∈ t.memberNames,
          ({ extraReserved := ["b"] } : Settings).reserved.contains name = false := by
  obtain ⟨c, hc, hid, hnames⟩ := Catalog.exists_built takenDocument
    (P := fun c => 1 < c.rows.size ∧
      ((assemble c { extraReserved := ["b"] }).types[1]?).map (·.memberNames) =
        some ["b_", "b__get"]) (by decide +kernel)
  obtain ⟨-, htypes⟩ := members_reserved_iff hc { extraReserved := ["b"] }
  obtain ⟨t, ht, -, hfree⟩ := htypes 1 hid
  rw [ht, Option.map_some, Option.some_inj] at hnames
  exact ⟨c, t, hc, hid, ht, hnames, hfree (by decide)⟩

/-- A reserved word is given to a method because its plain name is that of an accessor. -/
theorem reserved_member_b_get : ∃ c t, Catalog.build takenDocument = .ok c ∧
    (∃ code, generate c { extraReserved := ["b_get"] } = .ok code) ∧
      (assemble c { extraReserved := ["b_get"] }).types[1]? = some t ∧
        ¬ ∀ name ∈ t.memberNames,
          ({ extraReserved := ["b_get"] } : Settings).reserved.contains name = false := by
  obtain ⟨c, hc, hcode, hnames⟩ := Catalog.exists_built takenDocument
    (P := fun c => (generate c { extraReserved := ["b_get"] }).toOption.isSome = true ∧
      ((assemble c { extraReserved := ["b_get"] }).types[1]?).map (·.memberNames) =
        some ["b", "b_get"]) (by decide +kernel)
  obtain ⟨t, ht, hnames⟩ := Option.map_eq_some_iff.mp hnames
  refine ⟨c, t, hc, Checks.exists_eq_ok hcode, ht, ?_⟩
  rw [hnames]
  decide

end ApiAtlas.Client
