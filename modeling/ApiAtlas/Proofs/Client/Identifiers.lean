import ApiAtlas.Client.Generate
import ApiAtlas.Proofs.Client.TypeNames
import ApiAtlas.Proofs.Client.Types
import ApiAtlas.Proofs.Naming.Identifiers

/-!
# Identifiers of a client

Whatever the texts of a document are, every name in the client of its catalog is an identifier, so
that the code of the client can always be given unless the settings are in the way. A type name is
the stem of the settings, which is followed by letters and digits; the name of a member is an
identifier because of its escapes.
-/

namespace ApiAtlas.Client

open Descriptor Lexical ListLaws Naming Resources

/-! ## The names that the code is made with -/

def Accessor.identifiers (a : Accessor) : List String :=
  a.name :: a.target :: a.inherited ++ a.key?.toList

def Operation.identifiers (o : Operation) : List String :=
  o.name :: o.path.keys ++ o.arguments.map (·.name)

def ClientType.identifiers (t : ClientType) : List String :=
  t.name :: t.keys ++ t.accessors.flatMap (·.identifiers) ++ t.operations.flatMap (·.identifiers)

/-- All names that stand in the code of a client, besides those of the runtime path. -/
def ClientModule.identifiers (m : ClientModule) : List String :=
  m.imports ++ m.types.flatMap (·.identifiers)

/-! ## Members -/

theorem isIdentifier_keyField (reserved : Reserved) (key : String) :
    IsIdentifier (keyField reserved key) := by
  simp only [keyField]
  split
  · rename_i hclient
    rw [hclient]
    decide
  · exact reserved.isIdentifier_member key

theorem isIdentifier_of_mem_keys {reserved : Reserved} {chain : List String} :
    ∀ key ∈ chain.map (keyField reserved), IsIdentifier key := by
  intro key hkey
  obtain ⟨raw, -, rfl⟩ := List.mem_map.mp hkey
  exact isIdentifier_keyField reserved raw

theorem isIdentifier_of_mem_argumentsOf {reserved : Reserved} {parameters : List Parameter} :
    ∀ a ∈ argumentsOf reserved parameters, IsIdentifier a.name := by
  intro a ha
  simp only [argumentsOf] at ha
  obtain ⟨name, hname, p, -, rfl⟩ := exists_of_mem_zipWith ha
  refine NameScope.forall_mem_claimAll (fun claim hclaim scope => ?_) _ name hname
  obtain ⟨p, -, rfl⟩ := List.mem_map.mp hclaim
  dsimp only
  exact scope.isIdentifier_fresh (reserved.isIdentifier_member _) (List.all_eq_true.mp (by decide))

theorem isIdentifier_of_mem_operationOf {reserved : Reserved} {r : Resource} {m : Method}
    {name : String} (hname : IsIdentifier name) :
    ∀ text ∈ (operationOf reserved r m name).identifiers, IsIdentifier text := by
  intro text htext
  simp only [Operation.identifiers, operationOf, pathTemplate, List.cons_append, List.mem_cons,
    List.mem_append] at htext
  rcases htext with rfl | htext | htext
  · exact hname
  · exact isIdentifier_of_mem_keys text htext
  · obtain ⟨a, ha, rfl⟩ := List.mem_map.mp htext
    exact isIdentifier_of_mem_argumentsOf a ha

theorem forall_mem_accessorOf {P : String → Prop} (hmember : ∀ name, IsIdentifier name → P name)
    {reserved : Reserved} {r child : Resource} {target name : String} (htarget : P target)
    (hname : IsIdentifier name) :
    ∀ text ∈ (accessorOf reserved r child target name).identifiers, P text := by
  intro text htext
  simp only [accessorOf] at htext
  split at htext
  all_goals
    simp only [Accessor.identifiers, List.cons_append, List.mem_cons, List.mem_append,
      Option.toList_some, Option.toList_none, List.not_mem_nil, or_false] at htext
  · rcases htext with rfl | rfl | htext | hkey
    · exact hmember _ hname
    · exact htarget
    · exact hmember _ (isIdentifier_of_mem_keys text htext)
    · exact hkey ▸ hmember _ (isIdentifier_keyField reserved child.indexName)
  · rcases htext with rfl | rfl | htext
    · exact hmember _ hname
    · exact htarget
    · exact hmember _ (isIdentifier_of_mem_keys text htext)

/-! ## Types -/

/-- Whether a name is spelled like those of types: a `P` and letters and digits behind it. -/
structure IsTypeName (name : String) : Prop where
  head : name.toList.head? = some 'P'
  all : ∀ c ∈ name.toList, c.isAlphanum = true

instance (name : String) : Decidable (IsTypeName name) :=
  decidable_of_iff (name.toList.head? = some 'P' ∧ name.toList.all Char.isAlphanum = true)
    ⟨fun h => ⟨h.1, List.all_eq_true.mp h.2⟩, fun h => ⟨h.head, List.all_eq_true.mpr h.all⟩⟩

theorem IsTypeName.append {name tail : String} (h : IsTypeName name)
    (htail : ∀ c ∈ tail.toList, c.isAlphanum = true) : IsTypeName (name ++ tail) := by
  constructor
  · rw [String.toList_append, List.head?_append, h.head]
    rfl
  · rw [String.toList_append]
    exact List.forall_mem_append.mpr ⟨h.all, htail⟩

theorem IsTypeName.isIdentifier {name : String} (h : IsTypeName name) : IsIdentifier name := by
  have hbuiltin : name ∉ builtinWords := by
    have hall : ∀ word ∈ builtinWords, word.toList.head? ≠ some 'P' := by decide
    exact fun hmem => hall name hmem h.head
  obtain ⟨rest, hlist⟩ := List.head?_eq_some_iff.mp h.head
  have hrest := h.all
  rw [hlist] at hrest
  refine ⟨?_, isKeyword_eq_false hbuiltin ?_, hbuiltin⟩
  · rw [hlist]
    refine isWord_cons (.inl rfl) fun c hc => ?_
    simp [isNameChar, (List.forall_mem_cons.mp hrest).2 c hc]
  · rintro rfl
    simpa using h.head

theorem isAlphanum_of_mem_nameFragment (r : Resource) :
    ∀ c ∈ (nameFragment r).toList, c.isAlphanum = true := by
  unfold nameFragment
  split
  · rw [String.toList_append]
    exact List.forall_mem_append.mpr
      ⟨List.all_eq_true.mp (by decide), isAlphanum_of_mem_pascalCase⟩
  · exact isAlphanum_of_mem_pascalCase

theorem IsTypeName.firstFree {taken : List String} {base name : String} (h : IsTypeName base)
    (hname : FirstFree taken base name) : IsTypeName name := by
  cases hname with
  | plain => exact h
  | numbered k =>
    exact h.append fun c hc => by simp [Char.isAlphanum, isDigit_of_mem_toString c hc]

theorem isTypeName_typeName {c : Catalog} (extraReserved : List String) (header : Option String)
    (h : c.Rooted) {id : Nat} (hid : id < c.rows.size) :
    IsTypeName (typeName c { extraReserved, header } id) := by
  by_cases hne : id = Catalog.root
  · rw [hne, typeName_root h]
    show IsTypeName "PveApi"
    decide
  · have hstem : IsTypeName "Pve" := by decide
    have hbase : IsTypeName (typeBase c { extraReserved, header } id) := by
      refine hstem.append fun d hd => ?_
      rw [String.toList_join] at hd
      obtain ⟨_, hfragment, hd⟩ := List.mem_flatMap.mp hd
      obtain ⟨m, -, rfl⟩ := List.mem_map.mp hfragment
      exact isAlphanum_of_mem_nameFragment _ d hd
    exact hbase.firstFree (firstFree_typeName h _ hid hne)

theorem isIdentifier_accessorClaim_fresh (reserved : Reserved) (child : Resource)
    (scope : NameScope) : IsIdentifier
      (scope.fresh (accessorClaim reserved child).1 (accessorClaim reserved child).2) := by
  unfold accessorClaim
  split
  all_goals
    dsimp only
    exact scope.isIdentifier_fresh (reserved.isIdentifier_member _)
      (List.all_eq_true.mp (by decide))

theorem isNameChar_of_mem_lowerText (verb : Verb) :
    ∀ c ∈ verb.lowerText.toList, isNameChar c = true := by
  cases verb <;> exact List.all_eq_true.mp (by decide)

theorem isIdentifier_of_mem_accessorNames (reserved : Reserved) (children : List (Nat × Resource))
    (scope : NameScope) : ∀ name ∈ (scope.claimAll (children.map fun (_, child) =>
      accessorClaim reserved child)).1, IsIdentifier name := by
  refine NameScope.forall_mem_claimAll (fun claim hclaim scope => ?_) scope
  obtain ⟨⟨_, row⟩, -, rfl⟩ := List.mem_map.mp hclaim
  exact isIdentifier_accessorClaim_fresh reserved row scope

theorem isIdentifier_of_mem_operationNames (reserved : Reserved) (methods : List Method)
    (scope : NameScope) : ∀ name ∈ (scope.claimAll (methods.map fun m =>
      (reserved.member m.name, m.verb.lowerText))).1, IsIdentifier name := by
  refine NameScope.forall_mem_claimAll (fun claim hclaim scope => ?_) scope
  obtain ⟨m, -, rfl⟩ := List.mem_map.mp hclaim
  dsimp only
  exact scope.isIdentifier_fresh (reserved.isIdentifier_member _)
    (isNameChar_of_mem_lowerText m.verb)

/-- What holds of all identifiers and of the type names of a resource and its children holds of all
names in the type of the resource. -/
theorem forall_mem_typeOf {P : String → Prop} (hmember : ∀ name, IsIdentifier name → P name)
    {c : Catalog} {reserved : Reserved} {names : Array String} {id : Nat}
    (hname : P (names[id]?.getD ""))
    (hchildren : ∀ child ∈ (c.get id).children, P (names[child]?.getD "")) :
    ∀ text ∈ (typeOf c reserved names id).identifiers, P text := by
  intro text htext
  simp only [ClientType.identifiers, typeOf, List.cons_append, List.mem_cons,
    List.mem_append] at htext
  rcases htext with rfl | (htext | htext) | htext
  · exact hname
  · exact hmember _ (isIdentifier_of_mem_keys text htext)
  · obtain ⟨a, ha, htext⟩ := List.mem_flatMap.mp htext
    obtain ⟨name, hmem, ⟨child, row⟩, hchild, rfl⟩ := exists_of_mem_zipWith ha
    obtain ⟨child', hchild', hpair⟩ := List.mem_map.mp hchild
    obtain ⟨rfl, -⟩ := Prod.mk.inj hpair
    exact forall_mem_accessorOf hmember (hchildren child' hchild')
      (isIdentifier_of_mem_accessorNames reserved _ _ name hmem) text htext
  · obtain ⟨o, ho, htext⟩ := List.mem_flatMap.mp htext
    obtain ⟨name, hmem, m, -, rfl⟩ := exists_of_mem_zipWith ho
    exact hmember _ (isIdentifier_of_mem_operationOf
      (isIdentifier_of_mem_operationNames reserved _ _ name hmem) text htext)

def importable : List String :=
  ["ApiResult"] ++ ["Client"] ++ ["ClientError", "Params", "Verb"] ++ ["encode_segment"]

theorem imports_subset (m : ClientModule) : m.imports ⊆ importable := by
  intro name hname
  simp only [ClientModule.imports, importable, List.mem_append] at hname ⊢
  rcases hname with ((hname | hname) | hname) | hname
  · exact .inl (.inl (.inl (mem_of_mem_ite hname)))
  · exact .inl (.inl (.inr hname))
  · exact .inl (.inr (mem_of_mem_ite hname))
  · exact .inr (mem_of_mem_ite hname)

theorem isIdentifier_of_mem_imports (m : ClientModule) :
    ∀ name ∈ m.imports, IsIdentifier name := by
  have hall : ∀ name ∈ importable, IsIdentifier name := by decide
  exact fun name hname => hall name (imports_subset m hname)

theorem ClientModule.name_mem_identifiers {m : ClientModule} {t : ClientType} (ht : t ∈ m.types) :
    t.name ∈ m.identifiers :=
  List.mem_append_right _ (List.mem_flatMap.mpr ⟨t, ht, List.mem_cons_self⟩)

/-- What holds of all identifiers and of the type names of a built catalog holds of all names in its
client. -/
theorem forall_mem_identifiers {P : String → Prop} (hmember : ∀ name, IsIdentifier name → P name)
    {document : Json} {c : Catalog} (h : Catalog.build document = .ok c) (s : Settings)
    (htypes : ∀ id < c.rows.size, P (typeName c s id)) :
    ∀ name ∈ (assemble c s).identifiers, P name := by
  have hr := Catalog.build_rooted h
  intro name hname
  rcases List.mem_append.mp hname with hname | hname
  · exact hmember name (isIdentifier_of_mem_imports _ name hname)
  · obtain ⟨t, ht, hname⟩ := List.mem_flatMap.mp hname
    rw [assemble, Catalog.cons_descendants_root h] at ht
    obtain ⟨id, hid, rfl⟩ := List.mem_map.mp ht
    exact forall_mem_typeOf hmember (htypes id (List.mem_range.mp hid))
      (fun child hchild => htypes child (hr.child_lt_size hchild)) name hname

/-! ## Code -/

theorem isName_of_isWord {name : String} (h : isWord name.toList = true) : isName name = true := by
  unfold isName
  split
  · rename_i cs hlist
    have hmark : Unicode.isContinue '#' = false := isContinue_ascii (by decide)
    simp [hlist, isWord, hmark] at h
  · exact h

theorem checkNames_eq_ok {m : ClientModule} {runtime : ModulePath}
    (hnames : ∀ t ∈ m.types, IsIdentifier t.name)
    (hruntime : ModulePath.ofText? m.runtimePath = some runtime) :
    checkNames m = .ok runtime := by
  have hword : m.types.find? (fun t => !isName t.name) = none :=
    List.find?_eq_none.mpr fun t ht => by simp [isName_of_isWord (hnames t ht).isWord]
  have hkeyword : m.types.find? (fun t => isKeyword t.name) = none :=
    List.find?_eq_none.mpr fun t ht => by simp [(hnames t ht).not_keyword]
  simp only [checkNames, hword, hruntime, hkeyword]

/-- Whatever the texts of a document are, and whatever words are reserved besides: every name in the
client of a built catalog is an identifier, and the code of the client is given, if the settings
leave the names of types and the runtime as they usually are. -/
theorem generate_usualNames {document : Json} {c : Catalog} (h : Catalog.build document = .ok c)
    (extraReserved : List String) (header : Option String) :
    (∀ name ∈ (assemble c { extraReserved, header }).identifiers, IsIdentifier name) ∧
      ∃ code, generate c { extraReserved, header } = .ok code := by
  have hall : ∀ name ∈ (assemble c { extraReserved, header }).identifiers, IsIdentifier name :=
    forall_mem_identifiers (fun _ => id) h _ fun _ hid =>
      (isTypeName_typeName extraReserved header (Catalog.build_rooted h) hid).isIdentifier
  refine ⟨hall, ?_⟩
  have hruntime : ModulePath.ofText? "pve_apigen::client" =
      some ⟨false, ["pve_apigen", "client"]⟩ := by decide +kernel
  rw [generate, checkNames_eq_ok (fun t ht => hall _ (ClientModule.name_mem_identifiers ht))
    hruntime]
  exact ⟨_, rfl⟩

theorem generate_usualNames_self : ∃ c, Catalog.build (leafDocument "self") = .ok c ∧
    (∀ name ∈ (assemble c { extraReserved := ["self_"] }).identifiers, IsIdentifier name) ∧
      ∃ code, generate c { extraReserved := ["self_"] } = .ok code := by
  obtain ⟨c, hc, -⟩ := Catalog.exists_built (leafDocument "self")
    (P := fun c => 2 < c.rows.size) (by decide +kernel)
  exact ⟨c, hc, generate_usualNames hc ["self_"] none⟩

end ApiAtlas.Client
