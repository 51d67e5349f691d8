import ApiAtlas.Proofs.Client.Identifiers

/-!
# Types from elsewhere

The code of a client takes some types from its runtime and some from the language. The names of its
own types are kept apart from each other, but from no others: one of them is the name of a type from
elsewhere exactly if it is what the settings name the root, or what they and a lineage make the base
of another resource.
-/

namespace ApiAtlas.Client

open Checks Lexical Naming Resources

def unraw (name : String) : String :=
  if name.toList.take 2 = ['r', '#'] then String.ofList (name.toList.drop 2) else name

/-- The types that the code of a client takes from elsewhere. What is imported for encoding is a
function. -/
def ClientModule.foreignTypes (m : ClientModule) : List String :=
  m.imports.filter (· ≠ "encode_segment") ++ ["String", "Option", "Result"]

/-! ## Names with counters -/

/-- Behind two characters it is settled whether a name is raw. -/
theorem unraw_append {stem : String} (h : 2 ≤ stem.toList.length) (tail : String) :
    unraw (stem ++ tail) = unraw stem ++ tail := by
  simp only [unraw, String.toList_append, List.take_append_of_le_length h,
    List.drop_append_of_le_length h]
  split
  · rw [String.ofList_append, String.ofList_toList]
  · rfl

/-- Whether a name does not end in a digit, as one with a counter does. -/
def Uncounted (name : String) : Prop := ∀ c ∈ name.toList.getLast?, c.isDigit = false

theorem uncounted_iff {name : String} :
    Uncounted name ↔ name.toList.getLast?.all (!·.isDigit) = true := by
  simp [Uncounted, Option.all_eq_true]

instance (name : String) : Decidable (Uncounted name) :=
  decidable_of_iff _ uncounted_iff.symm

theorem uncounted_of_unraw {name : String} (h : Uncounted (unraw name)) : Uncounted name := by
  unfold unraw at h
  split at h
  · rename_i hraw
    intro c hc
    rw [Uncounted, String.toList_ofList, List.getLast?_drop] at h
    split at h
    · rename_i hlength
      rw [← List.take_append_drop 2 name.toList, hraw, List.drop_of_length_le hlength] at hc
      obtain rfl : '#' = c := by simpa using hc
      rfl
    · exact h c hc
  · exact h

theorem not_uncounted_append_toString (base : String) (k : Nat) :
    ¬ Uncounted (base ++ toString k) := by
  have hne : (toString k).toList ≠ [] := by simp
  intro h
  have hlast : (base ++ toString k).toList.getLast? = some ((toString k).toList.getLast hne) := by
    rw [String.toList_append, List.getLast?_append, List.getLast?_eq_some_getLast hne,
      Option.some_or]
  have hdigit := isDigit_of_mem_toString _ (List.getLast_mem hne)
  rw [h _ hlast] at hdigit
  exact Bool.false_ne_true hdigit

/-! ## Names of types -/

variable {c : Catalog} {s : Settings}

/-- A name without a counter is given to a type exactly if it is the base of one: the first of the
types with this base has it. -/
theorem exists_typeName_iff (hr : c.Rooted) (s : Settings) {name : String}
    (hname : Uncounted name) :
    (∃ id < c.rows.size, unraw (typeName c s id) = name) ↔
      unraw s.rootName = name ∨
        ∃ id < c.rows.size, id ≠ Catalog.root ∧ unraw (typeBase c s id) = name := by
  constructor
  · rintro ⟨id, hid, rfl⟩
    by_cases hne : id = Catalog.root
    · rw [hne, typeName_root hr]
      exact .inl rfl
    · have hfree := firstFree_typeName hr s hid hne
      generalize typeName c s id = given at hfree hname
      cases hfree with
      | plain => exact .inr ⟨id, hid, hne, rfl⟩
      | numbered k =>
        exact absurd (uncounted_of_unraw hname) (not_uncounted_append_toString _ k)
  · rintro (rfl | ⟨id, hid, hne, rfl⟩)
    · exact ⟨Catalog.root, hr.root_lt, congrArg unraw (typeName_root hr s)⟩
    · have hfree := firstFree_typeName hr s hid hne
      generalize hgiven : typeName c s id = given at hfree
      cases hfree with
      | plain => exact ⟨id, hid, congrArg unraw hgiven⟩
      | numbered k hbase =>
        obtain ⟨other, hother, hsame⟩ := List.mem_map.mp hbase
        exact ⟨other, (List.mem_range.mp hother).trans hid, congrArg unraw hsame⟩

theorem uncounted_of_mem_foreignTypes {m : ClientModule} :
    ∀ name ∈ m.foreignTypes, Uncounted name := by
  have hall : ∀ name ∈ importable ++ ["String", "Option", "Result"], Uncounted name := by decide
  intro name hname
  rcases List.mem_append.mp hname with hname | hname
  · exact hall name (List.mem_append_left _ (imports_subset m (List.mem_filter.mp hname).1))
  · exact hall name (List.mem_append_right _ hname)

/-- Behind a long stem with which no name of a list starts, no name of the list comes about. -/
theorem unraw_not_mem_of_stem {stem tail : String} {names : List String}
    (hstem : 2 ≤ stem.toList.length)
    (hnames : ∀ name ∈ names, ¬ (unraw stem).toList <+: name.toList) :
    unraw (stem ++ tail) ∉ names := by
  intro hmem
  refine hnames _ hmem ?_
  rw [unraw_append hstem, String.toList_append]
  exact List.prefix_append ..

/-- No type of the client of a built catalog is named like a type from elsewhere exactly if neither
the root's name nor the base of any other resource is one of their names. This is so for every stem
of two or more characters with which none of them starts. -/
theorem foreignTypes_apart_iff {document : Json} (h : Catalog.build document = .ok c)
    (s : Settings) :
    ((∀ t ∈ (assemble c s).types, unraw t.name ∉ (assemble c s).foreignTypes) ↔
      unraw s.rootName ∉ (assemble c s).foreignTypes ∧
        ∀ id < c.rows.size, id ≠ Catalog.root →
          unraw (typeBase c s id) ∉ (assemble c s).foreignTypes) ∧
      (2 ≤ s.typeStem.toList.length →
        (∀ name ∈ (assemble c s).foreignTypes, ¬ (unraw s.typeStem).toList <+: name.toList) →
        ∀ t ∈ (assemble c s).types, unraw t.name ∉ (assemble c s).foreignTypes) := by
  have hr := Catalog.build_rooted h
  have hiff : (∀ t ∈ (assemble c s).types, unraw t.name ∉ (assemble c s).foreignTypes) ↔
      unraw s.rootName ∉ (assemble c s).foreignTypes ∧
        ∀ id < c.rows.size, id ≠ Catalog.root →
          unraw (typeBase c s id) ∉ (assemble c s).foreignTypes := by
    constructor
    · intro hall
      have hnot : ∀ name ∈ (assemble c s).foreignTypes,
          ¬ ∃ id < c.rows.size, unraw (typeName c s id) = name := by
        rintro name hname ⟨id, hid, rfl⟩
        exact hall _ ((mem_types h s).mpr ⟨id, hid, rfl⟩) hname
      refine ⟨fun hroot => hnot _ hroot ?_, fun id hid hne hbase => hnot _ hbase ?_⟩
      · exact (exists_typeName_iff hr s (uncounted_of_mem_foreignTypes _ hroot)).mpr (.inl rfl)
      · exact (exists_typeName_iff hr s (uncounted_of_mem_foreignTypes _ hbase)).mpr
          (.inr ⟨id, hid, hne, rfl⟩)
    · rintro ⟨hroot, hbase⟩ t ht hname
      obtain ⟨id, hid, rfl⟩ := (mem_types h s).mp ht
      rcases (exists_typeName_iff hr s (uncounted_of_mem_foreignTypes _ hname)).mp
        ⟨id, hid, rfl⟩ with hsame | ⟨other, hother, hne, hsame⟩
      · exact hroot (hsame ▸ hname)
      · exact hbase other hother hne (hsame ▸ hname)
  refine ⟨hiff, fun hstem hnames => hiff.mpr ⟨?_, fun id _ _ => ?_⟩⟩
  · exact unraw_not_mem_of_stem hstem hnames
  · exact unraw_not_mem_of_stem hstem hnames

def clientDocument : Json := .arr [.obj [("text", .str "client"), ("path", .str "/client")]]

theorem foreignTypes_apart_usual : ∃ c, Catalog.build clientDocument = .ok c ∧
    2 ≤ "Pve".toList.length ∧
      (∀ name ∈ (assemble c {}).foreignTypes, ¬ (unraw "Pve").toList <+: name.toList) ∧
      ∀ t ∈ (assemble c {}).types, unraw t.name ∉ (assemble c {}).foreignTypes := by
  obtain ⟨c, hc, hnames⟩ := Catalog.exists_built clientDocument (P := fun c =>
    ∀ name ∈ (assemble c {}).foreignTypes, ¬ (unraw "Pve").toList <+: name.toList)
    (by decide +kernel)
  have hstem : 2 ≤ "Pve".toList.length := by decide
  exact ⟨c, hc, hstem, hnames, (foreignTypes_apart_iff hc {}).2 hstem hnames⟩

/-- Without a stem the type of a resource can be named like one that the code imports; the code is
given all the same. -/
theorem not_foreignTypes_apart_client : ∃ c code, Catalog.build clientDocument = .ok c ∧
    generate c { typeStem := "" } = .ok code ∧
      ∃ t ∈ (assemble c { typeStem := "" }).types,
        t.name = "Client" ∧ "Client" ∈ (assemble c { typeStem := "" }).imports ∧
          unraw t.name ∈ (assemble c { typeStem := "" }).foreignTypes := by
  obtain ⟨c, hc, hcode, htype, himport⟩ := Catalog.exists_built clientDocument (P := fun c =>
    (generate c { typeStem := "" }).toOption.isSome = true ∧
      "Client" ∈ (assemble c { typeStem := "" }).types.map (·.name) ∧
      "Client" ∈ (assemble c { typeStem := "" }).imports) (by decide +kernel)
  obtain ⟨t, ht, hname⟩ := List.mem_map.mp htype
  obtain ⟨code, hcode⟩ := exists_eq_ok hcode
  refine ⟨c, code, hc, hcode, t, ht, hname, himport, ?_⟩
  rw [hname]
  exact List.mem_append_left _ (List.mem_filter.mpr ⟨himport, by decide⟩)

end ApiAtlas.Client
