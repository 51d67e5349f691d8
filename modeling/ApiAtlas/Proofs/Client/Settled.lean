import ApiAtlas.Proofs.Client.Identifiers
import ApiAtlas.Proofs.Naming.Cases

/-!
# Generations that settle

A generation settles if there is code in the end or a complaint about it: a runtime path that is no
path of modules, or a type name that is a keyword. It does not settle if a type name is not even
spelled as one. All other names are identifiers, and what the resources add to type names keeps them
spelled as names, so this hangs on the name of the root and on the stem with what the resources
right below the root add to it.
-/

namespace ApiAtlas.Client

open Lexical Naming Resources Text

/-! ## Names that go on -/

theorem isName_iff {name : String} : isName name = true ↔ isWord name.toList = true ∨
    ∃ word, name.toList = 'r' :: '#' :: word ∧ isWord word = true ∧
      String.ofList word ∉ neverRaw := by
  constructor
  · intro h
    unfold isName at h
    split at h
    · rename_i word hlist
      simp only [Bool.and_eq_true, Bool.not_eq_true', List.contains_eq_mem,
        decide_eq_false_iff_not] at h
      exact .inr ⟨word, hlist, h⟩
    · exact .inl h
  · rintro (h | ⟨word, hlist, hword, hraw⟩)
    · exact isName_of_isWord h
    · simp [isName, hlist, hword, hraw]

/-- What is added behind a raw word makes none of the words that cannot be raw, unless it starts
with a small letter. -/
theorem not_mem_neverRaw {word tail : List Char} (hword : isWord word = true)
    (hraw : String.ofList word ∉ neverRaw) (hhead : ∀ c ∈ tail.head?, c.isLower = false) :
    String.ofList (word ++ tail) ∉ neverRaw := by
  cases tail with
  | nil => rwa [List.append_nil]
  | cons c cs =>
    have hsmall : neverRaw.all (fun raw => raw.toList.tail.all Char.isLower) = true := by decide
    have hne : word ≠ [] := by
      rintro rfl
      simp [isWord] at hword
    obtain ⟨first, rest, rfl⟩ := List.exists_cons_of_ne_nil hne
    intro hmem
    have hlower := List.all_eq_true.mp (List.all_eq_true.mp hsmall _ hmem) c (by simp)
    rw [hhead c rfl] at hlower
    exact Bool.false_ne_true hlower

/-- A name goes on with letters and digits, the first of which is no small letter. -/
theorem isName_append {name tail : String} (h : isName name = true)
    (hall : ∀ c ∈ tail.toList, c.isAlphanum = true)
    (hhead : ∀ c ∈ tail.toList.head?, c.isLower = false) : isName (name ++ tail) = true := by
  have hchars : ∀ c ∈ tail.toList, isNameChar c = true := fun c hc => by
    simp [isNameChar, hall c hc]
  rw [isName_iff, String.toList_append]
  rcases isName_iff.mp h with hword | ⟨word, hlist, hword, hraw⟩
  · exact .inl (isWord_append hword hchars)
  · refine .inr ⟨word ++ tail.toList, ?_, isWord_append hword hchars,
      not_mem_neverRaw hword hraw hhead⟩
    rw [hlist, List.cons_append, List.cons_append]

theorem isName_append_nameFragment {name : String} (h : isName name = true) (r : Resource) :
    isName (name ++ nameFragment r) = true := by
  refine isName_append h (isAlphanum_of_mem_nameFragment r) ?_
  unfold nameFragment
  split
  · intro c hc
    obtain rfl : 'I' = c := by simpa using hc
    rfl
  · exact (isPascal_pascalCase _).isLower_head?

theorem FirstFree.isName {taken : List String} {base name : String}
    (h : FirstFree taken base name) (hbase : isName base = true) : Lexical.isName name = true := by
  cases h with
  | plain => exact hbase
  | numbered k =>
    refine isName_append hbase (fun c hc => ?_) fun c hc => ?_
    · simp [Char.isAlphanum, isDigit_of_mem_toString c hc]
    · have hdigit := isDigit_of_mem_toString c (List.mem_of_mem_head? hc)
      exact forall_alphanum (P := fun c => c.isDigit = true → c.isLower = false)
        (by decide +kernel) (by simp [Char.isAlphanum, hdigit]) hdigit

/-- A base that is not a name of its own is among the names in front. -/
theorem FirstFree.isName_base {taken : List String} {base name : String}
    (h : FirstFree taken base name) (htaken : ∀ other ∈ taken, Lexical.isName other = true)
    (hname : Lexical.isName name = true) : Lexical.isName base = true := by
  cases h with
  | plain => exact hname
  | numbered k hbase => exact htaken base hbase

/-! ## Type names -/

variable {c : Catalog} {s : Settings}

/-- Whether the names of types are spelled as names at the root and right below it. -/
structure StartsNames (c : Catalog) (s : Settings) : Prop where
  root : isName s.rootName = true
  top : ∀ child ∈ (c.get Catalog.root).children,
    isName (s.typeStem ++ nameFragment (c.get child)) = true

instance (c : Catalog) (s : Settings) : Decidable (StartsNames c s) :=
  decidable_of_iff (isName s.rootName = true ∧ ∀ child ∈ (c.get Catalog.root).children,
    isName (s.typeStem ++ nameFragment (c.get child)) = true)
    ⟨fun ⟨hroot, htop⟩ => ⟨hroot, htop⟩, fun h => ⟨h.root, h.top⟩⟩

theorem isName_typeBase (hr : c.Rooted) (h : StartsNames c s) {id : Nat}
    (hid : id < c.rows.size) (hne : id ≠ Catalog.root) : isName (typeBase c s id) = true := by
  refine hr.induction (P := fun id => id ≠ Catalog.root → isName (typeBase c s id) = true)
    (fun hne => absurd rfl hne) (fun id parent hp ih _ => ?_) id hid hne
  rw [typeBase_of_parent hr s hp]
  by_cases htop : parent = Catalog.root
  · rw [htop, typeBase_root hr]
    exact h.top id ((hr.mem_children id _).mpr (htop ▸ hp))
  · exact isName_append_nameFragment (ih htop) _

theorem isName_typeName_iff (hr : c.Rooted) (s : Settings) :
    (∀ id < c.rows.size, isName (typeName c s id) = true) ↔ StartsNames c s := by
  constructor
  · intro h
    refine ⟨typeName_root hr s ▸ h Catalog.root hr.root_lt, fun child hchild => ?_⟩
    have hp := (hr.mem_children child _).mp hchild
    have hid := hr.child_lt_size hchild
    rw [← typeBase_root hr s, ← typeBase_of_parent hr s hp]
    refine (firstFree_typeName hr s hid (Nat.ne_zero_of_lt (hr.parent_lt child _ hp))).isName_base
      (fun other hother => ?_) (h child hid)
    obtain ⟨before, hbefore, rfl⟩ := List.mem_map.mp hother
    exact h before (Nat.lt_trans (List.mem_range.mp hbefore) hid)
  · intro h id hid
    by_cases hne : id = Catalog.root
    · rw [hne, typeName_root hr]
      exact h.root
    · exact (firstFree_typeName hr s hid hne).isName (isName_typeBase hr h hid hne)

/-! ## Generations -/

/-- Whether there is code in the end or a complaint about it. -/
def Settled (result : Except CodeError String) : Prop :=
  (∃ code, result = .ok code) ∨ (∃ path, result = .error (.invalidPath path)) ∨
    ∃ name, result = .error (.keyword name)

theorem settled_generate_iff_types :
    Settled (generate c s) ↔ ∀ t ∈ (assemble c s).types, isName t.name = true := by
  rw [generate, checkNames]
  cases hfind : (assemble c s).types.find? fun t => !isName t.name with
  | some t =>
    have hno : ¬ Settled (.error (.invalidName t.name)) := by simp [Settled]
    refine iff_of_false hno fun hall => ?_
    simpa [hall t (List.mem_of_find?_eq_some hfind)] using List.find?_some hfind
  | none =>
    refine iff_of_true ?_ fun t ht => by simpa using List.find?_eq_none.mp hfind t ht
    cases ModulePath.ofText? (assemble c s).runtimePath with
    | none => exact .inr (.inl ⟨_, rfl⟩)
    | some runtime =>
      cases (assemble c s).types.find? fun t => isKeyword t.name with
      | some t => exact .inr (.inr ⟨_, rfl⟩)
      | none => exact .inl ⟨_, rfl⟩

/-- For a built catalog and any settings, a generation settles exactly when the names of types are
spelled as names at the root and right below it. This is also when all names in the client are:
whatever the settings are, those that are no type names are identifiers. -/
theorem settled_generate_iff {document : Json} (h : Catalog.build document = .ok c)
    (s : Settings) :
    (Settled (generate c s) ↔ StartsNames c s) ∧
      ((∀ name ∈ (assemble c s).identifiers, isName name = true) ↔ StartsNames c s) ∧
      ∀ name ∈ (assemble c s).identifiers,
        name ∉ (assemble c s).types.map (·.name) → IsIdentifier name := by
  have hr := Catalog.build_rooted h
  have htypes : (∀ t ∈ (assemble c s).types, isName t.name = true) ↔ StartsNames c s := by
    rw [← isName_typeName_iff hr s, assemble, Catalog.cons_descendants_root h, List.forall_mem_map]
    exact ⟨fun hall id hid => hall id (List.mem_range.mpr hid),
      fun hall id hid => hall id (List.mem_range.mp hid)⟩
  have hmember : ∀ name, IsIdentifier name → isName name = true := fun _ hname =>
    isName_of_isWord hname.isWord
  refine ⟨settled_generate_iff_types.trans htypes, ⟨fun hall => ?_, fun hstarts => ?_⟩, ?_⟩
  · exact htypes.mp fun t ht => hall _ (ClientModule.name_mem_identifiers ht)
  · exact forall_mem_identifiers hmember h s ((isName_typeName_iff hr s).mpr hstarts)
  · refine forall_mem_identifiers
      (P := fun name => name ∉ (assemble c s).types.map (·.name) → IsIdentifier name)
      (fun _ hname _ => hname) h s fun id hid hno => absurd ?_ hno
    rw [assemble, Catalog.cons_descendants_root h, List.map_map]
    exact List.mem_map.mpr ⟨id, List.mem_range.mpr hid, rfl⟩

theorem settled_generate_self : ∃ c, Catalog.build (leafDocument "disks") = .ok c ∧
    StartsNames c { typeStem := "self", rootSuffix := "" } ∧
      Settled (generate c { typeStem := "self", rootSuffix := "" }) := by
  obtain ⟨c, hc, hstarts⟩ := Catalog.exists_built (leafDocument "disks")
    (P := fun c => StartsNames c { typeStem := "self", rootSuffix := "" }) (by decide +kernel)
  exact ⟨c, hc, hstarts, (settled_generate_iff hc _).1.mpr hstarts⟩

/-- With a hyphen in the stem there is neither code nor a complaint about it. -/
theorem not_settled_generate_hyphen : ∃ c, Catalog.build (.arr []) = .ok c ∧
    generate c { typeStem := "pve-" } = .error (.invalidName "pve-Api") ∧
      ¬ Settled (generate c { typeStem := "pve-" }) := by
  obtain ⟨c, hc, hresult⟩ := Catalog.exists_built (.arr []) (P := fun c =>
    generate c { typeStem := "pve-" } = .error (.invalidName "pve-Api")) (by decide +kernel)
  refine ⟨c, hc, hresult, ?_⟩
  rw [hresult]
  simp [Settled]

end ApiAtlas.Client
