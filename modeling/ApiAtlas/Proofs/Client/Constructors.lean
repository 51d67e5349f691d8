import ApiAtlas.Proofs.Client.Fields
import ApiAtlas.Proofs.Client.Members
import ApiAtlas.Proofs.Client.Paths

/-!
# Calls of constructors

The value of a type is made by the accessor that leads to it, out of what the value at hand holds
and the key that was asked for, if any. What is handed over are the parameters of the constructor in
their order, so that accessors called one after the other hand every key on to its own field.
-/

namespace ApiAtlas.Client

open Layout ListLaws Naming Resources

/-! ## What is handed over -/

/-- What an accessor hands to a constructor. -/
inductive Handed where
  | connection
  /-- A copy of a field of the value at hand. -/
  | field (name : String)
  /-- The text of the key that was asked for. -/
  | key (name : String)
  deriving DecidableEq, Repr

namespace Handed

def name : Handed → String
  | connection => "client"
  | field name => name
  | key name => name

def code : Handed → List Doc
  | connection => Code.ownField "client"
  | field name => Code.ownCopy name
  | key name => Code.keyText name

def spelling : Handed → String
  | connection => "self.client"
  | field name => "self." ++ name ++ ".clone()"
  | key name => name ++ ".to_string()"

theorem spellingOf_code (h : Handed) : spellingOf h.code = h.spelling := by
  apply String.toList_inj.mp
  cases h <;> simp [code, spelling, Code.ownField, Code.ownCopy, Code.keyText]

end Handed

namespace Accessor

def asked (a : Accessor) : List String := a.key?.toList

/-- All that is handed to the constructor, in order. -/
def handed (a : Accessor) : List Handed :=
  .connection :: a.inherited.map .field ++ a.asked.map .key

theorem map_name_handed (a : Accessor) :
    a.handed.map Handed.name = "client" :: a.inherited ++ a.asked := by
  simp [handed, Handed.name, Function.comp_def]

end Accessor

/-- The statements of an accessor are one call of the constructor of its target. -/
theorem Code.accessor_eq (a : Accessor) :
    Code.accessor a = Code.function a.doc a.name
      (Code.word "&self" ::
        a.asked.map fun k => Code.typed k (Code.word "impl ::std::fmt::Display"))
      (Code.borrowing a.target)
      [Code.value (Code.word (a.target ++ "::new") ++
        Code.inParens (a.handed.map Handed.code))] := by
  simp [Code.accessor, Accessor.handed, Accessor.asked, Handed.code, Function.comp_def]

theorem Accessor.spellingOf_accessor (a : Accessor) :
    spellingOf (Code.accessor a) =
      docSpelling a.doc ++ "pub fn " ++ a.name ++ "(" ++
        ",".intercalate ("&self" :: a.asked.map (· ++ ": impl ::std::fmt::Display")) ++
        ") -> " ++ a.target ++ "<'a> \x7b\n" ++ a.target ++ "::new(" ++
        ",".intercalate (a.handed.map Handed.spelling) ++ ")\n\x7d" := by
  have hhanded : (a.handed.map Handed.code).map spellingOf = a.handed.map Handed.spelling := by
    rw [List.map_map]
    exact List.map_congr_left fun h _ => h.spellingOf_code
  rw [Code.accessor_eq, Code.spellingOf_function]
  apply String.toList_inj.mp
  simp [withEnds, hhanded, Function.comp_def]

/-! ## Accessors and their targets -/

variable {c : Catalog} {s : Settings} {id parent child : Nat}

@[simp] theorem keys_clientType :
    (clientType c s id).keys = (c.get id).keyChain.map (keyField s.reserved) := rfl

/-- The keys of a resource are those of its parent and, if it is a placeholder, its own. -/
theorem keys_of_parent (hr : c.Rooted) (hp : (c.get child).parent = some parent) :
    (clientType c s child).keys = (clientType c s parent).keys ++
      if (c.get child).isPlaceholder then [keyField s.reserved (c.get child).indexName] else [] := by
  rw [keys_clientType, keys_clientType, hr.keyChain_eq child parent hp, extendChain]
  cases hb : isPlaceholderName (c.get child).name <;>
    simp [hb, Resource.isPlaceholder, Resource.indexName]

theorem inherited_accessorOf (reserved : Reserved) (r child : Resource) (target name : String) :
    (accessorOf reserved r child target name).inherited = r.keyChain.map (keyField reserved) := by
  unfold accessorOf
  split <;> rfl

theorem target_accessorOf (reserved : Reserved) (r child : Resource) (target name : String) :
    (accessorOf reserved r child target name).target = target := by
  unfold accessorOf
  split <;> rfl

theorem asked_accessorOf (reserved : Reserved) (r child : Resource) (target name : String) :
    (accessorOf reserved r child target name).asked =
      if child.isPlaceholder then [keyField reserved child.indexName] else [] := by
  unfold accessorOf
  split <;> rfl

theorem getElem?_accessors {i : Nat} (hchild : (c.get id).children[i]? = some child) :
    ∃ name, (clientType c s id).accessors[i]? =
      some (accessorOf s.reserved (c.get id) (c.get child) (typeName c s child) name) := by
  have hlt := (List.getElem?_eq_some_iff.mp hchild).choose
  have hpair : (c.children id)[i]? = some (child, c.get child) := by
    rw [Catalog.children, List.getElem?_map, hchild, Option.map_some]
  simp only [clientType, typeOf, List.getElem?_zipWith_eq_some]
  refine ⟨_, _, (child, c.get child), List.getElem?_eq_getElem ?_, hpair, rfl⟩
  simpa [Catalog.children] using hlt

/-- An accessor hands over what the constructor of the child takes. -/
structure Accessor.Leads (a : Accessor) (t u : ClientType) : Prop where
  target : a.target = u.name
  inherited : a.inherited = t.keys
  keys : u.keys = t.keys ++ a.asked

theorem leads_accessorOf (hr : c.Rooted) (hp : (c.get child).parent = some id) (name : String) :
    (accessorOf s.reserved (c.get id) (c.get child) (typeName c s child) name).Leads
      (clientType c s id) (clientType c s child) := by
  constructor
  · exact target_accessorOf ..
  · exact inherited_accessorOf ..
  · rw [keys_of_parent hr hp, asked_accessorOf]

theorem exists_of_mem_accessors (hr : c.Rooted) {a : Accessor}
    (ha : a ∈ (clientType c s id).accessors) :
    ∃ child, (c.get child).parent = some id ∧
      a.Leads (clientType c s id) (clientType c s child) := by
  simp only [clientType, typeOf] at ha
  obtain ⟨name, -, pair, hpair, rfl⟩ := exists_of_mem_zipWith ha
  obtain ⟨child, hchild, rfl⟩ := List.mem_map.mp hpair
  have hp := (hr.mem_children child id).mp hchild
  exact ⟨child, hp, leads_accessorOf hr hp name⟩

/-! ## Chains of accessors -/

/-- A call of the constructor of a type with values for its keys. -/
structure Call where
  type : ClientType
  values : List String

/-- Whether accessors that are called one after the other, from a value of the first type on, end in
a call of a constructor; they are given the values of the keys that they ask for. A type in which
two fields have one name is none of the language, so that there are no values of it. -/
inductive Chain (m : ClientModule) : List (String × String) → Call → Prop
  | root {t : ClientType} : m.types[0]? = some t → Chain m [] ⟨t, []⟩
  | accessor {given : List (String × String)} {t u : ClientType} {values : List String}
      {a : Accessor} {key : List (String × String)} : Chain m given ⟨t, values⟩ →
      t.fields.Nodup → a ∈ t.accessors → u ∈ m.types → u.name = a.target →
      key.map Prod.fst = a.asked →
      Chain m (given ++ key) ⟨u, a.inherited.map (fieldValue t.keys values) ++ key.map Prod.snd⟩

/-- A call of the constructor of a resource hands over the given values in the order of the keys,
and the types on the way have values. -/
structure Delivers (c : Catalog) (s : Settings) (id : Nat) (given : List (String × String))
    (values : List String) : Prop where
  length : values.length = (clientType c s id).keys.length
  given : given = (clientType c s id).keys.zip values
  distinct : ∀ parent, (c.get id).parent = some parent → (clientType c s parent).fields.Nodup

theorem Delivers.root (hr : c.Rooted) : Delivers c s Catalog.root [] [] := by
  have hkeys : (clientType c s Catalog.root).keys = [] := by
    rw [keys_clientType, hr.root_eq.2, List.map_nil]
  constructor
  · rw [hkeys]
  · rw [hkeys, List.zip_nil_left]
  · intro parent hp
    rw [hr.parent_root] at hp
    simp at hp

/-- One more accessor hands on what there is and puts the key behind it. -/
theorem Delivers.accessor {given key : List (String × String)} {values : List String}
    {a : Accessor} (h : Delivers c s id given values) (hp : (c.get child).parent = some id)
    (hdistinct : (clientType c s id).fields.Nodup)
    (ha : a.Leads (clientType c s id) (clientType c s child))
    (hkey : key.map Prod.fst = a.asked) :
    Delivers c s child (given ++ key)
      (a.inherited.map (fieldValue (clientType c s id).keys values) ++ key.map Prod.snd) := by
  have hvalues : a.inherited.map (fieldValue (clientType c s id).keys values) = values := by
    rw [ha.inherited]
    exact map_fieldValue (List.nodup_cons.mp hdistinct).2 h.length
  rw [hvalues]
  constructor
  · rw [ha.keys, ← hkey]
    simp [h.length]
  · rw [ha.keys, ← hkey, List.zip_append h.length.symm, ← h.given, ← List.zip_of_prod rfl rfl]
  · intro parent hparent
    rw [hp, Option.some_inj] at hparent
    exact hparent ▸ hdistinct

theorem Chain.delivers {document : Json} (h : Catalog.build document = .ok c)
    {given : List (String × String)} {call : Call} (hchain : Chain (assemble c s) given call) :
    ∃ id < c.rows.size, call.type = clientType c s id ∧ Delivers c s id given call.values := by
  have hr := Catalog.build_rooted h
  induction hchain with
  | root ht =>
    have hroot := getElem?_types h s hr.root_lt
    exact ⟨Catalog.root, hr.root_lt, Option.some.inj (ht.symm.trans hroot), Delivers.root hr⟩
  | accessor _ hdistinct ha hu hname hkey ih =>
    obtain ⟨id, hid, rfl, hdelivers⟩ := ih
    obtain ⟨child, hp, hleads⟩ := exists_of_mem_accessors hr ha
    obtain ⟨other, hother, rfl⟩ := (mem_types h s).mp hu
    have hchild := Catalog.lt_size_of_parent hp
    obtain rfl := typeName_injective hr hother hchild (hname.trans hleads.target)
    exact ⟨other, hchild, rfl, hdelivers.accessor hp hdistinct hleads hkey⟩

theorem fields_nodup_of_parent (hr : c.Rooted) (hp : (c.get child).parent = some parent)
    (h : (clientType c s child).fields.Nodup) : (clientType c s parent).fields.Nodup := by
  rw [ClientType.fields, keys_of_parent hr hp] at h
  exact h.sublist (List.Sublist.cons_cons _ (List.sublist_append_left ..))

theorem Delivers.chain {document : Json} (h : Catalog.build document = .ok c)
    (hid : id < c.rows.size) {given : List (String × String)} {values : List String}
    (hdelivers : Delivers c s id given values) :
    Chain (assemble c s) given ⟨clientType c s id, values⟩ := by
  have hr := Catalog.build_rooted h
  refine hr.induction (P := fun id => ∀ given values, Delivers c s id given values →
    Chain (assemble c s) given ⟨clientType c s id, values⟩) ?_ ?_ id hid given values hdelivers
  · intro given values hdelivers
    have hkeys := (Delivers.root hr (s := s)).length
    obtain rfl := List.length_eq_zero_iff.mp (hdelivers.length.trans hkeys.symm)
    rw [hdelivers.given, List.zip_nil_right]
    exact .root (getElem?_types h s hr.root_lt)
  · intro child parent hp ih given values hdelivers
    obtain ⟨i, hi⟩ := List.mem_iff_getElem?.mp ((hr.mem_children child parent).mpr hp)
    obtain ⟨name, ha⟩ := getElem?_accessors (s := s) hi
    have hleads := leads_accessorOf (s := s) hr hp name
    generalize accessorOf _ _ _ _ name = a at ha hleads
    have hdistinct := hdelivers.distinct parent hp
    have hlength := hdelivers.length
    rw [hleads.keys, List.length_append] at hlength
    obtain ⟨front, back, rfl, hfront⟩ : ∃ front back, values = front ++ back ∧
        front.length = (clientType c s parent).keys.length :=
      ⟨_, _, (List.take_append_drop _ values).symm, List.length_take_of_le (by omega)⟩
    rw [List.length_append] at hlength
    have hparent : Delivers c s parent ((clientType c s parent).keys.zip front) front :=
      ⟨hfront, rfl, fun above habove => fields_nodup_of_parent hr habove hdistinct⟩
    have hkey : (a.asked.zip back).map Prod.fst = a.asked := List.map_fst_zip (by omega)
    have hchain := (ih _ _ hparent).accessor hdistinct (List.mem_of_getElem? ha)
      ((mem_types h s).mpr ⟨child, Catalog.lt_size_of_parent hp, rfl⟩) hleads.target.symm hkey
    rwa [hleads.inherited, map_fieldValue (List.nodup_cons.mp hdistinct).2 hfront,
      List.map_snd_zip (by omega), ← List.zip_append hfront.symm, ← hleads.keys,
      ← hdelivers.given] at hchain

/-- The client of a built catalog has a type for each resource, with an accessor for each child. The
accessor calls the constructor of the one type that is named as its target, the child's. It hands
over what this constructor takes, in order: the connection, copies of the key fields at hand and,
exactly for a placeholder, the text of the key that is asked for. The constructor has a parameter
for each field of the type, of the name of the field, and makes the value of them. Accessors that
are called one after the other end in a call of the constructor of a resource with the keys that
they were given, in the order of its key chain; and there are such calls for all keys exactly if the
fields of the parent's type have different names, so that there are values of it. -/
theorem accessors_hand_on_keys {document : Json} (h : Catalog.build document = .ok c)
    (s : Settings) :
    (assemble c s).types = (List.range c.rows.size).map (clientType c s) ∧
      ∀ id < c.rows.size,
        (clientType c s id).accessors.length = (c.get id).children.length ∧
        (∀ (i child : Nat), (c.get id).children[i]? = some child →
          ∃ a, (clientType c s id).accessors[i]? = some a ∧
            (∀ u ∈ (assemble c s).types, u.name = a.target ↔ u = clientType c s child) ∧
            Code.accessor a = Code.function a.doc a.name
              (Code.word "&self" ::
                a.asked.map fun k => Code.typed k (Code.word "impl ::std::fmt::Display"))
              (Code.borrowing a.target)
              [Code.value (Code.word (a.target ++ "::new") ++
                Code.inParens (a.handed.map Handed.code))] ∧
            spellingOf (Code.accessor a) =
              docSpelling a.doc ++ "pub fn " ++ a.name ++ "(" ++
                ",".intercalate ("&self" :: a.asked.map (· ++ ": impl ::std::fmt::Display")) ++
                ") -> " ++ a.target ++ "<'a> \x7b\n" ++ a.target ++ "::new(" ++
                ",".intercalate (a.handed.map Handed.spelling) ++ ")\n\x7d" ∧
            a.handed = .connection :: (clientType c s id).keys.map .field ++ a.asked.map .key ∧
            a.handed.map Handed.name = (clientType c s child).fields ∧
            spellingOf (Code.constructor (clientType c s child)) =
              "pub fn new(" ++ ",".intercalate (clientType c s child).fieldSpellings ++
                ") -> Self \x7b\nSelf \x7b" ++
                ",".intercalate (clientType c s child).fields ++ "\x7d\n\x7d" ∧
            a.asked.length = if (c.get child).isPlaceholder then 1 else 0) ∧
        (∀ given values, Chain (assemble c s) given ⟨clientType c s id, values⟩ →
          given.map Prod.fst = (c.get id).keyChain.map (keyField s.reserved) ∧
            values = given.map Prod.snd) ∧
        ∀ values, values.length = (c.get id).keyChain.length →
          ((∃ given, Chain (assemble c s) given ⟨clientType c s id, values⟩) ↔
            ∀ parent, (c.get id).parent = some parent →
              (clientType c s parent).fields.Nodup) := by
  have hr := Catalog.build_rooted h
  have hchain : ∀ id < c.rows.size, ∀ given values,
      Chain (assemble c s) given ⟨clientType c s id, values⟩ → Delivers c s id given values := by
    intro id hid given values hchain
    obtain ⟨other, hother, htype, hdelivers⟩ := hchain.delivers h
    obtain rfl := typeName_injective hr hid hother (congrArg ClientType.name htype)
    exact hdelivers
  refine ⟨?_, fun id hid => ⟨?_, fun i child hi => ?_, fun given values hgiven => ?_,
    fun values hvalues => ⟨?_, fun hdistinct => ?_⟩⟩⟩
  · exact types_eq h s
  · simp [clientType, typeOf, Catalog.children]
  · obtain ⟨name, ha⟩ := getElem?_accessors (s := s) hi
    have hp := (hr.mem_children child id).mp (List.mem_of_getElem? hi)
    have hleads := leads_accessorOf (s := s) hr hp name
    refine ⟨_, ha, fun u hu => ⟨fun hname => ?_, fun hchild => ?_⟩, Code.accessor_eq _,
      Accessor.spellingOf_accessor _, ?_, ?_, ClientType.spellingOf_constructor _, ?_⟩
    · obtain ⟨other, hother, rfl⟩ := (mem_types h s).mp hu
      rw [typeName_injective hr hother (Catalog.lt_size_of_parent hp)
        (hname.trans hleads.target)]
    · rw [hchild, hleads.target]
    · rw [Accessor.handed, hleads.inherited]
    · rw [Accessor.map_name_handed, ClientType.fields, hleads.keys, hleads.inherited]
      rfl
    · rw [asked_accessorOf]
      split <;> rfl
  · have hdelivers := hchain id hid given values hgiven
    rw [hdelivers.given, List.map_fst_zip (Nat.le_of_eq hdelivers.length.symm),
      List.map_snd_zip (Nat.le_of_eq hdelivers.length)]
    exact ⟨rfl, rfl⟩
  · rintro ⟨given, hgiven⟩
    exact (hchain id hid given values hgiven).distinct
  · exact ⟨_, Delivers.chain h hid ⟨by simpa using hvalues, rfl, hdistinct⟩⟩

theorem accessors_hand_on_keys_vm_id : ∃ c,
    Catalog.build (leafDocument "\x7bvm-id\x7d") = .ok c ∧ 2 < c.rows.size ∧
      (clientType c {} 2).fields = ["client", "node", "vm_id"] ∧
      Chain (assemble c {}) [("node", "pve1"), ("vm_id", "100")]
        ⟨clientType c {} 2, ["pve1", "100"]⟩ := by
  obtain ⟨c, hc, hid, hkeys, hchain, hparent, hdistinct⟩ :=
    Catalog.exists_built (leafDocument "\x7bvm-id\x7d") (P := fun c => 2 < c.rows.size ∧
      (clientType c {} 2).keys = ["node", "vm_id"] ∧ (c.get 2).keyChain.length = 2 ∧
      (c.get 2).parent = some 1 ∧ (clientType c {} 1).fields.Nodup) (by decide +kernel)
  obtain ⟨-, htypes⟩ := accessors_hand_on_keys hc {}
  obtain ⟨-, -, hgiven, hexists⟩ := htypes 2 hid
  obtain ⟨given, hcalls⟩ := (hexists ["pve1", "100"] hchain.symm).mpr fun parent hp => by
    rw [hparent, Option.some_inj] at hp
    exact hp ▸ hdistinct
  obtain ⟨hnames, hvalues⟩ := hgiven given _ hcalls
  refine ⟨c, hc, hid, congrArg _ hkeys, ?_⟩
  rw [List.zip_of_prod (hnames.trans hkeys) hvalues.symm] at hcalls
  exact hcalls

end ApiAtlas.Client
