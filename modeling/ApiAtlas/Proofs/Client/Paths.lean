import ApiAtlas.Proofs.Client.Spelling
import ApiAtlas.Proofs.Client.Templates
import ApiAtlas.Proofs.Client.Types
import ApiAtlas.Proofs.Request.Form

/-!
# Paths of operations

The template of a path is made of the segments of the path, while the key fields that fill it are
those of the placeholders on the lineage. An operation asks for the path of its resource, with the
encoded values of the keys in place of the placeholders, exactly when the names on the lineage fit
their template and the key fields have different names.
-/

namespace ApiAtlas.Client

open Layout Naming Request Resources

/-! ## Values of keys -/

theorem fieldValue_cons_self (key value : String) (keys values : List String) :
    fieldValue (key :: keys) (value :: values) key = value := by
  simp [fieldValue]

theorem fieldValue_cons_of_ne {key other : String} (h : other ≠ key) (value : String)
    (keys values : List String) :
    fieldValue (key :: keys) (value :: values) other = fieldValue keys values other := by
  rw [fieldValue, List.zip_cons_cons, List.lookup_cons, beq_eq_false_iff_ne.mpr h]
  rfl

theorem fieldValue_mem {keys values : List String} {key : String}
    (hlength : values.length = keys.length) (h : key ∈ keys) :
    fieldValue keys values key ∈ values := by
  induction keys generalizing values with
  | nil => simp at h
  | cons first keys ih =>
    obtain ⟨value, values, rfl⟩ := List.exists_cons_of_length_eq_add_one hlength
    by_cases hkey : key = first
    · rw [hkey, fieldValue_cons_self]
      exact List.mem_cons_self
    · rw [fieldValue_cons_of_ne hkey]
      have hmem := (List.mem_cons.mp h).resolve_left hkey
      exact List.mem_cons_of_mem value (ih (Nat.succ.inj hlength) hmem)

theorem map_fieldValue {keys values : List String} (hnodup : keys.Nodup)
    (hlength : values.length = keys.length) : keys.map (fieldValue keys values) = values := by
  induction keys generalizing values with
  | nil => exact (List.length_eq_zero_iff.mp hlength).symm
  | cons key keys ih =>
    obtain ⟨value, values, rfl⟩ := List.exists_cons_of_length_eq_add_one hlength
    obtain ⟨hkey, hkeys⟩ := List.nodup_cons.mp hnodup
    have hrest : keys.map (fieldValue (key :: keys) (value :: values)) =
        keys.map (fieldValue keys values) := by
      refine List.map_congr_left fun other hother => fieldValue_cons_of_ne ?_ value keys values
      rintro rfl
      exact hkey hother
    rw [List.map_cons, fieldValue_cons_self, hrest, ih hkeys (Nat.succ.inj hlength)]

theorem slash_not_mem_encodeSegment (text : String) : '/' ∉ (encodeSegment text).toList := by
  rw [encodeSegment, percentText, String.toList_ofList]
  intro hmem
  obtain ⟨c, -, hc⟩ := List.mem_flatMap.mp hmem
  rcases mem_percentChar hc with ⟨hplain, rfl⟩ | hescape
  · exact absurd hplain (by decide)
  · exact absurd hescape (by decide)

theorem fill_injective {names vs ws : List String}
    (hvs : vs.length = names.countP isPlaceholderName)
    (hws : ws.length = names.countP isPlaceholderName)
    (hvslash : ∀ v ∈ vs, '/' ∉ v.toList) (hwslash : ∀ w ∈ ws, '/' ∉ w.toList)
    (h : joinPath (fill names vs) = joinPath (fill names ws)) : vs = ws := by
  have hparts := congrArg (fun path => path.toList.splitOn '/') h
  simp only [splitOn_joinPath, List.cons.injEq, true_and] at hparts
  clear h
  induction names generalizing vs ws with
  | nil => rw [List.length_eq_zero_iff.mp hvs, List.length_eq_zero_iff.mp hws]
  | cons name names ih =>
    cases hb : isPlaceholderName name with
    | true =>
      rw [List.countP_cons_of_pos hb] at hvs hws
      obtain ⟨v, vs, rfl⟩ := List.exists_cons_of_length_eq_add_one hvs
      obtain ⟨w, ws, rfl⟩ := List.exists_cons_of_length_eq_add_one hws
      obtain ⟨hv, hvslash⟩ := List.forall_mem_cons.mp hvslash
      obtain ⟨hw, hwslash⟩ := List.forall_mem_cons.mp hwslash
      simp only [fill, hb, if_true, List.headD_cons, List.tail_cons, List.flatMap_cons,
        List.splitOn_eq_singleton hv, List.splitOn_eq_singleton hw, List.singleton_append,
        List.cons.injEq] at hparts
      rw [String.toList_inj.mp hparts.1,
        ih (Nat.succ.inj hvs) (Nat.succ.inj hws) hvslash hwslash hparts.2]
    | false =>
      rw [List.countP_cons_of_neg (by simp [hb])] at hvs hws
      simp only [fill, hb, Bool.false_eq_true, if_false, List.flatMap_cons,
        List.append_cancel_left_eq] at hparts
      exact ih hvs hws hvslash hwslash hparts

/-! ## Paths of templates -/

theorem encodeSegment_letters (n : Nat) :
    encodeSegment (String.ofList (List.replicate n 'x')) =
      String.ofList (List.replicate n 'x') := by
  rw [encodeSegment, percentText, String.toList_ofList, List.flatMap_replicate]
  simp [percentChar, isUnreserved]

section Templates

variable {names keys : List String}

/-- Whether a template gives the path of the names for all values of the keys. -/
def AsksForPath (names keys : List String) (t : PathTemplate) : Prop :=
  ∀ values : List String, values.length = keys.length →
    t.path? (fieldValue keys values) = some (joinPath (fill names (values.map encodeSegment)))

theorem path?_templateOf (field : String → String) : (templateOf names keys).path? field =
    (templateOf names keys).filled? ((keys.map field).map encodeSegment) := by
  rw [List.map_map]
  rfl

theorem namesFit_of_asksForPath (hkeys : keys.length = names.countP isPlaceholderName)
    (h : AsksForPath names keys (templateOf names keys)) : NamesFit names := by
  have hx := h (List.replicate keys.length "x") List.length_replicate
  have hfields : keys.map (fieldValue keys (List.replicate keys.length "x")) =
      List.replicate keys.length "x" := by
    refine List.map_eq_replicate_iff.mpr fun key hkey => ?_
    exact List.eq_of_mem_replicate (fieldValue_mem List.length_replicate hkey)
  have hletter : encodeSegment "x" = "x" := encodeSegment_letters 1
  rw [path?_templateOf, hfields, List.map_replicate, hletter] at hx
  exact namesFit_of_filled? hkeys hx

/-- Key fields of one name would hold one value, but the path may have different ones. -/
theorem nodup_of_asksForPath (hkeys : keys.length = names.countP isPlaceholderName)
    (h : AsksForPath names keys (templateOf names keys)) : keys.Nodup := by
  let values := (List.range keys.length).map fun n => String.ofList (List.replicate n 'x')
  have hlength : values.length = keys.length := by simp [values]
  have hletters : values.map encodeSegment = values := by
    simp [values, encodeSegment_letters]
  have hnodup : values.Nodup := by
    refine List.nodup_range.map fun i j hij => ?_
    simpa using congrArg String.length hij
  have hpath := h values hlength
  rw [path?_templateOf, (namesFit_of_asksForPath hkeys h).filled?_eq hkeys (by simp),
    Option.some_inj] at hpath
  have hslash : ∀ texts : List String, ∀ v ∈ texts.map encodeSegment, '/' ∉ v.toList := by
    intro texts v hv
    obtain ⟨text, -, rfl⟩ := List.mem_map.mp hv
    exact slash_not_mem_encodeSegment text
  have hsame := fill_injective (by simpa using hkeys) (by simpa [hlength] using hkeys)
    (hslash (keys.map (fieldValue keys values))) (hslash values) hpath
  rw [List.map_map, hletters] at hsame
  exact List.Nodup.of_map _ (hsame ▸ hnodup)

theorem asksForPath_iff (hkeys : keys.length = names.countP isPlaceholderName) :
    AsksForPath names keys (templateOf names keys) ↔ NamesFit names ∧ keys.Nodup := by
  constructor
  · intro h
    exact ⟨namesFit_of_asksForPath hkeys h, nodup_of_asksForPath hkeys h⟩
  · rintro ⟨hnames, hnodup⟩ values hlength
    rw [path?_templateOf, map_fieldValue hnodup hlength]
    exact hnames.filled?_eq hkeys (by rw [List.length_map, hlength])

end Templates

/-! ## Paths of built catalogs -/

variable {c : Catalog} {id : Nat}

theorem pathTemplate_eq (h : c.Rooted) (hid : id < c.rows.size) (reserved : Reserved) :
    pathTemplate reserved (c.get id) =
      templateOf (c.namesOf (c.lineage id)) ((c.get id).keyChain.map (keyField reserved)) := by
  have hsegments : segmentsOf (c.get id).path = (c.namesOf (c.lineage id)).flatMap segmentsOf := by
    rw [h.path_eq_joinPath hid, segmentsOf_joinPath]
  rw [pathTemplate, hsegments, templateOf, PathTemplate.mk.injEq]
  constructor
  · rw [← String.toList_inj, toList_joinPath, String.toList_join, List.flatMap_map,
      List.flatMap_map]
    refine List.flatMap_congr fun s _ => ?_
    cases hb : isPlaceholderName s with
    | true => simp [pasted_placeholder hb]
    | false => simp [pasted_literal hb]
  · rw [List.take_of_length_le]
    rw [h.length_keyChain hid]
    exact countP_le_countP_segments _

theorem count_hole_of_path? {t : PathTemplate} {field : String → String} {path : String}
    (hkeys : t.keys ≠ []) (h : t.path? field = some path) :
    ∃ pieces, pieces? t.text.toList = some pieces ∧ pieces.count .hole = t.keys.length := by
  rw [PathTemplate.path?, PathTemplate.filled?_eq_some (by simpa using hkeys)] at h
  obtain ⟨pieces, hpieces, hfill⟩ := h
  refine ⟨pieces, hpieces, ?_⟩
  rw [count_hole_of_fillHoles hfill, List.length_map, List.length_map]

/-- In the client of a built catalog, the operations of a resource fill their templates with as many
values as the resource has keys, by the expression in their code. For all values of the keys they
ask for the path of its lineage, with the encoded values in place of the placeholders, exactly when
the names on the lineage fit their template and the key fields have different names; the template
then has a hole for each key. -/
theorem operations_askForPath_iff {document : Json} (h : Catalog.build document = .ok c)
    (s : Settings) (hid : id < c.rows.size) :
    ∃ t, (assemble c s).types[id]? = some t ∧
      t.operations.length = (c.get id).methods.length ∧
      ∀ o ∈ t.operations, o.path.keys = t.keys ∧ t.keys.length = (c.get id).keyChain.length ∧
        (spellingOf (Code.path o.path) = o.path.expression.spelling ∧
          ∀ field, o.path.path? field = o.path.expression.value? field) ∧
        (AsksForPath (c.namesOf (c.lineage id)) t.keys o.path ↔
          NamesFit (c.namesOf (c.lineage id)) ∧ t.keys.Nodup) ∧
        (AsksForPath (c.namesOf (c.lineage id)) t.keys o.path → t.keys ≠ [] →
          ∃ pieces, pieces? o.path.text.toList = some pieces ∧
            pieces.count .hole = (c.get id).keyChain.length) := by
  have hr := Catalog.build_rooted h
  refine ⟨_, getElem?_types h s hid, ?_, fun o ho => ?_⟩
  · simp [typeOf, NameScope.length_claimAll]
  · obtain ⟨m, -, name, rfl⟩ := exists_of_mem_operations ho
    have hpath := pathTemplate_eq hr hid s.reserved
    have hlength : ((c.get id).keyChain.map (keyField s.reserved)).length =
        (c.get id).keyChain.length := List.length_map _
    refine ⟨congrArg PathTemplate.keys hpath, hlength, ⟨PathTemplate.spellingOf_path _,
      fun field => (PathTemplate.value?_expression _ field).symm⟩, ?_, fun hasks hkeys => ?_⟩
    · simp only [operationOf, typeOf, hpath]
      exact asksForPath_iff (hlength.trans (hr.length_keyChain hid))
    · have hanswer := hasks (List.replicate _ "") List.length_replicate
      have hsame : (operationOf s.reserved (c.get id) m name).path.keys =
          (c.get id).keyChain.map (keyField s.reserved) := congrArg PathTemplate.keys hpath
      obtain ⟨pieces, hpieces, hcount⟩ := count_hole_of_path? (hsame ▸ hkeys) hanswer
      exact ⟨pieces, hpieces, by rw [hcount, hsame, hlength]⟩

theorem operations_askForPath_disks : ∃ c t o,
    Catalog.build (leafDocument "disks") = .ok c ∧ 2 < c.rows.size ∧
      (assemble c {}).types[2]? = some t ∧ o ∈ t.operations ∧
      NamesFit ["\x7bnode\x7d", "disks"] ∧ t.keys.Nodup ∧
      AsksForPath ["\x7bnode\x7d", "disks"] t.keys o.path := by
  obtain ⟨c, hc, hid, hnames, hchain, hmethods⟩ := Catalog.exists_built (leafDocument "disks")
    (P := fun c => 2 < c.rows.size ∧ c.namesOf (c.lineage 2) = ["\x7bnode\x7d", "disks"] ∧
      (c.get 2).keyChain.length = 1 ∧ (c.get 2).methods.length = 1) (by decide +kernel)
  obtain ⟨t, ht, hcount, hoperations⟩ := operations_askForPath_iff hc {} hid
  obtain ⟨o, ho⟩ := List.exists_mem_of_length_pos (by omega : 0 < t.operations.length)
  obtain ⟨-, hkeys, -, hasks, -⟩ := hoperations o ho
  have hfit : NamesFit ["\x7bnode\x7d", "disks"] := by decide +kernel
  have hnodup : t.keys.Nodup := by
    obtain ⟨key, hkey⟩ := List.length_eq_one_iff.mp (hkeys.trans hchain)
    rw [hkey]
    exact List.nodup_singleton key
  rw [hnames] at hasks
  exact ⟨c, t, o, hc, hid, ht, ho, hfit, hnodup, hasks.mpr ⟨hfit, hnodup⟩⟩

/-- A pair of braces in a literal is a hole without a value, so that the operation asks for no
path at all. -/
theorem path?_disk_braces : ∃ c t o,
    Catalog.build (leafDocument "disk\x7b\x7d") = .ok c ∧ (c.get 2).keyChain.length = 1 ∧
      (assemble c {}).types[2]? = some t ∧ o ∈ t.operations ∧
      o.path.text = "/\x7b\x7d/disk\x7b\x7d" ∧ ∀ field, o.path.path? field = none := by
  obtain ⟨c, hc, hid, hnames, hchain, hmethods⟩ :=
    Catalog.exists_built (leafDocument "disk\x7b\x7d") (P := fun c => 2 < c.rows.size ∧
      c.namesOf (c.lineage 2) = ["\x7bnode\x7d", "disk\x7b\x7d"] ∧
      (c.get 2).keyChain.length = 1 ∧ 0 < (c.get 2).methods.length) (by decide +kernel)
  have hpath := pathTemplate_eq (Catalog.build_rooted hc) hid ({} : Settings).reserved
  obtain ⟨name, ho⟩ := getElem?_operations ({} : Settings).reserved (typeNames c {})
    (List.getElem?_eq_getElem hmethods)
  have htext : (pathTemplate ({} : Settings).reserved (c.get 2)).text =
      "/\x7b\x7d/disk\x7b\x7d" := by
    have hjoin : joinPath ((["\x7bnode\x7d", "disk\x7b\x7d"].flatMap segmentsOf).map pasted) =
        "/\x7b\x7d/disk\x7b\x7d" := by decide +kernel
    rw [hpath, hnames, templateOf, hjoin]
  have hkeys : (pathTemplate ({} : Settings).reserved (c.get 2)).keys.length = 1 := by
    rw [hpath, templateOf, List.length_map, hchain]
  refine ⟨c, _, _, hc, hchain, getElem?_types hc {} hid, List.mem_of_getElem? ho, htext,
    fun field => Option.eq_none_iff_forall_ne_some.mpr fun path hanswer => ?_⟩
  obtain ⟨pieces, hpieces, hcount⟩ :=
    count_hole_of_path? (List.ne_nil_of_length_eq_add_one hkeys) hanswer
  have hone : pieces.count .hole = 1 := hcount.trans hkeys
  have htwo : (pieces? "/\x7b\x7d/disk\x7b\x7d".toList).map (·.count .hole) = some 2 := by
    decide +kernel
  rw [← htext, hpieces, Option.map_some, hone] at htwo
  simp at htwo

end ApiAtlas.Client
