import ApiAtlas.Proofs.Client.Spelling
import ApiAtlas.Proofs.Client.Types
import ApiAtlas.Proofs.Naming.Words

/-!
# Fields of types

A value of a type holds the connection and the keys of its resource. A key field is never named like
the connection, but key fields are named one by one, so that they differ only as far as the words of
the keys do: their punctuation and the cases of their letters tell no fields apart.
-/

namespace ApiAtlas.Client

open Layout Naming Resources

theorem keyField_ne_client (reserved : Reserved) (key : String) :
    keyField reserved key ≠ "client" := by
  simp only [keyField]
  split
  · rename_i hclient
    rw [hclient]
    decide
  · assumption

theorem wordsOf_keyField (reserved : Reserved) (key : String) :
    wordsOf (keyField reserved key).toList = memberWords key := by
  simp only [keyField]
  split
  · rw [String.toList_append]
    exact (wordsOf_append_underscore _).trans (reserved.wordsOf_member key)
  · exact reserved.wordsOf_member key

theorem keyField_eq_iff (reserved : Reserved) {a b : String} :
    keyField reserved a = keyField reserved b ↔ memberWords a = memberWords b := by
  constructor
  · intro h
    rw [← wordsOf_keyField reserved a, h, wordsOf_keyField reserved b]
  · intro h
    rw [keyField, keyField, reserved.member_eq_iff.mpr h]

/-- The client of a built catalog has a type for each resource, with a field for each key, none of
them named like the connection. These are the fields that the type is declared with and the
parameters of the function that makes its values. All of them differ exactly when no two keys of the
resource have the same words, whatever words are reserved. -/
theorem nodup_fields_iff {document : Json} {c : Catalog} (h : Catalog.build document = .ok c)
    (s : Settings) :
    (assemble c s).types.length = c.rows.size ∧
      ∀ id < c.rows.size, ∃ t, (assemble c s).types[id]? = some t ∧
        t.keys.length = (c.get id).keyChain.length ∧ "client" ∉ t.keys ∧
        spellingOf (Code.declaration t) =
          docSpelling t.doc ++ "#[derive(Clone)]pub struct " ++ t.name ++ "<'a> \x7b\n" ++
            withEnds (t.fieldSpellings.map (· ++ ",")) ++ "\x7d\n" ∧
        spellingOf (Code.constructor t) =
          "pub fn new(" ++ ",".intercalate t.fieldSpellings ++ ") -> Self \x7b\nSelf \x7b" ++
            ",".intercalate t.fields ++ "\x7d\n\x7d" ∧
        (t.fields.Nodup ↔ ((c.get id).keyChain.map memberWords).Nodup) := by
  refine ⟨length_types h s, fun id hid => ?_⟩
  have hclient : "client" ∉ (c.get id).keyChain.map (keyField s.reserved) := by
    intro hmem
    obtain ⟨key, -, hkey⟩ := List.mem_map.mp hmem
    exact keyField_ne_client s.reserved key hkey
  refine ⟨_, getElem?_types h s hid, List.length_map _, hclient,
    ClientType.spellingOf_declaration _, ClientType.spellingOf_constructor _, ?_⟩
  have hkeys : ((c.get id).keyChain.map (keyField s.reserved)).Nodup ↔
      ((c.get id).keyChain.map memberWords).Nodup := by
    rw [List.Nodup, List.Nodup, List.pairwise_map, List.pairwise_map]
    exact List.Pairwise.iff fun a b => not_congr (keyField_eq_iff s.reserved)
  exact List.nodup_cons.trans ((and_iff_right hclient).trans hkeys)

theorem nodup_fields_vm_id : ∃ c t, Catalog.build (leafDocument "\x7bvm-id\x7d") = .ok c ∧
    2 < c.rows.size ∧ (assemble c {}).types[2]? = some t ∧ t.fields = ["client", "node", "vm_id"] ∧
      t.fields.Nodup := by
  obtain ⟨c, hc, hid, hfields, hwords⟩ := Catalog.exists_built (leafDocument "\x7bvm-id\x7d")
    (P := fun c => 2 < c.rows.size ∧
      ((assemble c {}).types[2]?).map (·.fields) = some ["client", "node", "vm_id"] ∧
      ((c.get 2).keyChain.map memberWords).Nodup) (by decide +kernel)
  obtain ⟨-, htypes⟩ := nodup_fields_iff hc {}
  obtain ⟨t, ht, -, -, -, -, hnodup⟩ := htypes 2 hid
  rw [ht, Option.map_some, Option.some_inj] at hfields
  exact ⟨c, t, hc, hid, ht, hfields, hnodup.mpr hwords⟩

/-- A placeholder below another one of the same name brings a second field of this name. -/
theorem not_nodup_fields_repeated : ∃ c t,
    Catalog.build (leafDocument "\x7bnode\x7d") = .ok c ∧ (assemble c {}).types[2]? = some t ∧
      t.fields = ["client", "node", "node"] ∧ ¬ t.fields.Nodup := by
  obtain ⟨c, hc, hfields⟩ := Catalog.exists_built (leafDocument "\x7bnode\x7d")
    (P := fun c => ((assemble c {}).types[2]?).map (·.fields) = some ["client", "node", "node"])
    (by decide +kernel)
  obtain ⟨t, ht, hfields⟩ := Option.map_eq_some_iff.mp hfields
  exact ⟨c, t, hc, ht, hfields, by rw [hfields]; decide⟩

end ApiAtlas.Client
