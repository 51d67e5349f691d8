import ApiAtlas.Proofs.Client.Sending

/-!
# Families of fields

A family is written by number and recognised by the digits behind its stem. Whatever the stem is, a
number writes a field of its own, the other fields stay, and the family is there as soon as one of
its fields is.
-/

namespace ApiAtlas.Request.Params

open Descriptor

theorem lookup_reverse_of_mem {name value : String} {pairs : List (String × String)}
    (hnodup : (pairs.map (·.1)).Nodup) (h : (name, value) ∈ pairs) :
    pairs.reverse.lookup name = some value := by
  have hsome : (pairs.reverse.lookup name).isSome = true := by
    rw [← mem_names_iff, List.map_reverse, List.mem_reverse]
    exact List.mem_map_of_mem h
  obtain ⟨found, hfound⟩ := Option.isSome_iff_exists.mp hsome
  obtain ⟨before, after, hsplit, -⟩ := List.lookup_eq_some_iff.mp hfound
  have hmem : (name, found) ∈ pairs := by
    rw [← List.mem_reverse, hsplit]
    simp
  have hsame := List.inj_on_of_nodup_map hnodup h hmem rfl
  rw [hfound, (Prod.mk.inj hsame).2]

/-- A family is there if one of its fields is: the stem and at least one digit. -/
theorem hasFamily_iff {fields : Params} {wireName : String} :
    fields.hasFamily wireName = true ↔
      ∃ digits, digits ≠ [] ∧ digits.all Char.isDigit = true ∧
        (fields.get? (familyStem wireName ++ String.ofList digits)).isSome = true := by
  have hname : ∀ (name : String) (digits : List Char),
      name.toList = (familyStem wireName).toList ++ digits ↔
        name = familyStem wireName ++ String.ofList digits := by
    intro name digits
    rw [← String.toList_inj, String.toList_append, String.toList_ofList]
  simp only [hasFamily, List.any_eq_true, isFamilyField_iff, hname, get?, ← mem_names_iff,
    List.mem_map]
  constructor
  · rintro ⟨field, hfield, digits, hne, hdigits, heq⟩
    exact ⟨digits, hne, hdigits, field, hfield, heq⟩
  · rintro ⟨digits, hne, hdigits, field, hfield, heq⟩
    exact ⟨field, hfield, digits, hne, hdigits, heq⟩

end ApiAtlas.Request.Params

namespace ApiAtlas.Client

open Command Descriptor Naming Request

theorem setIndexed_entries (fields : Params) (wireName : String) (texts : NumberedTexts) :
    fields.setIndexed wireName (some texts.entries) =
      insertAll fields ((Value.numbered texts).expansion wireName) := by
  have hfamily : (Value.present (.numbered texts)).family? = some (some texts.entries) := rfl
  exact setIndexed_eq_insertAll hfamily fields wireName

theorem mem_expansion {wireName : String} {texts : NumberedTexts} {name text : String} :
    (name, text) ∈ (Value.numbered texts).expansion wireName ↔
      ∃ n, (n, text) ∈ texts.entries ∧ name = familyStem wireName ++ toString n := by
  rw [Value.expansion, List.mem_map]
  constructor
  · rintro ⟨⟨n, s⟩, hmem, heq⟩
    obtain ⟨rfl, rfl⟩ := Prod.mk.inj heq
    exact ⟨n, hmem, rfl⟩
  · rintro ⟨n, hmem, rfl⟩
    exact ⟨(n, text), hmem, rfl⟩

section Family

variable (fields : Params) (wireName : String) (texts : NumberedTexts)

theorem get?_setIndexed_self {n : Nat} {text : String} (h : (n, text) ∈ texts.entries) :
    (fields.setIndexed wireName (some texts.entries)).get? (familyStem wireName ++ toString n) =
      some text := by
  rw [setIndexed_entries, get?_insertAll, Params.lookup_reverse_of_mem
    (nodup_expansion wireName (.numbered texts)) (mem_expansion.mpr ⟨n, h, rfl⟩), Option.some_or]

theorem get?_setIndexed_of_ne {name : String}
    (h : ∀ n text, (n, text) ∈ texts.entries → name ≠ familyStem wireName ++ toString n) :
    (fields.setIndexed wireName (some texts.entries)).get? name = fields.get? name := by
  have hnone : ((Value.numbered texts).expansion wireName).reverse.lookup name = none := by
    rw [List.lookup_eq_none_iff]
    rintro ⟨key, text⟩ hmem
    obtain ⟨n, hn, rfl⟩ := mem_expansion.mp (List.mem_reverse.mp hmem)
    exact bne_iff_ne.mpr (h n text hn)
  rw [setIndexed_entries, get?_insertAll, hnone, Option.none_or]

theorem isSome_get?_setIndexed {name : String} :
    ((fields.setIndexed wireName (some texts.entries)).get? name).isSome = true ↔
      (∃ n text, (n, text) ∈ texts.entries ∧ name = familyStem wireName ++ toString n) ∨
        (fields.get? name).isSome = true := by
  by_cases h : ∃ n text, (n, text) ∈ texts.entries ∧ name = familyStem wireName ++ toString n
  · obtain ⟨n, text, hmem, rfl⟩ := h
    rw [get?_setIndexed_self fields wireName texts hmem]
    exact ⟨fun _ => .inl ⟨n, text, hmem, rfl⟩, fun _ => rfl⟩
  · rw [get?_setIndexed_of_ne fields wireName texts fun n text hmem heq => h ⟨n, text, hmem, heq⟩,
      or_iff_right h]

theorem hasFamily_setIndexed :
    (fields.setIndexed wireName (some texts.entries)).hasFamily wireName = true ↔
      fields.hasFamily wireName = true ∨ texts.entries ≠ [] := by
  simp only [Params.hasFamily_iff, isSome_get?_setIndexed]
  constructor
  · rintro ⟨digits, hne, hdigits, ⟨n, text, hmem, -⟩ | hbefore⟩
    · exact .inr (List.ne_nil_of_mem hmem)
    · exact .inl ⟨digits, hne, hdigits, hbefore⟩
  · rintro (⟨digits, hne, hdigits, hbefore⟩ | hentries)
    · exact ⟨digits, hne, hdigits, .inr hbefore⟩
    · obtain ⟨⟨n, text⟩, hmem⟩ := List.exists_mem_of_ne_nil _ hentries
      refine ⟨(toString n).toList, ?_, ?_, .inl ⟨n, text, hmem, ?_⟩⟩
      · rw [Nat.toString_eq_repr, Nat.toList_repr]
        exact Nat.toDigits_ne_nil
      · exact List.all_eq_true.mpr isDigit_of_mem_toString
      · rw [String.ofList_toList]

/-- After a family is set from texts by number, each text is found under the stem and the decimal
digits of its number, every other field is as before, and the family is there just if it was before
or there are texts. A family is there only if a field is its stem and at least one digit. -/
theorem setIndexed_family :
    (∀ n text, (n, text) ∈ texts.entries →
        (fields.setIndexed wireName (some texts.entries)).get?
          (familyStem wireName ++ toString n) = some text) ∧
      (∀ name, (∀ n text, (n, text) ∈ texts.entries →
          name ≠ familyStem wireName ++ toString n) →
        (fields.setIndexed wireName (some texts.entries)).get? name = fields.get? name) ∧
      ((fields.setIndexed wireName (some texts.entries)).hasFamily wireName = true ↔
        fields.hasFamily wireName = true ∨ texts.entries ≠ []) ∧
      (fields.hasFamily wireName = true ↔
        ∃ digits, digits ≠ [] ∧ digits.all Char.isDigit = true ∧
          (fields.get? (familyStem wireName ++ String.ofList digits)).isSome = true) :=
  ⟨fun _ _ => get?_setIndexed_self fields wireName texts,
    fun _ => get?_setIndexed_of_ne fields wireName texts,
    hasFamily_setIndexed fields wireName texts, Params.hasFamily_iff⟩

end Family

/-- The fields of a machine with a network of its own and some settings of the same beginning. -/
def networkFields : Params := ⟨[("net", "plain"), ("net2", "old"), ("netmask", "24")]⟩

theorem setIndexed_family_networks :
    ∃ texts : NumberedTexts, texts.entries = [(1, "virtio"), (12, "e1000")] ∧
      (networkFields.setIndexed "net[n]" (some texts.entries)).get? "net12" = some "e1000" ∧
      (networkFields.setIndexed "net[n]" (some texts.entries)).get? "net2" = some "old" ∧
      (networkFields.setIndexed "net[n]" (some texts.entries)).hasFamily "net[n]" = true := by
  let texts : NumberedTexts := ⟨[(1, "virtio"), (12, "e1000")], by decide⟩
  obtain ⟨hset, hother, hfamily, -⟩ := setIndexed_family networkFields "net[n]" texts
  have hapart : ∀ entry ∈ texts.entries, "net2" ≠ familyStem "net[n]" ++ toString entry.1 := by
    decide
  refine ⟨texts, rfl, hset 12 "e1000" (by decide), ?_, hfamily.mpr (.inr (by decide))⟩
  rw [hother "net2" fun n text => hapart (n, text)]
  decide

end ApiAtlas.Client
