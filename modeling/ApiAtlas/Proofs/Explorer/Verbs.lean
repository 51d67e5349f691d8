import ApiAtlas.Explorer.Usage
import ApiAtlas.Proofs.Descriptor.Reading
import ApiAtlas.Proofs.Resources.Keys
import ApiAtlas.Proofs.Resources.Visits

/-!
# Verbs of a resource

A resource is asked for its methods by verb. The names of verbs are read in any letter case, while
the members of an object differ already when the case of a letter does: an entry can describe one
verb twice. Where none does, the verb of a method leads back to the method, and the usage of a
resource is the usage of each of its methods.
-/

namespace ApiAtlas

open Schema Descriptor Resources Checks

namespace Resources

/-- The verbs that the members of the `info` of an entry are named for, in document order. -/
def namedVerbs (entry : Cursor) : List Verb :=
  match entry.get? "info" with
  | none => []
  | some info => (info.entries.toOption.getD []).filterMap fun (name, _) => Verb.ofText? name

/-- No entry of a document describes a verb under two names. -/
def VerbsNamedOnce (document : Json) : Prop :=
  ∀ v ∈ documentVisits document, (namedVerbs v.entry).Nodup

theorem map_verb_of_entryMethods {entry : Cursor} {methods : List Method}
    (h : entryMethods entry = .ok methods) : methods.map (·.verb) = namedVerbs entry := by
  unfold namedVerbs
  cases hi : entry.get? "info" with
  | none =>
    rw [entryMethods_none hi] at h
    obtain rfl := Except.ok.inj h
    rfl
  | some info =>
    rw [entryMethods_some hi, bind_eq_ok] at h
    obtain ⟨members, hm, h⟩ := h
    have hnamed : (info.entries.toOption.getD []).filterMap (fun (name, _) => Verb.ofText? name) =
        (members.filterMap fun (name, schema) =>
          (Verb.ofText? name).map fun verb => (verb, schema)).map (·.1) := by
      simp [hm, Except.toOption, List.map_filterMap, Function.comp_def]
    refine Eq.trans ?_ hnamed.symm
    rw [eq_comm, ← List.forall₂_eq_eq_eq, List.forall₂_map_left_iff, List.forall₂_map_right_iff]
    exact (mapM_eq_ok.mp h).imp fun _ _ hmethod => (Method.verb_of_ofSchema hmethod).symm

def Resource.DistinctVerbs (r : Resource) : Prop := (r.methods.map (·.verb)).Nodup

instance (r : Resource) : Decidable r.DistinctVerbs := inferInstanceAs (Decidable (List.Nodup _))

theorem Resource.method?_verb {r : Resource} (h : r.DistinctVerbs) {m : Method}
    (hm : m ∈ r.methods) : r.method? m.verb = some m := by
  have hfirst : r.methods.find? (·.verb == m.verb) = some m := by
    obtain ⟨before, after, hsplit⟩ := List.append_of_mem hm
    rw [Resource.DistinctVerbs, hsplit, List.map_append, List.map_cons, List.nodup_append] at h
    have hnone : before.find? (·.verb == m.verb) = none := by
      rw [List.find?_eq_none]
      intro other hother heq
      exact h.2.2 other.verb (List.mem_map_of_mem hother) m.verb List.mem_cons_self
        (beq_iff_eq.mp heq)
    rw [hsplit, List.find?_append, hnone, Option.none_or, List.find?_cons_of_pos (by simp)]
  exact hfirst

namespace Catalog

variable {c : Catalog} {document : Json}

/-- The methods of the resources are for distinct verbs exactly when no entry describes a verb
twice. -/
theorem distinctVerbs_iff (h : build document = .ok c) :
    (∀ id, (c.get id).DistinctVerbs) ↔ VerbsNamedOnce document := by
  constructor
  · intro hdistinct v hv
    obtain ⟨i, hi⟩ := List.mem_iff_getElem?.mp hv
    rw [← map_verb_of_entryMethods (tells_of_getElem? h hi).methods_eq]
    exact hdistinct (i + 1)
  · intro honce id
    rw [Resource.DistinctVerbs]
    rcases methods_eq_nil_or_told h id with hnone | ⟨v, hv, htells⟩
    · rw [hnone]
      exact List.nodup_nil
    · rw [map_verb_of_entryMethods htells.methods_eq]
      exact honce v hv

end Catalog

end Resources

namespace Explorer

/-- Each method of a resource is listed with the usage of the first method for its verb. -/
theorem usageAll_eq (verbose : Bool) (r : Resource) :
    usageAll verbose r =
      r.methods.map fun m => methodUsage verbose r ((r.method? m.verb).getD m) := by
  rw [usageAll, ← List.filterMap_eq_map]
  refine List.filterMap_congr fun m hm => ?_
  have hsome : (r.method? m.verb).isSome := List.find?_isSome.mpr ⟨m, hm, beq_self_eq_true _⟩
  obtain ⟨first, hfirst⟩ := Option.isSome_iff_exists.mp hsome
  simp [usage?, hfirst]

theorem usageAll_of_distinctVerbs {r : Resource} (h : r.DistinctVerbs) (verbose : Bool) :
    usageAll verbose r = r.methods.map (methodUsage verbose r) := by
  rw [usageAll_eq]
  exact List.map_congr_left fun m hm => by rw [r.method?_verb h hm, Option.getD_some]

/-- The methods of a resource in a built catalog are for distinct verbs unless an entry describes a
verb twice. Of a resource with distinct verbs each method is found by its verb, and the usage of the
resource is that of its methods, one after the other. -/
theorem usageAll_of_build {document : Json} {c : Catalog} (h : Catalog.build document = .ok c) :
    ((∀ id, (c.get id).DistinctVerbs) ↔ VerbsNamedOnce document) ∧
      ∀ id, (c.get id).DistinctVerbs →
        (∀ m ∈ (c.get id).methods, (c.get id).method? m.verb = some m) ∧
          ∀ verbose, usageAll verbose (c.get id) =
            (c.get id).methods.map (methodUsage verbose (c.get id)) :=
  ⟨Catalog.distinctVerbs_iff h, fun _ hdistinct =>
    ⟨fun _ hm => Resource.method?_verb hdistinct hm, usageAll_of_distinctVerbs hdistinct⟩⟩

def describedDocument (listing making : String) : Json :=
  .arr [.obj [
    ("text", .str "x"), ("path", .str "/x"),
    ("info", .obj [
      (listing, .obj [("name", .str "list")]),
      (making, .obj [
        ("name", .str "make"),
        ("parameters", .obj [("properties", .obj [("id", .obj [])])])])])]]

theorem usageAll_distinct : ∃ c, Catalog.build (describedDocument "Get" "post") = .ok c ∧
    (c.get 1).DistinctVerbs ∧
      usageAll false (c.get 1) = (c.get 1).methods.map (methodUsage false (c.get 1)) ∧
        usageAll false (c.get 1) = ["GET /x", "POST /x id:<string>"] := by
  obtain ⟨c, hc, hdistinct, husage⟩ := Catalog.exists_built (describedDocument "Get" "post")
    (P := fun c => (c.get 1).DistinctVerbs ∧
      usageAll false (c.get 1) = ["GET /x", "POST /x id:<string>"]) (by decide +kernel)
  exact ⟨c, hc, hdistinct, ((usageAll_of_build hc).2 1 hdistinct).2 false, husage⟩

/-- The case of a letter is enough for two methods with one verb, of which the second is neither
found nor shown. -/
theorem usageAll_same_verb : ∃ c, Catalog.build (describedDocument "GET" "get") = .ok c ∧
    ¬ (c.get 1).DistinctVerbs ∧
      usageAll false (c.get 1) = ["GET /x", "GET /x"] ∧
        (c.get 1).methods.map (methodUsage false (c.get 1)) = ["GET /x", "GET /x id:<string>"] :=
  Catalog.exists_built (describedDocument "GET" "get") (by decide +kernel)

end Explorer

end ApiAtlas
