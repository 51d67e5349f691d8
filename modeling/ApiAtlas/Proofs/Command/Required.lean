import ApiAtlas.Proofs.Client.Spelling
import ApiAtlas.Proofs.Client.Types
import ApiAtlas.Proofs.Command.Fields

/-!
# What must be given

A call asks for fields for the required parameters that its path does not bind. The usage of a
method, and the function that is generated for it, know no path and leave out the parameters that
are named by the key chain. Since every path that leads to a resource binds its key chain, all of
them ask for the same.
-/

namespace ApiAtlas.Command

open Client Descriptor Explorer Layout Request Resources

def demanded (m : Method) (bound : List String) : List Parameter :=
  m.required.filter fun p => !bound.contains p.wireName

/-- The required parameters among those that a method states. -/
def stated (m : Method) (keyChain : List String) : List Parameter :=
  (m.orderedParameters keyChain).filter (!·.isOptional)

theorem demanded_perm_stated (m : Method) (keyChain : List String) :
    (demanded m keyChain).Perm (stated m keyChain) := by
  have hsort := List.mergeSort_perm
    (m.parameters.filter fun p => !keyChain.contains p.wireName) Method.precedes
  have hfilter := (hsort.filter (!·.isOptional)).symm
  rw [List.filter_filter] at hfilter
  rw [demanded, Method.required, List.filter_filter, stated, Method.orderedParameters]
  simpa only [Bool.and_comm] using hfilter

/-! ## Calls -/

section Calls

variable {c : Catalog} {id : Nat} {verb : Verb} {m : Method}

theorem firstMissing?_eq (m : Method) (bound : List String) (fields : Params) :
    firstMissing? m bound fields = (demanded m bound).find? (!supplies fields ·) := by
  rw [firstMissing?, demanded, List.find?_filter]
  simp

/-- A call that is right up to its fields is refused for the first demanded parameter that they do
not supply. -/
theorem check_eq {word path : String} {words : List String} {fields : Params}
    {keys : List (String × String)} (hverb : Verb.ofText? word = some verb)
    (hpath : c.locate? path = some id) (hm : (c.get id).method? verb = some m)
    (hkeys : c.bindKeys? path = some keys) (hfields : fieldsOf words = .ok fields) :
    Call.check c word path words =
      match (demanded m (keys.map (·.1))).find? (!supplies fields ·) with
      | some p => .error (.request (.missingParameter p.wireName))
      | none => .ok ⟨verb, path, m, fields⟩ := by
  have hanswer : ∀ missing, firstMissing? m (keys.map (·.1)) fields = missing →
      Call.check c word path words = match missing with
        | some p => .error (.request (.missingParameter p.wireName))
        | none => .ok ⟨verb, path, m, fields⟩ := by
    intro missing hmissing
    rw [Call.check, verbOf, hverb]
    simp only [resourceAt, hpath, hm, hkeys, hfields, Option.getD_some, bind, Except.bind]
    cases missing <;> simp only [hmissing]
  exact hanswer _ (firstMissing?_eq m _ fields)

end Calls

/-! ## Usage texts -/

/-- An argument is hinted at by its name and what it takes. -/
theorem exists_argumentHint_eq (p : Parameter) :
    ∃ taken, argumentHint p = p.wireName ++ ":" ++ taken := ⟨_, rfl⟩

theorem intercalate_cons (separator first : String) (rest : List String) :
    separator.intercalate (first :: rest) =
      first ++ if rest.isEmpty then "" else separator ++ separator.intercalate rest := by
  cases rest with
  | nil => simp
  | cons second rest =>
    rw [String.intercalate_cons_of_ne_nil (by simp), String.append_assoc]
    rfl

theorem exists_methodUsage (isVerbose : Bool) (r : Resource) (m : Method) :
    ∃ details, (details = "" ∨ ∃ lines, details = "\n" ++ lines) ∧
      methodUsage isVerbose r m = callLine r m ++ details := by
  cases isVerbose with
  | false => exact ⟨"", .inl rfl, (String.append_empty).symm⟩
  | true =>
    refine ⟨_, ?_, intercalate_cons _ _ _⟩
    split
    · exact .inl rfl
    · exact .inr ⟨_, rfl⟩

/-- Every path to a resource of a built catalog demands the same parameters for a verb, and a call
is refused for the first of them that its words do not give a value. They are those that the usage
of the first method for the verb states in front of its options, each with its name in front, and
those that the operation of this method takes arguments for that are no options in the signature of
its function. -/
theorem required_agree {document : Json} {c : Catalog} (h : Catalog.build document = .ok c)
    (s : Settings) {path : String} {id : Nat} (hpath : c.locate? path = some id) {verb : Verb}
    {m : Method} (hm : (c.get id).method? verb = some m) :
    (∃ keys, c.bindKeys? path = some keys ∧
        ((demanded m (keys.map (·.1))).map (·.wireName)).Perm
          ((stated m (c.get id).keyChain).map (·.wireName)) ∧
        ∀ word words fields, Verb.ofText? word = some verb → fieldsOf words = .ok fields →
          Call.check c word path words =
            (match (demanded m (keys.map (·.1))).find? (!supplies fields ·) with
            | some p => .error (.request (.missingParameter p.wireName))
            | none => .ok ⟨verb, path, m, fields⟩) ∧
          ∀ p, supplies fields p = true ↔ Gives words p) ∧
      (∀ isVerbose, ∃ details, (details = "" ∨ ∃ lines, details = "\n" ++ lines) ∧
        usage? isVerbose (c.get id) verb =
          some (verb.text ++ " " ++ (c.get id).path ++
            String.join ((stated m (c.get id).keyChain).map (" " ++ argumentHint ·)) ++
            (if (m.orderedParameters (c.get id).keyChain).any (·.isOptional) then " [OPTIONS]"
              else "") ++ details)) ∧
      (∀ p ∈ stated m (c.get id).keyChain,
        ∃ taken, argumentHint p = p.wireName ++ ":" ++ taken) ∧
      ∃ t o, (assemble c s).types[id]? = some t ∧
        t.operations[(c.get id).methods.findIdx (·.verb == verb)]? = some o ∧ o.verb = verb ∧
        (o.arguments.filter (!·.isOptional)).map (·.wireName) =
          (stated m (c.get id).keyChain).map (·.wireName) ∧
        (∃ rest, spellingOf (Code.operation o) =
          docSpelling o.doc ++ "pub fn " ++ o.name ++ "(" ++
            ",".intercalate ("&self" :: o.arguments.map fun a =>
              a.name ++ ": " ++ a.type.spelling) ++ ") -> " ++ rest) ∧
        ∀ a ∈ o.arguments, a.isOptional = true ↔
          ∃ inner, a.type.spelling = "Option<" ++ inner ++ ">" := by
  have hr := Catalog.build_rooted h
  have hverb : m.verb = verb := by
    have hfound := List.find?_some hm
    simpa using hfound
  refine ⟨?_, fun isVerbose => ?_, fun p _ => exists_argumentHint_eq p, ?_⟩
  · obtain ⟨keys, hkeys, hnames⟩ := hr.exists_bindKeys? hpath
    refine ⟨keys, hkeys, ?_, fun word words fields hword hfields => ?_⟩
    · rw [hnames]
      exact (demanded_perm_stated m _).map _
    · exact ⟨check_eq hword hpath hm hkeys hfields, fun p => supplies_iff hfields⟩
  · obtain ⟨details, hdetails, husage⟩ := exists_methodUsage isVerbose (c.get id) m
    refine ⟨details, hdetails, ?_⟩
    rw [usage?, hm, Option.map_some, husage, callLine, hverb]
    rfl
  · obtain ⟨hid, -⟩ := (hr.locate?_eq_some path id).mp hpath
    have hindex : (c.get id).methods[(c.get id).methods.findIdx (·.verb == verb)]? = some m := by
      rw [← List.find?_eq_getElem?_findIdx]
      exact hm
    obtain ⟨name, ho⟩ := getElem?_operations s.reserved (typeNames c s) hindex
    refine ⟨_, _, getElem?_types h s hid, ho, hverb, ?_, Operation.exists_signature _,
      fun a _ => a.isOptional_iff_spelling⟩
    exact required_argumentsOf s.reserved (m.orderedParameters (c.get id).keyChain)

theorem required_agree_disks : ∃ c m t o, Catalog.build (leafDocument "disks") = .ok c ∧
    c.locate? "/pve1/disks" = some 2 ∧ (c.get 2).method? .get = some m ∧
    (demanded m ["node"]).map (·.wireName) = ["digest"] ∧
    (stated m (c.get 2).keyChain).map (·.wireName) = ["digest"] ∧
    (assemble c {}).types[2]? = some t ∧ o ∈ t.operations ∧
    (o.arguments.filter (!·.isOptional)).map (·.wireName) = ["digest"] := by
  obtain ⟨c, hc, hpath, hkeys, hnames⟩ := Catalog.exists_built (leafDocument "disks")
    (P := fun c => c.locate? "/pve1/disks" = some 2 ∧
      c.bindKeys? "/pve1/disks" = some [("node", "pve1")] ∧
      ((c.get 2).method? .get).map (fun m => (demanded m ["node"]).map (·.wireName)) =
        some ["digest"]) (by decide +kernel)
  obtain ⟨m, hm, hdigest⟩ := Option.map_eq_some_iff.mp hnames
  obtain ⟨⟨keys, hbound, hperm, -⟩, -, -, t, o, ht, ho, -, hrequired, -⟩ :=
    required_agree hc {} hpath hm
  obtain rfl := Option.some.inj (hkeys.symm.trans hbound)
  have hstated : (stated m (c.get 2).keyChain).map (·.wireName) = ["digest"] :=
    (List.singleton_perm.mp (hdigest ▸ hperm)).symm
  exact ⟨c, m, t, o, hc, hpath, hm, hdigest, hstated, ht, List.mem_of_getElem? ho,
    hrequired.trans hstated⟩

end ApiAtlas.Command
