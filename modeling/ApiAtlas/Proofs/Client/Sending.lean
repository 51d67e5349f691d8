import ApiAtlas.Proofs.Client.Members
import ApiAtlas.Proofs.Client.Spelling
import ApiAtlas.Proofs.Command.Fields
import Mathlib.Data.List.Nodup

/-!
# The fields of an operation

The statements of an operation put into its fields what the values of its arguments stand for: a
single value stands for the field of its wire name, a map of texts for one field a number, and an
absent value for none. Where no two parameters stand for one field, nothing is overwritten, so that
the fields are just these and the order of the statements does not matter.
-/

namespace ApiAtlas.Request.Params

theorem perm_place {name : String} (value : String) {fields : List (String × String)}
    (h : name ∉ fields.map (·.1)) : (place name value fields).Perm ((name, value) :: fields) := by
  induction fields with
  | nil => exact .refl _
  | cons first rest ih =>
    obtain ⟨hne, hrest⟩ := not_or.mp (mt List.mem_cons.mpr h)
    rw [place, if_neg hne]
    split
    · exact .refl _
    · exact ((ih hrest).cons first).trans (.swap _ _ _)

theorem Sorted.eq_of_perm {fields others : List (String × String)} (h : Sorted fields)
    (ho : Sorted others) (hperm : fields.Perm others) : fields = others :=
  hperm.eq_of_pairwise
    (fun _ _ _ _ hlt hgt => (String.lt_asymm hlt hgt).elim) h ho

end ApiAtlas.Request.Params

namespace ApiAtlas.Client

open Checks Command Descriptor Layout Naming Request Resources

/-! ## What values stand for -/

/-- The fields that a value stands for under a wire name, with their texts. -/
def Value.expansion (wireName : String) : Value → List (String × String)
  | .bool b => [(wireName, if b then "1" else "0")]
  | .int n => [(wireName, toString n)]
  | .text s => [(wireName, s)]
  | .numbered texts =>
    texts.entries.map fun (n, s) => (familyStem wireName ++ toString n, s)
  | .absent => []
  | .present value => value.expansion wireName

/-- The fields that values stand for under the wire names of parameters. -/
def expansions (parameters : List Parameter) (values : List Value) : List (String × String) :=
  (parameters.zip values).flatMap fun (p, value) => value.expansion p.wireName

/-- No two parameters stand for one field. -/
def ExpandApart (parameters : List Parameter) (values : List Value) : Prop :=
  (parameters.zip values).Pairwise fun one other =>
    ∀ field ∈ (one.2.expansion one.1.wireName).map (·.1),
      field ∉ (other.2.expansion other.1.wireName).map (·.1)

instance (parameters : List Parameter) (values : List Value) :
    Decidable (ExpandApart parameters values) :=
  inferInstanceAs (Decidable (List.Pairwise _ _))

/-- A value stands for no field twice. -/
theorem nodup_expansion (wireName : String) (value : Value) :
    ((value.expansion wireName).map (·.1)).Nodup := by
  induction value with
  | bool b => exact List.nodup_singleton _
  | int n => exact List.nodup_singleton _
  | text s => exact List.nodup_singleton _
  | numbered texts =>
    rw [Value.expansion, List.map_map]
    refine List.pairwise_map.mpr (texts.sorted.imp fun hlt heq => ?_)
    exact Nat.ne_of_lt hlt (eq_of_append_toString heq)
  | absent => exact List.nodup_nil
  | present value ih => exact ih

theorem nodup_expansions {parameters : List Parameter} {values : List Value}
    (h : ExpandApart parameters values) : ((expansions parameters values).map (·.1)).Nodup := by
  rw [expansions, List.map_flatMap]
  exact List.nodup_flatMap.mpr ⟨fun pair _ => nodup_expansion pair.1.wireName pair.2,
    h.imp fun hapart field hone hother => hapart field hone hother⟩

/-! ## Single statements -/

theorem set_eq_insertAll {value : Value} {v : ParamValue} (h : value.single? = some v)
    (fields : Params) (wireName : String) :
    fields.set wireName v = insertAll fields (value.expansion wireName) := by
  induction value with
  | numbered texts => contradiction
  | present value ih => exact ih h
  | _ => obtain rfl := Option.some.inj h; rfl

theorem setIndexed_eq_insertAll {value : Value} {texts : Option (List (Nat × String))}
    (h : value.family? = some texts) (fields : Params) (wireName : String) :
    fields.setIndexed wireName texts = insertAll fields (value.expansion wireName) := by
  unfold Value.family? at h
  split at h
  · obtain rfl := Option.some.inj h
    rfl
  · obtain rfl := Option.some.inj h
    rw [Value.expansion, Value.expansion, insertAll, List.foldl_map]
    rfl
  · contradiction

variable {env : String → Option Value}

def FieldStatement.written (env : String → Option Value) : FieldStatement → List (String × String)
  | .set wireName expression | .setIndexed wireName expression =>
    ((expression.value? env).map (·.expansion wireName)).getD []

/-- A statement runs whatever fields there are, and puts its own among them. -/
def FieldStatement.Runs (env : String → Option Value) (s : FieldStatement) : Prop :=
  ∀ fields, s.run? env fields = some (insertAll fields (s.written env))

theorem runs_set {expression : Expression} {value : Value} {v : ParamValue}
    (hvalue : expression.value? env = some value) (h : value.single? = some v)
    (wireName : String) : (FieldStatement.set wireName expression).Runs env := by
  intro fields
  have hrun : (FieldStatement.set wireName expression).run? env fields =
      some (fields.set wireName v) := by simp [FieldStatement.run?, hvalue, h]
  rw [hrun, set_eq_insertAll h, FieldStatement.written, hvalue]
  rfl

theorem runs_setIndexed {expression : Expression} {value : Value}
    {texts : Option (List (Nat × String))} (hvalue : expression.value? env = some value)
    (h : value.family? = some texts) (wireName : String) :
    (FieldStatement.setIndexed wireName expression).Runs env := by
  intro fields
  have hrun : (FieldStatement.setIndexed wireName expression).run? env fields =
      some (fields.setIndexed wireName texts) := by simp [FieldStatement.run?, hvalue, h]
  rw [hrun, setIndexed_eq_insertAll h, FieldStatement.written, hvalue]
  rfl

section Argument

variable {a : Argument} {value : Value}

theorem exists_single? {type : ValueType} (h : HasType value (.ofValueType type)) :
    ∃ v, value.single? = some v := by
  cases type <;> cases h <;> exact ⟨_, rfl⟩

theorem runs_statement (h : HasType value a.type) (henv : env a.name = some value) :
    a.statement.Runs env := by
  have hname : (Expression.name a.name).value? env = some value := henv
  unfold Argument.type Argument.innerType at h
  unfold Argument.statement
  cases hfamily : a.isFamily with
  | true =>
    rw [hfamily, if_pos rfl] at h
    rw [if_pos rfl]
    cases hoptional : a.isOptional with
    | true =>
      rw [hoptional, if_pos rfl] at h
      rw [if_pos rfl]
      cases h with
      | absent => exact runs_setIndexed hname rfl _
      | present h => cases h with | numbered texts => exact runs_setIndexed hname rfl _
    | false =>
      rw [hoptional] at h
      have hsome : (Expression.some (.name a.name)).value? env = some value.present := by
        rw [Expression.value?, hname, Option.map_some]
      cases h with
      | numbered texts => exact runs_setIndexed hsome rfl _
  | false =>
    rw [hfamily] at h
    cases hoptional : a.isOptional with
    | true =>
      rw [hoptional, if_pos rfl] at h
      cases h with
      | absent => exact runs_set hname rfl _
      | present h =>
        obtain ⟨v, hv⟩ := exists_single? h
        exact runs_set hname hv _
    | false =>
      rw [hoptional] at h
      obtain ⟨v, hv⟩ := exists_single? h
      exact runs_set hname hv _

theorem written_statement (henv : env a.name = some value) :
    a.statement.written env = value.expansion a.wireName := by
  unfold Argument.statement
  split
  · split <;> simp [FieldStatement.written, Expression.value?, henv, Value.expansion]
  · simp [FieldStatement.written, Expression.value?, henv]

end Argument

/-! ## Runs of statements -/

theorem runAll?_eq_insertAll {statements : List FieldStatement}
    (h : ∀ s ∈ statements, s.Runs env) :
    FieldStatement.runAll? env statements =
      some (insertAll {} (statements.flatMap (·.written env))) := by
  have hfrom : ∀ fields, statements.foldlM (FieldStatement.run? env) fields =
      some (insertAll fields (statements.flatMap (·.written env))) := by
    induction statements with
    | nil => intro fields; rfl
    | cons s rest ih =>
      obtain ⟨hs, hrest⟩ := List.forall_mem_cons.mp h
      intro fields
      have hsplit : insertAll fields ((s :: rest).flatMap (·.written env)) =
          insertAll (insertAll fields (s.written env)) (rest.flatMap (·.written env)) := by
        rw [List.flatMap_cons, insertAll, List.foldl_append]
        rfl
      rw [List.foldlM_cons, hs, hsplit]
      exact ih hrest _
  exact hfrom {}

theorem perm_insertAll {fields : Params} {pairs : List (String × String)}
    (h : ((fields.fields ++ pairs).map (·.1)).Nodup) :
    (insertAll fields pairs).fields.Perm (fields.fields ++ pairs) := by
  induction pairs generalizing fields with
  | nil => simp [insertAll]
  | cons pair rest ih =>
    have hmiddle : ((pair :: (fields.fields ++ rest)).map (·.1)).Nodup :=
      (List.perm_middle.map Prod.fst).nodup_iff.mp h
    have hnew : pair.1 ∉ fields.fields.map (·.1) := fun hmem =>
      (List.nodup_cons.mp hmiddle).1 (by simp [hmem])
    have hplace : (fields.insert pair.1 pair.2).fields.Perm (pair :: fields.fields) :=
      Params.perm_place pair.2 hnew
    have hstep : ((fields.insert pair.1 pair.2).fields ++ rest).Perm
        (fields.fields ++ pair :: rest) :=
      (hplace.append_right rest).trans List.perm_middle.symm
    exact (ih ((hstep.map (·.1)).nodup_iff.mpr h)).trans hstep

theorem perm_insertAll_empty {pairs : List (String × String)} (h : (pairs.map (·.1)).Nodup) :
    (insertAll {} pairs).fields.Perm pairs :=
  perm_insertAll h

theorem sorted_insertAll_empty (pairs : List (String × String)) :
    Params.Sorted (insertAll {} pairs).fields :=
  sorted_insertAll List.Pairwise.nil pairs

/-- Fields that are put in once each are the same in whatever order that is done. -/
theorem insertAll_eq_of_perm {pairs others : List (String × String)}
    (h : (pairs.map (·.1)).Nodup) (hperm : others.Perm pairs) :
    insertAll {} others = insertAll {} pairs := by
  have hothers : (others.map (·.1)).Nodup := (hperm.map Prod.fst).nodup_iff.mpr h
  have hfields : (insertAll {} others).fields.Perm (insertAll {} pairs).fields :=
    ((perm_insertAll_empty hothers).trans hperm).trans (perm_insertAll_empty h).symm
  exact congrArg Params.mk <|
    (sorted_insertAll_empty others).eq_of_perm (sorted_insertAll_empty pairs) hfields

/-! ## Operations -/

theorem forall₂_lookup {arguments : List Argument} {values : List Value}
    (hlength : arguments.length = values.length) (h : (arguments.map (·.name)).Nodup) :
    List.Forall₂ (fun a value => ((arguments.map (·.name)).zip values).lookup a.name = some value)
      arguments values := by
  induction arguments generalizing values with
  | nil => obtain rfl := List.length_eq_zero_iff.mp hlength.symm; exact .nil
  | cons a rest ih =>
    obtain ⟨value, others, rfl⟩ := List.exists_cons_of_length_eq_add_one hlength.symm
    obtain ⟨hnew, hrest⟩ := List.nodup_cons.mp h
    have hapart : ∀ b ∈ rest, b.name ≠ a.name := fun b hb heq =>
      hnew (List.mem_map.mpr ⟨b, hb, heq⟩)
    refine .cons List.lookup_cons_self ?_
    have hothers := ih (by simpa using hlength) hrest
    refine ((List.forall₂_and_left _ _).mpr ⟨hapart, hothers⟩).imp fun b v ⟨hne, hv⟩ => ?_
    rw [List.map_cons, List.zip_cons_cons, List.lookup_cons, beq_false_of_ne hne]
    exact hv

section Operation

variable (reserved : Reserved) (r : Resource) (m : Method) (name : String) {values : List Value}

/-- Each argument has its value where the operation runs. -/
theorem forall₂_environment
    (hlength : (operationOf reserved r m name).arguments.length = values.length) :
    List.Forall₂ (fun a value => (operationOf reserved r m name).environment values a.name =
      some value) (operationOf reserved r m name).arguments values := by
  obtain ⟨hlocal, hnodup⟩ := List.nodup_cons.mp
    (nodup_argumentsOf reserved (m.orderedParameters r.keyChain))
  have hvisible : ∀ a ∈ (operationOf reserved r m name).arguments, a.name ≠ fieldsVariable :=
    fun a ha heq => hlocal (List.mem_map.mpr ⟨a, ha, heq⟩)
  refine ((List.forall₂_and_left _ _).mpr ⟨hvisible, forall₂_lookup hlength hnodup⟩).imp
    fun a value ⟨hne, hvalue⟩ => ?_
  rw [Operation.environment, if_neg hne]
  exact hvalue

theorem flatMap_written {arguments : List Argument} {values : List Value}
    (h : List.Forall₂ (fun a value => env a.name = some value) arguments values) :
    (arguments.map Argument.statement).flatMap (·.written env) =
      ((arguments.map (·.wireName)).zip values).flatMap fun (wireName, value) =>
        value.expansion wireName := by
  induction h with
  | nil => rfl
  | cons ha hrest ih =>
    rw [List.map_cons, List.flatMap_cons, ih, written_statement ha]
    rfl

theorem wireNames_arguments : (operationOf reserved r m name).arguments.map (·.wireName) =
    (m.orderedParameters r.keyChain).map (·.wireName) := by
  have hpairs := congrArg (List.map Prod.fst)
    (map_argumentsOf reserved (m.orderedParameters r.keyChain))
  rw [List.map_map, List.map_map] at hpairs
  exact hpairs

theorem flatMap_written_statements
    (hlength : (operationOf reserved r m name).arguments.length = values.length) :
    (operationOf reserved r m name).statements.flatMap
        (·.written ((operationOf reserved r m name).environment values)) =
      expansions (m.orderedParameters r.keyChain) values := by
  rw [Operation.statements, flatMap_written (forall₂_environment reserved r m name hlength),
    wireNames_arguments, List.zip_map_left, List.flatMap_map]
  rfl

/-- The values of the arguments of an operation fit their types. -/
def Operation.Takes (o : Operation) (values : List Value) : Prop :=
  List.Forall₂ (fun a value => HasType value a.type) o.arguments values

theorem runs_of_mem_statements (hvalues : (operationOf reserved r m name).Takes values) :
    ∀ s ∈ (operationOf reserved r m name).statements,
      s.Runs ((operationOf reserved r m name).environment values) := by
  intro s hs
  obtain ⟨a, ha, rfl⟩ := List.mem_map.mp hs
  obtain ⟨i, hi, rfl⟩ := List.getElem_of_mem ha
  have hlength := hvalues.length_eq
  exact runs_statement (hvalues.get hi (hlength ▸ hi))
    ((forall₂_environment reserved r m name hlength).get hi (hlength ▸ hi))

/-- The arguments of an operation are the parameters of its method that no key binds, in order, and
its function has just the statements for them. They run with all values that fit. Where no two
parameters stand for one field, the fields that are sent are just those which the values stand for,
and they are the same in whatever order the statements run. -/
theorem fields?_eq_expansions (hvalues : (operationOf reserved r m name).Takes values)
    (hapart : ExpandApart (m.orderedParameters r.keyChain) values) :
    (operationOf reserved r m name).statements.map FieldStatement.code =
        (operationOf reserved r m name).arguments.map Code.setField ∧
      spellingOf (Code.operation (operationOf reserved r m name)) =
        (operationOf reserved r m name).spelling ∧
      (operationOf reserved r m name).arguments.map (·.wireName) =
        (m.orderedParameters r.keyChain).map (·.wireName) ∧
      (∀ p, p ∈ m.orderedParameters r.keyChain ↔ p ∈ m.parameters ∧ p.wireName ∉ r.keyChain) ∧
      ∃ fields, (operationOf reserved r m name).fields? values = some fields ∧
        Params.Sorted fields.fields ∧
        fields.fields.Perm (expansions (m.orderedParameters r.keyChain) values) ∧
        ∀ statements, statements.Perm (operationOf reserved r m name).statements →
          FieldStatement.runAll? ((operationOf reserved r m name).environment values) statements =
            some fields := by
  have hnodup := nodup_expansions hapart
  have hwritten := flatMap_written_statements reserved r m name hvalues.length_eq
  have hruns := runs_of_mem_statements reserved r m name hvalues
  refine ⟨Operation.code_statements _, Operation.spellingOf_operation _,
    wireNames_arguments reserved r m name, fun p => mem_orderedParameters, _, ?_,
    sorted_insertAll_empty _, perm_insertAll_empty hnodup, fun statements hperm => ?_⟩
  · rw [Operation.fields?, runAll?_eq_insertAll hruns, hwritten]
  · rw [runAll?_eq_insertAll fun s hs => hruns s (hperm.mem_iff.mp hs)]
    exact congrArg some (insertAll_eq_of_perm hnodup (hwritten ▸ hperm.flatMap_right _))

end Operation

def machineSchema : Json :=
  .obj [
    ("name", .str "create"),
    ("parameters", .obj [("properties", .obj [
      ("node", .obj []),
      ("vmid", .obj [("type", .str "integer")]),
      ("net[n]", .obj [("optional", .bool true)]),
      ("start", .obj [("type", .str "boolean"), ("optional", .bool true)])])])]

theorem fields?_machine : ∃ m fields, Method.ofSchema .post { value := machineSchema } = .ok m ∧
    (operationOf {} { keyChain := ["node"] } m "create").fields?
      [.int 100, .present (.numbered ⟨[(0, "virtio"), (10, "e1000")], by decide⟩), .absent] =
        some fields ∧
      fields.fields = [("net0", "virtio"), ("net10", "e1000"), ("vmid", "100")] := by
  let networks : NumberedTexts := ⟨[(0, "virtio"), (10, "e1000")], by decide⟩
  let values : List Value := [.int 100, .present (.numbered networks), .absent]
  let keys : List String := ["node"]
  let stated (m : Method) : List Parameter := m.parameters.filter (!keys.contains ·.wireName)
  obtain ⟨m, hm, hsorted, htypes, hapart, hsent⟩ : ∃ m,
      Method.ofSchema .post { value := machineSchema } = .ok m ∧
        (stated m).Pairwise (Method.precedes · · = true) ∧
        (argumentsOf {} (stated m)).map (·.type) = [.int, .option .numbered, .option .bool] ∧
        ExpandApart (stated m) values ∧
        expansions (stated m) values = [("vmid", "100"), ("net0", "virtio"), ("net10", "e1000")] :=
    exists_ok_and (by decide +kernel)
  have hordered : m.orderedParameters keys = stated m := List.mergeSort_of_pairwise hsorted
  have hvalues : (operationOf {} { keyChain := keys } m "create").Takes values := by
    have htyped : List.Forall₂ (fun type value => HasType value type)
        ((argumentsOf {} (stated m)).map (·.type)) values := by
      rw [htypes]
      exact .cons (.int 100) (.cons (.present (.numbered networks)) (.cons (.absent .bool) .nil))
    rw [← hordered] at htyped
    exact List.forall₂_map_left_iff.mp htyped
  obtain ⟨-, -, -, -, fields, hfields, hall, hperm, -⟩ :=
    fields?_eq_expansions {} { keyChain := keys } m "create" hvalues (hordered ▸ hapart)
  rw [hordered, hsent] at hperm
  have hlisted : Params.Sorted [("net0", "virtio"), ("net10", "e1000"), ("vmid", "100")] := by
    unfold Params.Sorted
    decide
  exact ⟨m, fields, hm, hfields, hall.eq_of_perm hlisted (hperm.trans (by decide))⟩

end ApiAtlas.Client
