import ApiAtlas.Descriptor.Method
import ApiAtlas.Proofs.Checks
import ApiAtlas.Proofs.Json.Fields
import ApiAtlas.Proofs.Schema.Cursors
import Mathlib.Data.List.Sort

/-!
# Views of descriptors

What a value of a descriptor tells depends on where it stands. A view leaves out members of objects
and sorts the members of some, as far as methods and properties are told by them; everything else is
seen as it is. What is found in a view of a value is the view of what is found in the value.
-/

namespace ApiAtlas.Fields

variable {α : Type}

/-- Each name once, sorted by name. -/
def sorted (fields : Fields α) : Fields α :=
  (resolve fields).insertionSort fun one other => one.1 ≤ other.1

theorem sorted_perm (fields : Fields α) : (sorted fields).Perm (resolve fields) :=
  List.perm_insertionSort _ _

/-- Fields with distinct names are sorted in one way, whatever their order. -/
theorem sorted_eq_of_perm {fields fields' : Fields α} (h : (fields.map (·.1)).Nodup)
    (hperm : fields.Perm fields') : sorted fields = sorted fields' := by
  have h' : (fields'.map (·.1)).Nodup := (hperm.map (·.1)).nodup_iff.mp h
  have hsame : (sorted fields).Perm (sorted fields') := by
    refine (sorted_perm fields).trans (.trans ?_ (sorted_perm fields').symm)
    rwa [resolve_eq_self h, resolve_eq_self h']
  have hsorted : ∀ fields : Fields α,
      (sorted fields).Pairwise fun one other => one.1 ≤ other.1 := by
    intro fields
    have : Std.Total fun one other : String × α => one.1 ≤ other.1 :=
      ⟨fun one other => String.le_total one.1 other.1⟩
    have : IsTrans (String × α) fun one other => one.1 ≤ other.1 :=
      ⟨fun _ _ _ => String.le_trans⟩
    exact List.pairwise_insertionSort _ _
  refine hsame.eq_of_pairwise (fun one other hone hother hle hge => ?_) (hsorted fields)
    (hsorted fields')
  have hone' := (sorted_perm fields).mem_iff.mp hone
  have hother' := hsame.mem_iff.mpr hother
  rw [(sorted_perm fields).mem_iff] at hother'
  rw [resolve_eq_self h] at hone' hother'
  exact List.inj_on_of_nodup_map h hone' hother' (String.le_antisymm hle hge)

end ApiAtlas.Fields

namespace ApiAtlas.Descriptor

open Checks Schema

/-- What a value of a descriptor tells. -/
inductive Part where
  | entries
  | entry
  | methods
  | method
  | returns
  /-- An object with properties. -/
  | record
  | properties
  | property
  | other
  deriving DecidableEq, Repr

namespace Part

def member : Part → String → Part
  | .entry, "info" => .methods
  | .entry, "children" => .entries
  | .methods, _ => .method
  | .method, "parameters" => .record
  | .method, "returns" => .returns
  | .returns, "items" => .record
  | .returns, "properties" => .properties
  | .record, "properties" => .properties
  | .properties, _ => .property
  | .property, "format" => .properties
  | _, _ => .other

def item : Part → Part
  | .entries => .entry
  | _ => .other

theorem member_other (name : String) : member .other name = .other := rfl

end Part

/-- What is left out of a descriptor, and what is sorted. -/
structure View where
  /-- Whether a member of an object is left out. -/
  omits : Part → String → Bool
  /-- Whether the members of an object are sorted by name. -/
  sorts : Part → Bool
  omits_other : ∀ name, omits .other name = false
  sorts_other : sorts .other = false

namespace View

mutual

/-- A value of a descriptor as a view shows it. -/
def see (w : View) (part : Part) : Json → Json
  | .arr items => .arr (w.seeItems part.item items)
  | .obj fields =>
    .obj (if w.sorts part then Fields.sorted (w.seeFields part fields)
      else w.seeFields part fields)
  | v => v

def seeItems (w : View) (part : Part) : List Json → List Json
  | [] => []
  | v :: rest => w.see part v :: w.seeItems part rest

def seeFields (w : View) (part : Part) : List (String × Json) → List (String × Json)
  | [] => []
  | (name, v) :: rest =>
    if w.omits part name then w.seeFields part rest
    else (name, w.see (part.member name) v) :: w.seeFields part rest

end

variable {w : View} {part : Part}

theorem seeItems_eq_map (items : List Json) : w.seeItems part items = items.map (w.see part) := by
  induction items with
  | nil => rfl
  | cons v rest ih => rw [seeItems, ih, List.map_cons]

/-- Where nothing is left out, all members stay. -/
theorem seeFields_eq_map (h : ∀ name, w.omits part name = false) (fields : Fields Json) :
    w.seeFields part fields =
      fields.map fun field => (field.1, w.see (part.member field.1) field.2) := by
  induction fields with
  | nil => rfl
  | cons field rest ih =>
    obtain ⟨name, v⟩ := field
    rw [seeFields, h, if_neg Bool.false_ne_true, ih, List.map_cons]

theorem find?_seeFields (name : String) (fields : Fields Json) :
    Fields.find? name (w.seeFields part fields) =
      if w.omits part name then none
      else (Fields.find? name fields).map (w.see (part.member name)) := by
  induction fields with
  | nil => simp [seeFields]
  | cons field rest ih =>
    obtain ⟨key, v⟩ := field
    rw [seeFields, Fields.find?]
    by_cases hkey : key = name
    · subst hkey
      split
      · rename_i homits
        rw [ih, if_pos homits]
      · rename_i homits
        rw [Fields.find?, ih, if_neg homits, if_pos rfl, if_pos rfl]
        cases Fields.find? key rest <;> rfl
    · rw [if_neg hkey, Option.or_none]
      split
      · exact ih
      · rw [Fields.find?, if_neg hkey, Option.or_none, ih]

mutual

/-- A value that no method or property is told by is seen as it is. -/
theorem see_other : ∀ v : Json, w.see .other v = v
  | .arr items => congrArg Json.arr (seeItems_other items)
  | .obj fields => by rw [see, w.sorts_other, if_neg Bool.false_ne_true, seeFields_other fields]
  | .null | .bool _ | .int _ | .real _ | .str _ => rfl

theorem seeItems_other : ∀ items : List Json, w.seeItems .other items = items
  | [] => rfl
  | v :: rest => by rw [seeItems, see_other v, seeItems_other rest]

theorem seeFields_other : ∀ fields : List (String × Json), w.seeFields .other fields = fields
  | [] => rfl
  | (name, v) :: rest => by
    rw [seeFields, w.omits_other, if_neg Bool.false_ne_true, Part.member_other, see_other v,
      seeFields_other rest]

end

/-! ## Looking at values -/

@[simp] theorem text?_see (v : Json) : (w.see part v).text? = v.text? := by
  cases v <;> rfl

theorem member?_see (hsorts : w.sorts part = false) (name : String) (v : Json) :
    (w.see part v).member? name =
      if w.omits part name then none else (v.member? name).map (w.see (part.member name)) := by
  cases v with
  | obj fields =>
    rw [see, hsorts, if_neg Bool.false_ne_true]
    exact find?_seeFields name fields
  | _ => simp [see, Json.member?]

theorem items?_see (v : Json) :
    (w.see part v).items? = v.items?.map (·.map (w.see part.item)) := by
  cases v with
  | arr items => simp [see, Json.items?, seeItems_eq_map]
  | _ => rfl

theorem members?_see (hsorts : w.sorts part = false) (h : ∀ name, w.omits part name = false)
    (v : Json) :
    (w.see part v).members? = v.members?.map
      (·.map fun field => (field.1, w.see (part.member field.1) field.2)) := by
  cases v with
  | obj fields =>
    simp only [see, hsorts, if_neg Bool.false_ne_true, Json.members?, seeFields_eq_map h,
      Option.map_some, Fields.resolve_map fun name => w.see (part.member name)]
  | _ => rfl

theorem isSome_members?_see (v : Json) : (w.see part v).members?.isSome = v.members?.isSome := by
  cases v <;> rfl

/-- Objects that are the same when their members are sorted have the same members, in some order. -/
theorem members?_perm_of_see (hsorts : w.sorts part = true)
    (h : ∀ name, w.omits part name = false) {v v' : Json} (hsame : w.see part v = w.see part v')
    {fields fields' : Fields Json} (hv : v.members? = some fields)
    (hv' : v'.members? = some fields') :
    (fields.map fun field => (field.1, w.see (part.member field.1) field.2)).Perm
      (fields'.map fun field => (field.1, w.see (part.member field.1) field.2)) := by
  cases v with
  | obj raw =>
    cases v' with
    | obj raw' =>
      obtain rfl := Option.some.inj hv
      obtain rfl := Option.some.inj hv'
      simp only [see, hsorts, if_true, seeFields_eq_map h, Json.obj.injEq] at hsame
      rw [← Fields.resolve_map fun name => w.see (part.member name),
        ← Fields.resolve_map fun name => w.see (part.member name)]
      exact (Fields.sorted_perm _).symm.trans (hsame ▸ Fields.sorted_perm _)
    | _ => contradiction
  | _ => contradiction

/-! ## Looking at places of a document -/

/-- The cursor at the same place of a document as a view shows it. -/
def look (w : View) (part : Part) (c : Cursor) : Cursor := ⟨w.see part c.value, c.place⟩

variable {c d : Cursor}

theorem isObject_look : (w.look part c).isObject = c.isObject := isSome_members?_see c.value

theorem get?_look (hsorts : w.sorts part = false) (name : String) :
    (w.look part c).get? name =
      if w.omits part name then none else (c.get? name).map (w.look (part.member name)) := by
  have hmember : (w.see part c.value).member? name = _ := member?_see hsorts name c.value
  split
  · rename_i hname
    rw [if_pos hname] at hmember
    simp only [Cursor.get?, look, hmember]
  · rename_i hname
    rw [if_neg hname] at hmember
    simp only [Cursor.get?, look, hmember]
    cases c.value.member? name with
    | none => rfl
    | some v => cases v <;> rfl

theorem look_other (c : Cursor) : w.look .other c = c := by rw [look, see_other]

/-- A member that tells nothing of methods and properties stays as it is. -/
theorem get?_look_other {name : String} (hsorts : w.sorts part = false)
    (h : w.omits part name = false) (hmember : part.member name = .other) :
    (w.look part c).get? name = c.get? name := by
  rw [get?_look hsorts, h, if_neg Bool.false_ne_true, hmember]
  cases c.get? name <;> simp [look_other]

theorem text?_look (hsorts : w.sorts part = false) (name : String) :
    (w.look part c).text? name = if w.omits part name then none else c.text? name := by
  rw [Cursor.text?, get?_look hsorts]
  split
  · rfl
  · rw [Cursor.text?]
    cases c.get? name <;> simp [look]

theorem getPath?_look {outer inner : String} (houter : w.omits part outer = false)
    (hinner : w.omits (part.member outer) inner = false) (hsorts : w.sorts part = false)
    (hsorts' : w.sorts (part.member outer) = false) :
    (w.look part c).getPath? [outer, inner] =
      (c.getPath? [outer, inner]).map (w.look ((part.member outer).member inner)) := by
  simp only [Cursor.getPath?, List.foldlM_cons, List.foldlM_nil, get?_look hsorts, houter]
  cases c.get? outer with
  | none => rfl
  | some d => cases hd : d.get? inner <;> simp [get?_look hsorts', hinner, hd]

theorem entries_look (hsorts : w.sorts part = false) (h : ∀ name, w.omits part name = false) :
    (w.look part c).entries =
      (List.map fun entry => (entry.1, w.look (part.member entry.1) entry.2)) <$> c.entries := by
  simp only [Cursor.entries, Cursor.asMembers, look, members?_see hsorts h]
  cases c.value.members? with
  | none => rfl
  | some fields => simp [Cursor.step]

theorem items_look : (w.look part c).items = List.map (w.look part.item) <$> c.items := by
  simp only [Cursor.items, Cursor.asArray, look, items?_see]
  cases c.value.items? with
  | none => rfl
  | some items =>
    refine congrArg Except.ok (List.ext_getElem? fun i => ?_)
    simp only [List.getElem?_mapIdx, List.getElem?_map, Option.map_map]
    rfl

/-- A required member that tells nothing of methods and properties stays as it is. -/
theorem field_look_other {name : String} (hsorts : w.sorts part = false)
    (h : w.omits part name = false) (hmember : part.member name = .other) :
    (w.look part c).field name = c.field name := by
  rw [Cursor.field_eq, Cursor.field_eq, isObject_look, get?_look_other hsorts h hmember]
  rfl

/-- Where members are sorted, objects that look the same have the same entries, in some order. -/
theorem entries_perm_of_look (hsorts : w.sorts part = true)
    (h : ∀ name, w.omits part name = false) (hsame : w.look part c = w.look part d)
    {xs ys : List (String × Cursor)} (hxs : c.entries = .ok xs) (hys : d.entries = .ok ys) :
    (xs.map fun entry => (entry.1, w.look (part.member entry.1) entry.2)).Perm
      (ys.map fun entry => (entry.1, w.look (part.member entry.1) entry.2)) := by
  obtain ⟨hvalue, hplace⟩ := Cursor.mk.inj hsame
  obtain ⟨fields, hfields, rfl⟩ := Cursor.entries_eq_ok.mp hxs
  obtain ⟨fields', hfields', rfl⟩ := Cursor.entries_eq_ok.mp hys
  have hperm := members?_perm_of_see hsorts h hvalue hfields hfields'
  have hstep := hperm.map fun field : String × Json =>
    (field.1, (⟨field.2, c.place ++ [.key field.1]⟩ : Cursor))
  simp only [List.map_map, Function.comp_def] at hstep
  simp only [List.map_map, Function.comp_def, look, Cursor.step, ← hplace]
  exact hstep

end View

end ApiAtlas.Descriptor
