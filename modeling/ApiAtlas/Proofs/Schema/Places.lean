import ApiAtlas.Proofs.Naming.Identifiers
import ApiAtlas.Proofs.Schema.Cursors

/-!
# Texts of places

The text of a place is put together of the texts of its steps. A name with a dot or an opening
bracket in it may look like several steps, but where no name in a document is of that kind, the text
tells the place.
-/

namespace ApiAtlas.Schema

/-! ## The text of a place -/

/-- Whether a character of the text of a place does not begin a step. -/
def staysInStep (c : Char) : Bool := c != '.' && c != '['

/-- Names without dots and opening brackets. -/
def IsPlain (name : String) : Prop := name.toList.all staysInStep = true

instance (name : String) : Decidable (IsPlain name) := inferInstanceAs (Decidable (_ = true))

namespace Step

theorem text_injective : Function.Injective text := by
  intro s t h
  cases s with
  | key name =>
    cases t with
    | key other => simpa [text] using h
    | index j => simp [text, ← String.toList_inj] at h
  | index i =>
    cases t with
    | key other => simp [text, ← String.toList_inj] at h
    | index j =>
      have hnumber := (String.append_left_inj _).mp h
      exact congrArg index (Naming.eq_of_append_toString hnumber)

theorem text_ne_nil (s : Step) : s.text.toList ≠ [] := by
  cases s <;> simp [text]

/-- The first character of a step with a plain name is the only one that begins a step. -/
theorem staysInStep_of_mem_tail {s : Step} (h : ∀ name, s = key name → IsPlain name) {c : Char}
    (hc : c ∈ s.text.toList.tail) : staysInStep c = true := by
  cases s with
  | key name => exact List.all_eq_true.mp (h name rfl) c (by simpa [text] using hc)
  | index i =>
    have hdigit : c ∈ (toString i).toList ∨ c = ']' := by simpa [text] using hc
    rcases hdigit with hdigit | rfl
    · have hc := Naming.isDigit_of_mem_toString c hdigit
      rw [staysInStep, Bool.and_eq_true, bne_iff_ne, bne_iff_ne]
      constructor <;> rintro rfl <;> contradiction
    · rfl

/-- Behind a step with a plain name it is seen where the next one begins. -/
theorem eq_of_append_eq {s t : Step} {rest others : List Char}
    (hs : ∀ name, s = key name → IsPlain name) (ht : ∀ name, t = key name → IsPlain name)
    (hrest : rest.takeWhile staysInStep = []) (hothers : others.takeWhile staysInStep = [])
    (h : s.text.toList ++ rest = t.text.toList ++ others) : s = t ∧ rest = others := by
  have htail := congrArg List.tail h
  rw [List.tail_append_of_ne_nil s.text_ne_nil, List.tail_append_of_ne_nil t.text_ne_nil] at htail
  have hfront := congrArg (List.takeWhile staysInStep) htail
  rw [List.takeWhile_append_of_pos fun c => staysInStep_of_mem_tail hs,
    List.takeWhile_append_of_pos fun c => staysInStep_of_mem_tail ht, hrest, hothers,
    List.append_nil, List.append_nil] at hfront
  obtain rfl : rest = others := List.append_cancel_left (hfront ▸ htail)
  exact ⟨text_injective (String.toList_inj.mp (List.append_cancel_right h)), rfl⟩

end Step

namespace Location

theorem toList_text (place : Location) :
    place.text.toList = '$' :: place.flatMap fun step => step.text.toList := by
  simp [text, List.flatMap_map]

theorem takeWhile_steps (place : Location) :
    (place.flatMap fun step => step.text.toList).takeWhile staysInStep = [] := by
  cases place with
  | nil => rfl
  | cons step rest => cases step <;> simp [Step.text, staysInStep]

theorem eq_of_steps_eq {place other : Location} (hplace : ∀ name, .key name ∈ place → IsPlain name)
    (hother : ∀ name, .key name ∈ other → IsPlain name)
    (h : (place.flatMap fun step => step.text.toList) =
      other.flatMap fun step => step.text.toList) : place = other := by
  induction place generalizing other with
  | nil =>
    cases other with
    | nil => rfl
    | cons step rest => exact absurd (List.append_eq_nil_iff.mp h.symm).1 step.text_ne_nil
  | cons step rest ih =>
    cases other with
    | nil => exact absurd (List.append_eq_nil_iff.mp h).1 step.text_ne_nil
    | cons next others =>
      simp only [List.mem_cons] at hplace hother
      obtain ⟨rfl, hrest⟩ := Step.eq_of_append_eq (fun name hname => hplace name (.inl hname.symm))
        (fun name hname => hother name (.inl hname.symm)) (takeWhile_steps rest)
        (takeWhile_steps others) h
      rw [ih (fun name hname => hplace name (.inr hname))
        (fun name hname => hother name (.inr hname)) hrest]

/-- Places with plain names are told apart by their texts. -/
theorem eq_of_text_eq {place other : Location} (hplace : ∀ name, .key name ∈ place → IsPlain name)
    (hother : ∀ name, .key name ∈ other → IsPlain name) (h : place.text = other.text) :
    place = other := by
  refine eq_of_steps_eq hplace hother ?_
  rw [← String.toList_inj, toList_text, toList_text] at h
  exact List.tail_eq_of_cons_eq h

example : Location.text [.key "a.b"] = Location.text [.key "a", .key "b"] := by decide

end Location

/-! ## Names in a document -/

/-- A name of a member of some object in a document. -/
def IsNameIn (document : Json) (name : String) : Prop :=
  ∃ place v, Location.get? document (place ++ [.key name]) = some v

/-- The names of all members in a document are plain. -/
def PlainNames (document : Json) : Prop := ∀ name, IsNameIn document name → IsPlain name

variable {document : Json}

theorem isNameIn_of_mem {place : Location} {v : Json} {name : String}
    (h : Location.get? document place = some v) (hname : .key name ∈ place) :
    IsNameIn document name := by
  obtain ⟨front, back, rfl⟩ := List.append_of_mem hname
  rw [List.append_cons, Location.get?_append, Option.bind_eq_some_iff] at h
  obtain ⟨w, hw, -⟩ := h
  exact ⟨front, w, hw⟩

/-- If all names in a document are plain then no two of its values stand at places of one text. -/
theorem PlainNames.eq_of_text_eq (hplain : PlainNames document) {place other : Location}
    {v w : Json} (hv : Location.get? document place = some v)
    (hw : Location.get? document other = some w) (h : other.text = place.text) : other = place :=
  Location.eq_of_text_eq (fun name hname => hplain name (isNameIn_of_mem hw hname))
    (fun name hname => hplain name (isNameIn_of_mem hv hname)) h

mutual

/-- All names that are written in a value, also those of fields that later ones hide. -/
def writtenNames : Json → List String
  | .arr items => itemNames items
  | .obj fields => fieldNames fields
  | _ => []

def itemNames : List Json → List String
  | [] => []
  | v :: rest => writtenNames v ++ itemNames rest

def fieldNames : List (String × Json) → List String
  | [] => []
  | (name, v) :: rest => name :: writtenNames v ++ fieldNames rest

end

theorem subset_itemNames {v : Json} {items : List Json} (h : v ∈ items) :
    writtenNames v ⊆ itemNames items := by
  induction items with
  | nil => contradiction
  | cons first rest ih =>
    rw [itemNames]
    rcases List.mem_cons.mp h with rfl | h
    · exact List.subset_append_left _ _
    · exact List.subset_append_of_subset_right _ (ih h)

theorem subset_fieldNames {name : String} {v : Json} {fields : Fields Json}
    (h : (name, v) ∈ fields) : name :: writtenNames v ⊆ fieldNames fields := by
  induction fields with
  | nil => contradiction
  | cons field rest ih =>
    rw [fieldNames]
    rcases List.mem_cons.mp h with rfl | h
    · exact List.subset_append_left _ _
    · exact List.subset_append_of_subset_right _ (ih h)

theorem subset_of_member? {name : String} {v w : Json} (h : v.member? name = some w) :
    name :: writtenNames w ⊆ writtenNames v := by
  cases v with
  | obj fields => exact subset_fieldNames (Fields.mem_of_find? h)
  | _ => contradiction

theorem subset_of_step {step : Step} {v w : Json} (h : step.apply? v = some w) :
    writtenNames w ⊆ writtenNames v := by
  cases step with
  | key name => exact fun _ hmem => subset_of_member? h (List.mem_cons_of_mem _ hmem)
  | index i =>
    cases v with
    | arr items => exact subset_itemNames (List.mem_of_getElem? h)
    | _ => contradiction

theorem subset_of_get? {place : Location} {v w : Json} (h : Location.get? v place = some w) :
    writtenNames w ⊆ writtenNames v := by
  induction place generalizing v with
  | nil => exact (Option.some.inj h) ▸ List.Subset.refl _
  | cons step rest ih =>
    rw [Location.get?, List.foldlM_cons, Option.bind_eq_bind, Option.bind_eq_some_iff] at h
    obtain ⟨u, hu, hw⟩ := h
    exact fun _ hmem => subset_of_step hu (ih hw hmem)

/-- It is enough to look at what is written. -/
theorem plainNames_of_written (h : ∀ name ∈ writtenNames document, IsPlain name) :
    PlainNames document := by
  rintro name ⟨place, v, hv⟩
  rw [Location.get?_append, Option.bind_eq_some_iff] at hv
  obtain ⟨u, hu, hv⟩ := hv
  rw [Location.get?_singleton] at hv
  exact h name (subset_of_get? hu (subset_of_member? hv List.mem_cons_self))

end ApiAtlas.Schema
