import ApiAtlas.Proofs.Resources.NestedView

/-!
# Accepted documents

A document is accepted when its entries fit together, level by level: names and paths agree, a list
has at most one placeholder, and what is said of methods and of the entries below can be read. An
accepted document is depicted by its outlines, one for each entry and in the same order.
-/

namespace ApiAtlas.Resources

open Schema Descriptor Checks

def IsPlaceholderEntry (entry : Cursor) : Prop :=
  ∃ text, entry.text? "text" = some text ∧ isPlaceholderName text = true

/-- No two entries of a list have a placeholder for a name. -/
def AtMostOnePlaceholder (entries : List Cursor) : Prop :=
  entries.Pairwise fun a b => ¬ (IsPlaceholderEntry a ∧ IsPlaceholderEntry b)

/-- What an entry says of its methods is absent or an object, in which every member that is named
for a verb describes a method. -/
def InfoFits (entry : Cursor) : Prop :=
  ∀ info, entry.get? "info" = some info →
    ∃ members, info.entries = .ok members ∧
      ∀ name schema verb, (name, schema) ∈ members → Verb.ofText? name = some verb →
        ∃ m, Method.ofSchema verb schema = .ok m

/-- An entry below a parent path that can be read with all entries below it. -/
inductive EntryFits : String → Cursor → Prop
  | intro {parent text : String} {entry : Cursor} {list : List Cursor} :
      entry.text? "text" = some text →
      entry.text? "path" = some (pathBelow parent text) →
      InfoFits entry →
      entriesBelow entry = .ok list →
      AtMostOnePlaceholder list →
      (∀ child ∈ list, EntryFits (pathBelow parent text) child) →
      EntryFits parent entry

/-- A document that is a list of fitting entries. -/
def DocumentFits (document : Json) : Prop :=
  ∃ entries, Cursor.items { value := document } = .ok entries ∧
    AtMostOnePlaceholder entries ∧ ∀ entry ∈ entries, EntryFits "" entry

/-- The methods are those that the members of an entry named for a verb describe, in order. -/
def DepictsMethods (entry : Cursor) (methods : List Method) : Prop :=
  match entry.get? "info" with
  | none => methods = []
  | some info => ∃ members, info.entries = .ok members ∧
      List.Forall₂
        (fun (member : String × Cursor) m =>
          ∃ verb, Verb.ofText? member.1 = some verb ∧ Method.ofSchema verb member.2 = .ok m)
        (members.filter fun member => (Verb.ofText? member.1).isSome) methods

/-- An outline that tells the same as an entry and the entries below it. -/
inductive Depicts : Cursor → Outline → Prop
  | intro {entry : Cursor} {name path : String} {methods : List Method} {list : List Cursor}
      {children : List Outline} :
      entry.text? "text" = some name →
      entry.text? "path" = some path →
      DepictsMethods entry methods →
      entriesBelow entry = .ok list →
      List.Forall₂ Depicts list children →
      Depicts entry (.node name path methods children)

/-! ## Methods -/

theorem entryMethods_none {entry : Cursor} (h : entry.get? "info" = none) :
    entryMethods entry = .ok [] := by
  simp [entryMethods, h]

theorem entryMethods_some {entry info : Cursor} (h : entry.get? "info" = some info) :
    entryMethods entry = info.entries >>= fun members =>
      (members.filterMap fun (name, schema) =>
        (Verb.ofText? name).map fun verb => (verb, schema)).mapM
          fun (verb, schema) => Method.ofSchema verb schema := by
  simp [entryMethods, h]

theorem exists_entryMethods {entry : Cursor} :
    (∃ methods, entryMethods entry = .ok methods) ↔ InfoFits entry := by
  cases hi : entry.get? "info" with
  | none => simp [entryMethods_none hi, InfoFits, hi]
  | some info =>
    rw [entryMethods_some hi]
    simp only [bind_eq_ok, InfoFits, hi, Option.some.injEq, forall_eq']
    rw [exists_comm]
    simp only [exists_and_left, exists_mapM_eq_ok]
    refine exists_congr fun members => and_congr_right fun _ => ?_
    constructor
    · intro hall name schema verb hmem hv
      exact hall (verb, schema) (List.mem_filterMap.mpr ⟨(name, schema), hmem, by simp [hv]⟩)
    · intro hall described hd
      obtain ⟨⟨name, schema⟩, hmem, he⟩ := List.mem_filterMap.mp hd
      obtain ⟨verb, hv, rfl⟩ := Option.map_eq_some_iff.mp he
      exact hall name schema verb hmem hv

theorem depictsMethods_of_entryMethods {entry : Cursor} {methods : List Method}
    (h : entryMethods entry = .ok methods) : DepictsMethods entry methods := by
  unfold DepictsMethods
  cases hi : entry.get? "info" with
  | none =>
    rw [entryMethods_none hi] at h
    exact (Except.ok.inj h).symm
  | some info =>
    rw [entryMethods_some hi, bind_eq_ok] at h
    obtain ⟨members, hm, h⟩ := h
    rw [mapM_eq_ok] at h
    refine ⟨members, hm, ?_⟩
    clear hm
    induction members generalizing methods with
    | nil => simpa using h
    | cons member rest ih =>
      obtain ⟨name, schema⟩ := member
      cases hv : Verb.ofText? name with
      | none =>
        simp only [List.filterMap_cons, hv, Option.map_none] at h
        simpa [hv] using ih h
      | some verb =>
        simp only [List.filterMap_cons, hv, Option.map_some] at h
        obtain ⟨m, ms, hmethod, hms, rfl⟩ := List.forall₂_cons_left_iff.mp h
        rw [List.filter_cons_of_pos (by simp [hv])]
        exact List.Forall₂.cons ⟨verb, hv, hmethod⟩ (ih hms)

/-! ## Entries -/

theorem exists_entryHeader {parent : String} {earlier : Option String} {entry : Cursor} :
    (∃ name path, entryHeader parent earlier entry = .ok (name, path)) ↔
      (∃ text, entry.text? "text" = some text ∧
        entry.text? "path" = some (pathBelow parent text)) ∧
      (earlier.isSome = true → ¬ IsPlaceholderEntry entry) := by
  simp only [entryHeader_eq_ok, IsPlaceholderEntry]
  constructor
  · rintro ⟨name, path, ht, hp, rfl, hb⟩
    refine ⟨⟨name, ht, hp⟩, fun he => ?_⟩
    rintro ⟨text, ht', hb'⟩
    obtain rfl : name = text := Option.some.inj (ht.symm.trans ht')
    simp [hb hb'] at he
  · rintro ⟨⟨text, ht, hp⟩, he⟩
    refine ⟨text, _, ht, hp, rfl, fun hb => ?_⟩
    by_contra hne
    exact he (Option.isSome_iff_ne_none.mpr hne) ⟨text, ht, hb⟩

/-- The placeholder remembered after an entry is there exactly if there was one before or the entry
is one. -/
theorem isSome_earlier (earlier : Option String) (entry : Cursor) :
    (earlier.or ((entry.text? "text").filter isPlaceholderName)).isSome = true ↔
      earlier.isSome = true ∨ IsPlaceholderEntry entry := by
  cases earlier with
  | some name => simp
  | none =>
    cases ht : entry.text? "text" with
    | none => simp [IsPlaceholderEntry, ht]
    | some text =>
      cases hb : isPlaceholderName text <;> simp [IsPlaceholderEntry, ht, hb, Option.filter]

/-- The nested reading of an entry succeeds exactly for a fitting entry that is no second
placeholder. -/
def ReadsFitting (entry : Cursor) : Prop :=
  ∀ parent (earlier : Option String), (∃ o, Outline.ofEntry parent earlier entry = .ok o) ↔
    EntryFits parent entry ∧ (earlier.isSome = true → ¬ IsPlaceholderEntry entry)

theorem exists_ofEntries {entries : List Cursor} (hr : ∀ entry ∈ entries, ReadsFitting entry)
    (parent : String) (earlier : Option String) :
    (∃ os, (withEarlier earlier entries).mapM
        (fun (seen, entry) => Outline.ofEntry parent seen entry) = .ok os) ↔
      (∀ entry ∈ entries, EntryFits parent entry) ∧ AtMostOnePlaceholder entries ∧
        (earlier.isSome = true → ∀ entry ∈ entries, ¬ IsPlaceholderEntry entry) := by
  rw [exists_mapM_eq_ok]
  induction entries generalizing earlier with
  | nil => simp [withEarlier, AtMostOnePlaceholder]
  | cons entry rest ih =>
    have hrest := ih (fun e hm => hr e (List.mem_cons_of_mem _ hm))
      (earlier.or ((entry.text? "text").filter isPlaceholderName))
    simp only [withEarlier, List.forall_mem_cons, hrest, isSome_earlier,
      hr entry List.mem_cons_self parent earlier, AtMostOnePlaceholder, List.pairwise_cons]
    grind

theorem ofEntry_fits (entry : Cursor) : ReadsFitting entry := by
  intro parent earlier
  simp only [Outline.ofEntry_eq_ok]
  constructor
  · rintro ⟨o, name, path, methods, list, children, hh, hm, hl, hc, -⟩
    obtain ⟨ht, hp, rfl, -⟩ := entryHeader_eq_ok.mp hh
    have hhead := exists_entryHeader.mp ⟨name, _, hh⟩
    have hr : ∀ child ∈ list, ReadsFitting child := fun child hmem =>
      have := sizeOf_lt_of_mem_entriesBelow hl hmem
      ofEntry_fits child
    obtain ⟨hfits, hone, -⟩ := (exists_ofEntries hr _ none).mp ⟨children, hc⟩
    exact ⟨.intro ht hp (exists_entryMethods.mp ⟨methods, hm⟩) hl hone hfits, hhead.2⟩
  · rintro ⟨hfit, he⟩
    cases hfit with
    | @intro _ text _ list ht hp hi hl hone hfits =>
      obtain ⟨name, path, hh⟩ := exists_entryHeader.mpr ⟨⟨text, ht, hp⟩, he⟩
      obtain ⟨ht', -, rfl, -⟩ := entryHeader_eq_ok.mp hh
      obtain rfl : text = name := Option.some.inj (ht.symm.trans ht')
      obtain ⟨methods, hm⟩ := exists_entryMethods.mpr hi
      have hr : ∀ child ∈ list, ReadsFitting child := fun child hmem =>
        have := sizeOf_lt_of_mem_entriesBelow hl hmem
        ofEntry_fits child
      obtain ⟨children, hc⟩ := (exists_ofEntries hr (pathBelow parent text) none).mpr
        ⟨hfits, hone, by simp⟩
      exact ⟨_, text, _, methods, list, children, hh, hm, hl, hc, rfl⟩
termination_by sizeOf entry.value

/-- The nested reading succeeds exactly for fitting documents. -/
theorem exists_ofDocument (document : Json) :
    (∃ outlines, Outline.ofDocument document = .ok outlines) ↔ DocumentFits document := by
  simp only [Outline.ofDocument, bind_eq_ok, liftSchema_eq_ok, DocumentFits]
  rw [exists_comm]
  simp only [exists_and_left]
  refine exists_congr fun entries => and_congr_right fun _ => ?_
  rw [exists_ofEntries (fun entry _ => ofEntry_fits entry)]
  simp [and_comm]

/-! ## What outlines depict -/

theorem depicts_of_ofEntries {parent : String} {entries : List Cursor}
    (hr : ∀ entry ∈ entries, ∀ earlier o, Outline.ofEntry parent earlier entry = .ok o →
      Depicts entry o) {earlier : Option String} {os : List Outline}
    (h : (withEarlier earlier entries).mapM
      (fun (seen, entry) => Outline.ofEntry parent seen entry) = .ok os) :
    List.Forall₂ Depicts entries os := by
  rw [mapM_eq_ok] at h
  induction entries generalizing earlier os with
  | nil =>
    obtain rfl := List.forall₂_nil_left_iff.mp h
    exact .nil
  | cons entry rest ih =>
    obtain ⟨o, os', ho, hos, rfl⟩ := List.forall₂_cons_left_iff.mp h
    exact .cons (hr entry List.mem_cons_self _ o ho)
      (ih (fun e hm => hr e (List.mem_cons_of_mem _ hm)) hos)

theorem depicts_of_ofEntry (entry : Cursor) {parent : String} {earlier : Option String}
    {o : Outline} (h : Outline.ofEntry parent earlier entry = .ok o) : Depicts entry o := by
  obtain ⟨name, path, methods, list, children, hh, hm, hl, hc, rfl⟩ := Outline.ofEntry_eq_ok.mp h
  obtain ⟨ht, hp, -, -⟩ := entryHeader_eq_ok.mp hh
  refine .intro ht hp (depictsMethods_of_entryMethods hm) hl (depicts_of_ofEntries ?_ hc)
  intro child hmem earlier o ho
  have := sizeOf_lt_of_mem_entriesBelow hl hmem
  exact depicts_of_ofEntry child ho
termination_by sizeOf entry.value

/-- Each entry of a document is depicted by the outline at its place. -/
theorem depicts_of_ofDocument {document : Json} {outlines : List Outline}
    (h : Outline.ofDocument document = .ok outlines) :
    ∃ entries, Cursor.items { value := document } = .ok entries ∧
      List.Forall₂ Depicts entries outlines := by
  simp only [Outline.ofDocument, bind_eq_ok, liftSchema_eq_ok] at h
  obtain ⟨entries, he, h⟩ := h
  exact ⟨entries, he, depicts_of_ofEntries (fun entry _ earlier o => depicts_of_ofEntry entry) h⟩

end ApiAtlas.Resources
