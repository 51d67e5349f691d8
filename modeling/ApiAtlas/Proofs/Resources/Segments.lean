import ApiAtlas.Proofs.Lists
import ApiAtlas.Proofs.Text.Pieces
import ApiAtlas.Resources.Locate
import Mathlib.Data.List.Forall2
import Mathlib.Data.List.Induction

/-!
# Segments of paths

A path is made of names, each behind a slash. Its segments are those of the names one after the
other, so a name that is a segment gives itself and any other name gives none or its parts.
-/

namespace ApiAtlas.Resources

open Text

/-- Whether a text can stand between two slashes as one segment. -/
def IsSegment (text : String) : Prop := text ≠ "" ∧ '/' ∉ text.toList

instance (text : String) : Decidable (IsSegment text) :=
  inferInstanceAs (Decidable (text ≠ "" ∧ '/' ∉ text.toList))

/-- The path made of a slash and a name for each of some names. -/
def joinPath (names : List String) : String := names.foldl pathBelow ""

theorem joinPath_append (names : List String) (name : String) :
    joinPath (names ++ [name]) = pathBelow (joinPath names) name := by
  rw [joinPath, List.foldl_append]
  rfl

theorem toList_joinPath (names : List String) :
    (joinPath names).toList = names.flatMap fun name => '/' :: name.toList := by
  induction names using List.reverseRecOn with
  | nil => rfl
  | append_singleton names name ih =>
    rw [joinPath_append, List.flatMap_append, ← ih]
    simp [pathBelow]

/-- Behind the empty part in front of the first slash, a path has the parts of its names. -/
theorem splitOn_joinPath (names : List String) :
    (joinPath names).toList.splitOn '/' =
      [] :: names.flatMap fun name => name.toList.splitOn '/' := by
  induction names using List.reverseRecOn with
  | nil => rfl
  | append_singleton names name ih =>
    have hlist : (pathBelow (joinPath names) name).toList =
        (joinPath names).toList ++ '/' :: name.toList := by
      simp [pathBelow]
    rw [joinPath_append, hlist, List.splitOn_append_cons_self, ih, List.flatMap_append,
      List.flatMap_singleton, List.cons_append]

theorem isSegment_of_mem_segmentsOf {path s : String} (h : s ∈ segmentsOf path) : IsSegment s := by
  obtain ⟨piece, hp, rfl⟩ := List.mem_map.mp h
  obtain ⟨hsplit, hne⟩ := List.mem_filter.mp hp
  refine ⟨?_, by simpa using not_mem_of_mem_splitOn hsplit⟩
  intro he
  have := congrArg String.toList he
  simp_all

theorem segmentsOf_pathBelow (parent name : String) :
    segmentsOf (pathBelow parent name) = segmentsOf parent ++ segmentsOf name := by
  have hlist : (pathBelow parent name).toList = parent.toList ++ '/' :: name.toList := by
    simp [pathBelow]
  rw [segmentsOf, hlist, List.splitOn_append_cons_self, List.filter_append, List.map_append]
  rfl

theorem segmentsOf_eq_singleton {text : String} (h : IsSegment text) :
    segmentsOf text = [text] := by
  obtain ⟨hne, hslash⟩ := h
  rw [segmentsOf, List.splitOn_eq_singleton hslash]
  simp [hne]

theorem segmentsOf_joinPath (names : List String) :
    segmentsOf (joinPath names) = names.flatMap segmentsOf := by
  induction names using List.reverseRecOn with
  | nil => rfl
  | append_singleton names name ih =>
    rw [joinPath_append, segmentsOf_pathBelow, ih, List.flatMap_append, List.flatMap_singleton]

/-- A path made of segments is split into these. -/
theorem segmentsOf_joinPath_of_segments {names : List String} (h : ∀ s ∈ names, IsSegment s) :
    segmentsOf (joinPath names) = names := by
  rw [segmentsOf_joinPath]
  induction names with
  | nil => rfl
  | cons name rest ih =>
    rw [List.flatMap_cons, segmentsOf_eq_singleton (h name List.mem_cons_self),
      ih fun s hs => h s (List.mem_cons_of_mem _ hs)]
    rfl

/-- A placeholder has a first segment, which starts with the brace. -/
theorem segmentsOf_placeholder {name : String} (h : isPlaceholderName name = true) :
    ∃ first rest, segmentsOf name = first :: rest ∧ isPlaceholderName first = true := by
  obtain ⟨tail, htail⟩ : ∃ tail, name.toList = '{' :: tail := by
    cases hl : name.toList with
    | nil => simp [isPlaceholderName, hl] at h
    | cons first tail =>
      rw [isPlaceholderName, hl] at h
      exact ⟨tail, by simpa using h⟩
  obtain ⟨piece, pieces, hp⟩ := List.exists_cons_of_ne_nil (List.splitOn_ne_nil '/' tail)
  refine ⟨String.ofList ('{' :: piece), (pieces.filter (!·.isEmpty)).map String.ofList, ?_, ?_⟩
  · rw [segmentsOf, htail, List.splitOn_cons_eq_if_modifyHead, hp]
    simp
  · simp [isPlaceholderName]

/-- Each placeholder gives at least one hole. -/
theorem countP_le_countP_segments (names : List String) :
    names.countP isPlaceholderName ≤ (names.flatMap segmentsOf).countP isPlaceholderName := by
  induction names with
  | nil => exact Nat.le_refl 0
  | cons name names ih =>
    rw [List.flatMap_cons, List.countP_append]
    cases hb : isPlaceholderName name with
    | true =>
      obtain ⟨first, rest, hsegments, hfirst⟩ := segmentsOf_placeholder hb
      rw [List.countP_cons_of_pos hb, hsegments, List.countP_cons_of_pos hfirst]
      omega
    | false =>
      rw [List.countP_cons_of_neg (by simp [hb])]
      omega

end ApiAtlas.Resources
