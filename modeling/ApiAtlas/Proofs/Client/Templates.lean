import ApiAtlas.Proofs.Client.Filling
import ApiAtlas.Proofs.Resources.Keys

/-!
# Templates of names

The template of a path is made of the segments of its names. It is filled to the path with values in
place of the placeholders exactly when each placeholder has one segment, each literal has no empty
part, and what is pasted for a literal is read as it is written.
-/

namespace ApiAtlas.Client

open ListLaws Resources

/-! ## Templates of names -/

/-- A segment as it stands in a template. -/
def pasted (segment : String) : String :=
  if isPlaceholderName segment then "\x7b\x7d" else segment

theorem pasted_placeholder {s : String} (h : isPlaceholderName s = true) :
    pasted s = "\x7b\x7d" := if_pos h

theorem pasted_literal {s : String} (h : isPlaceholderName s = false) : pasted s = s :=
  if_neg (by simp [h])

theorem splitOn_pasted {s : String} (h : IsSegment s) :
    (pasted s).toList.splitOn '/' = [(pasted s).toList] := by
  apply List.splitOn_eq_singleton
  cases hb : isPlaceholderName s with
  | true =>
    rw [pasted_placeholder hb]
    decide
  | false =>
    rw [pasted_literal hb]
    exact h.2

def templateOf (names keys : List String) : PathTemplate :=
  ⟨joinPath ((names.flatMap segmentsOf).map pasted), keys⟩

theorem splitOn_templateOf (names keys : List String) :
    (templateOf names keys).text.toList.splitOn '/' =
      [] :: (names.flatMap segmentsOf).map fun s => (pasted s).toList := by
  rw [templateOf, splitOn_joinPath, List.flatMap_map]
  congr 1
  rw [List.map_eq_flatMap]
  refine List.flatMap_congr fun s hs => splitOn_pasted ?_
  obtain ⟨name, -, hname⟩ := List.mem_flatMap.mp hs
  exact isSegment_of_mem_segmentsOf hname

/-- Whether the path of names is what its template is filled to: a placeholder must give one
segment, a literal no empty part, and what is pasted must be read as it is. -/
structure NamesFit (names : List String) : Prop where
  placeholder : ∀ name ∈ names, isPlaceholderName name = true → (segmentsOf name).length = 1
  literal : ∀ name ∈ names, isPlaceholderName name = false → [] ∉ name.toList.splitOn '/'
  pasted_eq : ∀ name ∈ names, isPlaceholderName name = false → ∀ s ∈ segmentsOf name,
    if names.any isPlaceholderName then Braceless s.toList else pasted s = s

instance (names : List String) : Decidable (NamesFit names) :=
  decidable_of_iff
    ((∀ name ∈ names, isPlaceholderName name = true → (segmentsOf name).length = 1) ∧
      (∀ name ∈ names, isPlaceholderName name = false → [] ∉ name.toList.splitOn '/') ∧
      ∀ name ∈ names, isPlaceholderName name = false → ∀ s ∈ segmentsOf name,
        if names.any isPlaceholderName then Braceless s.toList else pasted s = s)
    ⟨fun ⟨hplaceholder, hliteral, hpasted⟩ => ⟨hplaceholder, hliteral, hpasted⟩,
      fun h => ⟨h.placeholder, h.literal, h.pasted_eq⟩⟩

/-- The parts that a name has in a path; a placeholder has a value. -/
def partsOf (value : List Char) (name : String) : List (List Char) :=
  if isPlaceholderName name then [value] else name.toList.splitOn '/'

theorem partsOf_placeholder {name : String} (h : isPlaceholderName name = true)
    (value : List Char) : partsOf value name = [value] := if_pos h

theorem partsOf_literal {name : String} (h : isPlaceholderName name = false)
    (value : List Char) : partsOf value name = name.toList.splitOn '/' := if_neg (by simp [h])

theorem fill_literals {names : List String} (h : ∀ name ∈ names, isPlaceholderName name = false)
    (values : List String) : fill names values = names := by
  induction names with
  | nil => rfl
  | cons name names ih =>
    obtain ⟨hname, hnames⟩ := List.forall_mem_cons.mp h
    rw [fill, if_neg (by simp [hname]), ih hnames]

theorem splitOn_joinPath_fill {value : String} (hvalue : '/' ∉ value.toList)
    (names : List String) :
    (joinPath (fill names (List.replicate (names.countP isPlaceholderName) value))).toList.splitOn
      '/' = [] :: names.flatMap (partsOf value.toList) := by
  rw [splitOn_joinPath]
  congr 1
  induction names with
  | nil => rfl
  | cons name names ih =>
    cases hb : isPlaceholderName name with
    | true =>
      rw [List.countP_cons_of_pos hb, List.replicate_succ, fill, if_pos hb, List.headD_cons,
        List.tail_cons, List.flatMap_cons, ih, List.flatMap_cons, partsOf_placeholder hb,
        List.splitOn_eq_singleton hvalue]
    | false =>
      rw [List.countP_cons_of_neg (by simp [hb]), fill, if_neg (by simp [hb]), List.flatMap_cons,
        ih, List.flatMap_cons, partsOf_literal hb]

/-! ## Names of templates that are filled to the path -/

theorem map_segmentsOf {name : String} (h : [] ∉ name.toList.splitOn '/') :
    (segmentsOf name).map String.toList = name.toList.splitOn '/' := by
  rw [segmentsOf, List.map_map, List.filter_eq_self.mpr]
  · simp [Function.comp_def]
  · intro part hpart
    cases part with
    | nil => exact absurd hpart h
    | cons _ _ => rfl

theorem flatMap_splitOn (cs : List Char) :
    (cs.splitOn '/').flatMap ('/' :: ·) = '/' :: cs := by
  induction cs with
  | nil => rfl
  | cons c cs ih =>
    rw [List.splitOn_cons_eq_if_modifyHead]
    by_cases hc : c = '/'
    · rw [if_pos (by simpa using hc), List.flatMap_cons, ih, hc]
      rfl
    · rw [if_neg (by simpa using hc)]
      obtain ⟨first, rest, hparts⟩ := List.exists_cons_of_ne_nil (List.splitOn_ne_nil '/' cs)
      rw [hparts, List.flatMap_cons, List.cons_append, List.cons.injEq] at ih
      rw [hparts, List.modifyHead_cons, List.flatMap_cons, ← ih.2]
      rfl

theorem flatMap_segmentsOf {name : String} (h : [] ∉ name.toList.splitOn '/') :
    ((segmentsOf name).flatMap fun s => '/' :: s.toList) = '/' :: name.toList := by
  rw [← flatMap_splitOn, ← map_segmentsOf h, List.flatMap_map]

/-- If the segments of names match the parts of the names one by one, and only parts that are not
empty match segments, then so do those of each name. -/
theorem forall₂_partsOf {R : String → List Char → Prop} {names : List String} {value : List Char}
    (hR : ∀ s part, IsSegment s → R s part → part ≠ [])
    (h : List.Forall₂ R (names.flatMap segmentsOf) (names.flatMap (partsOf value))) :
    ∀ name ∈ names, [] ∉ partsOf value name ∧
      List.Forall₂ R (segmentsOf name) (partsOf value name) := by
  have hne : ∀ name ∈ names, [] ∉ partsOf value name := by
    intro name hname hmem
    obtain ⟨s, hs, hpart⟩ :=
      exists_of_mem_forall₂ h.flip [] (List.mem_flatMap.mpr ⟨name, hname, hmem⟩)
    obtain ⟨_, -, hs⟩ := List.mem_flatMap.mp hs
    exact hR s [] (isSegment_of_mem_segmentsOf hs) hpart rfl
  have hle : ∀ name ∈ names, (partsOf value name).length ≤ (segmentsOf name).length := by
    intro name hname
    cases hb : isPlaceholderName name with
    | true =>
      obtain ⟨first, rest, hsegments, -⟩ := segmentsOf_placeholder hb
      simp [partsOf_placeholder hb, hsegments]
    | false =>
      have hparts := hne name hname
      rw [partsOf_literal hb] at hparts
      have hlength := congrArg List.length (map_segmentsOf hparts)
      rw [List.length_map] at hlength
      rw [partsOf_literal hb]
      omega
  have hlength := length_eq_of_flatMap hle h.length_eq
  intro name hname
  exact ⟨hne name hname, forall₂_flatMap (fun x hx => (hlength x hx).symm) h name hname⟩

theorem namesFit_of_matches {R : String → List Char → Prop} {names : List String}
    {value : List Char} (hR : ∀ s part, IsSegment s → R s part → part ≠ [])
    (hself : ∀ s, IsSegment s → R s s.toList →
      if names.any isPlaceholderName then Braceless s.toList else pasted s = s)
    (h : List.Forall₂ R (names.flatMap segmentsOf) (names.flatMap (partsOf value))) :
    NamesFit names := by
  have hnames := forall₂_partsOf hR h
  constructor
  · intro name hname hb
    rw [(hnames name hname).2.length_eq, partsOf_placeholder hb, List.length_singleton]
  · intro name hname hlit
    rw [← partsOf_literal hlit value]
    exact (hnames name hname).1
  · intro name hname hlit s hs
    obtain ⟨hparts, hmatch⟩ := hnames name hname
    rw [partsOf_literal hlit] at hparts hmatch
    rw [← map_segmentsOf hparts, List.forall₂_map_right_iff, List.forall₂_same] at hmatch
    exact hself s (isSegment_of_mem_segmentsOf hs) (hmatch s hs)

/-- Whether some pieces are written as a segment is pasted, and are filled to a part. -/
def FilledTo (segment : String) (part : List Char) : Prop :=
  ∃ pieces : List Piece, pieces.flatMap Piece.text = (pasted segment).toList ∧
    pieces.flatMap (Piece.filled ['x']) = part

theorem pasted_ne_nil {s : String} (h : IsSegment s) : (pasted s).toList ≠ [] := by
  cases hb : isPlaceholderName s with
  | true => simp [pasted_placeholder hb]
  | false => simpa [pasted_literal hb] using h.1

theorem FilledTo.ne_nil {s : String} {part : List Char} (hs : IsSegment s) (h : FilledTo s part) :
    part ≠ [] := by
  obtain ⟨pieces, htext, rfl⟩ := h
  cases pieces with
  | nil => exact absurd htext.symm (pasted_ne_nil hs)
  | cons p pieces => cases p <;> simp [Piece.filled]

theorem FilledTo.braceless {s : String} (h : FilledTo s s.toList) : Braceless s.toList := by
  obtain ⟨pieces, htext, hfilled⟩ := h
  cases hb : isPlaceholderName s with
  | false =>
    rw [pasted_literal hb] at htext
    rw [← htext]
    exact braceless_of_filled (by rfl) (htext.trans hfilled.symm)
  | true =>
    rw [pasted_placeholder hb] at htext
    have hpieces : some pieces = some [Piece.hole] := by
      rw [← Piece.pieces?_flatMap_text pieces, htext]
      rfl
    obtain rfl := Option.some.inj hpieces
    rw [isPlaceholderName, ← hfilled] at hb
    simp [Piece.filled] at hb

theorem filledTo_of_pieces? {names keys : List String} {pieces : List Piece}
    (htext : pieces? (templateOf names keys).text.toList = some pieces)
    (hfilled : (pieces.flatMap (Piece.filled ['x'])).splitOn '/' =
      [] :: names.flatMap (partsOf ['x'])) :
    List.Forall₂ FilledTo (names.flatMap segmentsOf) (names.flatMap (partsOf ['x'])) := by
  have hsegments := splitOn_templateOf names keys
  rw [← Piece.flatMap_text_of_pieces? htext, splitOn_flatMap_text] at hsegments
  rw [splitOn_flatMap_filled (by decide)] at hfilled
  obtain ⟨first, parts, hparts⟩ :=
    List.exists_cons_of_ne_nil (List.splitOn_ne_nil (Piece.char '/') pieces)
  rw [hparts, List.map_cons] at hsegments hfilled
  rw [← (List.cons.inj hfilled).2, List.forall₂_map_right_iff]
  refine (forall₂_of_map_eq (List.cons.inj hsegments).2).flip.imp fun s part hpart => ?_
  exact ⟨part, hpart, rfl⟩

theorem any_placeholder_eq {names keys : List String}
    (h : keys.length = names.countP isPlaceholderName) :
    names.any isPlaceholderName = !keys.isEmpty := by
  cases keys with
  | nil =>
    have hnone := List.countP_eq_zero.mp h.symm
    simpa using hnone
  | cons key keys =>
    have hpos : 0 < names.countP isPlaceholderName := by
      rw [← h]
      exact Nat.succ_pos _
    simpa using List.countP_pos_iff.mp hpos

/-- A template that gives the path for values of one plain letter has names that fit. Both are cut
at the slashes, and what stands between two of them is compared. -/
theorem namesFit_of_filled? {names keys : List String}
    (hkeys : keys.length = names.countP isPlaceholderName)
    (h : (templateOf names keys).filled? (List.replicate keys.length "x") =
      some (joinPath (fill names (List.replicate keys.length "x")))) :
    NamesFit names := by
  have hany := any_placeholder_eq hkeys
  have hpath := splitOn_joinPath_fill (show '/' ∉ "x".toList by decide) names
  rw [← hkeys] at hpath
  cases hempty : keys.isEmpty with
  | true =>
    rw [PathTemplate.filled?_of_isEmpty hempty] at h
    rw [← Option.some.inj h, splitOn_templateOf] at hpath
    have hmatch := forall₂_of_map_eq
      (f := fun s => (pasted s).toList) (g := id) (by simpa using (List.cons.inj hpath).2)
    refine namesFit_of_matches ?_ ?_ hmatch
    · rintro s part hs rfl
      exact pasted_ne_nil hs
    · intro s hs hself
      rw [hany, if_neg (by simp [hempty])]
      exact String.toList_inj.mp hself
  | false =>
    obtain ⟨pieces, hpieces, hfill⟩ := (PathTemplate.filled?_eq_some hempty).mp h
    rw [List.map_replicate] at hfill
    rw [eq_flatMap_filled hfill] at hpath
    have hmatch := filledTo_of_pieces? hpieces hpath
    refine namesFit_of_matches (fun s part => FilledTo.ne_nil) (fun s _ hself => ?_) hmatch
    rw [hany, if_pos (by simp [hempty])]
    exact hself.braceless

/-! ## Templates of names that fit -/

/-- The pieces of a name behind its slash. -/
def piecesOf (name : String) : List Piece :=
  .char '/' :: if isPlaceholderName name then [.hole] else name.toList.map .char

theorem fillHoles_piecesOf {names values : List String}
    (hvalues : values.length = names.countP isPlaceholderName) :
    fillHoles (names.flatMap piecesOf) (values.map String.toList) =
      some (joinPath (fill names values)).toList := by
  rw [toList_joinPath]
  induction names generalizing values with
  | nil =>
    rw [List.length_eq_zero_iff.mp hvalues]
    rfl
  | cons name names ih =>
    rw [List.flatMap_cons, piecesOf]
    cases hb : isPlaceholderName name with
    | true =>
      rw [List.countP_cons_of_pos hb] at hvalues
      obtain ⟨value, values, rfl⟩ := List.exists_cons_of_length_eq_add_one hvalues
      rw [if_pos rfl, fill, if_pos hb]
      simp [fillHoles, ih (Nat.succ.inj hvalues)]
    | false =>
      rw [List.countP_cons_of_neg (by simp [hb])] at hvalues
      rw [if_neg (by simp), fill, if_neg (by simp [hb]), List.cons_append, fillHoles,
        fillHoles_chars, ih hvalues]
      rfl

namespace NamesFit

variable {names keys values : List String} {name : String}

theorem pasted_self (h : NamesFit names) (hname : name ∈ names)
    (hlit : isPlaceholderName name = false) : ∀ s ∈ segmentsOf name, pasted s = s := by
  intro s hs
  have hpasted := h.pasted_eq name hname hlit s hs
  split at hpasted
  · refine pasted_literal (Bool.eq_false_iff.mpr fun hb => ?_)
    rw [isPlaceholderName] at hb
    obtain ⟨cs, hcs⟩ := List.head?_eq_some_iff.mp (eq_of_beq hb)
    exact (hpasted '{' (hcs ▸ List.mem_cons_self)).1 rfl
  · exact hpasted

/-- How a name stands in a template: what is pasted for its segments. -/
theorem flatMap_pasted (h : NamesFit names) (hname : name ∈ names) :
    (segmentsOf name).flatMap (fun s => '/' :: (pasted s).toList) =
      '/' :: if isPlaceholderName name then "\x7b\x7d".toList else name.toList := by
  cases hb : isPlaceholderName name with
  | true =>
    obtain ⟨first, rest, hsegments, hfirst⟩ := segmentsOf_placeholder hb
    have hone := h.placeholder name hname hb
    rw [hsegments, List.length_cons, Nat.add_eq_right, List.length_eq_zero_iff] at hone
    rw [hsegments, hone, List.flatMap_singleton, pasted_placeholder hfirst]
    rfl
  | false =>
    rw [if_neg (by simp), ← flatMap_segmentsOf (h.literal name hname hb)]
    refine List.flatMap_congr fun s hs => ?_
    rw [h.pasted_self hname hb s hs]

theorem braceless (h : NamesFit names) (hany : names.any isPlaceholderName = true)
    (hname : name ∈ names) (hlit : isPlaceholderName name = false) : Braceless name.toList := by
  intro c hc
  have hmem := List.mem_cons_of_mem '/' hc
  rw [← flatMap_segmentsOf (h.literal name hname hlit)] at hmem
  obtain ⟨s, hs, hcs⟩ := List.mem_flatMap.mp hmem
  have hsegment := h.pasted_eq name hname hlit s hs
  rw [if_pos hany] at hsegment
  rcases List.mem_cons.mp hcs with rfl | hcs
  · decide
  · exact hsegment c hcs

theorem flatMap_text_piecesOf (h : NamesFit names) (hany : names.any isPlaceholderName = true) :
    (names.flatMap piecesOf).flatMap Piece.text = (templateOf names keys).text.toList := by
  rw [templateOf, toList_joinPath, List.flatMap_map, List.flatMap_assoc, List.flatMap_assoc]
  refine List.flatMap_congr fun name hname => ?_
  rw [h.flatMap_pasted hname, piecesOf, List.flatMap_cons]
  cases hb : isPlaceholderName name with
  | true => rfl
  | false =>
    rw [if_neg (by simp), if_neg (by simp),
      Piece.text_char_of_braceless (h.braceless hany hname hb)]
    rfl

/-- A template of names that fit is filled to the path of the names with the values in place of the
placeholders. -/
theorem filled?_eq (h : NamesFit names) (hkeys : keys.length = names.countP isPlaceholderName)
    (hvalues : values.length = keys.length) :
    (templateOf names keys).filled? values = some (joinPath (fill names values)) := by
  have hany := any_placeholder_eq hkeys
  cases hempty : keys.isEmpty with
  | true =>
    have hlit : ∀ name ∈ names, isPlaceholderName name = false := by
      simpa [hempty] using hany
    rw [PathTemplate.filled?_of_isEmpty hempty, fill_literals hlit, templateOf, Option.some_inj,
      ← String.toList_inj, toList_joinPath, toList_joinPath, List.flatMap_map, List.flatMap_assoc]
    refine List.flatMap_congr fun name hname => ?_
    rw [h.flatMap_pasted hname, if_neg (by simp [hlit name hname])]
  | false =>
    refine (PathTemplate.filled?_eq_some hempty).mpr ⟨names.flatMap piecesOf, ?_, ?_⟩
    · rw [← h.flatMap_text_piecesOf (by simp [hany, hempty]), Piece.pieces?_flatMap_text]
    · exact fillHoles_piecesOf (hvalues.trans hkeys)

end NamesFit

end ApiAtlas.Client
