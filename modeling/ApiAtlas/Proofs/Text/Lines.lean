import ApiAtlas.Proofs.Text.Pieces
import ApiAtlas.Text.Blank
import ApiAtlas.Text.Lines

/-!
# Lines and comments of a text

A comment line has two slashes behind its blanks, and a documentation line exactly three. A text is
annotated if it is another one with comment lines put in: what is not in comment lines is the same
in both.
-/

namespace ApiAtlas.Text

/-! ## Lines -/

/-- Whether a text ends where a line starts. -/
def AtLineStart (text : List Char) : Prop := text = [] ∨ ∃ lines, text = lines ++ ['\n']

theorem AtLineStart.splitOn_append {text : List Char} (h : AtLineStart text) :
    ∃ front, ∀ rest, (text ++ rest).splitOn '\n' = front ++ rest.splitOn '\n' := by
  rcases h with rfl | ⟨lines, rfl⟩
  · exact ⟨[], fun rest => rfl⟩
  · exact ⟨lines.splitOn '\n', fun rest => by simp [List.splitOn_append_cons_self]⟩

theorem linesOf_eq (text : List Char) : ∃ front last,
    text.splitOn '\n' = front ++ [last] ∧
      linesOf text = front.map dropReturn ++ if last.isEmpty then [] else [last] := by
  obtain ⟨front, last, hpieces⟩ : ∃ front last, text.splitOn '\n' = front ++ [last] :=
    ⟨_, _, (List.dropLast_append_getLast (List.splitOn_ne_nil '\n' text)).symm⟩
  exact ⟨front, last, hpieces, by simp [linesOf, hpieces, List.getLastD_eq_getLast?]⟩

theorem mem_of_mem_dropReturn {c : Char} {line : List Char} (h : c ∈ dropReturn line) :
    c ∈ line := by
  unfold dropReturn at h
  split at h
  · exact (List.dropLast_prefix line).subset h
  · exact h

theorem not_mem_linesOf {text line : List Char} (h : line ∈ linesOf text) : '\n' ∉ line := by
  obtain ⟨front, last, hpieces, hlines⟩ := linesOf_eq text
  have hpiece : ∀ piece ∈ front ++ [last], '\n' ∉ piece := fun piece hp =>
    not_mem_of_mem_splitOn (hpieces ▸ hp)
  rw [hlines, List.mem_append] at h
  rcases h with h | h
  · obtain ⟨piece, hp, rfl⟩ := List.mem_map.mp h
    exact fun hc => hpiece piece (List.mem_append_left _ hp) (mem_of_mem_dropReturn hc)
  · split at h
    · simp at h
    · exact List.mem_singleton.mp h ▸ hpiece last (by simp)

/-! ## Comments -/

/-- Whether the first characters of a line behind its blanks are two slashes. -/
def isCommentLine (line : List Char) : Bool :=
  "//".toList.isPrefixOf (line.dropWhile (· == ' '))

/-- Whether the first characters of a line behind its blanks are three slashes and no fourth. -/
def isDocLine (line : List Char) : Bool :=
  let line := line.dropWhile (· == ' ')
  "///".toList.isPrefixOf line && !"////".toList.isPrefixOf line

def withoutComments (text : String) : String :=
  String.ofList (['\n'].intercalate ((text.toList.splitOn '\n').filter (!isCommentLine ·)))

/-- Whether a text is another one with comment lines put in, the notes. -/
structure Annotated (notes : List (List Char)) (text bare : List Char) : Prop where
  lines : ∃ front bareFront last,
    text.splitOn '\n' = front ++ [last] ∧ bare.splitOn '\n' = bareFront ++ [last] ∧
      front.filter (!isCommentLine ·) = bareFront.filter (!isCommentLine ·) ∧
      ∀ line, line ∈ front ↔ line ∈ notes ∨ line ∈ bareFront

namespace Annotated

variable {notes more : List (List Char)} {text bare rest : List Char}

theorem refl (text : List Char) : Annotated [] text text :=
  ⟨_, _, _, (List.dropLast_append_getLast (List.splitOn_ne_nil '\n' text)).symm,
    (List.dropLast_append_getLast (List.splitOn_ne_nil '\n' text)).symm, rfl, by simp⟩

/-- The same text may stand behind both. -/
theorem append (h : Annotated notes text bare) (rest : List Char) :
    Annotated notes (text ++ rest) (bare ++ rest) := by
  obtain ⟨front, bareFront, last, htext, hbare, hcode, hmem⟩ := h
  obtain ⟨first, back, hrest⟩ := List.exists_cons_of_ne_nil (List.splitOn_ne_nil '\n' rest)
  obtain ⟨middle, tail, hback⟩ : ∃ middle tail, (last ++ first) :: back = middle ++ [tail] :=
    ⟨_, _, (List.dropLast_append_getLast (List.cons_ne_nil _ _)).symm⟩
  refine ⟨front ++ middle, bareFront ++ middle, tail, ?_, ?_, ?_, fun line => ?_⟩
  · rw [splitOn_append htext hrest, hback, List.append_assoc]
  · rw [splitOn_append hbare hrest, hback, List.append_assoc]
  · rw [List.filter_append, List.filter_append, hcode]
  · simp only [List.mem_append, hmem, or_assoc]

/-- A comment line may be put in where a line starts. -/
theorem comment (h : Annotated notes text bare) (hstart : AtLineStart text) {line : List Char}
    (hline : isCommentLine line = true) (hbreak : '\n' ∉ line) :
    Annotated (notes ++ [line]) (text ++ (line ++ ['\n'])) bare := by
  obtain ⟨front, bareFront, last, htext, hbare, hcode, hmem⟩ := h
  obtain ⟨front', hfront⟩ := hstart.splitOn_append
  have hempty : front' ++ [[]] = front ++ [last] := by
    rw [← htext, ← List.append_nil text, hfront, List.splitOn_nil]
  obtain ⟨rfl, hlast⟩ := List.append_inj' hempty rfl
  obtain rfl := List.singleton_inj.mp hlast
  refine ⟨front' ++ [line], bareFront, [], ?_, hbare, ?_, fun other => ?_⟩
  · rw [hfront, List.splitOn_append_cons_self_of_not_mem hbreak, List.splitOn_nil,
      List.append_assoc]
    rfl
  · simp [hcode, hline]
  · simp only [List.mem_append, hmem, List.mem_singleton]
    tauto

/-- The same text may stand in front of both, if a line starts behind it. -/
theorem behind (h : Annotated notes text bare) (hrest : AtLineStart rest) :
    Annotated notes (rest ++ text) (rest ++ bare) := by
  obtain ⟨front, bareFront, last, htext, hbare, hcode, hmem⟩ := h
  obtain ⟨before, hbefore⟩ := hrest.splitOn_append
  refine ⟨before ++ front, before ++ bareFront, last, ?_, ?_, ?_, fun line => ?_⟩
  · rw [hbefore, htext, List.append_assoc]
  · rw [hbefore, hbare, List.append_assoc]
  · rw [List.filter_append, List.filter_append, hcode]
  · simp only [List.mem_append, hmem]
    tauto

theorem trans (h : Annotated notes text bare) (hrest : Annotated more bare rest) :
    Annotated (notes ++ more) text rest := by
  obtain ⟨front, bareFront, last, htext, hbare, hcode, hmem⟩ := h
  obtain ⟨bareFront', restFront, last', hbare', hrest', hcode', hmem'⟩ := hrest
  obtain ⟨rfl, hlast⟩ := List.append_inj' (hbare.symm.trans hbare') rfl
  obtain rfl := List.singleton_inj.mp hlast
  refine ⟨front, restFront, last, htext, hrest', hcode.trans hcode', fun line => ?_⟩
  simp only [List.mem_append, hmem, hmem', or_assoc]

/-- The lines of an annotated text are those of the text without notes and the notes. -/
theorem mem_splitOn (h : Annotated notes text bare) (line : List Char) :
    line ∈ text.splitOn '\n' ↔ line ∈ notes ∨ line ∈ bare.splitOn '\n' := by
  obtain ⟨front, bareFront, last, htext, hbare, hcode, hmem⟩ := h
  simp only [htext, hbare, List.mem_append, hmem, or_assoc]

/-- Outside of comment lines an annotated text is the text without notes. -/
theorem withoutComments_eq {text bare : String} (h : Annotated notes text.toList bare.toList) :
    withoutComments text = withoutComments bare := by
  obtain ⟨front, bareFront, last, htext, hbare, hcode, hmem⟩ := h
  rw [withoutComments, withoutComments, htext, hbare, List.filter_append, List.filter_append, hcode]

end Annotated

end ApiAtlas.Text
