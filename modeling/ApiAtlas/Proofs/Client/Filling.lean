import ApiAtlas.Client.Filling
import ApiAtlas.Proofs.Resources.Segments
import ApiAtlas.Proofs.Text.Pieces

/-!
# Texts with holes

A text has the pieces that are written as it is, and no others. Texts that are cut at the slashes
have pieces that are cut at the slashes, and so has what they are filled to.
-/

namespace ApiAtlas.Client

open ListLaws Resources Text

def Braceless (cs : List Char) : Prop := ∀ c ∈ cs, c ≠ '{' ∧ c ≠ '}'

instance (cs : List Char) : Decidable (Braceless cs) :=
  decidable_of_iff (cs.all fun c => decide (c ≠ '{' ∧ c ≠ '}')) (by simp [Braceless])

namespace Piece

def text : Piece → List Char
  | .char c => if c = '{' ∨ c = '}' then [c, c] else [c]
  | .hole => ['{', '}']

def filled (value : List Char) : Piece → List Char
  | .char c => [c]
  | .hole => value

theorem text_char_of_braceless {cs : List Char} (h : Braceless cs) :
    (cs.map Piece.char).flatMap text = cs := by
  induction cs with
  | nil => rfl
  | cons c cs ih =>
    obtain ⟨hc, hcs⟩ := List.forall_mem_cons.mp h
    rw [List.map_cons, List.flatMap_cons, ih hcs, text, if_neg (by tauto)]
    rfl

theorem pieces?_cons {c : Char} (hopen : c ≠ '{') (hclose : c ≠ '}') (cs : List Char) :
    pieces? (c :: cs) = (pieces? cs).map (.char c :: ·) := by
  rw [pieces?.eq_def]
  simp only [if_neg hopen, if_neg hclose]

theorem pieces?_flatMap_text (pieces : List Piece) :
    pieces? (pieces.flatMap text) = some pieces := by
  induction pieces with
  | nil => rfl
  | cons p pieces ih =>
    cases p with
    | hole => simp [text, pieces?, ih]
    | char c =>
      by_cases hopen : c = '{'
      · simp [hopen, text, pieces?, ih]
      · by_cases hclose : c = '}'
        · simp [hclose, text, pieces?, ih]
        · rw [List.flatMap_cons, text, if_neg (by tauto), List.singleton_append,
            pieces?_cons hopen hclose, ih, Option.map_some]

theorem flatMap_text_of_pieces? {cs : List Char} {pieces : List Piece}
    (h : pieces? cs = some pieces) : pieces.flatMap text = cs := by
  fun_induction pieces? cs generalizing pieces with
  | case1 =>
    obtain rfl := Option.some.inj h
    rfl
  | case2 cs ih =>
    obtain ⟨rest, hrest, rfl⟩ := Option.map_eq_some_iff.mp h
    simp [text, ih hrest]
  | case3 cs ih =>
    obtain ⟨rest, hrest, rfl⟩ := Option.map_eq_some_iff.mp h
    simp [text, ih hrest]
  | case4 => simp at h
  | case5 cs _ ih =>
    obtain ⟨rest, hrest, rfl⟩ := Option.map_eq_some_iff.mp h
    simp [text, ih hrest]
  | case6 => simp at h
  | case7 c cs hopen hclose ih =>
    obtain ⟨rest, hrest, rfl⟩ := Option.map_eq_some_iff.mp h
    simp [text, hopen, hclose, ih hrest]

end Piece

/-! ## Filling -/

theorem fillHoles_chars (cs : List Char) (pieces : List Piece) (values : List (List Char)) :
    fillHoles (cs.map .char ++ pieces) values = (fillHoles pieces values).map (cs ++ ·) := by
  induction cs with
  | nil => simp
  | cons c cs ih => simp [fillHoles, ih, Function.comp_def]

theorem count_hole_of_fillHoles {pieces : List Piece} {values : List (List Char)}
    {out : List Char} (h : fillHoles pieces values = some out) :
    pieces.count .hole = values.length := by
  fun_induction fillHoles pieces values generalizing out with
  | case1 => rfl
  | case2 c pieces values ih =>
    obtain ⟨rest, hrest, -⟩ := Option.map_eq_some_iff.mp h
    rw [List.count_cons_of_ne (by simp), ih hrest]
  | case3 pieces value values ih =>
    obtain ⟨rest, hrest, -⟩ := Option.map_eq_some_iff.mp h
    rw [List.count_cons_self, ih hrest, List.length_cons]
  | case4 => simp at h

theorem eq_flatMap_filled {pieces : List Piece} {value : List Char} {count : Nat}
    {out : List Char} (h : fillHoles pieces (List.replicate count value) = some out) :
    out = pieces.flatMap (Piece.filled value) := by
  induction pieces generalizing count out with
  | nil =>
    cases count with
    | zero => exact (Option.some.inj h).symm
    | succ count => simp [List.replicate_succ, fillHoles] at h
  | cons p pieces ih =>
    cases p with
    | char c =>
      obtain ⟨rest, hrest, rfl⟩ := Option.map_eq_some_iff.mp h
      rw [ih hrest]
      rfl
    | hole =>
      cases count with
      | zero => simp [fillHoles] at h
      | succ count =>
        obtain ⟨rest, hrest, rfl⟩ := Option.map_eq_some_iff.mp h
        rw [ih hrest]
        rfl

namespace PathTemplate

variable {t : PathTemplate} {values : List String} {path : String}

theorem filled?_of_isEmpty (h : t.keys.isEmpty = true) : t.filled? values = some t.text := if_pos h

theorem filled?_eq_some (h : t.keys.isEmpty = false) :
    t.filled? values = some path ↔ ∃ pieces, pieces? t.text.toList = some pieces ∧
      fillHoles pieces (values.map String.toList) = some path.toList := by
  rw [filled?, if_neg (by simp [h]), formatted?]
  simp only [Option.bind_eq_bind, Option.bind_eq_some_iff, Option.map_eq_some_iff]
  refine exists_congr fun pieces => and_congr_right fun _ => ?_
  constructor
  · rintro ⟨out, hout, rfl⟩
    rwa [String.toList_ofList]
  · intro hout
    exact ⟨path.toList, hout, String.ofList_toList⟩

end PathTemplate

/-! ## Cutting at the slashes -/

theorem splitOn_flatMap_text (pieces : List Piece) :
    (pieces.flatMap Piece.text).splitOn '/' =
      (pieces.splitOn (.char '/')).map fun part => part.flatMap Piece.text := by
  refine splitOn_flatMap (f := Piece.text) rfl (fun p hp => ?_) pieces
  cases p with
  | hole => decide
  | char c =>
    rw [Piece.text]
    split <;> simp <;> grind

theorem splitOn_flatMap_filled {value : List Char} (hvalue : '/' ∉ value) (pieces : List Piece) :
    (pieces.flatMap (Piece.filled value)).splitOn '/' =
      (pieces.splitOn (.char '/')).map fun part => part.flatMap (Piece.filled value) := by
  refine splitOn_flatMap (f := Piece.filled value) rfl (fun p hp => ?_) pieces
  cases p with
  | hole => exact hvalue
  | char c => simpa [Piece.filled] using fun hc => hp (congrArg Piece.char hc.symm)

/-- Pieces that are filled to what they are written as have neither holes nor braces. -/
theorem braceless_of_filled {pieces : List Piece} {value : List Char} (hvalue : value.length = 1)
    (h : pieces.flatMap Piece.text = pieces.flatMap (Piece.filled value)) :
    Braceless (pieces.flatMap Piece.text) := by
  have hshort : ∀ p ∈ pieces, (Piece.filled value p).length ≤ (Piece.text p).length := by
    intro p _
    cases p with
    | hole => rw [Piece.filled, hvalue]; decide
    | char c => rw [Piece.filled, Piece.text]; split <;> simp
  have hlength := length_eq_of_flatMap hshort (congrArg List.length h)
  intro c hc
  obtain ⟨p, hp, hcp⟩ := List.mem_flatMap.mp hc
  have hone := hlength p hp
  cases p with
  | hole => simp [Piece.filled, Piece.text, hvalue] at hone
  | char d =>
    rw [Piece.filled, Piece.text] at hone
    rw [Piece.text] at hcp
    split at hone
    · simp at hone
    · simp_all

end ApiAtlas.Client
