import ApiAtlas.Layout.Doc

/-!
# Spellings

The spelling of a document is what stands in it however it is laid out: its texts, and the ends of
lines that are always broken. A layout adds no more to it than blanks, further ends of lines and the
commas that are written where a line is broken.
-/

namespace ApiAtlas.Layout

mutual

def Doc.spelling : Doc → String
  | .text s => s
  | .gap g => if g.blank < tooWide then "" else "\n"
  | .box _ _ _ content => spellingOf content

def spellingOf : List Doc → String
  | [] => ""
  | d :: rest => d.spelling ++ spellingOf rest

end

@[simp] theorem spellingOf_nil : spellingOf [] = "" := rfl

@[simp] theorem spellingOf_text (s : String) (rest : List Doc) :
    spellingOf (.text s :: rest) = s ++ spellingOf rest := rfl

@[simp] theorem spellingOf_gap (g : Gap) (rest : List Doc) :
    spellingOf (.gap g :: rest) = (if g.blank < tooWide then "" else "\n") ++ spellingOf rest := rfl

@[simp] theorem spellingOf_box (style : Style) (indent : Int) (limit : Option Nat)
    (content rest : List Doc) :
    spellingOf (.box style indent limit content :: rest) = spellingOf content ++ spellingOf rest :=
  rfl

@[simp] theorem spellingOf_append (front back : List Doc) :
    spellingOf (front ++ back) = spellingOf front ++ spellingOf back := by
  induction front with
  | nil => simp
  | cons d rest ih => rw [List.cons_append, spellingOf, ih, spellingOf, String.append_assoc]

@[simp] theorem spellingOf_flatten (parts : List (List Doc)) :
    spellingOf parts.flatten = String.join (parts.map spellingOf) := by
  induction parts with
  | nil => rfl
  | cons part rest ih =>
    rw [List.flatten_cons, spellingOf_append, ih, List.map_cons, String.join_cons]

theorem spellingOf_intercalate (separator : List Doc) (items : List (List Doc)) :
    spellingOf (separator.intercalate items) =
      (spellingOf separator).intercalate (items.map spellingOf) := by
  induction items with
  | nil => rfl
  | cons item rest ih =>
    cases rest with
    | nil => simp
    | cons next rest =>
      rw [List.intercalate_cons_cons, spellingOf_append, spellingOf_append, ih]
      exact String.intercalate_cons_cons.symm

/-! ## What a layout adds -/

/-- What a layout may add: blanks, ends of lines and commas. -/
def isFiller (c : Char) : Bool := c == ' ' || c == '\n' || c == ','

/-- The characters of a text that a layout does not add. -/
def essence (s : String) : List Char := s.toList.filter (!isFiller ·)

@[simp] theorem essence_append (s t : String) : essence (s ++ t) = essence s ++ essence t := by
  simp [essence]

mutual

/-- Whether nothing but what a layout may add is written at the gaps of a document. -/
def Doc.IsBare : Doc → Prop
  | .text _ => True
  | .gap g => essence g.atBreak = []
  | .box _ _ _ content => AllBare content

def AllBare : List Doc → Prop
  | [] => True
  | d :: rest => d.IsBare ∧ AllBare rest

end

@[simp] theorem essence_empty : essence "" = [] := rfl

@[simp] theorem essence_comma : essence "," = [] := by decide

@[simp] theorem allBare_nil : AllBare [] := trivial

@[simp] theorem allBare_text {s : String} {rest : List Doc} :
    AllBare (.text s :: rest) ↔ AllBare rest := and_iff_right trivial

@[simp] theorem allBare_gap {g : Gap} {rest : List Doc} :
    AllBare (.gap g :: rest) ↔ essence g.atBreak = [] ∧ AllBare rest := Iff.rfl

@[simp] theorem allBare_box {style : Style} {indent : Int} {limit : Option Nat}
    {content rest : List Doc} :
    AllBare (.box style indent limit content :: rest) ↔ AllBare content ∧ AllBare rest := Iff.rfl

@[simp] theorem allBare_append {front back : List Doc} :
    AllBare (front ++ back) ↔ AllBare front ∧ AllBare back := by
  induction front with
  | nil => simp
  | cons d rest ih => simp only [List.cons_append, AllBare, ih, and_assoc]

@[simp] theorem allBare_flatten {parts : List (List Doc)} :
    AllBare parts.flatten ↔ ∀ part ∈ parts, AllBare part := by
  induction parts with
  | nil => simp
  | cons part rest ih => rw [List.flatten_cons, allBare_append, ih, List.forall_mem_cons]

@[simp] theorem allBare_flatMap {α : Type} {f : α → List Doc} {list : List α} :
    AllBare (list.flatMap f) ↔ ∀ a ∈ list, AllBare (f a) := by
  rw [List.flatMap_def, allBare_flatten, List.forall_mem_map]

theorem allBare_intercalate {separator : List Doc} (h : AllBare separator)
    {items : List (List Doc)} :
    AllBare (separator.intercalate items) ↔ ∀ item ∈ items, AllBare item := by
  induction items with
  | nil => simp
  | cons item rest ih =>
    cases rest with
    | nil => simp
    | cons next rest =>
      rw [List.intercalate_cons_cons, allBare_append, allBare_append, and_iff_left h, ih]
      exact List.forall_mem_cons.symm

theorem essence_write (page : Page) (s : String) :
    essence (page.write s).output = essence page.output ++ essence s := by
  have hblanks : essence (String.ofList (List.replicate page.pending.toNat ' ')) = [] := by
    rw [essence, String.toList_ofList, List.filter_replicate_of_neg (by decide)]
  simp only [Page.write, essence_append, hblanks, List.append_nil]

theorem essence_breakLine (page : Page) {g : Gap} (indent : Int) (hg : essence g.atBreak = []) :
    essence (page.breakLine g indent).output = essence page.output := by
  have hline : essence "\n" = [] := by decide
  unfold Page.breakLine
  split
  · simp only [essence_append, hline, List.append_nil]
  · simp only [essence_append, hline, essence_write, hg, List.append_nil]

theorem essence_spelling_gap (g : Gap) : essence (Doc.gap g).spelling = [] := by
  rw [Doc.spelling]
  split <;> decide

mutual

theorem Doc.essence_layout (frame : Frame) (following : Nat) (page : Page) :
    ∀ d : Doc, d.IsBare →
      essence (d.layout frame following page).output = essence page.output ++ essence d.spelling
  | .text s, _ => by
    rw [Doc.layout, essence_write]
    rfl
  | .gap g, hd => by
    rw [essence_spelling_gap, List.append_nil, Doc.layout]
    split
    · rfl
    · exact essence_breakLine page frame.indent hd
  | .box style indent limit content, hd => by
    rw [Doc.layout, Doc.spelling]
    exact essence_layoutAll _ following page content hd

theorem essence_layoutAll (frame : Frame) (following : Nat) (page : Page) :
    ∀ docs : List Doc, AllBare docs →
      essence (layoutAll frame following page docs).output =
        essence page.output ++ essence (spellingOf docs)
  | [], _ => by
    rw [layoutAll, spellingOf_nil]
    exact (List.append_nil _).symm
  | d :: rest, ⟨hd, hrest⟩ => by
    rw [layoutAll, essence_layoutAll frame following _ rest hrest, d.essence_layout frame _ page hd,
      spellingOf, essence_append, List.append_assoc]

end

/-- What is rendered is the spelling, apart from what a layout adds. -/
theorem essence_render {docs : List Doc} (h : AllBare docs) :
    essence (render docs) = essence (spellingOf docs) :=
  essence_layoutAll _ 0 {} docs h

end ApiAtlas.Layout
