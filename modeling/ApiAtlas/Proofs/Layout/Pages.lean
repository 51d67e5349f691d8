import ApiAtlas.Layout.Doc

/-!
# Pages

A document is laid out by writing texts, going on with the line and ending it. What these three keep
of two pages is kept by the layout of a document on both. In a box whose gaps are all broken a gap
ends the line whatever stands behind it, so that a block between two line ends can be looked at on
its own.
-/

namespace ApiAtlas.Layout

/-! ## What layout keeps -/

mutual

def Doc.texts : Doc → List String
  | .text s => [s]
  | .gap g => [g.atBreak]
  | .box _ _ _ content => textsOf content

def textsOf : List Doc → List String
  | [] => []
  | d :: rest => d.texts ++ textsOf rest

end

@[simp] theorem textsOf_append (front back : List Doc) :
    textsOf (front ++ back) = textsOf front ++ textsOf back := by
  induction front with
  | nil => rfl
  | cons d rest ih => simp [textsOf, ih]

/-- Whether pages in relation have the same space left and stay in relation when the same is done
to both, texts of some kind being written. -/
structure Keeps (T : String → Prop) (R : Page → Page → Prop) : Prop where
  space : ∀ {p q}, R p q → p.space = q.space
  write : ∀ {s p q}, T s → R p q → R (p.write s) (q.write s)
  skip : ∀ {blank p q}, R p q → R (p.skip blank) (q.skip blank)
  endLine : ∀ {g indent p q}, T g.atBreak → R p q → R (p.breakLine g indent) (q.breakLine g indent)

mutual

theorem Doc.layout_keeps {T : String → Prop} {R : Page → Page → Prop} (h : Keeps T R)
    (frame : Frame) (following : Nat) {p q : Page} (hpq : R p q) :
    ∀ d : Doc, (∀ s ∈ d.texts, T s) → R (d.layout frame following p) (d.layout frame following q)
  | .text s, hd => by
    simp only [Doc.layout]
    exact h.write (hd s List.mem_cons_self) hpq
  | .gap g, hd => by
    simp only [Doc.layout, h.space hpq]
    split
    · exact h.skip hpq
    · exact h.endLine (hd _ List.mem_cons_self) hpq
  | .box style indent limit content, hd => by
    simp only [Doc.layout, h.space hpq]
    exact layoutAll_keeps h _ following hpq content hd

theorem layoutAll_keeps {T : String → Prop} {R : Page → Page → Prop} (h : Keeps T R)
    (frame : Frame) (following : Nat) {p q : Page} (hpq : R p q) :
    ∀ docs : List Doc, (∀ s ∈ textsOf docs, T s) →
      R (layoutAll frame following p docs) (layoutAll frame following q docs)
  | [], _ => hpq
  | d :: rest, hdocs => by
    obtain ⟨hd, hrest⟩ := List.forall_mem_append.mp hdocs
    exact layoutAll_keeps h frame following (d.layout_keeps h frame _ hpq hd) rest hrest

end

/-- All characters of a page that is laid out are blanks, line ends or characters of the texts. -/
theorem forall_mem_render {P : Char → Prop} (hblank : P ' ') (hline : P '\n') (docs : List Doc)
    (hdocs : ∀ s ∈ textsOf docs, ∀ c ∈ s.toList, P c) :
    ∀ c ∈ (render docs).toList, P c := by
  have hwrite : ∀ (p : Page) (s : String), (∀ c ∈ p.output.toList, P c) → (∀ c ∈ s.toList, P c) →
      ∀ c ∈ (p.write s).output.toList, P c := by
    intro p s hp hs c hc
    simp only [Page.write, String.toList_append, String.toList_ofList, List.mem_append,
      List.mem_replicate] at hc
    rcases hc with (hc | ⟨-, rfl⟩) | hc
    · exact hp c hc
    · exact hblank
    · exact hs c hc
  have hkeeps : Keeps (fun s => ∀ c ∈ s.toList, P c)
      (fun p q => p = q ∧ ∀ c ∈ p.output.toList, P c) := by
    constructor
    case space => exact fun hpq => congrArg Page.space hpq.1
    case write =>
      rintro s p q hs ⟨rfl, hp⟩
      exact ⟨rfl, hwrite p s hp hs⟩
    case skip =>
      rintro blank p q ⟨rfl, hp⟩
      exact ⟨rfl, hp⟩
    case endLine =>
      rintro g indent p q hs ⟨rfl, hp⟩
      refine ⟨rfl, fun c hc => ?_⟩
      simp only [Page.breakLine, String.toList_append, List.mem_append] at hc
      rcases hc with hc | hc
      · split at hc
        · exact hp c hc
        · exact hwrite p _ hp hs c hc
      · obtain rfl : c = '\n' := by simpa using hc
        exact hline
  exact (layoutAll_keeps hkeeps ⟨some .inconsistent, 0⟩ 0 ⟨rfl, by simp⟩ docs hdocs).2

/-! ## Boxes that are broken throughout -/

theorem layout_gap_of_broken {frame : Frame} (hframe : frame.broken = some .consistent) {g : Gap}
    (hg : g.isFixed = false) (following : Nat) (p : Page) :
    (Doc.gap g).layout frame following p = p.breakLine g frame.indent := by
  rw [Doc.layout, if_neg]
  simp [Frame.goesOn, hframe, hg]

/-- In a box whose gaps are all broken, what stands behind a gap has no part in the lines before. -/
theorem layoutAll_append_gap {frame : Frame} (hframe : frame.broken = some .consistent) {g : Gap}
    (hg : g.isFixed = false) (following : Nat) (p : Page) (front back : List Doc) :
    layoutAll frame following p (front ++ .gap g :: back) =
      layoutAll frame following ((layoutAll frame 0 p front).breakLine g frame.indent) back := by
  rw [layoutAll_append, layoutAll, layout_gap_of_broken hframe hg]
  rfl

theorem le_widthOf_of_mem {g : Gap} {docs : List Doc} (h : Doc.gap g ∈ docs) :
    g.blank ≤ widthOf docs := by
  induction docs with
  | nil => simp at h
  | cons d rest ih =>
    rw [widthOf]
    rcases List.mem_cons.mp h with rfl | h
    · exact Nat.le_add_right ..
    · exact Nat.le_trans (ih h) (Nat.le_add_left ..)

/-- A box with a gap that is wider than the line does not fit. -/
theorem layout_box_of_mem {frame : Frame} {following : Nat} {p : Page} {style : Style}
    {indent : Int} {content : List Doc} {g : Gap} (hg : Doc.gap g ∈ content)
    (hspace : p.space < g.blank) :
    (Doc.box style indent none content).layout frame following p =
      layoutAll ⟨some style, frame.indent + indent⟩ following p content := by
  have hwidth := le_widthOf_of_mem hg
  have hwide : p.space < (boxWidth none (widthOf content) + following : Nat) := by
    simp only [boxWidth]
    omega
  simp only [Doc.layout, if_pos hwide]

/-! ## Starts of lines -/

/-- Whether a page has a line end last and is set to go on at an indent. -/
structure Page.AtStart (indent : Int) (p : Page) : Prop where
  output : ∃ lines, p.output = lines ++ "\n"
  space : p.space = max (margin - indent) leastSpace
  pending : p.pending = indent

theorem Page.atStart_breakLine (p : Page) (g : Gap) (indent : Int) :
    (p.breakLine g indent).AtStart (indent + g.offset) := by
  unfold breakLine
  exact ⟨⟨_, rfl⟩, rfl, rfl⟩

end ApiAtlas.Layout
