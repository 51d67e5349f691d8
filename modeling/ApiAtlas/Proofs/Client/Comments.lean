import ApiAtlas.Client.Source
import ApiAtlas.Proofs.Layout.Pages
import ApiAtlas.Proofs.Text.Lines

/-!
# Comments of the code

The documentation of types and functions stands where a line starts, and each of its lines is
written as a comment line of its own. So the code of a client is the code of the client without
documentation, annotated with these lines.
-/

namespace ApiAtlas.Layout

open Text

/-- Whether a page is another one with comment lines put in, the notes. -/
structure Page.Annotated (notes : List (List Char)) (p q : Page) : Prop where
  space : p.space = q.space
  pending : p.pending = q.pending
  output : Text.Annotated notes p.output.toList q.output.toList

theorem Page.Annotated.write {notes : List (List Char)} {p q : Page} (h : p.Annotated notes q)
    (s : String) : (p.write s).Annotated notes (q.write s) where
  space := by simp only [Page.write, h.space]
  pending := rfl
  output := by
    simp only [Page.write, h.pending, String.toList_append]
    exact (h.output.append _).append _

theorem keeps_annotated (notes : List (List Char)) :
    Keeps (fun _ => True) (Page.Annotated notes) where
  space h := h.space
  write _ h := h.write _
  skip h := ⟨congrArg (· - _) h.space, congrArg (· + _) h.pending, h.output⟩
  endLine {g indent p q} _ h := by
    unfold Page.breakLine
    refine ⟨rfl, rfl, ?_⟩
    simp only [String.toList_append]
    split
    · exact h.output.append _
    · exact (h.write _).output.append _

theorem Page.AtStart.atLineStart {indent : Int} {p : Page} (h : p.AtStart indent) :
    AtLineStart p.output.toList := by
  obtain ⟨lines, hlines⟩ := h.output
  exact .inr ⟨lines.toList, by rw [hlines, String.toList_append]; rfl⟩

/-- A comment that is written where a line starts, with a line of its own, is a note. -/
theorem Page.Annotated.note {notes : List (List Char)} {p q : Page} {indent : Int}
    (h : p.Annotated notes q) (hp : p.AtStart indent) {s : String} {line : List Char}
    (hline : line = List.replicate indent.toNat ' ' ++ s.toList)
    (hcomment : isCommentLine line = true) (hbreak : '\n' ∉ line) (blank : Nat) :
    ((p.write s).breakLine { blank } indent).Annotated (notes ++ [line]) q where
  space := by
    rw [← h.space, hp.space, (Page.atStart_breakLine _ _ _).space, Int.add_zero]
  pending := by
    rw [← h.pending, hp.pending, (Page.atStart_breakLine _ _ _).pending, Int.add_zero]
  output := by
    have houtput : ((p.write s).breakLine { blank } indent).output.toList =
        p.output.toList ++ (line ++ ['\n']) := by
      simp [Page.breakLine, Page.write, hp.pending, hline]
    rw [houtput]
    exact h.output.comment hp.atLineStart hcomment hbreak

end ApiAtlas.Layout

namespace ApiAtlas.Client

open Layout Text

/-! ## Without documentation -/

def Accessor.undocumented (a : Accessor) : Accessor := { a with doc := [] }

def Operation.undocumented (o : Operation) : Operation := { o with doc := [] }

def ClientType.undocumented (t : ClientType) : ClientType :=
  { t with
    doc := []
    accessors := t.accessors.map Accessor.undocumented
    operations := t.operations.map Operation.undocumented }

def ClientModule.undocumented (m : ClientModule) : ClientModule :=
  { m with types := m.types.map ClientType.undocumented }

/-- The documentation of the functions of a type, in order. -/
def ClientType.functionDocs (t : ClientType) : List String :=
  t.accessors.flatMap (·.doc) ++ t.operations.flatMap (·.doc)

theorem ClientModule.imports_undocumented (m : ClientModule) :
    m.undocumented.imports = m.imports := by
  have hany : ∀ used : Operation → Bool, (∀ o, used o.undocumented = used o) →
      m.undocumented.operations.any used = m.operations.any used := by
    intro used hused
    simp [operations, undocumented, ClientType.undocumented, List.any_flatMap, Function.comp_def,
      hused]
  simp only [imports]
  rw [hany _ fun _ => rfl, hany _ fun _ => rfl, hany _ fun _ => rfl]

/-! ## Lines of documentation -/

namespace Code

/-- The line that a line of documentation is written as. -/
def docLine (indent : Int) (line : String) : List Char :=
  List.replicate indent.toNat ' ' ++ ("///".toList ++ dropEndWhile (· == ' ') line.toList)

theorem isCommentLine_docLine (indent : Int) (line : String) :
    isCommentLine (docLine indent line) = true := by
  unfold isCommentLine docLine
  rw [List.dropWhile_append_of_pos (by simp)]
  rfl

theorem not_mem_docLine {indent : Int} {line : String} (h : '\n' ∉ line.toList) :
    '\n' ∉ docLine indent line := by
  obtain ⟨run, hline, -⟩ := dropEndWhile_append_run (· == ' ') line.toList
  have hkept : '\n' ∉ dropEndWhile (· == ' ') line.toList := fun hc =>
    h (hline ▸ List.mem_append_left run hc)
  simp [docLine, hkept]

/-- Whether a block that is laid out where a line starts is another one with notes put in. -/
def Noted (frame : Frame) (notes : List (List Char)) (block bare : List Doc) : Prop :=
  ∀ ⦃following before p q⦄, p.Annotated before q → p.AtStart frame.indent →
    (layoutAll frame following p block).Annotated (before ++ notes)
      (layoutAll frame following q bare)

variable {frame : Frame} {notes more : List (List Char)} {block bare rest : List Doc}

theorem layoutAll_annotated {p q : Page} (h : p.Annotated notes q) (frame : Frame)
    (following : Nat) (block : List Doc) :
    (layoutAll frame following p block).Annotated notes (layoutAll frame following q block) :=
  layoutAll_keeps (keeps_annotated notes) frame following h block fun _ _ => trivial

theorem noted_refl (frame : Frame) (block : List Doc) : Noted frame [] block block := by
  intro following before p q hpq hp
  rw [List.append_nil]
  exact layoutAll_annotated hpq frame following block

/-- The same code may stand behind both blocks. -/
theorem Noted.append (h : Noted frame notes block bare) (rest : List Doc) :
    Noted frame notes (block ++ rest) (bare ++ rest) := by
  intro following before p q hpq hp
  rw [layoutAll_append, layoutAll_append]
  exact layoutAll_annotated (h hpq hp) frame following rest

/-- Blocks with a line end between them. -/
theorem Noted.line (h : Noted frame notes block bare) {block' bare' : List Doc}
    (h' : Noted frame more block' bare') (hframe : frame.broken = some .consistent) :
    Noted frame (notes ++ more) (block ++ lineEnd :: block') (bare ++ lineEnd :: bare') := by
  intro following before p q hpq hp
  rw [lineEnd, layoutAll_append_gap hframe rfl, layoutAll_append_gap hframe rfl,
    ← List.append_assoc]
  refine h' ((keeps_annotated _).endLine trivial (h hpq hp)) ?_
  simpa using Page.atStart_breakLine _ { blank := tooWide } frame.indent

/-- Each line of documentation in front of a block is a note. -/
theorem noted_docComment (hframe : frame.broken = some .consistent) (block : List Doc)
    {lines : List String} (hlines : ∀ line ∈ lines, '\n' ∉ line.toList) :
    Noted frame (lines.map (docLine frame.indent)) (docComment lines ++ block) block := by
  induction lines with
  | nil => exact noted_refl frame block
  | cons line lines ih =>
    intro following before p q hpq hp
    obtain ⟨hline, hlines⟩ := List.forall_mem_cons.mp hlines
    have hwritten : docComment (line :: lines) ++ block =
        [.text ("///" ++ String.ofList (dropEndWhile (· == ' ') line.toList))] ++
          lineEnd :: (docComment lines ++ block) := rfl
    rw [hwritten, lineEnd, layoutAll_append_gap hframe rfl, List.map_cons, List.append_cons]
    refine ih hlines (hpq.note hp ?_ (isCommentLine_docLine _ _) (not_mem_docLine hline) _) ?_
    · simp [docLine]
    · simpa using Page.atStart_breakLine _ { blank := tooWide } frame.indent

/-! ## Blocks -/

theorem lineBlock_singleton (entry : List Doc) : lineBlock [entry] = entry ++ [blockEnd] := by
  simp [lineBlock]

theorem lineBlock_cons_cons (entry next : List Doc) (rest : List (List Doc)) :
    lineBlock (entry :: next :: rest) = entry ++ lineEnd :: lineBlock (next :: rest) := by
  simp [lineBlock]

/-- A code of its own and the documentation in front of it. -/
structure Documented where
  doc : List String
  code : List Doc

namespace Documented

def text (d : Documented) : List Doc := docComment d.doc ++ d.code

/-- Whether the documentation has no line breaks inside of its lines. -/
def OfLines (d : Documented) : Prop := ∀ line ∈ d.doc, '\n' ∉ line.toList

end Documented

theorem noted_lineBlock (hframe : frame.broken = some .consistent) {entries : List Documented}
    (hentries : ∀ d ∈ entries, d.OfLines) :
    Noted frame ((entries.flatMap (·.doc)).map (docLine frame.indent))
      (lineBlock (entries.map (·.text))) (lineBlock (entries.map (·.code))) := by
  induction entries with
  | nil => exact noted_refl frame _
  | cons d rest ih =>
    obtain ⟨hd, hrest⟩ := List.forall_mem_cons.mp hentries
    have hfirst : Noted frame (d.doc.map (docLine frame.indent)) d.text d.code :=
      noted_docComment hframe d.code hd
    cases rest with
    | nil =>
      rw [List.flatMap_singleton]
      simpa only [List.map_cons, List.map_nil, lineBlock_singleton] using hfirst.append [blockEnd]
    | cons next rest =>
      rw [List.flatMap_cons, List.map_append]
      simp only [List.map_cons, lineBlock_cons_cons]
      exact hfirst.line (ih hrest) hframe

/-- A block with a line end in it, in a box of its own. -/
theorem annotated_cbox (frame : Frame) (indent : Int) {p q : Page} {before : List (List Char)}
    (hpq : p.Annotated before q) (hspace : p.space < tooWide)
    (h : Noted ⟨some .consistent, frame.indent + indent⟩ notes block bare) (following : Nat)
    (head : List Doc) :
    (layoutAll frame following p (cbox indent (head ++ lineEnd :: block))).Annotated
      (before ++ notes)
      (layoutAll frame following q (cbox indent (head ++ lineEnd :: bare))) := by
  have hmem : ∀ back, Doc.gap { blank := tooWide } ∈ head ++ lineEnd :: back := fun back =>
    List.mem_append_right head List.mem_cons_self
  simp only [cbox, layoutAll]
  rw [layout_box_of_mem (hmem block) hspace,
    layout_box_of_mem (hmem bare) (hpq.space ▸ hspace), lineEnd,
    layoutAll_append_gap rfl rfl, layoutAll_append_gap rfl rfl]
  refine h ((keeps_annotated _).endLine trivial (layoutAll_annotated hpq _ _ head)) ?_
  simpa using Page.atStart_breakLine _ { blank := tooWide } (frame.indent + indent)

/-! ## The code of a client -/

def functions (t : ClientType) : List Documented :=
  ⟨[], constructor t⟩ :: t.accessors.map (fun a => ⟨a.doc, accessor a.undocumented⟩) ++
    t.operations.map fun o => ⟨o.doc, operation o.undocumented⟩

theorem flatMap_functions (t : ClientType) : (functions t).flatMap (·.doc) = t.functionDocs := by
  simp [functions, ClientType.functionDocs, List.flatMap_map]

theorem exists_implementation_eq (t : ClientType) : ∃ head,
    implementation t = cbox 4 (head ++
      lineEnd :: (lineBlock ((functions t).map (·.text)) ++ word "\x7d")) ++ [lineEnd] ∧
    implementation t.undocumented = cbox 4 (head ++
      lineEnd :: (lineBlock ((functions t).map (·.code)) ++ word "\x7d")) ++ [lineEnd] := by
  have htexts : (functions t).map (·.text) =
      constructor t :: t.accessors.map accessor ++ t.operations.map operation := by
    simp only [functions, List.map_append, List.map_cons, List.map_map]
    rfl
  have hcodes : (functions t).map (·.code) = constructor t.undocumented ::
      t.undocumented.accessors.map accessor ++ t.undocumented.operations.map operation := by
    simp only [functions, List.map_append, List.map_cons, List.map_map, ClientType.undocumented]
    rfl
  refine ⟨ibox (-4) (cbox 4 (word "impl" ++ lifeParameter) ++ word " " ++ borrowing t.name) ++
    word " \x7b", ?_, ?_⟩
  · simp [implementation, htexts]
  · simp [implementation, hcodes, ClientType.undocumented]

theorem exists_declaration_eq (t : ClientType) : ∃ record,
    declaration t = docComment t.doc ++ record ++ [lineEnd] ∧
      declaration t.undocumented = record ++ [lineEnd] := by
  refine ⟨word "#[derive(Clone)]" ++ [blank] ++ cbox 4 (word ("pub struct " ++ t.name) ++
    lifeParameter ++ word " \x7b" ++ [lineEnd] ++
    lineBlock ((typedFields t).map (· ++ word ",")) ++ word "\x7d"), ?_, ?_⟩
  · simp only [declaration, List.append_assoc]
  · simp only [declaration, ClientType.undocumented, docComment, List.flatMap_nil, List.nil_append]
    rfl

end Code

def ClientType.notes (t : ClientType) : List (List Char) :=
  t.doc.map (Code.docLine 0) ++ t.functionDocs.map (Code.docLine 4)

/-- Whether no line of documentation of a type has a line break in it. -/
def ClientType.OfLines (t : ClientType) : Prop :=
  ∀ line ∈ t.doc ++ t.functionDocs, '\n' ∉ line.toList

namespace Code

theorem ofLines_of_mem_functions {t : ClientType} (h : t.OfLines) :
    ∀ d ∈ functions t, d.OfLines := by
  intro d hd line hline
  refine h line (List.mem_append_right _ ?_)
  rw [← flatMap_functions]
  exact List.mem_flatMap_of_mem hd hline

theorem noted_types (hframe : frame.broken = some .consistent) (hindent : frame.indent = 0)
    {types : List ClientType} (htypes : ∀ t ∈ types, t.OfLines) :
    Noted frame (types.flatMap (·.notes))
      (types.flatMap fun t => declaration t ++ implementation t)
      ((types.map ClientType.undocumented).flatMap fun t => declaration t ++ implementation t) := by
  induction types with
  | nil => exact noted_refl frame []
  | cons t types ih =>
    obtain ⟨ht, htypes⟩ := List.forall_mem_cons.mp htypes
    obtain ⟨record, hdecl, hbareDecl⟩ := exists_declaration_eq t
    obtain ⟨head, himpl, hbareImpl⟩ := exists_implementation_eq t
    have hrecord : Noted frame (t.doc.map (docLine 0)) (docComment t.doc ++ record) record :=
      hindent ▸ noted_docComment hframe record fun line hline =>
        ht line (List.mem_append_left _ hline)
    have hbody : Noted frame (t.functionDocs.map (docLine 4))
        (cbox 4 (head ++ lineEnd :: (lineBlock ((functions t).map (·.text)) ++ word "\x7d")))
        (cbox 4 (head ++ lineEnd :: (lineBlock ((functions t).map (·.code)) ++ word "\x7d"))) := by
      intro following before p q hpq hp
      refine annotated_cbox frame 4 hpq ?_ (Noted.append ?_ _) following head
      · rw [hp.space, hindent]
        decide
      · have hlines : Noted ⟨some .consistent, 0 + 4⟩ _ _ _ :=
          noted_lineBlock rfl (ofLines_of_mem_functions ht)
        simpa only [flatMap_functions, hindent, Int.zero_add] using hlines
    have hall := hrecord.line (hbody.line (ih htypes) hframe) hframe
    rw [List.flatMap_cons, List.map_cons, List.flatMap_cons, List.flatMap_cons, hdecl, hbareDecl,
      himpl, hbareImpl]
    simpa only [ClientType.notes, List.append_assoc, List.cons_append, List.nil_append] using hall

/-- The code of a client is its code without documentation, with the lines of documentation put
in. -/
theorem annotated_text (runtime : Lexical.ModulePath) {m : ClientModule}
    (hm : ∀ t ∈ m.types, t.OfLines) :
    Annotated (m.types.flatMap (·.notes)) (text runtime m).toList
      (text runtime m.undocumented).toList := by
  obtain ⟨head, hhead⟩ : ∃ head, importLine runtime m.imports = head ++ [lineEnd] := ⟨_, rfl⟩
  have hinner : Noted ⟨some .consistent, 0⟩ _ _ _ := noted_types rfl rfl hm
  have hfirst : Page.Annotated [] {} {} := ⟨rfl, rfl, .refl _⟩
  have hpages := annotated_cbox ⟨some .inconsistent, 0⟩ 0 hfirst (by decide) hinner 0 head
  rw [text, text, m.imports_undocumented, hhead]
  simpa only [render, ClientModule.undocumented, List.append_assoc, List.cons_append,
    List.nil_append] using hpages.output

end Code

end ApiAtlas.Client
