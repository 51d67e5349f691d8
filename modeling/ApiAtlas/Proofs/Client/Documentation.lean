import ApiAtlas.Client.Generate
import ApiAtlas.Proofs.Checks
import ApiAtlas.Proofs.Client.Comments
import ApiAtlas.Proofs.Client.Identifiers

/-!
# Documentation of a client

Types and functions are documented by lines of texts, so that no line of documentation has a line
break in it. The code that is generated is the code of the client without documentation, annotated
with these lines and those of the header.
-/

namespace ApiAtlas.Client

open Checks Descriptor ListLaws Naming Resources Text

variable {c : Catalog} {s : Settings} {id : Nat}

/-! ## Lines of a text -/

theorem not_mem_docLines {text line : String} (h : line ∈ docLines text) : '\n' ∉ line.toList := by
  obtain ⟨raw, hraw, rfl⟩ := List.mem_map.mp h
  obtain ⟨run, hrun, -⟩ := dropEndWhile_append_run isBlank raw
  have hkept : '\n' ∉ trimEnd raw := fun hc =>
    not_mem_linesOf hraw (hrun ▸ List.mem_append_left run hc)
  split
  · simp
  · simpa using hkept

/-! ## Documentation of types -/

def typeText (r : Resource) : String :=
  if r.path.isEmpty then "Entry point of the API resource tree." else codeQuoted r.path

def operationText (reserved : Reserved) (r : Resource) (m : Method) : String :=
  let parameters := m.orderedParameters r.keyChain
  operationDoc r m ((argumentsOf reserved parameters).zipWith
    (fun a p => argumentDoc a p.description) parameters)

theorem doc_operationOf (reserved : Reserved) (r : Resource) (m : Method) (name : String) :
    (operationOf reserved r m name).doc = docLines (operationText reserved r m) := by
  simp only [operationOf, operationText]

/-- The documentation of a type is that of its resource, of the placeholder among the children and
of the methods. -/
theorem forall_docs {P : String → Prop} (reserved : Reserved) (names : Array String) :
    (∀ line ∈ (typeOf c reserved names id).doc ++ (typeOf c reserved names id).functionDocs,
      P line) ↔
    (∀ line ∈ docLines (typeText (c.get id)), P line) ∧
      (∀ child ∈ (c.get id).children, (c.get child).isPlaceholder = true →
        ∀ line ∈ docLines (codeQuoted (c.get child).path), P line) ∧
      ∀ m ∈ (c.get id).methods, ∀ line ∈ docLines (operationText reserved (c.get id) m),
        P line := by
  have haccessors : (typeOf c reserved names id).accessors.map (·.doc) =
      (c.get id).children.map fun child =>
        if (c.get child).isPlaceholder then docLines (codeQuoted (c.get child).path) else [] := by
    simp only [typeOf, List.map_zipWith, accessorOf, apply_ite Accessor.doc]
    rw [zipWith_snd (by simp) fun child : Nat × Resource =>
      if child.2.isPlaceholder then docLines (codeQuoted child.2.path) else [],
      Catalog.children, List.map_map]
    rfl
  have hoperations : (typeOf c reserved names id).operations.map (·.doc) =
      (c.get id).methods.map fun m => docLines (operationText reserved (c.get id) m) := by
    simp only [typeOf, List.map_zipWith, doc_operationOf]
    rw [zipWith_snd (by simp) fun m : Method => docLines (operationText reserved (c.get id) m)]
  have hdoc : (typeOf c reserved names id).doc = docLines (typeText (c.get id)) := by
    simp only [typeOf, typeText]
  rw [ClientType.functionDocs, List.flatMap_def, List.flatMap_def, haccessors, hoperations, hdoc,
    List.forall_mem_append, List.forall_mem_append]
  simp only [← List.flatMap_def, List.forall_mem_flatMap]
  refine and_congr_right' (and_congr_left' (forall₂_congr fun child _ => ?_))
  split <;> simp_all

/-- No line of documentation of a type has a line break in it. -/
theorem ofLines_typeOf (reserved : Reserved) (names : Array String) :
    (typeOf c reserved names id).OfLines :=
  (forall_docs reserved names).mpr ⟨fun _ => not_mem_docLines, fun _ _ _ _ => not_mem_docLines,
    fun _ _ _ => not_mem_docLines⟩

theorem ofLines_of_mem_types {t : ClientType} (ht : t ∈ (assemble c s).types) : t.OfLines := by
  obtain ⟨id, -, rfl⟩ := List.mem_map.mp ht
  exact ofLines_typeOf _ _

/-! ## Generated code -/

theorem isCommentLine_headerLine (line : List Char) :
    isCommentLine ("// ".toList ++ line) = true := rfl

theorem isDocLine_headerLine (line : List Char) : isDocLine ("// ".toList ++ line) = false := rfl

theorem annotated_headerLines {lines : List String} (hlines : ∀ line ∈ lines, '\n' ∉ line.toList) :
    Annotated (lines.map fun line => "// ".toList ++ line.toList)
      (lines.flatMap fun line => "// ".toList ++ line.toList ++ ['\n']) [] := by
  induction lines with
  | nil => exact .refl []
  | cons line lines ih =>
    obtain ⟨hline, hlines⟩ := List.forall_mem_cons.mp hlines
    have hfirst := (Annotated.refl []).comment (.inl rfl) (isCommentLine_headerLine line.toList)
      (by simpa using hline)
    exact (hfirst.append _).trans (ih hlines)

/-- The lines of a header are comment lines, and none of them documents anything. -/
theorem exists_annotated_headerText (header : Option String) : ∃ notes,
    (∀ line ∈ notes, isDocLine line = false) ∧
      Annotated notes (headerText header).toList ['\n'] := by
  obtain ⟨first, hfirst, htext⟩ : ∃ first : String, '\n' ∉ first.toList ∧
      headerText header = String.join ((first :: lines (header.getD "")).map fun line =>
        "// " ++ line ++ "\n") ++ "\n" := ⟨_, by decide, rfl⟩
  have hlines : ∀ line ∈ first :: lines (header.getD ""), '\n' ∉ line.toList := by
    refine List.forall_mem_cons.mpr ⟨hfirst, fun line hline => ?_⟩
    obtain ⟨raw, hraw, rfl⟩ := List.mem_map.mp hline
    rw [String.toList_ofList]
    exact not_mem_linesOf hraw
  refine ⟨(first :: lines (header.getD "")).map fun line => "// ".toList ++ line.toList, ?_, ?_⟩
  · intro line hline
    obtain ⟨text, -, rfl⟩ := List.mem_map.mp hline
    exact isDocLine_headerLine _
  · rw [htext, String.toList_append, String.toList_join, List.flatMap_map]
    simp only [String.toList_append]
    exact (annotated_headerLines hlines).append ['\n']

theorem annotated_generate {code : String} (h : generate c s = .ok code) : ∃ runtime notes,
    checkNames (assemble c s) = .ok runtime ∧ (∀ line ∈ notes, isDocLine line = false) ∧
      Annotated (notes ++ (assemble c s).types.flatMap (·.notes)) code.toList
        ('\n' :: (Code.text runtime (assemble c s).undocumented).toList) := by
  rw [generate, bind_eq_ok] at h
  obtain ⟨runtime, hruntime, hcode⟩ := h
  obtain rfl := Except.ok.inj hcode
  obtain ⟨notes, hnotes, hheader⟩ := exists_annotated_headerText s.header
  have htext := Code.annotated_text runtime fun t => ofLines_of_mem_types (c := c) (s := s)
  refine ⟨runtime, notes, hruntime, hnotes, ?_⟩
  rw [String.toList_append]
  exact (hheader.append _).trans (htext.behind (.inr ⟨[], rfl⟩))

end ApiAtlas.Client
