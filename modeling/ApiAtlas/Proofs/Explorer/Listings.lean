import ApiAtlas.Explorer.Listing
import ApiAtlas.Proofs.Resources.RoundTrip

/-!
# What is listed can be reached

A line of a listing shows the flags of a child and a name. The name of a child, put behind the path
of the resource, leads to the child. A name that an answer gives is listed with the flags of the
placeholder, but it leads there only if it is a segment that no literal beside the placeholder has
for its name.
-/

namespace ApiAtlas

open Schema Resources ListLaws

namespace Resources.Catalog

variable {c : Catalog} {id m : Nat} {path : String}

/-- Put behind the path of a resource, a text leads to a child of the resource exactly when it gives
one segment and the child takes this segment. -/
theorem Rooted.locate?_pathBelow_iff (h : Rooted c) (hpath : c.locate? path = some id)
    (hm : (c.get m).parent = some id) (text : String) :
    c.locate? (pathBelow path text) = some m ↔ ∃ s, segmentsOf text = [s] ∧ c.Takes m s := by
  have hwalk := ((h.locate?_eq_some path id).mp hpath).2
  rw [h.locate?_eq_some, segmentsOf_pathBelow, h.lineage_of_parent hm]
  constructor
  · intro ⟨_, hbelow⟩
    have hone : (segmentsOf text).length = 1 := by
      have hlength := hbelow.length_eq
      rw [List.length_append, List.length_append, hwalk.length_eq, List.length_singleton] at hlength
      omega
    obtain ⟨s, hs⟩ := List.length_eq_one_iff.mp hone
    rw [hs] at hbelow
    exact ⟨s, hs, (forall₂_concat.mp hbelow).2⟩
  · intro ⟨s, hs, ht⟩
    rw [hs]
    exact ⟨lt_size_of_parent hm, forall₂_concat.mpr ⟨hwalk, ht⟩⟩

theorem Plain.locate?_name (h : Plain c) (hr : Rooted c) (hpath : c.locate? path = some id)
    (hm : (c.get m).parent = some id) :
    c.locate? (pathBelow path (c.get m).name) = some m := by
  apply (hr.locate?_pathBelow_iff hpath hm _).mpr
  exact (h.addressable hr hm).takes

end Resources.Catalog

namespace Explorer

/-! ## Lines -/

theorem length_flags (r : Resource) : (flags r).toList.length = 3 := by
  unfold flags
  split <;> split <;> rfl

/-- Flags are of one length, so a line tells its flags and its name. -/
theorem entryLine_inj {r s : Resource} {name other : String}
    (h : entryLine r name = entryLine s other) : flags r = flags s ∧ name = other := by
  have hlist := congrArg String.toList h
  simp only [entryLine, String.toList_append, List.append_assoc] at hlist
  have hlength : (flags r).toList.length = (flags s).toList.length := by
    rw [length_flags, length_flags]
  obtain ⟨hflags, hrest⟩ := List.append_inj hlist hlength
  exact ⟨String.toList_inj.mp hflags, String.toList_inj.mp (List.append_cancel_left hrest)⟩

def answerNames (r : Resource) (answer : Json) : List String :=
  match childKey? r, answer.items? with
  | some key, some items => items.filterMap (childName? key)
  | _, _ => []

section Lines

variable {c : Catalog} {id child : Nat} {answer : Json} {line : String}

def literalLines (c : Catalog) (id : Nat) : List String :=
  ((c.children id).filter fun (_, child) => !child.isPlaceholder).map fun (_, child) =>
    entryLine child child.name

/-- A listing is that of the children, or that of the names in the answer and of the literals. -/
theorem listValues_cases (c : Catalog) (id : Nat) (answer : Json) :
    listValues c id answer = listChildren c id ∨
      ∃ child, c.placeholderChild? id = some child ∧
        listValues c id answer =
          (answerNames (c.get id) answer).map (entryLine (c.get child)) ++ literalLines c id := by
  unfold listValues answerNames
  split
  · rename_i key child items hkey hchild hitems
    right
    rw [hkey, hitems]
    exact ⟨child, hchild, rfl⟩
  · exact .inl rfl

theorem mem_listChildren : line ∈ listChildren c id ↔
    ∃ child ∈ (c.get id).children, entryLine (c.get child) (c.get child).name = line := by
  simp [listChildren, Catalog.children]

theorem mem_literalLines : line ∈ literalLines c id ↔
    ∃ child ∈ (c.get id).children, (c.get child).isPlaceholder = false ∧
      entryLine (c.get child) (c.get child).name = line := by
  simp [literalLines, Catalog.children, and_assoc]

/-- Each line of a listing shows a child by its name, or the placeholder by a name in the answer. -/
theorem of_mem_listValues (hr : c.Rooted) (h : line ∈ listValues c id answer) :
    ∃ child, (c.get child).parent = some id ∧
      (line = entryLine (c.get child) (c.get child).name ∨
        (c.get child).isPlaceholder = true ∧
          ∃ name ∈ answerNames (c.get id) answer, line = entryLine (c.get child) name) := by
  rcases listValues_cases c id answer with hlist | ⟨placeholder, hplaceholder, hlist⟩
  · rw [hlist, mem_listChildren] at h
    obtain ⟨child, hchild, hline⟩ := h
    exact ⟨child, (hr.mem_children child id).mp hchild, .inl hline.symm⟩
  · rw [hlist, List.mem_append, List.mem_map, mem_literalLines] at h
    rcases h with ⟨name, hname, hline⟩ | ⟨child, hchild, -, hline⟩
    · obtain ⟨hparent, hbrace⟩ := hr.placeholderChild?_eq_some.mp hplaceholder
      exact ⟨placeholder, hparent, .inr ⟨hbrace, name, hname, hline.symm⟩⟩
    · exact ⟨child, (hr.mem_children child id).mp hchild, .inl hline.symm⟩

/-- A literal is listed beside the names in an answer. -/
theorem literal_mem_listValues (hr : c.Rooted) (hchild : (c.get child).parent = some id)
    (hlit : (c.get child).isPlaceholder = false) (answer : Json) :
    entryLine (c.get child) (c.get child).name ∈ listValues c id answer := by
  have hmem := (hr.mem_children child id).mpr hchild
  rcases listValues_cases c id answer with hlist | ⟨placeholder, -, hlist⟩
  · rw [hlist, mem_listChildren]
    exact ⟨child, hmem, rfl⟩
  · rw [hlist, List.mem_append, mem_literalLines]
    exact .inr ⟨child, hmem, hlit, rfl⟩

end Lines

/-- In a catalog of plain names, each line of the listing of a resource shows the flags of a child
with its name, which leads to it, or those of the placeholder with a name in the answer. Such a name
leads to the placeholder exactly when it gives one segment that no literal beside it is called. All
literals are listed. -/
theorem listValues_leads {document : Json} {c : Catalog} (h : Catalog.build document = .ok c)
    (hplain : c.Plain) {path : String} {id : Nat} (hpath : c.locate? path = some id)
    (answer : Json) :
    (∀ line ∈ listValues c id answer, ∃ child name, (c.get child).parent = some id ∧
      line = entryLine (c.get child) name ∧
        (name = (c.get child).name ∧ c.locate? (pathBelow path name) = some child ∨
          (c.get child).isPlaceholder = true ∧ name ∈ answerNames (c.get id) answer ∧
            (c.locate? (pathBelow path name) = some child ↔
              ∃ s, segmentsOf name = [s] ∧
                ∀ k ∈ c.literalSiblings child, (c.get k).name ≠ s))) ∧
      ∀ child, (c.get child).parent = some id → (c.get child).isPlaceholder = false →
        entryLine (c.get child) (c.get child).name ∈ listValues c id answer := by
  have hr := Catalog.build_rooted h
  constructor
  · intro line hline
    obtain ⟨child, hchild, hown | ⟨hbrace, name, hname, hgiven⟩⟩ := of_mem_listValues hr hline
    · have hleads := hplain.locate?_name hr hpath hchild
      exact ⟨child, (c.get child).name, hchild, hown, .inl ⟨rfl, hleads⟩⟩
    · refine ⟨child, name, hchild, hgiven, .inr ⟨hbrace, hname, ?_⟩⟩
      rw [hr.locate?_pathBelow_iff hpath hchild]
      simp only [Catalog.takes_placeholder hbrace]
  · intro child hchild hlit
    exact literal_mem_listValues hr hchild hlit answer

/-- Nodes that are listed by their names, with a literal beside the placeholder. -/
def listedDocument : Json :=
  .arr [
    .obj [
      ("text", .str "nodes"), ("path", .str "/nodes"),
      ("info", .obj [("GET", .obj [
        ("name", .str "index"),
        ("returns", .obj [
          ("type", .str "array"),
          ("items", .obj [("properties", .obj [("node", .obj [])])]),
          ("links", .arr [.obj [("rel", .str "child"), ("href", .str "\x7bnode\x7d")]])])])]),
      ("children", .arr [
        .obj [
          ("text", .str "\x7bnode\x7d"), ("path", .str "/nodes/\x7bnode\x7d"),
          ("children", .arr [
            .obj [("text", .str "qemu"), ("path", .str "/nodes/\x7bnode\x7d/qemu")]])],
        .obj [("text", .str "localhost"), ("path", .str "/nodes/localhost")]])]]

def nodesAnswer (name : String) : Json := .arr [.obj [("node", .str name)]]

theorem listValues_leads_pve1 : ∃ c, Catalog.build listedDocument = .ok c ∧ c.Plain ∧
    c.locate? "/nodes" = some 1 ∧
      listValues c 1 (nodesAnswer "pve1") = ["Dr-        pve1", "-r-        localhost"] ∧
        ∀ line ∈ listValues c 1 (nodesAnswer "pve1"), ∃ child name,
          (c.get child).parent = some 1 ∧ line = entryLine (c.get child) name ∧
            c.locate? (pathBelow "/nodes" name) = some child := by
  obtain ⟨c, hc, hpath, hlist, hnames, hadmissible⟩ := Catalog.exists_built listedDocument
    (P := fun c => c.locate? "/nodes" = some 1 ∧
      listValues c 1 (nodesAnswer "pve1") = ["Dr-        pve1", "-r-        localhost"] ∧
        answerNames (c.get 1) (nodesAnswer "pve1") = ["pve1"] ∧
          ∀ child ∈ (c.get 1).children, c.Admissible child "pve1") (by decide +kernel)
  have hplain : c.Plain := Catalog.build_plain (by decide +kernel) hc
  refine ⟨c, hc, hplain, hpath, hlist, ?_⟩
  intro line hline
  obtain ⟨child, name, hchild, hshown, ⟨-, hleads⟩ | ⟨-, hname, hiff⟩⟩ :=
    (listValues_leads hc hplain hpath (nodesAnswer "pve1")).1 line hline
  · exact ⟨child, name, hchild, hshown, hleads⟩
  · have hmem := ((Catalog.build_rooted hc).mem_children child 1).mpr hchild
    rw [hnames, List.mem_singleton] at hname
    subst hname
    obtain ⟨hsegment, hfree⟩ := hadmissible child hmem
    have hleads := hiff.mpr ⟨"pve1", segmentsOf_eq_singleton hsegment, hfree⟩
    exact ⟨child, "pve1", hchild, hshown, hleads⟩

/-- A name in an answer that is also the name of a literal leads to the literal, and is listed with
the flags of the placeholder. -/
theorem not_listValues_leads_localhost : ∃ c, Catalog.build listedDocument = .ok c ∧ c.Plain ∧
    c.locate? "/nodes" = some 1 ∧
      ¬ ∀ line ∈ listValues c 1 (nodesAnswer "localhost"), ∃ child name,
          (c.get child).parent = some 1 ∧ line = entryLine (c.get child) name ∧
            c.locate? (pathBelow "/nodes" name) = some child := by
  obtain ⟨c, hc, hpath, hlisted, hliteral, hflags⟩ := Catalog.exists_built listedDocument
    (P := fun c => c.locate? "/nodes" = some 1 ∧
      entryLine (c.get 2) "localhost" ∈ listValues c 1 (nodesAnswer "localhost") ∧
        c.locate? (pathBelow "/nodes" "localhost") = some 4 ∧
          flags (c.get 2) ≠ flags (c.get 4)) (by decide +kernel)
  refine ⟨c, hc, Catalog.build_plain (by decide +kernel) hc, hpath, ?_⟩
  intro hall
  obtain ⟨child, name, -, hline, hleads⟩ := hall _ hlisted
  obtain ⟨hsame, rfl⟩ := entryLine_inj hline
  obtain rfl : 4 = child := Option.some.inj (hliteral.symm.trans hleads)
  exact hflags hsame

end Explorer

end ApiAtlas
