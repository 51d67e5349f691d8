import ApiAtlas.Proofs.Client.Characters

/-!
# Carriage returns in documentation

A carriage return stays in a line of documentation if there is more than white space behind it on
the line. The line breaks of the description of a parameter are made blanks before it is cut to
lines, but the carriage returns in front of them are not.
-/

namespace ApiAtlas.Text

/-! ## Lines that keep a carriage return -/

theorem dropEndWhile_append {α : Type} (p : α → Bool) (xs ys : List α) :
    dropEndWhile p (xs ++ ys) =
      if dropEndWhile p ys = [] then dropEndWhile p xs else xs ++ dropEndWhile p ys := by
  simp only [dropEndWhile, List.reverse_append, List.dropWhile_append, List.reverse_eq_nil_iff,
    List.isEmpty_iff]
  split <;> simp

theorem mem_of_mem_trimEnd {c : Char} {line : List Char} (h : c ∈ trimEnd line) : c ∈ line := by
  obtain ⟨run, hline, -⟩ := dropEndWhile_append_run isBlank line
  rw [hline]
  exact List.mem_append_left run h

/-- A carriage return that is dropped with the line end is white space. -/
theorem trimEnd_dropReturn (line : List Char) : trimEnd (dropReturn line) = trimEnd line := by
  unfold dropReturn
  split
  · rename_i hlast
    obtain ⟨front, rfl⟩ := List.getLast?_eq_some_iff.mp hlast
    have hreturn : dropEndWhile isBlank ['\r'] = [] := by decide
    rw [List.dropLast_concat, trimEnd, trimEnd, dropEndWhile_append, if_pos hreturn]
  · rfl

theorem return_mem_trimEnd_append {front : List Char} (h : '\r' ∉ front) (line : List Char) :
    '\r' ∈ trimEnd (front ++ line) ↔ '\r' ∈ trimEnd line := by
  rw [trimEnd, trimEnd, dropEndWhile_append]
  split
  · rename_i hempty
    simp only [hempty, List.not_mem_nil, iff_false]
    exact fun hmem => h (mem_of_mem_trimEnd hmem)
  · simp [h]

/-- Whether a carriage return of a text has more than white space behind it on its line. -/
def ShowsReturn (text : List Char) : Prop := ∃ line ∈ text.splitOn '\n', '\r' ∈ trimEnd line

instance (text : List Char) : Decidable (ShowsReturn text) :=
  inferInstanceAs (Decidable (∃ line ∈ text.splitOn '\n', '\r' ∈ trimEnd line))

theorem not_showsReturn {text : List Char} (h : '\r' ∉ text) : ¬ ShowsReturn text := by
  rintro ⟨line, hline, hreturn⟩
  exact h (mem_of_mem_splitOn hline (mem_of_mem_trimEnd hreturn))

theorem showsReturn_line (front back : List Char) :
    ShowsReturn (front ++ '\n' :: back) ↔ ShowsReturn front ∨ ShowsReturn back := by
  simp only [ShowsReturn, List.splitOn_append_cons_self, List.mem_append, or_and_right, exists_or]

theorem showsReturn_append {front : List Char} (h : '\r' ∉ front) (back : List Char) :
    ShowsReturn (front ++ back) ↔ ShowsReturn back := by
  obtain ⟨lines, last, hfront⟩ : ∃ lines last, front.splitOn '\n' = lines ++ [last] :=
    ⟨_, _, (List.dropLast_append_getLast (List.splitOn_ne_nil '\n' front)).symm⟩
  obtain ⟨first, rest, hback⟩ := List.exists_cons_of_ne_nil (List.splitOn_ne_nil '\n' back)
  have hplain : ∀ line ∈ lines ++ [last], '\r' ∉ line := fun line hline hreturn =>
    h (mem_of_mem_splitOn (hfront ▸ hline) hreturn)
  obtain ⟨hlines, hlast⟩ := List.forall_mem_append.mp hplain
  have hnone : ¬ ∃ line ∈ lines, '\r' ∈ trimEnd line := fun ⟨line, hline, hreturn⟩ =>
    hlines line hline (mem_of_mem_trimEnd hreturn)
  simp only [ShowsReturn, splitOn_append hfront hback, hback, List.mem_append, List.mem_cons,
    or_and_right, exists_or, hnone, false_or, exists_eq_left,
    return_mem_trimEnd_append (hlast last List.mem_cons_self)]

/-- Whether a text starts with a line end, if there is anything in it. -/
def EndsLineBefore (text : List Char) : Prop := text = [] ∨ text.head? = some '\n'

instance (text : List Char) : Decidable (EndsLineBefore text) :=
  inferInstanceAs (Decidable (text = [] ∨ text.head? = some '\n'))

theorem showsReturn_append_lines (front : List Char) {back : List Char} (h : EndsLineBefore back) :
    ShowsReturn (front ++ back) ↔ ShowsReturn front ∨ ShowsReturn back := by
  rcases h with rfl | h
  · simp [not_showsReturn]
  · obtain ⟨back, rfl⟩ := List.head?_eq_some_iff.mp h
    have hback : ShowsReturn ('\n' :: back) ↔ ShowsReturn back :=
      showsReturn_append (by decide : '\r' ∉ ['\n']) back
    rw [showsReturn_line, hback]

theorem showsReturn_intercalate (texts : List (List Char)) :
    ShowsReturn (['\n'].intercalate texts) ↔ ∃ text ∈ texts, ShowsReturn text := by
  induction texts with
  | nil => simp [not_showsReturn]
  | cons text rest ih =>
    cases rest with
    | nil => simp
    | cons next rest =>
      rw [List.intercalate_cons_cons, List.append_assoc, List.singleton_append, showsReturn_line,
        ih]
      exact (List.exists_mem_cons_iff _ _ _).symm

end ApiAtlas.Text

namespace ApiAtlas.Client

open Checks Descriptor ListLaws Naming Resources Text

variable {c : Catalog} {s : Settings}

/-! ## Documentation of operations -/

theorem forall_docLines_iff (text : String) :
    (∀ line ∈ docLines text, '\r' ∉ line.toList) ↔ ¬ ShowsReturn text.toList := by
  obtain ⟨front, last, hpieces, hlines⟩ := linesOf_eq text.toList
  have hline : ∀ line : List Char,
      '\r' ∈ (if line.isEmpty then "" else String.ofList (' ' :: trimEnd line)).toList ↔
        '\r' ∈ trimEnd line := by
    intro line
    cases line with
    | nil => simp [trimEnd]
    | cons c cs => simp
  simp only [docLines, List.forall_mem_map, hline, ShowsReturn, hpieces, hlines, not_exists,
    not_and, List.forall_mem_append, trimEnd_dropReturn]
  refine and_congr_right' ?_
  cases last with
  | nil => simp [trimEnd]
  | cons c cs => simp

/-- The text that documents a parameter, behind the name of its argument. -/
def parameterText (p : Parameter) : String :=
  codeQuoted p.wireName ++
    match p.description with
    | some text => ": " ++ text.map fun c => if c == '\n' then ' ' else c
    | none => ""

theorem showsReturn_argumentDoc {a : Argument} {p : Parameter} (hname : '\r' ∉ a.name.toList)
    (hwire : a.wireName = p.wireName) :
    ShowsReturn (argumentDoc a p.description).toList ↔ ShowsReturn (parameterText p).toList := by
  have hfront : '\r' ∉ ("* " ++ codeQuoted a.name ++ " - ").toList := by
    simpa [codeQuoted] using hname
  have htext : argumentDoc a p.description =
      "* " ++ codeQuoted a.name ++ " - " ++ parameterText p := by
    rw [parameterText, ← String.append_assoc, ← hwire]
    rfl
  rw [htext, String.toList_append, showsReturn_append hfront]

theorem showsReturn_arguments (reserved : Reserved) (parameters : List Parameter) :
    (∃ text ∈ (argumentsOf reserved parameters).zipWith
      (fun a p => argumentDoc a p.description) parameters, ShowsReturn text.toList) ↔
      ∃ p ∈ parameters, ShowsReturn (parameterText p).toList := by
  have hwire : (argumentsOf reserved parameters).map (·.wireName) =
      parameters.map (·.wireName) := by
    simpa [Function.comp_def] using
      congrArg (List.map Prod.fst) (map_argumentsOf reserved parameters)
  exact exists_mem_zipWith_iff hwire fun a ha p => showsReturn_argumentDoc
    (return_not_mem_of_isWord (isIdentifier_of_mem_argumentsOf a ha).isWord)

theorem showsReturn_codeQuoted (text : String) :
    ShowsReturn (codeQuoted text).toList ↔ ShowsReturn (text.toList ++ ['`']) := by
  rw [codeQuoted, String.toList_append, String.toList_append, List.append_assoc,
    showsReturn_append (by decide)]
  rfl

theorem showsReturn_comment (comment : String) (back : List Char) :
    ShowsReturn ((if comment.isEmpty then "" else comment ++ "\n\n").toList ++ back) ↔
      ShowsReturn comment.toList ∨ ShowsReturn back := by
  split
  · rename_i hempty
    obtain rfl : comment = "" := by simpa using hempty
    simp [not_showsReturn]
  · rw [String.toList_append, List.append_assoc, showsReturn_append_lines _ (.inr rfl),
      showsReturn_append (by decide)]

theorem showsReturn_argumentList (texts : List String) :
    ShowsReturn (if texts.isEmpty then "" else
      "\n\n# Arguments\n\n" ++ "\n".intercalate texts).toList ↔
      ∃ text ∈ texts, ShowsReturn text.toList := by
  split
  · rename_i hempty
    obtain rfl := List.isEmpty_iff.mp hempty
    simp [not_showsReturn]
  · rw [String.toList_append, showsReturn_append (by decide), String.toList_intercalate]
    exact (showsReturn_intercalate _).trans (by simp)

theorem showsReturn_operationText (reserved : Reserved) (r : Resource) (m : Method) :
    ShowsReturn (operationText reserved r m).toList ↔
      ShowsReturn (m.comment.getD "").toList ∨ ShowsReturn (codeQuoted r.path).toList ∨
        ∃ p ∈ m.orderedParameters r.keyChain, ShowsReturn (parameterText p).toList := by
  have hcall : ShowsReturn (codeQuoted (m.verb.text ++ " " ++ r.path)).toList ↔
      ShowsReturn (codeQuoted r.path).toList := by
    have hverb : '\r' ∉ m.verb.text.toList ++ [' '] := by cases m.verb <;> decide
    rw [showsReturn_codeQuoted, showsReturn_codeQuoted]
    simpa using showsReturn_append hverb (r.path.toList ++ ['`'])
  have hreturns : ¬ ShowsReturn (if m.returns.kind = .none then "" else
      "\n\nReturns: " ++ m.returns.kind.text ++ ".").toList := by
    refine not_showsReturn ?_
    cases m.returns.kind <;> decide
  have hreturnsStart : EndsLineBefore (if m.returns.kind = .none then "" else
      "\n\nReturns: " ++ m.returns.kind.text ++ ".").toList := by
    cases m.returns.kind <;> decide
  have hargumentsStart : ∀ texts : List String, EndsLineBefore (if texts.isEmpty then "" else
      "\n\n# Arguments\n\n" ++ "\n".intercalate texts).toList := by
    intro texts
    split
    · exact .inl rfl
    · exact .inr (by simp)
  simp only [operationText, operationDoc]
  rw [String.toList_append, showsReturn_append_lines _ (hargumentsStart _), String.toList_append,
    showsReturn_append_lines _ hreturnsStart, String.toList_append, showsReturn_comment,
    showsReturn_argumentList, showsReturn_arguments, hcall]
  simp only [hreturns, or_false, or_assoc]

/-! ## Lines of documentation in the code -/

theorem return_mem_docLine (indent : Int) (line : String) :
    '\r' ∈ Code.docLine indent line ↔ '\r' ∈ line.toList := by
  obtain ⟨run, hline, hrun⟩ := dropEndWhile_append_run (· == ' ') line.toList
  have hblank : '\r' ∉ run := fun hmem => by simpa using List.all_eq_true.mp hrun '\r' hmem
  conv_rhs => rw [hline]
  simp [Code.docLine, hblank]

theorem isDocLine_docLine {text line : String} (h : line ∈ docLines text) (indent : Int) :
    isDocLine (Code.docLine indent line) = true := by
  obtain ⟨run, hline, -⟩ := dropEndWhile_append_run (· == ' ') line.toList
  have hhead : ∀ c ∈ line.toList.head?, c = ' ' := by
    obtain ⟨raw, -, rfl⟩ := List.mem_map.mp h
    split <;> simp
  have hkept : ∀ c ∈ (dropEndWhile (· == ' ') line.toList).head?, c = ' ' := fun c hc =>
    hhead c (by rw [hline]; exact List.mem_head?_append_of_mem_head? hc)
  unfold isDocLine Code.docLine
  rw [List.dropWhile_append_of_pos (by simp)]
  cases hlist : dropEndWhile (· == ' ') line.toList with
  | nil => rfl
  | cons c cs =>
    obtain rfl := hkept c (by rw [hlist]; rfl)
    rfl

theorem returns_outside_docs_iff_docs {document : Json} (h : Catalog.build document = .ok c)
    {code : String} (hcode : generate c s = .ok code) :
    (∀ line ∈ code.toList.splitOn '\n', isDocLine line = true → '\r' ∉ line) ↔
      ∀ id < c.rows.size, ∀ line ∈ (clientType c s id).doc ++ (clientType c s id).functionDocs,
        '\r' ∉ line.toList := by
  obtain ⟨runtime, notes, hruntime, hnotes, hannotated⟩ := annotated_generate hcode
  have hbare : '\r' ∉ '\n' :: (Code.text runtime (assemble c s).undocumented).toList := by
    simpa using return_not_mem_undocumented h hruntime
  have hdoc : ∀ {id line}, line ∈ (clientType c s id).doc ++ (clientType c s id).functionDocs →
      ∀ indent, isDocLine (Code.docLine indent line) = true := fun {id line} =>
    (forall_docs s.reserved (typeNames c s)).mpr ⟨fun _ => isDocLine_docLine,
      fun _ _ _ _ => isDocLine_docLine, fun _ _ _ => isDocLine_docLine⟩ line
  simp only [hannotated.mem_splitOn, List.mem_append, List.mem_flatMap, mem_types h s]
  constructor
  · intro hall id hid line hline
    have hnote : ∃ indent, Code.docLine indent line ∈ (clientType c s id).notes := by
      rcases hline with hline | hline
      · exact ⟨0, List.mem_append_left _ (List.mem_map_of_mem hline)⟩
      · exact ⟨4, List.mem_append_right _ (List.mem_map_of_mem hline)⟩
    obtain ⟨indent, hnote⟩ := hnote
    rw [← return_mem_docLine indent]
    exact hall _ (.inl (.inr ⟨_, ⟨id, hid, rfl⟩, hnote⟩))
      (hdoc (List.mem_append.mpr hline) indent)
  · rintro hall line ((hline | ⟨t, ⟨id, hid, rfl⟩, hline⟩) | hline) hisDoc
    · simp [hnotes line hline] at hisDoc
    · simp only [ClientType.notes, List.mem_append, List.mem_map] at hline
      rcases hline with ⟨raw, hraw, rfl⟩ | ⟨raw, hraw, rfl⟩
      · rw [return_mem_docLine]
        exact hall id hid raw (.inl hraw)
      · rw [return_mem_docLine]
        exact hall id hid raw (.inr hraw)
    · exact fun hreturn => hbare (mem_of_mem_splitOn hline hreturn)

/-- No line of documentation has a carriage return in it exactly if none shows in a path, in the
description of a method, and in the wire name and the description of a parameter that a call
states. -/
theorem returns_outside_docs_iff {document : Json} (h : Catalog.build document = .ok c)
    {code : String} (hcode : generate c s = .ok code) :
    (∀ line ∈ code.toList.splitOn '\n', isDocLine line = true → '\r' ∉ line) ↔
      ∀ id < c.rows.size, ¬ ShowsReturn (codeQuoted (c.get id).path).toList ∧
        ∀ m ∈ (c.get id).methods, ¬ ShowsReturn (m.comment.getD "").toList ∧
          ∀ p ∈ m.parameters, p.wireName ∉ (c.get id).keyChain →
            ¬ ShowsReturn (parameterText p).toList := by
  have hr := Catalog.build_rooted h
  have htype : ∀ r : Resource, ShowsReturn (typeText r).toList ↔
      ShowsReturn (codeQuoted r.path).toList := by
    intro r
    unfold typeText
    split
    · rename_i hempty
      obtain hpath : r.path = "" := by simpa using hempty
      rw [hpath]
      exact iff_of_false (not_showsReturn (by decide)) (not_showsReturn (by decide))
    · rfl
  rw [returns_outside_docs_iff_docs h hcode]
  simp only [clientType, forall_docs, forall_docLines_iff, htype, showsReturn_operationText,
    mem_orderedParameters, not_or, not_exists, not_and, and_imp]
  constructor
  · intro hall id hid
    obtain ⟨hpath, -, hmethods⟩ := hall id hid
    exact ⟨hpath, fun m hm => ⟨(hmethods m hm).1, (hmethods m hm).2.2⟩⟩
  · intro hall id hid
    obtain ⟨hpath, hmethods⟩ := hall id hid
    refine ⟨hpath, fun child hchild _ => (hall child (hr.child_lt_size hchild)).1, fun m hm => ?_⟩
    exact ⟨(hmethods m hm).1, hpath, (hmethods m hm).2⟩

def describedDocument (description : String) : Json :=
  .arr [.obj [("text", .str "x"), ("path", .str "/x"), ("info", .obj [("GET", .obj [
    ("name", .str "x"), ("description", .str "First.\r\nSecond."),
    ("parameters", .obj [("properties", .obj [
      ("x", .obj [("description", .str description)])])])])])]]

theorem returns_outside_docs_line_feed : ∃ c code,
    Catalog.build (describedDocument "one\ntwo") = .ok c ∧ generate c {} = .ok code ∧
      ∀ line ∈ code.toList.splitOn '\n', isDocLine line = true → '\r' ∉ line := by
  obtain ⟨c, hc, hcode, hplain⟩ := Catalog.exists_built (describedDocument "one\ntwo")
    (P := fun c => (generate c {}).toOption.isSome = true ∧
      ∀ id < c.rows.size, ¬ ShowsReturn (codeQuoted (c.get id).path).toList ∧
        ∀ m ∈ (c.get id).methods, ¬ ShowsReturn (m.comment.getD "").toList ∧
          ∀ p ∈ m.parameters, p.wireName ∉ (c.get id).keyChain →
            ¬ ShowsReturn (parameterText p).toList) (by decide +kernel)
  obtain ⟨code, hcode⟩ := exists_eq_ok hcode
  exact ⟨c, code, hc, hcode, (returns_outside_docs_iff hc hcode).mpr hplain⟩

/-- In the description of a method a carriage return in front of a line feed is dropped, in that of
a parameter it stays in the line. -/
theorem not_returns_outside_docs_crlf : ∃ c code,
    Catalog.build (describedDocument "one\r\ntwo") = .ok c ∧ generate c {} = .ok code ∧
      ∃ line ∈ code.toList.splitOn '\n', isDocLine line = true ∧ '\r' ∈ line := by
  obtain ⟨c, hc, hcode, hdocs⟩ := Catalog.exists_built (describedDocument "one\r\ntwo")
    (P := fun c => (generate c {}).toOption.isSome = true ∧
      ¬ ∀ id < c.rows.size, ∀ line ∈ (clientType c {} id).doc ++ (clientType c {} id).functionDocs,
        '\r' ∉ line.toList) (by decide +kernel)
  obtain ⟨code, hcode⟩ := exists_eq_ok hcode
  rw [← returns_outside_docs_iff_docs hc hcode] at hdocs
  push Not at hdocs
  exact ⟨c, code, hc, hcode, hdocs⟩

end ApiAtlas.Client
