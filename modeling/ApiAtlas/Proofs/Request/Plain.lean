import ApiAtlas.Proofs.Request.Resource
import Mathlib.Data.List.Flatten

/-!
# Plain paths

A path that stands in a URL as it is reaches the resource that its segments tell exactly if it is
plain: nothing in it is dropped, ends a path, is resolved or is read as an escape, and no two of its
slashes behind the first segment follow each other or stand at its end. The segments of a resource
tell every byte outside slashes, so whatever is not read as it is shows in the number of bytes.
-/

namespace ApiAtlas.Request

open Descriptor Resources

/-! ## Escapes -/

def hasEscape : List Char → Bool
  | '%' :: a :: b :: cs => (isHexDigit a && isHexDigit b) || hasEscape (a :: b :: cs)
  | _ :: cs => hasEscape cs
  | [] => false

/-- A text without escapes is what its bytes are read as, and any escape makes them fewer. -/
theorem percentBytes_eq_iff {cs : List Char} :
    percentBytes cs = cs.flatMap String.utf8EncodeChar ↔ hasEscape cs = false := by
  fun_induction percentBytes cs with
  | case1 => simp [hasEscape]
  | case2 a b cs n hn ih =>
    have hdigits : isHexDigit a = true ∧ isHexDigit b = true := by
      rw [← Bool.not_eq_false, ← Bool.not_eq_false, ← not_or, ← hexNumber?_eq_none, hn]
      exact Option.some_ne_none n
    have hescape : hasEscape ('%' :: a :: b :: cs) = true := by
      simp [hasEscape, hdigits]
    rw [hescape]
    refine iff_of_false (fun heq => ?_) (by simp)
    have hlength := congrArg List.length heq
    have hle := length_percentBytes_le cs
    have hchars : ∀ c, 1 ≤ (String.utf8EncodeChar c).length := fun c =>
      List.length_pos_iff.mpr String.utf8EncodeChar_ne_nil
    have hpercent := hchars '%'
    have ha := hchars a
    have hb := hchars b
    simp only [List.flatMap_cons, List.length_append, List.length_cons] at hlength
    omega
  | case3 a b cs hn ih =>
    have hdigits : (isHexDigit a && isHexDigit b) = false :=
      Bool.and_eq_false_iff.mpr (hexNumber?_eq_none.mp hn)
    rw [List.flatMap_cons, List.append_cancel_left_eq, ih]
    simp [hasEscape, hdigits]
  | case4 c cs h ih =>
    have hskip : hasEscape (c :: cs) = hasEscape cs := by
      rw [hasEscape]
      exact h
    rw [List.flatMap_cons, List.append_cancel_left_eq, ih, hskip]

/-! ## Bytes outside slashes -/

theorem flatten_splitOn (cs : List Char) : (cs.splitOn '/').flatten = cs.filter (· != '/') := by
  induction cs with
  | nil => rfl
  | cons c cs ih =>
    rw [List.splitOn_cons_eq_if_modifyHead]
    by_cases hc : c = '/'
    · rw [if_pos (by simpa using hc), hc, List.flatten_cons, ih]
      rfl
    · obtain ⟨first, rest, hparts⟩ := List.exists_cons_of_ne_nil (List.splitOn_ne_nil '/' cs)
      rw [hparts, List.flatten_cons] at ih
      rw [if_neg (by simpa using hc), hparts, List.modifyHead_cons, List.flatten_cons,
        List.filter_cons_of_pos (by simpa using hc), ← ih, List.cons_append]

theorem flatMap_pieces (pieces : List (List Char)) :
    pieces.flatMap (·.flatMap String.utf8EncodeChar) =
      pieces.flatten.flatMap String.utf8EncodeChar := by
  rw [← List.flatMap_id, List.flatMap_assoc]
  rfl

theorem segmentsOf_eq (path : String) : segmentsOf path =
    (((pathBehind path).splitOn '/').filter (!·.isEmpty)).map String.ofList := by
  rw [segmentsOf, pathBehind]
  refine congrArg (List.map String.ofList) ?_
  induction path.toList with
  | nil => rfl
  | cons c cs ih =>
    by_cases hc : c = '/'
    · rw [hc, List.dropWhile_cons_of_pos (by decide), ← ih, List.splitOn_cons_eq_if_modifyHead]
      rfl
    · rw [List.dropWhile_cons_of_neg (by simpa using hc)]

/-- The segments of a path have every byte of it outside slashes. -/
theorem textBytes_segmentsOf (path : String) : (segmentsOf path).flatMap textBytes =
    ((pathBehind path).filter (· != '/')).flatMap String.utf8EncodeChar := by
  have htext : ∀ piece, textBytes (String.ofList piece) = piece.flatMap String.utf8EncodeChar := by
    intro piece
    rw [textBytes, String.toList_ofList]
  rw [segmentsOf_eq, List.flatMap_map]
  simp only [htext]
  rw [flatMap_pieces, List.flatten_filter_not_isEmpty, flatten_splitOn]

/-- The characters of a text that are read in the segments of a path. -/
def readChars (cs : List Char) : List Char := (urlPieces (pathPart (cleanedBack cs))).flatten

theorem flatten_urlPieces (cs : List Char) :
    (urlPieces cs).flatten = cs.filter fun c => c != '\\' && c != '/' := by
  rw [urlPieces, flatten_splitOn]
  induction cs with
  | nil => rfl
  | cons c cs ih =>
    rw [List.map_cons, List.filter_cons, List.filter_cons, ih]
    by_cases hc : c = '\\' <;> simp [hc]

/-- A character that is read is kept, and it is neither a slash nor the mark of a query or a
fragment. -/
theorem mem_readChars {cs : List Char} {c : Char} (h : c ∈ readChars cs) :
    c ≠ '\\' ∧ isInPath c = true ∧ isKept c = true := by
  rw [readChars, flatten_urlPieces] at h
  obtain ⟨hmem, hslashes⟩ := List.mem_filter.mp h
  have hkept := (List.takeWhile_sublist _).mem hmem
  refine ⟨?_, List.mem_takeWhile_imp hmem, (List.mem_filter.mp hkept).2⟩
  simp only [Bool.and_eq_true, bne_iff_ne] at hslashes
  exact hslashes.1

theorem readChars_sublist (cs : List Char) : (readChars cs).Sublist (cs.filter (· != '/')) := by
  have hdrop : (Text.dropEndWhile isOuter cs).Sublist cs := by
    rw [Text.dropEndWhile, ← List.reverse_sublist, List.reverse_reverse]
    exact List.dropWhile_sublist _
  have hpart : (pathPart (cleanedBack cs)).Sublist cs :=
    (List.takeWhile_sublist _).trans (List.filter_sublist.trans hdrop)
  rw [readChars, flatten_urlPieces, ← List.filter_filter]
  exact List.filter_sublist.trans (hpart.filter _)

theorem bytesSaid_urlSegments_le (pieces : List (List Char)) :
    bytesSaid (pieces.map urlSegment) ≤
      (pieces.flatten.flatMap String.utf8EncodeChar).length := by
  induction pieces with
  | nil => exact Nat.le_refl 0
  | cons piece rest ih =>
    have hpiece := length_percentBytes_le piece
    rw [List.map_cons, bytesSaid_cons, urlSegment, segmentBytes_percentText, List.flatten_cons,
      List.flatMap_append, List.length_append]
    omega

/-- The segments that are read of a path say no more than the path tells. -/
theorem bytesSaid_asked_le (path : String) :
    bytesSaid (askedSegments path) ≤ ((segmentsOf path).flatMap textBytes).length := by
  have hread : bytesSaid (askedSegments path) ≤
      ((readChars (pathBehind path)).flatMap String.utf8EncodeChar).length :=
    bytesSaid_urlSegments_le _
  have hsub := ((readChars_sublist (pathBehind path)).flatMap String.utf8EncodeChar).length_le
  rw [textBytes_segmentsOf]
  omega

theorem eq_of_sublist_of_bytes {xs ys : List Char} (h : xs.Sublist ys)
    (hle : (ys.flatMap String.utf8EncodeChar).length ≤
      (xs.flatMap String.utf8EncodeChar).length) : xs = ys := by
  induction h with
  | slnil => rfl
  | @cons xs ys c h ih =>
    have hsub := (h.flatMap String.utf8EncodeChar).length_le
    have hchar := List.length_pos_iff.mpr (String.utf8EncodeChar_ne_nil (c := c))
    rw [List.flatMap_cons, List.length_append] at hle
    omega
  | @cons_cons xs ys c h ih =>
    rw [List.flatMap_cons, List.length_append, List.flatMap_cons, List.length_append] at hle
    rw [ih (by omega)]

/-- If the segments that are read say all that a path tells, the path is read as it is. -/
theorem readAsIs_of_bytesSaid {path : String}
    (h : ((segmentsOf path).flatMap textBytes).length ≤ bytesSaid (askedSegments path)) :
    ReadAsIs (pathBehind path) := by
  have hread : bytesSaid (askedSegments path) ≤
      ((readChars (pathBehind path)).flatMap String.utf8EncodeChar).length :=
    bytesSaid_urlSegments_le _
  have hall : readChars (pathBehind path) = (pathBehind path).filter (· != '/') := by
    refine eq_of_sublist_of_bytes (readChars_sublist (pathBehind path)) ?_
    rw [textBytes_segmentsOf] at h
    omega
  constructor
  · intro c hc hmark
    have hslash : c ≠ '/' := by
      rintro rfl
      exact absurd hmark (by decide)
    have hmem : c ∈ readChars (pathBehind path) := by
      rw [hall]
      exact List.mem_filter.mpr ⟨hc, by simpa using hslash⟩
    have hclass : (['?', '#', '\\', '\t', '\n', '\r'].all fun c =>
        c == '\\' || !isInPath c || !isKept c) = true := by decide
    have hlost := List.all_eq_true.mp hclass c hmark
    simp [mem_readChars hmem] at hlost
  · intro c hc
    refine Bool.eq_false_iff.mpr fun houter => ?_
    have hslash : c ≠ '/' := by
      rintro rfl
      exact absurd houter (by decide)
    obtain ⟨front, hfront⟩ := List.getLast?_eq_some_iff.mp hc
    have hdropped : readChars (pathBehind path) = readChars front := by
      rw [hfront, readChars, cleanedBack, Text.dropEndWhile, List.reverse_append,
        List.reverse_singleton, List.singleton_append, List.dropWhile_cons_of_pos houter]
      rfl
    have hlength := (readChars_sublist front).length_le
    rw [← hdropped, hall, hfront, List.filter_append, List.length_append,
      List.filter_cons_of_pos (by simpa using hslash), List.length_cons] at hlength
    omega

/-! ## Plain paths -/

/-- Whether a path can stand in a URL as it is. -/
structure PlainPath (path : String) : Prop where
  read_as_is : ReadAsIs (pathBehind path)
  no_gaps : pathBehind path ≠ [] → [] ∉ (pathBehind path).splitOn '/'
  no_dots : ∀ s ∈ segmentsOf path, s ≠ "." ∧ s ≠ ".."
  no_escapes : ∀ s ∈ segmentsOf path, hasEscape s.toList = false

/-- What is looked at to decide whether a path is plain. -/
theorem plainPath_iff {path : String} : PlainPath path ↔ ReadAsIs (pathBehind path) ∧
    ((pathBehind path).isEmpty || ((pathBehind path).splitOn '/').all (!·.isEmpty)) = true ∧
    (∀ s ∈ segmentsOf path, s ≠ "." ∧ s ≠ "..") ∧
    ∀ s ∈ segmentsOf path, hasEscape s.toList = false := by
  have hgaps : ((pathBehind path).isEmpty ||
      ((pathBehind path).splitOn '/').all (!·.isEmpty)) = true ↔
        (pathBehind path ≠ [] → [] ∉ (pathBehind path).splitOn '/') := by
    rw [Bool.or_eq_true, or_iff_not_imp_left, List.isEmpty_iff, List.all_eq_true]
    refine imp_congr_right fun _ => ⟨fun h hmem => ?_, fun h piece hpiece => ?_⟩
    · exact absurd (h [] hmem) (by decide)
    · have hne : piece ≠ [] := fun hnil => h (hnil ▸ hpiece)
      simpa using hne
  rw [hgaps]
  exact ⟨fun h => ⟨h.1, h.2, h.3, h.4⟩, fun h => ⟨h.1, h.2.1, h.2.2.1, h.2.2.2⟩⟩

instance (path : String) : Decidable (PlainPath path) := decidable_of_iff _ plainPath_iff.symm

theorem segmentsOf_of_pathBehind_nil {path : String} (h : pathBehind path = []) :
    segmentsOf path = [] := by
  rw [segmentsOf_eq, h]
  rfl

/-- Without gaps, the segments of a path are all that stands between its slashes. -/
theorem map_segmentsOf_of_no_gaps {path : String} (h : [] ∉ (pathBehind path).splitOn '/') :
    (segmentsOf path).map String.toList = (pathBehind path).splitOn '/' := by
  rw [segmentsOf_eq, List.filter_eq_self.mpr, List.map_map]
  · exact (List.map_congr_left fun piece _ => String.toList_ofList).trans (List.map_id _)
  · intro piece hpiece
    have hne : piece ≠ [] := fun hnil => h (hnil ▸ hpiece)
    simpa using hne

/-- Between slashes there are more parts than segments if one of them is empty. -/
theorem no_gaps_of_length {path : String} (hne : pathBehind path ≠ [])
    (h : ((pathBehind path).splitOn '/').length = (orEmpty (segmentsOf path)).length) :
    [] ∉ (pathBehind path).splitOn '/' := by
  intro hmem
  have hfewer : (segmentsOf path).length < ((pathBehind path).splitOn '/').length := by
    rw [segmentsOf_eq, List.length_map, List.length_filter_lt_length_iff_exists]
    exact ⟨[], hmem, by simp⟩
  rw [orEmpty] at h
  split at h
  · obtain ⟨piece, hpiece⟩ := List.length_eq_one_iff.mp h
    rw [hpiece] at hmem
    have hjoined : ['/'].intercalate ((pathBehind path).splitOn '/') = pathBehind path :=
      List.intercalate_splitOn '/'
    rw [hpiece, ← List.mem_singleton.mp hmem] at hjoined
    exact hne hjoined.symm
  · omega

theorem ReadAsIs.map_askedSegments {path : String} (h : ReadAsIs (pathBehind path)) :
    (askedSegments path).map segmentBytes = ((pathBehind path).splitOn '/').map percentBytes := by
  rw [h.askedSegments_eq.1, List.map_map]
  exact List.map_congr_left fun piece _ => segmentBytes_percentText piece

section Server

variable {base : String} {server u : WebUrl} {path : String}

theorem PlainPath.query_eq_none (h : PlainPath path) (hserves : Serves base server)
    (hu : resourceUrl base path = .ok u) : u.query = none := by
  obtain ⟨done, -, -, hread⟩ := hserves.exists_resourceUrl
  rw [hread path, Except.ok.injEq] at hu
  rw [← hu]
  exact h.read_as_is.askedSegments_eq.2

/-- The URL for a path reaches the resource that the segments of the path tell exactly if the path
is plain. -/
theorem Serves.reaches_segmentsOf_iff (h : Serves base server)
    (hu : resourceUrl base path = .ok u) :
    Reaches base (segmentsOf path) u ↔ PlainPath path := by
  rw [h.reaches_iff hu (bytesSaid_asked_le path)]
  constructor
  · rintro ⟨hdots, hsaid⟩
    have hasis : ReadAsIs (pathBehind path) := by
      obtain ⟨said, hsegments, hmap⟩ := map_orEmpty_iff.mpr hsaid
      have hbytes := bytesSaid_of_map_eq hmap
      exact readAsIs_of_bytesSaid (by rw [hsegments, hbytes])
    rw [hasis.map_askedSegments] at hsaid
    by_cases hrest : pathBehind path = []
    · have hnone := segmentsOf_of_pathBehind_nil hrest
      exact ⟨hasis, fun hne => (hne hrest).elim, by simp [hnone], by simp [hnone]⟩
    have hgaps : [] ∉ (pathBehind path).splitOn '/' := by
      have hlength := congrArg List.length hsaid
      rw [List.length_map, List.length_map] at hlength
      exact no_gaps_of_length hrest hlength
    have hpieces := map_segmentsOf_of_no_gaps hgaps
    have hnames : segmentsOf path ≠ [] := by
      intro hnil
      rw [hnil] at hpieces
      exact List.splitOn_ne_nil '/' _ hpieces.symm
    refine ⟨hasis, fun _ => hgaps, fun s hs => ?_, fun s hs => ?_⟩
    · have hmem : urlSegment s.toList ∈ askedSegments path := by
        rw [hasis.askedSegments_eq.1, ← hpieces]
        exact List.mem_map_of_mem (List.mem_map_of_mem hs)
      have hplain := hdots _ hmem
      constructor
      all_goals
        rintro rfl
        exact absurd hplain (by decide +kernel)
    · rw [← hpieces, List.map_map, orEmpty_of_ne_nil hnames] at hsaid
      exact percentBytes_eq_iff.mp (List.map_inj_left.mp hsaid s hs)
  · intro hplain
    by_cases hrest : pathBehind path = []
    · have hasked : askedSegments path = [""] := by
        rw [hplain.read_as_is.askedSegments_eq.1, hrest]
        rfl
      rw [hasked, segmentsOf_of_pathBehind_nil hrest]
      decide +kernel
    have hpieces := map_segmentsOf_of_no_gaps (hplain.no_gaps hrest)
    have hnames : segmentsOf path ≠ [] := by
      intro hnil
      rw [hnil] at hpieces
      exact List.splitOn_ne_nil '/' _ hpieces.symm
    have hread : ∀ s ∈ segmentsOf path, percentBytes s.toList = textBytes s := fun s hs =>
      percentBytes_eq_iff.mpr (hplain.no_escapes s hs)
    constructor
    · rw [hplain.read_as_is.askedSegments_eq.1, ← hpieces, List.map_map, List.forall_mem_map]
      intro s hs
      refine Bool.eq_false_iff.mpr fun hdots => ?_
      have hsaid : segmentBytes (urlSegment s.toList) = textBytes s :=
        (segmentBytes_percentText s.toList).trans (hread s hs)
      have hor := textBytes_of_isDots hdots hsaid
      have hnot := hplain.no_dots s hs
      exact hor.elim hnot.1 hnot.2
    · rw [hplain.read_as_is.map_askedSegments, ← hpieces, List.map_map, orEmpty_of_ne_nil hnames]
      exact List.map_congr_left hread

end Server

/-! ## Requests for plain paths -/

/-- The query of a request that carries nothing but its fields. -/
def ownQuery? (verb : Verb) (fields : Params) : Option String :=
  if verb.sendsBody || fields.fields.isEmpty then none else some (formPairs fields.fields)

theorem reaches_addPairs (base : String) (names : List String) (u : WebUrl)
    (pairs : List (String × String)) :
    Reaches base names (u.addPairs pairs) ↔ Reaches base names u := by
  rw [WebUrl.addPairs]
  split
  · exact Iff.rfl
  · exact Iff.rfl

/-- A request goes to the resource that the segments of its path tell, with no query but that of its
fields, exactly if the base stands for a server and the path is plain. -/
theorem httpRequest_reaches_iff {access : Access} {verb : Verb} {path : String} {fields : Params}
    {request : HttpRequest} (h : httpRequest access verb path fields = .ok request) :
    (Reaches access.base (segmentsOf path) request.url ∧
        request.url.query = ownQuery? request.verb fields) ↔
      (∃ server, Serves access.base server) ∧ PlainPath path := by
  have hverb := verb_httpRequest h
  obtain ⟨u, hu, -, hrequest⟩ := httpRequest_eq_ok.mp h
  have hurl : request.url = if verb.sendsBody then u else u.addPairs fields.fields := by
    rw [hrequest]
    split <;> rfl
  have hreaches : Reaches access.base (segmentsOf path) request.url ↔
      Reaches access.base (segmentsOf path) u := by
    rw [hurl]
    split
    · exact Iff.rfl
    · exact reaches_addPairs ..
  rw [hreaches]
  constructor
  · rintro ⟨hu', -⟩
    obtain ⟨server, hserves⟩ := exists_serves_of_reaches hu hu'
    exact ⟨⟨server, hserves⟩, (hserves.reaches_segmentsOf_iff hu).mp hu'⟩
  · rintro ⟨⟨server, hserves⟩, hplain⟩
    have hquery := hplain.query_eq_none hserves hu
    refine ⟨(hserves.reaches_segmentsOf_iff hu).mpr hplain, ?_⟩
    rw [hurl, hverb, ownQuery?]
    cases verb.sendsBody with
    | true => simpa using hquery
    | false => cases hfields : fields.fields <;> simp [WebUrl.addPairs, hquery]

end ApiAtlas.Request
