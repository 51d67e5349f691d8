import ApiAtlas.Proofs.Request.Url
import ApiAtlas.Proofs.Resources.Segments

/-!
# Below a server

The URL of a resource is the text of a base with the path of the resource behind a slash. Up to this
slash it is read as the base alone is, so that only what the path adds behind it has to be looked
at: it is cut at the marks of queries and fragments, and taken apart at slashes of both kinds.
-/

namespace ApiAtlas.Request

open Checks

/-! ## Up to a stop -/

section Stops

variable {α : Type} {p : α → Bool} {stop : α}

theorem dropWhile_append_stop (h : p stop = false) (xs ys : List α) :
    (xs ++ stop :: ys).dropWhile p = xs.dropWhile p ++ stop :: ys := by
  induction xs with
  | nil => simp [h]
  | cons x xs ih => cases hx : p x <;> simp [hx, ih]

theorem takeWhile_append_stop (h : p stop = false) (xs ys : List α) :
    (xs ++ stop :: ys).takeWhile p = xs.takeWhile p := by
  induction xs with
  | nil => simp [h]
  | cons x xs ih => cases hx : p x <;> simp [hx, ih]

theorem dropEndWhile_append_stop (h : p stop = false) (xs ys : List α) :
    Text.dropEndWhile p (xs ++ stop :: ys) = xs ++ stop :: Text.dropEndWhile p ys := by
  have hreverse : (xs ++ stop :: ys).reverse = ys.reverse ++ stop :: xs.reverse := by simp
  rw [Text.dropEndWhile, hreverse, dropWhile_append_stop h, Text.dropEndWhile]
  simp

theorem mem_dropWhile_of_stop (h : p stop = false) {xs : List α} (hmem : stop ∈ xs) :
    stop ∈ xs.dropWhile p := by
  obtain ⟨front, back, rfl⟩ := List.append_of_mem hmem
  rw [dropWhile_append_stop h]
  exact List.mem_append_right _ List.mem_cons_self

end Stops

/-! ## The slash behind a base -/

/-- Whether a character is kept inside of a URL. -/
def isKept (c : Char) : Bool := !(c == '\t' || c == '\n' || c == '\r')

/-- What is read of a text at the front of a URL. -/
def cleanedFront (cs : List Char) : List Char := (cs.dropWhile isOuter).filter isKept

/-- What is read of a text at the end of a URL. -/
def cleanedBack (cs : List Char) : List Char := (Text.dropEndWhile isOuter cs).filter isKept

theorem cleaned_append (front back : List Char) :
    cleaned (front ++ '/' :: back) = cleanedFront front ++ '/' :: cleanedBack back := by
  have houter : isOuter '/' = false := by decide
  rw [cleaned, dropWhile_append_stop houter, dropEndWhile_append_stop houter, List.filter_append]
  rfl

/-- Whether a character may stand in the part of a URL that names its host. -/
def isHostChar (c : Char) : Bool := !("/?#".toList.contains c || c == '\\')

theorem splitAuthority_eq (cs : List Char) :
    splitAuthority true cs = (cs.takeWhile isHostChar, cs.dropWhile isHostChar) := by
  rw [← List.span_eq_takeWhile_dropWhile]
  rfl

/-- What follows the host of a URL behind its scheme. -/
def behindHost (rest : List Char) : List Char :=
  (rest.dropWhile isSlash).dropWhile isHostChar

theorem webUrl_eq {rest : List Char} (h : rest.dropWhile isSlash ≠ []) (scheme : String)
    (back : List Char) : webUrl scheme (rest ++ '/' :: back) = do
      let (host, portNumber) ← hostAndPort true ((rest.dropWhile isSlash).takeWhile isHostChar)
      return ⟨scheme == "https", host, portNumber,
        (pathAndQuery (behindHost rest ++ '/' :: back)).1,
        (pathAndQuery (behindHost rest ++ '/' :: back)).2⟩ := by
  have hend : isHostChar '/' = false := by decide
  have hskip : (rest ++ '/' :: back).dropWhile isSlash = rest.dropWhile isSlash ++ '/' :: back := by
    rw [List.dropWhile_append, if_neg (by simpa using h)]
  simp only [webUrl, hskip, splitAuthority_eq]
  rw [takeWhile_append_stop hend, dropWhile_append_stop hend]
  rfl

/-- What is read behind a scheme and up to a slash names a host, or there is no URL. -/
theorem webUrl_append {scheme : String} {rest : List Char} {server : WebUrl}
    (h : webUrl scheme (rest ++ ['/']) = .ok server) (back : List Char) :
    webUrl scheme (rest ++ '/' :: back) = .ok { server with
      segments := (pathAndQuery (behindHost rest ++ '/' :: back)).1
      query := (pathAndQuery (behindHost rest ++ '/' :: back)).2 } := by
  have hhost : rest.dropWhile isSlash ≠ [] := by
    intro hnil
    have hslashes : (rest ++ ['/']).dropWhile isSlash = [] := by
      rw [List.dropWhile_append, hnil]
      rfl
    rw [webUrl, hslashes] at h
    contradiction
  rw [webUrl_eq hhost, bind_eq_ok] at h
  obtain ⟨⟨host, portNumber⟩, hread, h⟩ := h
  obtain rfl := Except.ok.inj h
  rw [webUrl_eq hhost, hread]
  rfl

/-- What is read of the front of a URL behind its scheme and its host. -/
def frontPath (front : List Char) : List Char :=
  behindHost (((cleanedFront front).dropWhile isSchemeChar).drop 1)

/-- A scheme that is read up to a slash ends in front of it. -/
theorem splitScheme?_append {front back rest : List Char} {scheme : String}
    (h : splitScheme? (front ++ '/' :: back) = some (scheme, rest)) :
    ∃ behind, front.dropWhile isSchemeChar = ':' :: behind ∧ rest = behind ++ '/' :: back ∧
      ∀ back, splitScheme? (front ++ '/' :: back) = some (scheme, behind ++ '/' :: back) := by
  have hslash : isSchemeChar '/' = false := by decide
  simp only [splitScheme?_eq_some, dropWhile_append_stop hslash,
    takeWhile_append_stop hslash] at h ⊢
  obtain ⟨hrest, hname⟩ := h
  cases hdrop : front.dropWhile isSchemeChar with
  | nil =>
    rw [hdrop] at hrest
    exact absurd (List.cons.inj hrest).1 (by decide)
  | cons mark behind =>
    rw [hdrop] at hrest
    obtain ⟨rfl, htail⟩ := List.cons.inj hrest
    exact ⟨behind, rfl, htail.symm, fun back => ⟨rfl, hname⟩⟩

section Fronts

variable {front : List Char} {server : WebUrl}

/-- Behind a front that names a server, a URL of the server is read. -/
theorem ofText_append (h : WebUrl.ofText (front ++ ['/']) = .ok (some server)) (back : List Char) :
    WebUrl.ofText (front ++ '/' :: back) = .ok (some { server with
      segments := (pathAndQuery (frontPath front ++ '/' :: cleanedBack back)).1
      query := (pathAndQuery (frontPath front ++ '/' :: cleanedBack back)).2 }) := by
  obtain ⟨scheme, rest, hscheme, hweb, hserver⟩ := ofText_eq_some.mp h
  rw [cleaned_append] at hscheme
  obtain ⟨behind, hbehind, rfl, hread⟩ := splitScheme?_append hscheme
  have hfront : frontPath front = behindHost behind := by
    rw [frontPath, hbehind]
    rfl
  rw [ofText_eq_some, cleaned_append, hfront]
  exact ⟨scheme, _, hread _, hweb, webUrl_append hserver _⟩

theorem mem_of_mem_frontPath {c : Char} (h : c ∈ frontPath front) : c ∈ front := by
  have hsub : (frontPath front).Sublist (cleanedFront front) :=
    (List.dropWhile_sublist _).trans <| (List.dropWhile_sublist _).trans <|
      (List.drop_sublist _ _).trans (List.dropWhile_sublist _)
  exact (List.dropWhile_sublist _).mem (List.mem_filter.mp (hsub.mem h)).1

/-- The marks of queries and fragments are not passed over. -/
theorem mem_frontPath (h : WebUrl.ofText (front ++ ['/']) = .ok (some server)) {c : Char}
    (hc : c = '?' ∨ c = '#') (hmem : c ∈ front) : c ∈ frontPath front := by
  have hclass : isOuter c = false ∧ isKept c = true ∧ isSchemeChar c = false ∧ c ≠ ':' ∧
      isSlash c = false ∧ isHostChar c = false := by
    rcases hc with rfl | rfl <;> decide
  obtain ⟨houter, hkept, hschemeChar, hcolon, hslash, hhost⟩ := hclass
  obtain ⟨scheme, rest, hscheme, -⟩ := ofText_eq_some.mp h
  rw [cleaned_append] at hscheme
  obtain ⟨behind, hbehind, -⟩ := splitScheme?_append hscheme
  have hcleaned : c ∈ cleanedFront front :=
    List.mem_filter.mpr ⟨mem_dropWhile_of_stop houter hmem, hkept⟩
  have hmem := mem_dropWhile_of_stop hschemeChar hcleaned
  rw [hbehind] at hmem
  have hrest := (List.mem_cons.mp hmem).resolve_left hcolon
  rw [frontPath, hbehind]
  exact mem_dropWhile_of_stop hhost (mem_dropWhile_of_stop hslash hrest)

theorem frontPath_head {c : Char} {rest : List Char} (h : frontPath front = c :: rest) :
    isHostChar c = false := by
  have hhead := List.head?_dropWhile_not isHostChar
    ((((cleanedFront front).dropWhile isSchemeChar).drop 1).dropWhile isSlash)
  rw [← behindHost, ← frontPath, h] at hhead
  simpa using hhead

end Fronts

/-! ## Paths behind the slash -/

/-- Whether a character starts neither a query nor a fragment. -/
def isInPath (c : Char) : Bool := c != '?' && c != '#'

/-- The part of a text in front of a query and a fragment. -/
def pathPart (cs : List Char) : List Char := cs.takeWhile isInPath

def queryPart (cs : List Char) : Option String :=
  match (cs.takeWhile (· != '#')).dropWhile (· != '?') with
  | _ :: query => some (percentText isQueryChar query)
  | [] => none

/-- A path without a slash at its beginning. -/
def behindSlash : List Char → List Char
  | '/' :: path | '\\' :: path => path
  | path => path

/-- The pieces of a path between slashes of both kinds. -/
def urlPieces (cs : List Char) : List (List Char) :=
  (cs.map fun c => if c == '\\' then '/' else c).splitOn '/'

/-- A piece of a path as a segment of a URL. -/
def urlSegment (piece : List Char) : String := percentText isPathChar piece

theorem pathAndQuery_eq (cs : List Char) : pathAndQuery cs =
    (resolveDots [] ((urlPieces (behindSlash (pathPart cs))).map urlSegment), queryPart cs) := by
  have hpath : (cs.takeWhile (· != '#')).takeWhile (· != '?') = pathPart cs := by
    rw [List.takeWhile_takeWhile, pathPart]
    simp only [Bool.decide_and, Bool.decide_eq_true]
    rfl
  simp only [pathAndQuery, hpath]
  rfl

theorem slash_not_mem_urlPieces {cs piece : List Char} (h : piece ∈ urlPieces cs) : '/' ∉ piece :=
  Text.not_mem_of_mem_splitOn h

theorem urlPieces_append (front back : List Char) :
    urlPieces (front ++ '/' :: back) = urlPieces front ++ urlPieces back := by
  rw [urlPieces, List.map_append, List.map_cons]
  exact List.splitOn_append_cons_self ..

theorem pathPart_append {front : List Char} (h : '?' ∉ front ∧ '#' ∉ front) (back : List Char) :
    pathPart (front ++ back) = front ++ pathPart back := by
  refine List.takeWhile_append_of_pos fun c hc => ?_
  have hquestion : c ≠ '?' := fun heq => h.1 (heq ▸ hc)
  have hnumber : c ≠ '#' := fun heq => h.2 (heq ▸ hc)
  simp [isInPath, hquestion, hnumber]

theorem pathPart_append_of_mem {front : List Char} (h : '?' ∈ front ∨ '#' ∈ front)
    (back : List Char) : pathPart (front ++ back) = pathPart front := by
  obtain ⟨stop, hstop, hmem⟩ : ∃ stop, isInPath stop = false ∧ stop ∈ front := by
    rcases h with h | h
    · exact ⟨'?', by decide, h⟩
    · exact ⟨'#', by decide, h⟩
  obtain ⟨before, after, rfl⟩ := List.append_of_mem hmem
  rw [List.append_assoc, List.cons_append, pathPart, takeWhile_append_stop hstop, pathPart,
    takeWhile_append_stop hstop]

theorem queryPart_append {front : List Char} (h : '?' ∉ front ∧ '#' ∉ front) (back : List Char) :
    queryPart (front ++ back) = queryPart back := by
  have hfragment : ∀ c ∈ front, (c != '#') = true := by
    intro c hc
    simpa using fun heq : c = '#' => h.2 (heq ▸ hc)
  have hquery : ∀ c ∈ front, (c != '?') = true := by
    intro c hc
    simpa using fun heq : c = '?' => h.1 (heq ▸ hc)
  rw [queryPart, List.takeWhile_append_of_pos hfragment, List.dropWhile_append_of_pos hquery]
  rfl

/-- What follows the slash is added to pieces that only the front gives. -/
theorem exists_frontPieces {front : List Char} (h : '?' ∉ front ∧ '#' ∉ front)
    (hhead : ∀ c rest, front = c :: rest → isHostChar c = false) :
    ∃ pieces, (∀ piece ∈ pieces, '/' ∉ piece) ∧ ∀ back, pathAndQuery (front ++ '/' :: back) =
      (resolveDots [] ((pieces ++ urlPieces (pathPart back)).map urlSegment), queryPart back) := by
  have hslash : ∀ back, pathPart ('/' :: back) = '/' :: pathPart back := fun _ => rfl
  have hquery : ∀ back, queryPart ('/' :: back) = queryPart back := fun back =>
    queryPart_append (by decide : '?' ∉ ['/'] ∧ '#' ∉ ['/']) back
  cases front with
  | nil =>
    refine ⟨[], by simp, fun back => ?_⟩
    rw [pathAndQuery_eq, List.nil_append, hslash, hquery]
    rfl
  | cons first rest =>
    refine ⟨urlPieces rest, fun piece => slash_not_mem_urlPieces, fun back => ?_⟩
    have hfirst : first = '/' ∨ first = '\\' := by
      have hmark := hhead first rest rfl
      have hquestion : first ≠ '?' := fun heq => h.1 (heq ▸ List.mem_cons_self)
      have hnumber : first ≠ '#' := fun heq => h.2 (heq ▸ List.mem_cons_self)
      rw [or_iff_not_imp_left]
      simpa [isHostChar, hquestion, hnumber] using hmark
    have hbehind : ∀ cs, behindSlash (first :: cs) = cs := by
      rcases hfirst with rfl | rfl <;> exact fun _ => rfl
    rw [pathAndQuery_eq, pathPart_append h, queryPart_append h, hslash, hquery, List.cons_append,
      hbehind, urlPieces_append]

/-- Behind the mark of a query or a fragment, nothing is added to the path. -/
theorem fst_pathAndQuery_of_mem {front : List Char} (h : '?' ∈ front ∨ '#' ∈ front)
    (back : List Char) : (pathAndQuery (front ++ back)).1 = (pathAndQuery front).1 := by
  rw [pathAndQuery_eq, pathPart_append_of_mem h, pathAndQuery_eq]

theorem cleanedBack_root (cs : List Char) :
    cleanedBack (resourceRoot ++ '/' :: cs) = resourceRoot ++ '/' :: cleanedBack cs := by
  have houter : isOuter '/' = false := by decide
  rw [cleanedBack, dropEndWhile_append_stop houter, List.filter_append]
  rfl

theorem urlPieces_root (cs : List Char) :
    urlPieces (resourceRoot ++ '/' :: cs) = "api2".toList :: "json".toList :: urlPieces cs := by
  rw [urlPieces_append]
  rfl

end ApiAtlas.Request
