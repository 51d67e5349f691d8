import ApiAtlas.Proofs.Request.Dots
import ApiAtlas.Proofs.Request.Http
import ApiAtlas.Proofs.Request.Server

/-!
# URLs of resources

A URL reaches a resource if its path is that of the server, the place of the resources and one
segment for each name on the way, which says the name. The URL that is made of a base and a path
reaches a resource exactly if no segment of the path is one of dots and the segments say the names.
-/

namespace ApiAtlas.Request

open Resources

/-! ## Paths and their segments -/

theorem joinPath_append_list (front back : List String) :
    joinPath (front ++ back) = joinPath front ++ joinPath back := by
  rw [← String.toList_inj, String.toList_append, toList_joinPath, toList_joinPath, toList_joinPath,
    List.flatMap_append]

theorem joinPath_singleton (name : String) : joinPath [name] = "/" ++ name := by
  rw [joinPath, List.foldl_cons, List.foldl_nil, pathBelow, String.empty_append]

theorem splitOn_joinPath_of_no_slash {names : List String} (h : ∀ s ∈ names, '/' ∉ s.toList) :
    (joinPath names).toList.splitOn '/' = [] :: names.map String.toList := by
  rw [splitOn_joinPath, List.map_eq_flatMap]
  exact congrArg ([] :: ·) (List.flatMap_congr fun s hs => List.splitOn_eq_singleton (h s hs))

theorem joinPath_injective {xs ys : List String} (hxs : ∀ s ∈ xs, '/' ∉ s.toList)
    (hys : ∀ s ∈ ys, '/' ∉ s.toList) (h : joinPath xs = joinPath ys) : xs = ys := by
  have hlists := splitOn_joinPath_of_no_slash hxs
  rw [h, splitOn_joinPath_of_no_slash hys, List.cons.injEq] at hlists
  exact (List.map_injective_iff.mpr fun a b hab => String.toList_inj.mp hab) hlists.2.symm

theorem joinPath_eq_intercalate {names : List String} (h : names ≠ []) :
    joinPath names = "/" ++ "/".intercalate names := by
  match names with
  | [] => contradiction
  | [name] => simp [joinPath_singleton]
  | name :: next :: rest =>
    have hrest : joinPath (next :: rest) = "/" ++ "/".intercalate (next :: rest) :=
      joinPath_eq_intercalate (List.cons_ne_nil _ _)
    rw [← List.singleton_append, joinPath_append_list, joinPath_singleton, hrest]
    rw [List.singleton_append, String.intercalate_cons_cons]
    simp only [String.append_assoc]

theorem resolveDots_ne_nil (done : List String) {segments : List String} (h : segments ≠ []) :
    resolveDots done segments ≠ [] := by
  induction segments generalizing done with
  | nil => contradiction
  | cons segment rest ih =>
    rw [resolveDots_cons]
    cases rest with
    | nil =>
      rw [resolveDots, List.isEmpty_nil, dotStep]
      split
      · simp
      split <;> simp
    | cons next rest => exact ih _ (List.cons_ne_nil next rest)

/-! ## Servers -/

/-- Whether a base stands for a server: it is the front of a URL, without a query or a fragment. -/
structure Serves (base : String) (server : WebUrl) : Prop where
  read : WebUrl.ofText (serverBase base.toList ++ ['/']) = .ok (some server)
  no_query : '?' ∉ serverBase base.toList
  no_fragment : '#' ∉ serverBase base.toList

def pathBehind (path : String) : List Char := path.toList.dropWhile (· == '/')

/-- What is read of a path behind the place of the resources. -/
def askedText (path : String) : List Char := cleanedBack (pathBehind path)

/-- The segments that are read of a path. -/
def askedSegments (path : String) : List String :=
  (urlPieces (pathPart (askedText path))).map urlSegment

theorem toList_resourceText (base path : String) : (resourceText base path).toList =
    serverBase base.toList ++ '/' :: (resourceRoot ++ '/' :: pathBehind path) := by
  simp [resourceText, pathBehind]

theorem slash_not_mem_urlSegment {piece : List Char} (h : '/' ∉ piece) :
    '/' ∉ (urlSegment piece).toList := by
  rw [urlSegment, percentText, String.toList_ofList]
  intro hmem
  obtain ⟨c, hc, hslash⟩ := List.mem_flatMap.mp hmem
  rcases mem_percentChar hslash with ⟨-, heq⟩ | hescape
  · exact h (heq ▸ hc)
  · exact absurd hescape (by decide)

theorem slash_not_mem_askedSegments {path s : String} (h : s ∈ askedSegments path) :
    '/' ∉ s.toList := by
  obtain ⟨piece, hpiece, rfl⟩ := List.mem_map.mp h
  exact slash_not_mem_urlSegment (slash_not_mem_urlPieces hpiece)

theorem askedSegments_ne_nil (path : String) : askedSegments path ≠ [] := by
  rw [askedSegments, Ne, List.map_eq_nil_iff]
  exact List.splitOn_ne_nil _ _

/-- Whether a text is read in a URL as it is. -/
structure ReadAsIs (cs : List Char) : Prop where
  no_marks : ∀ c ∈ cs, c ∉ ['?', '#', '\\', '\t', '\n', '\r']
  no_outer_end : ∀ c ∈ cs.getLast?, isOuter c = false

instance (cs : List Char) : Decidable (ReadAsIs cs) :=
  decidable_of_iff ((cs.all fun c => c ∉ ['?', '#', '\\', '\t', '\n', '\r']) = true ∧
      cs.getLast?.all (isOuter · == false) = true) <| by
    rw [List.all_eq_true, Option.all_eq_true]
    simp only [decide_eq_true_eq, beq_iff_eq]
    exact ⟨fun h => ⟨h.1, h.2⟩, fun h => ⟨h.1, h.2⟩⟩

theorem dropEndWhile_eq_self {p : Char → Bool} {cs : List Char}
    (h : ∀ c, cs.getLast? = some c → p c = false) : Text.dropEndWhile p cs = cs := by
  rcases List.eq_nil_or_concat cs with rfl | ⟨front, last, rfl⟩
  · rfl
  · rw [List.concat_eq_append] at h ⊢
    exact dropEndWhile_append_stop (h last (by simp)) front []

theorem ReadAsIs.askedText_eq {path : String} (h : ReadAsIs (pathBehind path)) :
    askedText path = pathBehind path := by
  rw [askedText, cleanedBack, dropEndWhile_eq_self h.no_outer_end]
  refine List.filter_eq_self.mpr fun c hc => ?_
  have hmarks := h.no_marks c hc
  simp only [List.mem_cons, not_or] at hmarks
  simp [isKept, hmarks]

/-- What is read as it is has no query, and its segments are between its slashes. -/
theorem ReadAsIs.askedSegments_eq {path : String} (h : ReadAsIs (pathBehind path)) :
    askedSegments path = ((pathBehind path).splitOn '/').map urlSegment ∧
      queryPart (askedText path) = none := by
  have hmarks : '?' ∉ pathBehind path ∧ '#' ∉ pathBehind path :=
    ⟨fun hmem => h.no_marks _ hmem (by decide), fun hmem => h.no_marks _ hmem (by decide)⟩
  have hpath : pathPart (pathBehind path) = pathBehind path := by
    have happend := pathPart_append hmarks []
    rwa [List.append_nil, show pathPart [] = [] from rfl, List.append_nil] at happend
  have hquery : queryPart (pathBehind path) = none := by
    have happend := queryPart_append hmarks []
    rwa [List.append_nil] at happend
  have hslashes : (pathBehind path).map (fun c => if c == '\\' then '/' else c) =
      pathBehind path := by
    refine (List.map_congr_left fun c hc => ?_).trans (List.map_id _)
    have hne : c ≠ '\\' := fun heq => h.no_marks c hc (by rw [heq]; decide)
    simp [hne]
  rw [askedSegments, h.askedText_eq, hpath, urlPieces, hslashes]
  exact ⟨rfl, hquery⟩

/-- The URL of a resource is that of the server with what is read of the path at its end. -/
theorem Serves.exists_resourceUrl {base : String} {server : WebUrl} (h : Serves base server) :
    ∃ done, server.segments = done.reverse ++ [""] ∧ (∀ s ∈ done, '/' ∉ s.toList) ∧
      ∀ path, resourceUrl base path = .ok { server with
        segments := resolveDots ("json" :: "api2" :: done) (askedSegments path)
        query := queryPart (askedText path) } := by
  have hmarks : '?' ∉ frontPath (serverBase base.toList) ∧
      '#' ∉ frontPath (serverBase base.toList) :=
    ⟨fun hmem => h.no_query (mem_of_mem_frontPath hmem),
      fun hmem => h.no_fragment (mem_of_mem_frontPath hmem)⟩
  obtain ⟨pieces, hpieces, hread⟩ := exists_frontPieces hmarks fun c rest => frontPath_head
  obtain ⟨done, hdone⟩ := exists_done [] (pieces.map urlSegment)
  have hserver : server.segments = resolveDots [] (pieces.map urlSegment ++ [""]) := by
    have hempty := ofText_append h.read []
    rw [h.read, Except.ok.injEq, Option.some.injEq] at hempty
    have hsegments := congrArg WebUrl.segments hempty
    rw [show cleanedBack [] = [] from rfl, hread, List.map_append] at hsegments
    exact hsegments
  have hsegments : server.segments = done.reverse ++ [""] := by
    rw [hserver, hdone, resolveDots_of_plain (by decide +kernel)]
  refine ⟨done, hsegments, fun s hs => ?_, fun path => ?_⟩
  · have hmem : s ∈ server.segments := by
      rw [hsegments]
      exact List.mem_append_left _ (List.mem_reverse.mpr hs)
    rw [hserver] at hmem
    rcases mem_resolveDots hmem with hnil | hmem | rfl
    · exact absurd hnil List.not_mem_nil
    · rcases List.mem_append.mp hmem with hmem | hmem
      · obtain ⟨piece, hpiece, rfl⟩ := List.mem_map.mp hmem
        exact slash_not_mem_urlSegment (hpieces piece hpiece)
      · rw [List.mem_singleton.mp hmem]
        decide
    · decide
  · have hroot : ∀ cs, pathPart (resourceRoot ++ '/' :: cs) = resourceRoot ++ '/' :: pathPart cs :=
      fun cs => rfl
    have hquery : ∀ cs, queryPart (resourceRoot ++ '/' :: cs) = queryPart cs := fun cs => by
      have hplain : '?' ∉ resourceRoot ++ ['/'] ∧ '#' ∉ resourceRoot ++ ['/'] := by decide
      rw [← queryPart_append hplain cs, List.append_assoc, List.singleton_append]
    have hnames : ∀ cs,
        resolveDots [] ((pieces ++ urlPieces (resourceRoot ++ '/' :: cs)).map urlSegment) =
        resolveDots ("json" :: "api2" :: done) ((urlPieces cs).map urlSegment) := by
      intro cs
      have hapi : urlSegment "api2".toList = "api2" ∧ isDots "api2" = false := by decide +kernel
      have hjson : urlSegment "json".toList = "json" ∧ isDots "json" = false := by decide +kernel
      rw [List.map_append, urlPieces_root, List.map_cons, List.map_cons, hdone, resolveDots_cons,
        resolveDots_cons, hapi.1, hjson.1, dotStep_of_plain hapi.2, dotStep_of_plain hjson.2]
    rw [resourceUrl_eq_ok, toList_resourceText, ofText_append h.read, cleanedBack_root, hread,
      hroot, hquery, hnames]
    rfl

/-! ## Reaching a resource -/

/-- Whether a URL has the path of the server of a base, the place of the resources behind it, and
there a segment for each of some names that says the name. -/
def Reaches (base : String) (names : List String) (u : WebUrl) : Prop :=
  ∃ server segments, WebUrl.ofText (serverBase base.toList ++ ['/']) = .ok (some server) ∧
    u.isSecure = server.isSecure ∧ u.host = server.host ∧ u.portNumber = server.portNumber ∧
    u.path = server.path ++ "api2/json/" ++ "/".intercalate segments ∧
    (∀ s ∈ segments, '/' ∉ s.toList) ∧ segments.map segmentBytes = names.map textBytes

/-- The segments of a path without any are one that is empty. -/
def orEmpty (names : List String) : List String := if names.isEmpty then [""] else names

theorem orEmpty_of_ne_nil {names : List String} (h : names ≠ []) : orEmpty names = names := by
  rw [orEmpty, if_neg (by simpa using h)]

theorem joinPath_orEmpty (names : List String) :
    joinPath (orEmpty names) = "/" ++ "/".intercalate names := by
  cases names with
  | nil => decide
  | cons name rest => exact joinPath_eq_intercalate (List.cons_ne_nil name rest)

theorem slash_not_mem_orEmpty {names : List String} (h : ∀ s ∈ names, '/' ∉ s.toList) :
    ∀ s ∈ orEmpty names, '/' ∉ s.toList := by
  intro s hs
  rw [orEmpty] at hs
  split at hs
  · rw [List.mem_singleton.mp hs]
    decide
  · exact h s hs

/-- The names that segments say are those that these segments say if there are none. -/
theorem map_orEmpty_iff {segments names : List String} :
    (∃ said, segments = orEmpty said ∧ said.map segmentBytes = names.map textBytes) ↔
      segments.map segmentBytes = (orEmpty names).map textBytes := by
  cases names with
  | nil =>
    constructor
    · rintro ⟨said, rfl, hsaid⟩
      rw [List.map_nil, List.map_eq_nil_iff] at hsaid
      rw [hsaid]
      rfl
    · intro h
      obtain ⟨segment, rest, rfl, hsegment, hrest⟩ := List.map_eq_cons_iff.mp h
      rw [List.map_nil, List.map_eq_nil_iff] at hrest
      have hempty : segment = "" := by
        refine Classical.byContradiction fun hne => percentBytes_ne_nil ?_ hsegment
        simpa using hne
      rw [hempty, hrest]
      exact ⟨[], rfl, rfl⟩
  | cons name rest =>
    rw [orEmpty_of_ne_nil (List.cons_ne_nil name rest)]
    have hsame : ∀ said : List String, said.map segmentBytes = (name :: rest).map textBytes →
        orEmpty said = said := by
      intro said hsaid
      refine orEmpty_of_ne_nil ?_
      rintro rfl
      contradiction
    constructor
    · rintro ⟨said, rfl, hsaid⟩
      rw [hsame said hsaid]
      exact hsaid
    · exact fun h => ⟨segments, (hsame segments h).symm, h⟩

/-- A path behind that of a server is told by segments behind those of the server. -/
theorem path_eq_iff {server u : WebUrl} {done segments : List String}
    (hserver : server.segments = done.reverse ++ [""]) (hdone : ∀ s ∈ done, '/' ∉ s.toList)
    (hsegments : ∀ s ∈ segments, '/' ∉ s.toList) (hne : u.segments ≠ [])
    (hu : ∀ s ∈ u.segments, '/' ∉ s.toList) :
    u.path = server.path ++ "api2/json/" ++ "/".intercalate segments ↔
      u.segments = ("json" :: "api2" :: done).reverse ++ orEmpty segments := by
  have hfront : server.path = joinPath done.reverse ++ "/" := by
    rw [WebUrl.path, ← joinPath_eq_intercalate (by simp [hserver]), hserver, joinPath_append_list]
    rfl
  have hroot : joinPath ["api2", "json"] = "/api2/json" := by decide
  have hpath : server.path ++ "api2/json/" ++ "/".intercalate segments =
      joinPath (("json" :: "api2" :: done).reverse ++ orEmpty segments) := by
    rw [joinPath_append_list, joinPath_orEmpty, List.reverse_cons, List.reverse_cons,
      List.append_assoc, joinPath_append_list, List.singleton_append, hroot, hfront]
    simp only [String.append_assoc]
    rfl
  rw [hpath, WebUrl.path, ← joinPath_eq_intercalate hne]
  refine ⟨joinPath_injective hu ?_, congrArg joinPath⟩
  intro s hs
  rcases List.mem_append.mp hs with hs | hs
  · rcases List.mem_cons.mp (List.mem_reverse.mp hs) with rfl | hs
    · decide
    rcases List.mem_cons.mp hs with rfl | hs
    · decide
    · exact hdone s hs
  · exact slash_not_mem_orEmpty hsegments s hs

theorem bytesSaid_of_map_eq {segments names : List String}
    (h : segments.map segmentBytes = names.map textBytes) :
    bytesSaid (orEmpty segments) = (names.flatMap textBytes).length := by
  have hempty : bytesSaid (orEmpty segments) = bytesSaid segments := by
    cases segments <;> rfl
  have hbytes : segments.flatMap segmentBytes = names.flatMap textBytes := by
    rw [List.flatMap_def, h, List.flatMap_def]
  rw [hempty, bytesSaid, hbytes]

section Server

variable {base : String} {server u : WebUrl} {path : String} {names : List String}

/-- If the segments of a path say no more than some names, its URL reaches what the names tell
exactly if none of the segments is one of dots and they say the names. -/
theorem Serves.reaches_iff (h : Serves base server) (hu : resourceUrl base path = .ok u)
    (hle : bytesSaid (askedSegments path) ≤ (names.flatMap textBytes).length) :
    Reaches base names u ↔ (∀ s ∈ askedSegments path, isDots s = false) ∧
      (askedSegments path).map segmentBytes = (orEmpty names).map textBytes := by
  obtain ⟨done, hserver, hdone, hread⟩ := h.exists_resourceUrl
  rw [hread path, Except.ok.injEq] at hu
  have hsegments : u.segments = resolveDots ("json" :: "api2" :: done) (askedSegments path) :=
    congrArg WebUrl.segments hu.symm
  have hne : u.segments ≠ [] := hsegments ▸ resolveDots_ne_nil _ (askedSegments_ne_nil path)
  have hslash : ∀ s ∈ u.segments, '/' ∉ s.toList := by
    intro s hs
    rw [hsegments] at hs
    rcases mem_resolveDots hs with hs | hs | rfl
    · rcases List.mem_cons.mp hs with rfl | hs
      · decide
      rcases List.mem_cons.mp hs with rfl | hs
      · decide
      · exact hdone s hs
    · exact slash_not_mem_askedSegments hs
    · decide
  constructor
  · rintro ⟨server', said, hserver', -, -, -, hpath, hsaid, hbytes⟩
    obtain rfl := Option.some.inj (Except.ok.inj (h.read.symm.trans hserver'))
    rw [path_eq_iff hserver hdone hsaid hne hslash, hsegments] at hpath
    rw [← bytesSaid_of_map_eq hbytes] at hle
    obtain ⟨hplain, hadded⟩ := eq_of_resolveDots hpath hle
    exact ⟨hplain, map_orEmpty_iff.mp ⟨said, hadded.symm, hbytes⟩⟩
  · rintro ⟨hplain, hbytes⟩
    obtain ⟨said, hsaid, hsaidBytes⟩ := map_orEmpty_iff.mpr hbytes
    have hsaidSlash : ∀ s ∈ said, '/' ∉ s.toList := by
      intro s hs
      have hmem : s ∈ askedSegments path := by
        rw [hsaid, orEmpty_of_ne_nil (List.ne_nil_of_mem hs)]
        exact hs
      exact slash_not_mem_askedSegments hmem
    have hpath : u.path = server.path ++ "api2/json/" ++ "/".intercalate said := by
      rw [path_eq_iff hserver hdone hsaidSlash hne hslash, hsegments, resolveDots_of_plain hplain,
        hsaid]
    exact ⟨server, said, h.read, by rw [← hu], by rw [← hu], by rw [← hu], hpath, hsaidSlash,
      hsaidBytes⟩

/-- Nothing is reached behind a query or a fragment of the base. -/
theorem exists_serves_of_reaches (hu : resourceUrl base path = .ok u)
    (h : Reaches base names u) : ∃ server, Serves base server := by
  obtain ⟨server, said, hserver, -, -, -, hpath, -⟩ := h
  have hmarks : ¬ ('?' ∈ serverBase base.toList ∨ '#' ∈ serverBase base.toList) := by
    intro hmarks
    have hfront : '?' ∈ frontPath (serverBase base.toList) ∨
        '#' ∈ frontPath (serverBase base.toList) :=
      hmarks.imp (mem_frontPath hserver (.inl rfl)) (mem_frontPath hserver (.inr rfl))
    have hsegments : ∀ {back : List Char} {v : WebUrl},
        WebUrl.ofText (serverBase base.toList ++ '/' :: back) = .ok (some v) →
          v.segments = (pathAndQuery (frontPath (serverBase base.toList))).1 := by
      intro back v hv
      rw [ofText_append hserver, Except.ok.injEq, Option.some.injEq] at hv
      rw [← hv, fst_pathAndQuery_of_mem hfront]
    have hurl := resourceUrl_eq_ok.mp hu
    rw [toList_resourceText] at hurl
    have hsame : u.path = server.path := by
      rw [WebUrl.path, WebUrl.path, hsegments hurl, hsegments hserver]
    have hlength := congrArg String.length (hsame.symm.trans hpath)
    simp only [String.length_append] at hlength
    have hroot : "api2/json/".length = 10 := by decide
    omega
  exact ⟨server, hserver, fun hmem => hmarks (.inl hmem), fun hmem => hmarks (.inr hmem)⟩

end Server

end ApiAtlas.Request
