import ApiAtlas.Proofs.Request.Resource
import Mathlib.Data.List.Flatten

/-!
# Encoded keys in URLs

A path that is made of literals and of encoded keys reaches the resource that the literals and keys
tell, except for two kinds of keys. The points of a key of one or two points are not escaped and are
resolved, and an empty key at the beginning is passed over with its slash.
-/

namespace ApiAtlas.Request

open Resources

/-! ## Encoded texts -/

theorem segmentBytes_encodeSegment (text : String) :
    segmentBytes (encodeSegment text) = textBytes text :=
  percentBytes_percentText (by decide) text.toList

theorem isDots_encodeSegment_iff {text : String} :
    isDots (encodeSegment text) = true ↔ text = "." ∨ text = ".." := by
  constructor
  · exact fun h => textBytes_of_isDots h (segmentBytes_encodeSegment text)
  · rintro (rfl | rfl) <;> decide +kernel

def isEncodedChar (c : Char) : Bool := isUnreserved c || c == '%'

theorem isEncodedChar_of_mem_encodeSegment {text : String} {c : Char}
    (h : c ∈ (encodeSegment text).toList) : isEncodedChar c = true := by
  rw [encodeSegment, percentText, String.toList_ofList] at h
  obtain ⟨d, -, hc⟩ := List.mem_flatMap.mp h
  rcases mem_percentChar hc with ⟨hplain, rfl⟩ | hescape
  · exact Bool.or_eq_true_iff.mpr (.inl hplain)
  · have hchars : ∀ c ∈ escapeChars, isEncodedChar c = true := List.all_eq_true.mp (by decide)
    exact hchars c hescape

/-- A character of an encoded text has no meaning of its own in a URL. -/
theorem encodedChar_class {c : Char} (h : isEncodedChar c = true) :
    isOuter c = false ∧ c ∉ ['?', '#', '\\', '\t', '\n', '\r', '/'] ∧ isPathChar c = true := by
  have hascii : c.toNat < 128 := by
    simp only [isEncodedChar, isUnreserved, Bool.or_eq_true, beq_iff_eq] at h
    rcases h with ((((halnum | rfl) | rfl) | rfl) | rfl) | rfl
    · exact Text.toNat_lt_of_isAlphanum halnum
    all_goals decide
  exact Text.forall_ascii (P := fun c => isEncodedChar c = true → isOuter c = false ∧
    c ∉ ['?', '#', '\\', '\t', '\n', '\r', '/'] ∧ isPathChar c = true) (by decide +kernel) hascii h

def IsEncoded (text : String) : Prop := ∀ c ∈ text.toList, isEncodedChar c = true

theorem urlSegment_of_isEncoded {text : String} (h : IsEncoded text) :
    urlSegment text.toList = text := by
  have hchars : text.toList.flatMap (percentChar isPathChar) = text.toList.flatMap ([·]) :=
    List.flatMap_congr fun c hc => by
      rw [percentChar, if_pos (encodedChar_class (h c hc)).2.2]
  rw [urlSegment, percentText, hchars, List.flatMap_singleton', String.ofList_toList]

/-- The texts behind the empty ones at the beginning. -/
def kept (texts : List String) : List String := texts.dropWhile (· == "")

/-- Slashes at the beginning of a path are dropped with the empty texts between them. -/
theorem splitOn_pathBehind {texts : List String} (h : ∀ t ∈ texts, '/' ∉ t.toList) :
    (pathBehind (joinPath texts)).splitOn '/' = (orEmpty (kept texts)).map String.toList := by
  induction texts with
  | nil => rfl
  | cons text rest ih =>
    obtain ⟨htext, hrest⟩ := List.forall_mem_cons.mp h
    have hlist : (joinPath (text :: rest)).toList =
        '/' :: (text.toList ++ (joinPath rest).toList) := by
      rw [toList_joinPath, toList_joinPath, List.flatMap_cons, List.cons_append]
    have hskip : pathBehind (joinPath (text :: rest)) =
        (text.toList ++ (joinPath rest).toList).dropWhile (· == '/') := by
      rw [pathBehind, hlist, List.dropWhile_cons_of_pos (by decide)]
    by_cases hempty : text = ""
    · rw [hskip, hempty]
      exact ih hrest
    · have hfirst : pathBehind (joinPath (text :: rest)) =
          text.toList ++ (joinPath rest).toList := by
        obtain ⟨c, cs, hcs⟩ := List.exists_cons_of_ne_nil fun hnil =>
          hempty (String.toList_eq_nil_iff.mp hnil)
        have hne : c ≠ '/' := fun heq => htext (by rw [hcs, heq]; exact List.mem_cons_self)
        rw [hskip, hcs, List.cons_append, List.dropWhile_cons_of_neg (by simpa using hne)]
      have hsplit := splitOn_joinPath_of_no_slash h
      have hkept : kept (text :: rest) = text :: rest :=
        List.dropWhile_cons_of_neg (by simpa using hempty)
      rw [hlist, ← hfirst, ← List.nil_append ('/' :: _), List.splitOn_append_cons_self,
        List.splitOn_nil, List.singleton_append, List.cons.injEq] at hsplit
      rw [hsplit.2, hkept, orEmpty_of_ne_nil (List.cons_ne_nil text rest)]

/-! ## Paths of encoded texts -/

theorem isEncoded_encodeSegment (text : String) : IsEncoded (encodeSegment text) :=
  fun _ hc => isEncodedChar_of_mem_encodeSegment hc

theorem encodeSegment_eq_empty_iff {text : String} : encodeSegment text = "" ↔ text = "" := by
  constructor
  · intro h
    have hempty : segmentBytes "" = textBytes "" := by simp [segmentBytes, textBytes, percentBytes]
    have hbytes := segmentBytes_encodeSegment text
    rw [h, hempty] at hbytes
    exact textBytes_injective hbytes.symm
  · rintro rfl
    rfl

theorem slash_not_mem_of_isEncoded {text : String} (h : IsEncoded text) : '/' ∉ text.toList :=
  fun hmem => (encodedChar_class (h '/' hmem)).2.1 (by decide)

theorem readAsIs_of_isEncoded {texts : List String} (h : ∀ t ∈ texts, IsEncoded t) :
    ReadAsIs (pathBehind (joinPath texts)) := by
  have hchars : ∀ c ∈ pathBehind (joinPath texts), c = '/' ∨ isEncodedChar c = true := by
    intro c hc
    have hmem := (List.dropWhile_sublist _).mem hc
    rw [toList_joinPath] at hmem
    obtain ⟨text, htext, hmem⟩ := List.mem_flatMap.mp hmem
    exact (List.mem_cons.mp hmem).imp_right (h text htext c)
  constructor
  · intro c hc
    rcases hchars c hc with rfl | hencoded
    · decide
    · have hclass := (encodedChar_class hencoded).2.1
      simp only [List.mem_cons, not_or] at hclass ⊢
      simp [hclass]
  · intro c hc
    rcases hchars c (List.mem_of_getLast? hc) with rfl | hencoded
    · decide
    · exact (encodedChar_class hencoded).1

theorem kept_encoded (values : List String) :
    kept (values.map encodeSegment) = (kept values).map encodeSegment := by
  have hempty : (fun text => text == "") ∘ encodeSegment = fun text => text == "" := by
    funext text
    exact Bool.eq_iff_iff.mpr (by simpa using encodeSegment_eq_empty_iff)
  rw [kept, List.dropWhile_map, hempty, kept]

theorem orEmpty_encoded (values : List String) :
    orEmpty (values.map encodeSegment) = (orEmpty values).map encodeSegment := by
  cases values <;> rfl

theorem map_segmentBytes_encoded (values : List String) :
    (values.map encodeSegment).map segmentBytes = values.map textBytes := by
  rw [List.map_map]
  refine List.map_congr_left fun value _ => ?_
  rw [Function.comp_apply, segmentBytes_encodeSegment]

/-- Nothing is passed over unless an empty value stands in front of others. -/
theorem orEmpty_kept_iff {values : List String} :
    orEmpty (kept values) = orEmpty values ↔ ∀ rest, values = "" :: rest → rest = [] := by
  cases values with
  | nil => simp [kept]
  | cons value rest =>
    by_cases hempty : value = ""
    · have hkept : kept (value :: rest) = kept rest :=
        List.dropWhile_cons_of_pos (by simpa using hempty)
      rw [hkept, hempty, orEmpty_of_ne_nil (List.cons_ne_nil "" rest)]
      constructor
      · intro h rest' hrest
        obtain rfl := (List.cons.inj hrest).2
        have hlength := congrArg List.length h
        have hle : (kept rest).length ≤ rest.length := (List.dropWhile_sublist _).length_le
        refine List.length_eq_zero_iff.mp ?_
        rw [orEmpty, List.length_cons] at hlength
        split at hlength
        · simpa using hlength.symm
        · omega
      · intro h
        rw [h rest rfl]
        rfl
    · have hkept : kept (value :: rest) = value :: rest :=
        List.dropWhile_cons_of_neg (by simpa using hempty)
      simp [hkept, hempty]

/-- The URL for encoded values reaches what they tell exactly if none of them is of one or two
points and no empty one stands in front of others. -/
theorem Serves.reaches_encoded_iff {base : String} {server : WebUrl} (h : Serves base server)
    (values : List String) :
    ∃ u, resourceUrl base (joinPath (values.map encodeSegment)) = .ok u ∧ u.query = none ∧
      (Reaches base values u ↔ (∀ v ∈ values, v ≠ "." ∧ v ≠ "..") ∧
        ∀ rest, values = "" :: rest → rest = []) := by
  have hencoded : ∀ t ∈ values.map encodeSegment, IsEncoded t := by
    intro t ht
    obtain ⟨value, -, rfl⟩ := List.mem_map.mp ht
    exact isEncoded_encodeSegment value
  obtain ⟨hasked, hquery⟩ := (readAsIs_of_isEncoded hencoded).askedSegments_eq
  rw [splitOn_pathBehind fun t ht => slash_not_mem_of_isEncoded (hencoded t ht), kept_encoded,
    orEmpty_encoded, List.map_map, List.map_map] at hasked
  have hsegments : askedSegments (joinPath (values.map encodeSegment)) =
      (orEmpty (kept values)).map encodeSegment := by
    rw [hasked]
    exact List.map_congr_left fun value _ => urlSegment_of_isEncoded (isEncoded_encodeSegment value)
  have hle : bytesSaid (askedSegments (joinPath (values.map encodeSegment))) ≤
      (values.flatMap textBytes).length := by
    rw [hsegments, ← orEmpty_encoded, bytesSaid_of_map_eq (map_segmentBytes_encoded (kept values))]
    exact ((List.dropWhile_sublist _).flatMap _).length_le
  obtain ⟨done, -, -, hread⟩ := h.exists_resourceUrl
  refine ⟨_, hread _, hquery, ?_⟩
  rw [h.reaches_iff (hread _) hle, hsegments, map_segmentBytes_encoded,
    (List.map_injective_iff.mpr fun a b => textBytes_injective).eq_iff, orEmpty_kept_iff]
  refine and_congr_left fun hempty => ?_
  have hdots : ∀ v, isDots (encodeSegment v) = false ↔ v ≠ "." ∧ v ≠ ".." := by
    intro v
    rw [← not_or, ← isDots_encodeSegment_iff, Bool.not_eq_true]
  rw [orEmpty_kept_iff.mpr hempty, List.forall_mem_map]
  simp only [hdots]
  cases values with
  | nil => simp [orEmpty]
  | cons value rest => rw [orEmpty_of_ne_nil (List.cons_ne_nil value rest)]

/-! ## Literals and keys -/

/-- A part of a path: a literal, which stands as it is, or a key, which is encoded. -/
inductive PathPart where
  | literal (text : String)
  | key (value : String)
  deriving DecidableEq, Repr

namespace PathPart

def value : PathPart → String
  | literal text => text
  | key value => value

def text : PathPart → String
  | literal text => text
  | key value => encodeSegment value

/-- Whether a literal is a word of ASCII letters, digits, hyphens and underscores. -/
def IsWord : PathPart → Prop
  | literal text =>
    text ≠ "" ∧ text.toList.all (fun c => c.isAlphanum || c == '-' || c == '_') = true
  | key _ => True

instance (part : PathPart) : Decidable part.IsWord :=
  match part with
  | literal text => inferInstanceAs (Decidable (text ≠ "" ∧ text.toList.all _ = true))
  | key _ => inferInstanceAs (Decidable True)

end PathPart

theorem encodeSegment_of_unreserved {text : String}
    (h : ∀ c ∈ text.toList, isUnreserved c = true) : encodeSegment text = text := by
  have hchars : text.toList.flatMap (percentChar isUnreserved) = text.toList.flatMap ([·]) :=
    List.flatMap_congr fun c hc => by rw [percentChar, if_pos (h c hc)]
  rw [encodeSegment, percentText, hchars, List.flatMap_singleton', String.ofList_toList]

theorem text_eq_encodeSegment {part : PathPart} (h : part.IsWord) :
    part.text = encodeSegment part.value := by
  cases part with
  | key value => rfl
  | literal text =>
    refine (encodeSegment_of_unreserved fun c hc => ?_).symm
    have hword := List.all_eq_true.mp h.2 c hc
    simp only [isUnreserved, Bool.or_eq_true] at hword ⊢
    exact .inl (.inl hword)

/-- A word is neither empty nor of points. -/
theorem value_of_isWord {part : PathPart} (h : part.IsWord) :
    (∃ value, part = .key value) ∨ part.value ≠ "" ∧ part.value ≠ "." ∧ part.value ≠ ".." := by
  cases part with
  | key value => exact .inl ⟨value, rfl⟩
  | literal text =>
    have hpoint : '.' ∉ text.toList := fun hmem => 
      absurd (List.all_eq_true.mp h.2 '.' hmem) (by decide)
    refine .inr ⟨h.1, ?_, ?_⟩
    all_goals
      rintro rfl
      exact hpoint (by decide)

/-- The URL for literals and encoded keys reaches what they tell exactly if the base stands for a
server, no key is of one or two points and no empty key stands in front of other parts. -/
theorem reaches_keys_iff (base : String) {parts : List PathPart} (hwords : ∀ p ∈ parts, p.IsWord) :
    (∃ u, resourceUrl base (joinPath (parts.map PathPart.text)) = .ok u ∧ u.query = none ∧
        Reaches base (parts.map PathPart.value) u) ↔
      (∃ server, Serves base server) ∧ (∀ v, .key v ∈ parts → v ≠ "." ∧ v ≠ "..") ∧
        ∀ rest, parts = .key "" :: rest → rest = [] := by
  have htexts : parts.map PathPart.text = (parts.map PathPart.value).map encodeSegment := by
    rw [List.map_map]
    exact List.map_congr_left fun p hp => text_eq_encodeSegment (hwords p hp)
  have hpoints : (∀ v ∈ parts.map PathPart.value, v ≠ "." ∧ v ≠ "..") ↔
      ∀ v, .key v ∈ parts → v ≠ "." ∧ v ≠ ".." := by
    rw [List.forall_mem_map]
    constructor
    · exact fun h v hv => h _ hv
    · intro h p hp
      rcases value_of_isWord (hwords p hp) with ⟨v, rfl⟩ | ⟨-, hvalue⟩
      · exact h v hp
      · exact hvalue
  have hempty : (∀ rest, parts.map PathPart.value = "" :: rest → rest = []) ↔
      ∀ rest, parts = .key "" :: rest → rest = [] := by
    constructor
    · rintro h rest rfl
      exact List.map_eq_nil_iff.mp (h _ rfl)
    · intro h rest hrest
      obtain ⟨p, ps, rfl, hp, rfl⟩ := List.map_eq_cons_iff.mp hrest
      rcases value_of_isWord (hwords p List.mem_cons_self) with ⟨v, rfl⟩ | ⟨hvalue, -⟩
      · obtain rfl : v = "" := hp
        rw [h ps rfl]
        rfl
      · exact absurd hp hvalue
  rw [htexts]
  constructor
  · rintro ⟨u, hu, -, hreaches⟩
    obtain ⟨server, hserves⟩ := exists_serves_of_reaches hu hreaches
    obtain ⟨u', hu', -, hiff⟩ := hserves.reaches_encoded_iff (parts.map PathPart.value)
    obtain rfl := Except.ok.inj (hu.symm.trans hu')
    exact ⟨⟨server, hserves⟩, hpoints.mp (hiff.mp hreaches).1, hempty.mp (hiff.mp hreaches).2⟩
  · rintro ⟨⟨server, hserves⟩, hkeys, hfirst⟩
    obtain ⟨u, hu, hquery, hiff⟩ := hserves.reaches_encoded_iff (parts.map PathPart.value)
    exact ⟨u, hu, hquery, hiff.mpr ⟨hpoints.mpr hkeys, hempty.mpr hfirst⟩⟩

/-- A base with an address for its host. -/
theorem serves_loopback : Serves "https://[::1]:8006/"
    ⟨true, "[::1]", some 8006, [""], none⟩ := ⟨by decide +kernel, by decide, by decide⟩

theorem reaches_keys_spaced :
    (∀ p ∈ [PathPart.literal "nodes", .key "pve 1/..", .literal "status"], p.IsWord) ∧
      ∃ u, resourceUrl "https://[::1]:8006/" "/nodes/pve%201%2F../status" = .ok u ∧ u.query = none ∧
        Reaches "https://[::1]:8006/" ["nodes", "pve 1/..", "status"] u := by
  have hwords : ∀ p ∈ [PathPart.literal "nodes", .key "pve 1/..", .literal "status"], p.IsWord := by
    decide
  have hpath : joinPath ([PathPart.literal "nodes", .key "pve 1/..", .literal "status"].map
      PathPart.text) = "/nodes/pve%201%2F../status" := by decide +kernel
  have hvalues : [PathPart.literal "nodes", .key "pve 1/..", .literal "status"].map
      PathPart.value = ["nodes", "pve 1/..", "status"] := rfl
  have hreaches := (reaches_keys_iff "https://[::1]:8006/" hwords).mpr
    ⟨⟨_, serves_loopback⟩, by simp, by simp⟩
  rw [hpath, hvalues] at hreaches
  exact ⟨hwords, hreaches⟩

/-- A key of two points leads to another resource. -/
theorem not_reaches_parent : ∃ u,
    resourceUrl "https://[::1]:8006/" (joinPath ([PathPart.literal "nodes", .key "..",
      .literal "status"].map PathPart.text)) = .ok u ∧ u.target = "/api2/json/status" ∧
        ¬ Reaches "https://[::1]:8006/" ["nodes", "..", "status"] u := by
  have hurl : resourceUrl "https://[::1]:8006/" (joinPath ([PathPart.literal "nodes", .key "..",
      .literal "status"].map PathPart.text)) =
        .ok ⟨true, "[::1]", some 8006, ["api2", "json", "status"], none⟩ := by decide +kernel
  have hpath : joinPath ([PathPart.literal "nodes", .key "..", .literal "status"].map
      PathPart.text) = joinPath (["nodes", "..", "status"].map encodeSegment) := by decide +kernel
  obtain ⟨u, hu, -, hiff⟩ := serves_loopback.reaches_encoded_iff ["nodes", "..", "status"]
  rw [← hpath, hurl, Except.ok.injEq] at hu
  refine ⟨u, hu ▸ hurl, hu ▸ by decide, fun hreaches => ?_⟩
  exact ((hiff.mp hreaches).1 ".." (by decide)).2 rfl

end ApiAtlas.Request
