import ApiAtlas.Proofs.Checks
import ApiAtlas.Proofs.Json.Delimited
import ApiAtlas.Schema.Payload

/-!
# Documents in scripts

A document that is an array says the same when it stands in a script, behind the first `apiSchema`
and with no other opening bracket in between, whatever comes after it.
-/

namespace ApiAtlas.Schema

/-! ## The first occurrence of a word -/

/-- A text is cut at the first occurrence of a word, into what stands before and after it. -/
structure FirstOccurrence (word text before after : List Char) : Prop where
  text_eq : text = before ++ word ++ after
  length_le : ∀ front back, text = front ++ word ++ back → before.length ≤ front.length

namespace FirstOccurrence

variable {word text before after : List Char}

theorem start (word after : List Char) : FirstOccurrence word (word ++ after) [] after :=
  ⟨rfl, fun _ _ _ => Nat.zero_le _⟩

theorem cons {c : Char} (h : FirstOccurrence word text before after) (hword : ¬ word <+: c :: text) :
    FirstOccurrence word (c :: text) (c :: before) after := by
  refine ⟨by rw [h.text_eq]; rfl, fun front back htext => ?_⟩
  cases front with
  | nil => exact absurd ⟨back, htext.symm⟩ hword
  | cons d front => exact Nat.succ_le_succ (h.length_le front back (List.cons.inj htext).2)

/-- Without some of what stands before it, the first occurrence is the first still. -/
theorem drop (front : List Char)
    (h : FirstOccurrence word (front ++ text) (front ++ before) after) :
    FirstOccurrence word text before after := by
  refine ⟨?_, fun front' back htext => ?_⟩
  · have htext := h.text_eq
    rwa [List.append_assoc, List.append_assoc, List.append_cancel_left_eq, ← List.append_assoc]
      at htext
  · have hle := h.length_le (front ++ front') back (by rw [htext]; simp)
    simpa using hle

/-- What is appended to a text brings no earlier occurrence. -/
theorem append (h : FirstOccurrence word text before after) (more : List Char) :
    FirstOccurrence word (text ++ more) before (after ++ more) := by
  refine ⟨by rw [h.text_eq, List.append_assoc], fun front back htext => ?_⟩
  by_contra hlt
  have hlength : (front ++ word).length ≤ text.length := by
    rw [h.text_eq]
    simp only [List.length_append]
    omega
  obtain ⟨back', hback⟩ := List.prefix_of_prefix_length_le ⟨back, htext.symm⟩
    (List.prefix_append text more) hlength
  exact hlt (h.length_le front back' hback.symm)

end FirstOccurrence

theorem fromWord?_of_firstOccurrence {word text before after : List Char}
    (h : FirstOccurrence word text before after) : fromWord? word text = some (word ++ after) := by
  induction before generalizing text with
  | nil =>
    rw [h.text_eq, List.nil_append]
    cases hwhole : word ++ after with
    | nil => simp_all [fromWord?]
    | cons c rest =>
      have hword : word <+: c :: rest := hwhole ▸ List.prefix_append word after
      rw [fromWord?, if_pos (List.isPrefixOf_iff_prefix.mpr hword)]
  | cons c before ih =>
    obtain rfl : text = c :: (before ++ word ++ after) := h.text_eq
    have hword : ¬ word <+: c :: (before ++ word ++ after) := by
      rintro ⟨back, hback⟩
      exact absurd (h.length_le [] back hback.symm) (by simp)
    rw [fromWord?, if_neg (mt List.isPrefixOf_iff_prefix.mp hword)]
    exact ih (h.drop [c])

theorem exists_firstOccurrence {word text found : List Char} (h : fromWord? word text = some found) :
    ∃ before after, found = word ++ after ∧ FirstOccurrence word text before after := by
  induction text with
  | nil =>
    rw [fromWord?] at h
    split at h
    · rename_i hword
      obtain rfl := List.isEmpty_iff.mp hword
      obtain rfl := Option.some.inj h
      exact ⟨[], [], rfl, .start [] []⟩
    · contradiction
  | cons c text ih =>
    rw [fromWord?] at h
    split at h
    · rename_i hword
      obtain ⟨after, hafter⟩ := List.isPrefixOf_iff_prefix.mp hword
      obtain rfl := Option.some.inj h
      exact ⟨[], after, hafter.symm, hafter ▸ .start word after⟩
    · rename_i hword
      obtain ⟨before, after, hfound, hfirst⟩ := ih h
      exact ⟨c :: before, after, hfound, hfirst.cons (mt List.isPrefixOf_iff_prefix.mpr hword)⟩

theorem firstOccurrence_iff {word text before after : List Char} :
    FirstOccurrence word text before after ↔
      text = before ++ word ++ after ∧ fromWord? word text = some (word ++ after) := by
  refine ⟨fun h => ⟨h.text_eq, fromWord?_of_firstOccurrence h⟩, fun ⟨htext, hfound⟩ => ?_⟩
  obtain ⟨before', after', hafter, hfirst⟩ := exists_firstOccurrence hfound
  obtain rfl := List.append_cancel_left hafter
  have hbefore : before = before' := by
    have hboth := htext.symm.trans hfirst.text_eq
    rw [List.append_assoc, List.append_assoc] at hboth
    exact List.append_cancel_right hboth
  exact hbefore ▸ hfirst

instance (word text before after : List Char) :
    Decidable (FirstOccurrence word text before after) :=
  decidable_of_iff _ firstOccurrence_iff.symm

/-! ## Scripts -/

/-- Where white space is dropped in front of a text, none of the marker is. -/
theorem FirstOccurrence.trimStart {text before after : List Char}
    (h : FirstOccurrence marker text before after) :
    ∃ before', FirstOccurrence marker (Text.trimStart text) before' after := by
  obtain ⟨blanks, hblanks⟩ : ∃ blanks, before = blanks ++ Text.trimStart before :=
    ⟨before.takeWhile Text.isBlank, List.takeWhile_append_dropWhile.symm⟩
  have htrim : Text.trimStart text = Text.trimStart before ++ marker ++ after := by
    rw [h.text_eq, List.append_assoc, Text.trimStart, List.dropWhile_append]
    split
    · rename_i hempty
      rw [Text.trimStart, List.isEmpty_iff.mp hempty]
      rfl
    · rw [Text.trimStart, List.append_assoc]
  have htext : text = blanks ++ Text.trimStart text := by
    rw [htrim, ← List.append_assoc, ← List.append_assoc, ← hblanks, h.text_eq]
  exact ⟨Text.trimStart before, .drop blanks (by rwa [← htext, ← hblanks])⟩

theorem scriptArray?_of_firstOccurrence {text before after tail : List Char}
    (h : FirstOccurrence marker text before (after ++ '[' :: tail)) (hafter : '[' ∉ after) :
    scriptArray? text = some ('[' :: tail) := by
  have hopen : '[' ∉ marker ++ after := by
    rw [List.mem_append, not_or]
    exact ⟨by decide, hafter⟩
  have hmarker : ∀ c ∈ marker ++ after, (c != '[') = true :=
    fun c hc => bne_iff_ne.mpr (ne_of_mem_of_not_mem hc hopen)
  have hdrop : (marker ++ (after ++ '[' :: tail)).dropWhile (· != '[') = '[' :: tail := by
    rw [← List.append_assoc, List.dropWhile_append_of_pos hmarker]
    rfl
  rw [scriptArray?, fromWord?_of_firstOccurrence h, Option.map_some, hdrop]

theorem trimStart_append_of_ne_nil {cs : List Char} (h : Text.trimStart cs ≠ []) (more : List Char) :
    Text.trimStart (cs ++ more) = Text.trimStart cs ++ more := by
  rw [Text.trimStart] at h
  rw [Text.trimStart, List.dropWhile_append, if_neg (mt List.isEmpty_iff.mp h), Text.trimStart]

theorem parsePayload_eq_ok_of_array {text : String} {tail : List Char} {v : Json}
    (htext : Text.trimStart text.toList = '[' :: tail) :
    parsePayload text = .ok v ↔ Json.read? depthLimit ('[' :: tail) = some v := by
  simp only [parsePayload, htext]
  cases Json.read? depthLimit ('[' :: tail) <;> simp

theorem parsePayload_eq_ok_of_script {text : String} {rest : List Char} {v : Json}
    (harray : (Text.trimStart text.toList).head? ≠ some '[')
    (hobject : (Text.trimStart text.toList).head? ≠ some '{')
    (hscript : scriptArray? (Text.trimStart text.toList) = some rest) :
    parsePayload text = .ok v ↔ ∃ left, Json.value depthLimit rest = some (v, left) := by
  simp only [parsePayload, harray, hobject, hscript]
  cases Json.value depthLimit rest <;> simp [Prod.ext_iff]

theorem exists_value_of_read? {depth : Nat} {cs : List Char} {v : Json}
    (h : Json.read? depth cs = some v) : ∃ left, Json.value depth cs = some (v, left) := by
  rw [Json.read?] at h
  split at h
  · rename_i v' left hvalue
    split at h
    · exact ⟨left, Option.some.inj h ▸ hvalue⟩
    · contradiction
  · contradiction

/-- An array that is read as a document is read the same in a script: behind a text with the word
`apiSchema` in it, of which the first is followed by no opening bracket, and in front of any text
whatsoever. The text in front must not look like a document itself. -/
theorem parsePayload_in_script {d : String} {v : Json} (hopen : d.toList.head? = some '[')
    (hd : parsePayload d = .ok v) {p : String} {before after : List Char}
    (hmarker : FirstOccurrence marker p.toList before after) (hafter : '[' ∉ after)
    (harray : (Text.trimStart p.toList).head? ≠ some '[')
    (hobject : (Text.trimStart p.toList).head? ≠ some '{') (s : String) :
    parsePayload (p ++ d ++ s) = .ok v := by
  obtain ⟨tail, htail⟩ : ∃ tail, d.toList = '[' :: tail := List.head?_eq_some_iff.mp hopen
  obtain ⟨before', hfirst⟩ := hmarker.trimStart
  have hfront : Text.trimStart p.toList ≠ [] := by
    have hword : marker ≠ [] := by decide
    simp [hfirst.text_eq, hword]
  have htrim : Text.trimStart (p ++ d ++ s).toList =
      Text.trimStart p.toList ++ '[' :: (tail ++ s.toList) := by
    rw [String.toList_append, String.toList_append, List.append_assoc, htail,
      trimStart_append_of_ne_nil hfront]
    rfl
  have hhead : (Text.trimStart (p ++ d ++ s).toList).head? =
      (Text.trimStart p.toList).head? := by
    rw [htrim, List.head?_append, Option.or_of_isSome (List.isSome_head?.mpr hfront)]
  have hscript : scriptArray? (Text.trimStart (p ++ d ++ s).toList) =
      some ('[' :: (tail ++ s.toList)) := by
    rw [htrim]
    exact scriptArray?_of_firstOccurrence (hfirst.append _) hafter
  obtain ⟨left, hvalue⟩ : ∃ left, Json.value depthLimit ('[' :: tail) = some (v, left) := by
    have htext : Text.trimStart d.toList = '[' :: tail := by rw [htail]; rfl
    exact exists_value_of_read? ((parsePayload_eq_ok_of_array htext).mp hd)
  refine (parsePayload_eq_ok_of_script (hhead ▸ harray) (hhead ▸ hobject) hscript).mpr
    ⟨left ++ s.toList, ?_⟩
  exact Json.value_append rfl (.inl rfl) hvalue s.toList

def bracketsText : String := "[\"]\", \"apiSchema [\", [1, \x7b\"a\": []\x7d]] \n"

theorem parsePayload_in_script_brackets : ∃ v, parsePayload bracketsText = .ok v ∧
    parsePayload ("\n// the schema\nconst apiSchema = " ++ bracketsText ++ "2];\nlet x = [];") =
      .ok v := by
  obtain ⟨v, hv⟩ := Checks.exists_eq_ok (x := parsePayload bracketsText) (by decide +kernel)
  have hmarker : FirstOccurrence marker "\n// the schema\nconst apiSchema = ".toList
    "\n// the schema\nconst ".toList " = ".toList := by decide +kernel
  exact ⟨v, hv, parsePayload_in_script (by decide +kernel) hv hmarker (by decide +kernel)
    (by decide +kernel) (by decide +kernel) _⟩

end ApiAtlas.Schema
