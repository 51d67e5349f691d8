import ApiAtlas.Lexical.Identifier
import ApiAtlas.Naming.Reserved
import ApiAtlas.Naming.Scope
import ApiAtlas.Proofs.Lists
import ApiAtlas.Proofs.Text.Ascii
import ApiAtlas.Proofs.Text.Pieces

/-!
# Names as identifiers

Whatever a raw name is, its words are made of ASCII letters and digits. The names of members that
are made of them are words of the generated language: escaping sees to it that they start with no
digit and are not reserved, and what a scope adds to a name brings in an underscore, which no
reserved word has.
-/

namespace ApiAtlas.Naming

open Lexical ListLaws Text

/-! ## Words of a name -/

theorem isAlphanum_of_mem_wordsOf {raw word : List Char} (h : word ∈ wordsOf raw) :
    ∀ c ∈ word, c.isAlphanum = true := by
  intro c hc
  simpa [isWordChar] using not_of_mem_splitOnP (List.mem_filter.mp h).1 c hc

theorem ne_nil_of_mem_wordsOf {raw word : List Char} (h : word ∈ wordsOf raw) : word ≠ [] := by
  simpa using (List.mem_filter.mp h).2

theorem isAlphanum_of_mem_pascalCase {raw : String} :
    ∀ c ∈ (pascalCase raw).toList, c.isAlphanum = true := by
  intro c hc
  rw [pascalCase, String.toList_ofList] at hc
  obtain ⟨word, hword, hc⟩ := List.mem_flatMap.mp hc
  have hall := isAlphanum_of_mem_wordsOf hword
  cases word with
  | nil => simp [capitalize] at hc
  | cons first rest =>
    obtain ⟨hfirst, hrest⟩ := List.forall_mem_cons.mp hall
    rcases List.mem_cons.mp hc with rfl | hc
    · exact isAlphanum_toUpper hfirst
    · exact hrest c hc

/-! ## Words of the generated language -/

theorem inRanges_ascii {ranges : List (Nat × Nat)} (h : ∀ r ∈ ranges, 128 ≤ r.1) {c : Char}
    (hc : c.toNat < 128) : Unicode.inRanges ranges c = false := by
  rw [Unicode.inRanges, List.any_eq_false]
  intro r hr
  have := h r hr
  simp only [Bool.and_eq_true, decide_eq_true_eq]
  omega

theorem isStart_ascii {c : Char} (hc : c.toNat < 128) : Unicode.isStart c = c.isAlpha := by
  have htable : ∀ r ∈ Unicode.startRanges, 128 ≤ r.1 := by decide +kernel
  rw [Unicode.isStart, inRanges_ascii htable hc, Bool.or_false]

def isNameChar (c : Char) : Bool := c.isAlphanum || c == '_'

theorem isContinue_ascii {c : Char} (hc : c.toNat < 128) :
    Unicode.isContinue c = isNameChar c := by
  have htable : ∀ r ∈ Unicode.continueRanges, 128 ≤ r.1 := by decide +kernel
  rw [Unicode.isContinue, inRanges_ascii htable hc, Bool.or_false, isNameChar]

theorem isContinue_of_isNameChar {c : Char} (h : isNameChar c = true) :
    Unicode.isContinue c = true := by
  simp only [isNameChar, Bool.or_eq_true] at h
  simp only [Unicode.isContinue, Bool.or_eq_true]
  exact .inl h

theorem isWord_cons {c : Char} {cs : List Char} (hc : c.isAlpha = true ∨ c = '_')
    (hcs : ∀ d ∈ cs, isNameChar d = true) : isWord (c :: cs) = true := by
  have hstart : startsIdentifier c = true := by
    rcases hc with hc | rfl
    · simp [startsIdentifier, Unicode.isStart, hc]
    · rfl
  rw [isWord, hstart, Bool.true_and, List.all_eq_true]
  exact fun d hd => isContinue_of_isNameChar (hcs d hd)

theorem isWord_append {cs rest : List Char} (h : isWord cs = true)
    (hrest : ∀ c ∈ rest, isNameChar c = true) : isWord (cs ++ rest) = true := by
  cases cs with
  | nil => simp [isWord] at h
  | cons c cs =>
    simp only [isWord, Bool.and_eq_true] at h
    simp only [isWord, List.cons_append, List.all_append, Bool.and_eq_true, List.all_eq_true]
    exact ⟨h.1, List.all_eq_true.mp h.2, fun d hd => isContinue_of_isNameChar (hrest d hd)⟩

/-- Whether a text can be a name of the generated code: a word that is neither a keyword nor one of
the words that are always reserved. -/
structure IsIdentifier (name : String) : Prop where
  isWord : isWord name.toList = true
  not_keyword : isKeyword name = false
  not_builtin : name ∉ builtinWords

instance (name : String) : Decidable (IsIdentifier name) :=
  decidable_of_iff (Lexical.isWord name.toList = true ∧ isKeyword name = false ∧
    name ∉ builtinWords) ⟨fun ⟨h, h', h''⟩ => ⟨h, h', h''⟩, fun ⟨h, h', h''⟩ => ⟨h, h', h''⟩⟩

/-- All keywords but the underscore are reserved. -/
theorem isKeyword_eq_false {name : String} (h : name ∉ builtinWords) (hne : name ≠ "_") :
    isKeyword name = false := by
  have hall : ∀ word ∈ keywords, word = "_" ∨ word ∈ builtinWords := by decide +kernel
  rw [← Bool.not_eq_true, isKeyword, List.contains_iff_mem]
  intro hmem
  rcases hall name hmem with rfl | hbuiltin
  · exact hne rfl
  · exact h hbuiltin

theorem not_mem_builtinWords {name : String} (h : '_' ∈ name.toList) : name ∉ builtinWords := by
  have hall : ∀ word ∈ builtinWords, '_' ∉ word.toList := by decide +kernel
  exact fun hmem => hall name hmem h

/-- A word with an underscore behind it, and whatever may follow that, is an identifier. -/
theorem isIdentifier_underscore {name rest : String} (h : isWord name.toList = true)
    (hrest : ∀ c ∈ rest.toList, isNameChar c = true) : IsIdentifier (name ++ "_" ++ rest) := by
  have hlist : (name ++ "_" ++ rest).toList = name.toList ++ '_' :: rest.toList := by simp
  have hbuiltin : name ++ "_" ++ rest ∉ builtinWords :=
    not_mem_builtinWords (by rw [hlist]; exact List.mem_append_right _ List.mem_cons_self)
  refine ⟨?_, isKeyword_eq_false hbuiltin ?_, hbuiltin⟩
  · rw [hlist]
    exact isWord_append h (List.forall_mem_cons.mpr ⟨rfl, hrest⟩)
  · intro he
    have hlength := congrArg (List.length ∘ String.toList) he
    have hne : name.toList ≠ [] := by
      intro hnil
      simp [hnil, isWord] at h
    have hpos := List.length_pos_iff.mpr hne
    simp only [Function.comp_apply, hlist, List.length_append, List.length_cons] at hlength
    have hone : ("_" : String).toList.length = 1 := rfl
    omega

/-! ## Members -/

theorem spelling_of_mem_lowerWords {raw : List Char} :
    ∀ word ∈ (wordsOf raw).map (·.map Char.toLower), word ≠ [] ∧
      ∀ c ∈ word, c.isAlphanum = true := by
  intro word hword
  obtain ⟨word, hmem, rfl⟩ := List.mem_map.mp hword
  refine ⟨by simpa using ne_nil_of_mem_wordsOf hmem, fun c hc => ?_⟩
  obtain ⟨d, hd, rfl⟩ := List.mem_map.mp hc
  exact isAlphanum_toLower (isAlphanum_of_mem_wordsOf hmem d hd)

/-- In snake case a name is made of name characters, and it starts with a letter or digit. -/
theorem snakeCase_spelling (raw : String) :
    (∀ c ∈ (snakeCase raw).toList, isNameChar c = true) ∧
      ∀ c ∈ (snakeCase raw).toList.head?, c.isAlphanum = true := by
  rw [snakeCase, String.toList_ofList]
  constructor
  · intro c hc
    rcases mem_intercalate hc with hc | ⟨word, hword, hc⟩
    · rw [List.mem_singleton.mp hc]
      rfl
    · simp [isNameChar, (spelling_of_mem_lowerWords word hword).2 c hc]
  · cases hwords : (wordsOf raw.toList).map (·.map Char.toLower) with
    | nil => simp
    | cons word rest =>
      obtain ⟨hne, hword⟩ := spelling_of_mem_lowerWords word (hwords ▸ List.mem_cons_self)
      obtain ⟨first, tail, rfl⟩ := List.exists_cons_of_ne_nil hne
      intro c hc
      have hfirst : c = first := by
        cases rest with
        | nil => simpa [eq_comm] using hc
        | cons next rest => simpa [List.intercalate_cons_cons, eq_comm] using hc
      exact hfirst ▸ hword first List.mem_cons_self

namespace Reserved

theorem isWord_startable {name : String} (hall : ∀ c ∈ name.toList, isNameChar c = true)
    (hhead : ∀ c ∈ name.toList.head?, c.isAlphanum = true) :
    isWord (startable name).toList = true ∧ startable name ≠ "_" := by
  cases hlist : name.toList with
  | nil =>
    have hvalue : startable name = "value" := by simp [startable, hlist]
    rw [hvalue]
    decide
  | cons c cs =>
    rw [hlist] at hall hhead
    simp only [startable, hlist]
    have hc : c.isAlphanum = true := hhead c rfl
    cases hdigit : c.isDigit with
    | true =>
      simp only [if_true]
      have hunder : ("_" ++ name).toList = '_' :: c :: cs := by simp [hlist]
      rw [hunder]
      refine ⟨isWord_cons (.inr rfl) hall, fun he => ?_⟩
      simp [he] at hunder
    | false =>
      simp only [Bool.false_eq_true, if_false]
      have halpha : c.isAlpha = true := by simpa [Char.isAlphanum, hdigit] using hc
      rw [hlist]
      refine ⟨isWord_cons (.inl halpha) (List.forall_mem_cons.mp hall).2, fun he => ?_⟩
      have hcs : '_' = c := by
        have := congrArg String.toList he
        rw [hlist] at this
        exact (List.cons.inj this).1.symm
      simp [← hcs] at halpha

theorem isIdentifier_escape (r : Reserved) {name : String}
    (hall : ∀ c ∈ name.toList, isNameChar c = true)
    (hhead : ∀ c ∈ name.toList.head?, c.isAlphanum = true) : IsIdentifier (r.escape name) := by
  obtain ⟨hword, hne⟩ := isWord_startable hall hhead
  unfold escape
  cases hr : r.contains (startable name) with
  | true =>
    have hnone : ∀ c ∈ ("" : String).toList, isNameChar c = true := by simp
    simpa [hr] using isIdentifier_underscore hword hnone
  | false =>
    simp only [contains, Bool.or_eq_false_iff] at hr
    have hbuiltin : startable name ∉ builtinWords := by simpa using hr.1
    simp only [contains, hr.1, hr.2, Bool.or_false, Bool.false_eq_true, if_false]
    exact ⟨hword, isKeyword_eq_false hbuiltin hne, hbuiltin⟩

theorem isIdentifier_member (r : Reserved) (raw : String) : IsIdentifier (r.member raw) :=
  r.isIdentifier_escape (snakeCase_spelling raw).1 (snakeCase_spelling raw).2

end Reserved

/-! ## Names of a scope -/

namespace NameScope

theorem isIdentifier_fresh (scope : NameScope) {base qualifier : String}
    (hbase : IsIdentifier base) (hqualifier : ∀ c ∈ qualifier.toList, isNameChar c = true) :
    IsIdentifier (scope.fresh base qualifier) := by
  rcases scope.fresh_cases base qualifier with ⟨-, heq⟩ | ⟨-, -, heq⟩ | ⟨-, -, k, -, heq, -⟩
  · rwa [heq]
  · rw [heq]
    exact isIdentifier_underscore hbase.isWord hqualifier
  · have hassoc : base ++ "_" ++ qualifier ++ "_" ++ toString k =
        base ++ "_" ++ (qualifier ++ "_" ++ toString k) := by simp only [String.append_assoc]
    rw [heq, hassoc]
    refine isIdentifier_underscore hbase.isWord fun c hc => ?_
    simp only [String.toList_append, List.mem_append] at hc
    rcases hc with (hc | hc) | hc
    · exact hqualifier c hc
    · rw [List.mem_singleton.mp hc]
      rfl
    · simp [isNameChar, Char.isAlphanum, isDigit_of_mem_toString c hc]

/-- What holds of every name that can be given out for the claims holds of those that are. -/
theorem forall_mem_claimAll {P : String → Prop} {claims : List (String × String)}
    (h : ∀ claim ∈ claims, ∀ scope : NameScope, P (scope.fresh claim.1 claim.2))
    (scope : NameScope) : ∀ name ∈ (scope.claimAll claims).1, P name := by
  induction claims generalizing scope with
  | nil => simp [claimAll]
  | cons claim rest ih =>
    obtain ⟨hclaim, hrest⟩ := List.forall_mem_cons.mp h
    exact List.forall_mem_cons.mpr ⟨hclaim scope, ih hrest _⟩

end NameScope

end ApiAtlas.Naming
