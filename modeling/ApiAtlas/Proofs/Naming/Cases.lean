import ApiAtlas.Proofs.Naming.Words

/-!
# Names that stay as they are

A case leaves exactly those names as they are that are written in it, and what it makes is written
in it. Members are not left alone by their spelling, but by their words: what escaping has added to
a name goes when the name is cut into words again, and comes back when these are escaped.
-/

namespace ApiAtlas.Naming

open Lexical ListLaws Text

variable {name : String}

/-! ## Snake case -/

def isSnakeChar (c : Char) : Bool := c.isLower || c.isDigit

/-- Whether a name is made of runs of small letters and digits with single underscores between
them. -/
def IsSnake (name : String) : Prop :=
  ∃ runs : List (List Char), (∀ run ∈ runs, run ≠ [] ∧ ∀ c ∈ run, isSnakeChar c = true) ∧
    name = String.ofList (['_'].intercalate runs)

theorem isSnakeChar_toLower {c : Char} (h : c.isAlphanum = true) : isSnakeChar c.toLower = true :=
  forall_alphanum (P := fun c => isSnakeChar c.toLower = true) (by decide +kernel) h

theorem isAlphanum_of_isSnakeChar {c : Char} (h : isSnakeChar c = true) : c.isAlphanum = true := by
  change (c.isUpper || c.isLower || c.isDigit) = true
  simp only [isSnakeChar, Bool.or_eq_true] at h ⊢
  rcases h with hlower | hdigit
  · exact .inl (.inr hlower)
  · exact .inr hdigit

theorem toLower_of_isSnakeChar {c : Char} (h : isSnakeChar c = true) : c.toLower = c :=
  forall_alphanum (P := fun c => isSnakeChar c = true → c.toLower = c) (by decide +kernel)
    (isAlphanum_of_isSnakeChar h) h

theorem map_toLower_eq_self {words : List (List Char)}
    (h : ∀ word ∈ words, ∀ c ∈ word, isSnakeChar c = true) :
    words.map (·.map Char.toLower) = words := by
  refine (List.map_congr_left fun word hword => ?_).trans (List.map_id words)
  exact (List.map_congr_left fun c hc => toLower_of_isSnakeChar (h word hword c hc)).trans
    (List.map_id word)

theorem isSnakeChar_of_mem_lowerWords {raw : List Char} :
    ∀ word ∈ (wordsOf raw).map (·.map Char.toLower), ∀ c ∈ word, isSnakeChar c = true := by
  intro word hword c hc
  obtain ⟨word, hmem, rfl⟩ := List.mem_map.mp hword
  obtain ⟨d, hd, rfl⟩ := List.mem_map.mp hc
  exact isSnakeChar_toLower (isAlphanum_of_mem_wordsOf hmem d hd)

theorem isSnake_snakeCase (raw : String) : IsSnake (snakeCase raw) :=
  ⟨_, fun word hword => ⟨(spelling_of_mem_lowerWords word hword).1,
    isSnakeChar_of_mem_lowerWords word hword⟩, rfl⟩

theorem snakeCase_eq_self_iff : snakeCase name = name ↔ IsSnake name := by
  constructor
  · intro h
    rw [← h]
    exact isSnake_snakeCase name
  · rintro ⟨runs, hruns, rfl⟩
    have hwords : wordsOf (['_'].intercalate runs) = runs :=
      wordsOf_intercalate fun run hrun =>
        ⟨(hruns run hrun).1, fun c hc => isAlphanum_of_isSnakeChar ((hruns run hrun).2 c hc)⟩
    rw [snakeCase, String.toList_ofList, hwords,
      map_toLower_eq_self fun run hrun => (hruns run hrun).2]

/-! ## Pascal case and camel case -/

/-- Whether a name is made of letters and digits and does not start with a small letter. -/
structure IsPascal (name : String) : Prop where
  isAlphanum : ∀ c ∈ name.toList, c.isAlphanum = true
  isLower_head? : ∀ c ∈ name.toList.head?, c.isLower = false

theorem isLower_toUpper {c : Char} (h : c.isAlphanum = true) : c.toUpper.isLower = false :=
  forall_alphanum (P := fun c => c.toUpper.isLower = false) (by decide +kernel) h

theorem toUpper_of_isLower_eq_false {c : Char} (h : c.isAlphanum = true)
    (hlower : c.isLower = false) : c.toUpper = c :=
  forall_alphanum (P := fun c => c.isLower = false → c.toUpper = c) (by decide +kernel) h hlower

theorem isPascal_pascalCase (raw : String) : IsPascal (pascalCase raw) := by
  refine ⟨isAlphanum_of_mem_pascalCase, fun c hc => ?_⟩
  rw [pascalCase, String.toList_ofList] at hc
  cases hwords : wordsOf raw.toList with
  | nil => simp [hwords] at hc
  | cons word rest =>
    have hword : word ∈ wordsOf raw.toList := hwords ▸ List.mem_cons_self
    obtain ⟨first, tail, rfl⟩ := List.exists_cons_of_ne_nil (ne_nil_of_mem_wordsOf hword)
    obtain rfl : first.toUpper = c := by simpa [hwords, capitalize] using hc
    exact isLower_toUpper (isAlphanum_of_mem_wordsOf hword first List.mem_cons_self)

theorem pascalCase_eq_self_iff : pascalCase name = name ↔ IsPascal name := by
  constructor
  · intro h
    rw [← h]
    exact isPascal_pascalCase name
  · intro h
    cases hlist : name.toList with
    | nil =>
      obtain rfl : name = "" := String.toList_inj.mp hlist
      simp [pascalCase, wordsOf_nil]
    | cons c cs =>
      have hone : wordsOf name.toList = [c :: cs] := by
        rw [hlist]
        exact wordsOf_word (List.cons_ne_nil c cs) (hlist ▸ h.isAlphanum)
      have hfirst : c.toUpper = c :=
        toUpper_of_isLower_eq_false (h.isAlphanum c (by simp [hlist]))
          (h.isLower_head? c (by simp [hlist]))
      rw [pascalCase, hone, List.flatMap_singleton, capitalize, hfirst, ← hlist,
        String.ofList_toList]

/-- In pascal case a name is what it is in camel case, but for its first letter. -/
theorem pascalCase_eq_capitalize (raw : String) :
    pascalCase raw = String.ofList (capitalize (camelCase raw).toList) := by
  rw [pascalCase, camelCase]
  cases hwords : wordsOf raw.toList with
  | nil => rfl
  | cons word rest =>
    have hne : word ≠ [] := ne_nil_of_mem_wordsOf (hwords ▸ List.mem_cons_self)
    obtain ⟨first, tail, rfl⟩ := List.exists_cons_of_ne_nil hne
    simp [capitalize]

/-! ## Members -/

def isMemberChar (c : Char) : Bool := isSnakeChar c || c == '_'

/-- Whether a list of characters is a small letter or an underscore, and then small letters, digits
and underscores. -/
def spellsMember : List Char → Bool
  | [] => false
  | c :: cs => (c.isLower || c == '_') && cs.all isMemberChar

/-- Whether a text is a name of a member: spelled as one, and no word of the generated language. -/
structure IsMember (name : String) : Prop where
  spelled : spellsMember name.toList = true
  ne_underscore : name ≠ "_"
  not_keyword : isKeyword name = false
  not_builtin : name ∉ builtinWords

theorem isMemberChar_of_mem_snakeCase {raw : String} :
    ∀ c ∈ (snakeCase raw).toList, isMemberChar c = true := by
  intro c hc
  rw [snakeCase, String.toList_ofList] at hc
  rcases mem_intercalate hc with hc | ⟨word, hword, hc⟩
  · rw [List.mem_singleton.mp hc]
    rfl
  · simp [isMemberChar, isSnakeChar_of_mem_lowerWords word hword c hc]

theorem spellsMember_append {cs rest : List Char} (h : spellsMember cs = true)
    (hrest : ∀ c ∈ rest, isMemberChar c = true) : spellsMember (cs ++ rest) = true := by
  cases cs with
  | nil => simp [spellsMember] at h
  | cons c cs =>
    simp only [spellsMember, Bool.and_eq_true] at h
    simp only [spellsMember, List.cons_append, List.all_append, Bool.and_eq_true]
    exact ⟨h.1, h.2, List.all_eq_true.mpr hrest⟩

namespace Reserved

theorem spellsMember_startable (raw : String) :
    spellsMember (startable (snakeCase raw)).toList = true := by
  have hall : ∀ c ∈ (snakeCase raw).toList, isMemberChar c = true := isMemberChar_of_mem_snakeCase
  have hhead := (snakeCase_spelling raw).2
  unfold startable
  cases hlist : (snakeCase raw).toList with
  | nil => exact (by decide : spellsMember "value".toList = true)
  | cons c cs =>
    rw [hlist] at hall hhead
    cases hdigit : c.isDigit with
    | true => simpa [hdigit, hlist, spellsMember] using hall
    | false =>
      have hne : c ≠ '_' := by
        rintro rfl
        exact absurd (hhead '_' rfl) (by decide)
      have hlower : c.isLower = true := by
        simpa [isMemberChar, isSnakeChar, hdigit, hne] using hall c List.mem_cons_self
      simpa [hdigit, hlist, spellsMember, hlower] using (List.forall_mem_cons.mp hall).2

theorem isMember_member (r : Reserved) (raw : String) : IsMember (r.member raw) := by
  obtain ⟨-, hkeyword, hbuiltin⟩ := r.isIdentifier_member raw
  refine ⟨?_, ?_, hkeyword, hbuiltin⟩
  · have hstart := spellsMember_startable raw
    simp only [member, escape]
    split
    · rw [String.toList_append]
      exact spellsMember_append hstart (List.all_eq_true.mp (by decide))
    · exact hstart
  · intro h
    rw [h] at hkeyword
    exact absurd hkeyword (by decide)

theorem memberWords_member (r : Reserved) (raw : String) :
    memberWords (r.member raw) = memberWords raw := by
  have hlower : ∀ word ∈ memberWords raw, ∀ c ∈ word, isSnakeChar c = true := by
    intro word hword
    simp only [memberWords] at hword
    split at hword
    · rw [List.mem_singleton.mp hword]
      exact List.all_eq_true.mp (by decide)
    · exact isSnakeChar_of_mem_lowerWords word hword
  rw [memberWords, r.wordsOf_member, map_toLower_eq_self hlower]
  simp [memberWords_ne_nil]

theorem member_member (r : Reserved) (raw : String) : r.member (r.member raw) = r.member raw :=
  r.member_eq_iff.mpr (r.memberWords_member raw)

end Reserved

/-- Names that are made of any raw name, whatever words are reserved beyond the built-in ones. Snake
case, pascal case and members are made once and for all: they stay as they are when they are made of
the result again. In pascal case a name is its camel case with the first letter in upper case. In
snake case it is made of runs of small letters and digits with single underscores between them. A
member starts with a small letter or an underscore and goes on with such characters and digits, and
it is neither the underscore alone nor a keyword nor a built-in word. -/
theorem cases_and_members_settled (raw : String) (r : Reserved) :
    snakeCase (snakeCase raw) = snakeCase raw ∧ pascalCase (pascalCase raw) = pascalCase raw ∧
      r.member (r.member raw) = r.member raw ∧
      pascalCase raw = String.ofList (capitalize (camelCase raw).toList) ∧
      IsSnake (snakeCase raw) ∧ IsMember (r.member raw) :=
  ⟨snakeCase_eq_self_iff.mpr (isSnake_snakeCase raw),
    pascalCase_eq_self_iff.mpr (isPascal_pascalCase raw), r.member_member raw,
    pascalCase_eq_capitalize raw, isSnake_snakeCase raw, r.isMember_member raw⟩

example : (⟨["_6to4"]⟩ : Reserved).member "6to4" = "_6to4_" := by decide

end ApiAtlas.Naming
