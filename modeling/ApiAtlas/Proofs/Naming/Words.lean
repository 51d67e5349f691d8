import ApiAtlas.Proofs.Naming.Identifiers

/-!
# Words of members

The name of a member is made of the words of a raw name in lower case, and these words can be read
back from it: what escaping adds to a name belongs to no word. So two raw names give the same member
exactly when they have the same words, apart from the cases of letters. A raw name without words
counts as the word `value`.
-/

namespace ApiAtlas.Naming

/-! ## Words of a text -/

/-- Words are cut at a character that is in none. Everything about the words of a text that is put
together follows from this. -/
theorem wordsOf_append_cons {c : Char} (hc : isWordChar c = false) (front back : List Char) :
    wordsOf (front ++ c :: back) = wordsOf front ++ wordsOf back := by
  unfold wordsOf
  rw [List.splitOnP_append_cons front back (by simp [hc]), List.filter_append]

theorem wordsOf_nil : wordsOf [] = [] := by
  simp [wordsOf]

theorem wordsOf_underscore_cons (cs : List Char) : wordsOf ('_' :: cs) = wordsOf cs := by
  simpa [wordsOf_nil] using wordsOf_append_cons (c := '_') rfl [] cs

theorem wordsOf_append_underscore (cs : List Char) : wordsOf (cs ++ ['_']) = wordsOf cs := by
  simpa [wordsOf_nil] using wordsOf_append_cons (c := '_') rfl cs []

theorem wordsOf_word {word : List Char} (hne : word ≠ [])
    (hall : ∀ c ∈ word, c.isAlphanum = true) : wordsOf word = [word] := by
  have hone : word.splitOnP (!isWordChar ·) = [word] :=
    List.splitOnP_eq_singleton fun c hc => by simp [isWordChar, hall c hc]
  simp [wordsOf, hone, hne]

theorem wordsOf_intercalate {words : List (List Char)}
    (h : ∀ word ∈ words, word ≠ [] ∧ ∀ c ∈ word, c.isAlphanum = true) :
    wordsOf (['_'].intercalate words) = words := by
  induction words with
  | nil => exact wordsOf_nil
  | cons word rest ih =>
    obtain ⟨⟨hne, hword⟩, hrest⟩ := List.forall_mem_cons.mp h
    cases rest with
    | nil => rw [List.intercalate_singleton, wordsOf_word hne hword]
    | cons next rest =>
      rw [List.intercalate_cons_cons, List.append_assoc, List.singleton_append,
        wordsOf_append_cons rfl, wordsOf_word hne hword, ih hrest, List.singleton_append]

/-! ## Words of members -/

/-- The words that the member of a raw name has. -/
def memberWords (raw : String) : List (List Char) :=
  let words := (wordsOf raw.toList).map (·.map Char.toLower)
  if words.isEmpty then ["value".toList] else words

theorem memberWords_ne_nil (raw : String) : memberWords raw ≠ [] := by
  simp only [memberWords]
  split
  · simp
  · rename_i hwords
    simpa using hwords

theorem spelling_of_mem_memberWords (raw : String) :
    ∀ word ∈ memberWords raw, word ≠ [] ∧ ∀ c ∈ word, c.isAlphanum = true := by
  intro word hword
  simp only [memberWords] at hword
  split at hword
  · obtain rfl := List.mem_singleton.mp hword
    exact ⟨by decide, List.all_eq_true.mp (by decide)⟩
  · exact spelling_of_mem_lowerWords word hword

namespace Reserved

/-- The name that is escaped depends on the words alone. -/
theorem startable_snakeCase (raw : String) :
    startable (snakeCase raw) = startable (String.ofList (['_'].intercalate (memberWords raw))) := by
  cases hwords : (wordsOf raw.toList).map (·.map Char.toLower) with
  | nil => simp [snakeCase, memberWords, hwords, startable]
  | cons word rest => simp [snakeCase, memberWords, hwords]

theorem wordsOf_startable {name : String} (h : name.toList ≠ []) :
    wordsOf (startable name).toList = wordsOf name.toList := by
  unfold startable
  split
  · rename_i hnil
    exact absurd hnil h
  · split
    · rw [String.toList_append]
      exact wordsOf_underscore_cons name.toList
    · rfl

/-- The words of a member are read back from its name. -/
theorem wordsOf_member (r : Reserved) (raw : String) :
    wordsOf (r.member raw).toList = memberWords raw := by
  have hwords := wordsOf_intercalate (spelling_of_mem_memberWords raw)
  have hne : ['_'].intercalate (memberWords raw) ≠ [] := by
    intro hnil
    rw [hnil, wordsOf_nil] at hwords
    exact memberWords_ne_nil raw hwords.symm
  have hstart : wordsOf (startable (snakeCase raw)).toList = memberWords raw := by
    rw [startable_snakeCase, wordsOf_startable (by rwa [String.toList_ofList]),
      String.toList_ofList, hwords]
  simp only [member, escape]
  split
  · rw [String.toList_append]
    exact (wordsOf_append_underscore _).trans hstart
  · exact hstart

theorem member_eq_iff (r : Reserved) {a b : String} :
    r.member a = r.member b ↔ memberWords a = memberWords b := by
  constructor
  · intro h
    rw [← r.wordsOf_member a, h, r.wordsOf_member b]
  · intro h
    simp only [member, escape]
    rw [startable_snakeCase a, startable_snakeCase b, h]

end Reserved

end ApiAtlas.Naming
