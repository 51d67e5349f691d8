/-!
# White space

The characters of the Unicode property `White_Space`, and the trimming of texts by it. The
zero-width space, the byte order mark and the information separators are not white space.
-/

namespace ApiAtlas.Text

/-- The Unicode property `White_Space`. -/
def isBlank (c : Char) : Bool :=
  ('\t' ≤ c && c ≤ '\r') || c == ' ' || c == '\u0085' || c == '\u00a0' || c == '\u1680' ||
    ('\u2000' ≤ c && c ≤ '\u200a') || c == '\u2028' || c == '\u2029' || c == '\u202f' ||
    c == '\u205f' || c == '\u3000'

def trimStart (cs : List Char) : List Char := cs.dropWhile isBlank

/-- Drops the elements at the end of a list that satisfy a test. -/
def dropEndWhile {α : Type} (p : α → Bool) (xs : List α) : List α :=
  (xs.reverse.dropWhile p).reverse

def trimEnd (cs : List Char) : List Char := dropEndWhile isBlank cs

def trim (cs : List Char) : List Char := trimEnd (trimStart cs)

@[simp] theorem dropEndWhile_nil {α : Type} (p : α → Bool) : dropEndWhile p [] = [] := rfl

/-- What is dropped at the end is a run of elements that satisfy the test. -/
theorem dropEndWhile_append_run {α : Type} (p : α → Bool) (xs : List α) :
    ∃ run, xs = dropEndWhile p xs ++ run ∧ run.all p = true := by
  refine ⟨(xs.reverse.takeWhile p).reverse, ?_, ?_⟩
  · have h := congrArg List.reverse (List.takeWhile_append_dropWhile (p := p) (l := xs.reverse))
    rw [List.reverse_append, List.reverse_reverse] at h
    exact h.symm
  · rw [List.all_reverse]
    exact List.all_takeWhile

end ApiAtlas.Text
