import ApiAtlas.Proofs.Checks
import ApiAtlas.Request.Url
import Mathlib.Data.List.TakeDrop
import Mathlib.Data.List.TakeWhile

/-!
# Reading URLs

A text is a URL of the web if its scheme is one of two and a host can be read behind it. What the
URL is made of comes from the text, so that a text without a question mark has no query.
-/

namespace ApiAtlas.Request

open Checks

/-! ## The parts of a text -/

def isSchemeChar (c : Char) : Bool := c.isAlphanum || c == '+' || c == '-' || c == '.'

/-- A scheme is what stands in front of a colon, if a letter begins it. -/
theorem splitScheme?_eq (cs : List Char) :
    splitScheme? cs = match cs.dropWhile isSchemeChar with
      | ':' :: rest => if (cs.takeWhile isSchemeChar).head?.any Char.isAlpha then
          some ((String.ofList (cs.takeWhile isSchemeChar)).toLower, rest) else none
      | _ => none := rfl

theorem splitScheme?_eq_some {cs rest : List Char} {scheme : String} :
    splitScheme? cs = some (scheme, rest) ↔ cs.dropWhile isSchemeChar = ':' :: rest ∧
      (cs.takeWhile isSchemeChar).head?.any Char.isAlpha = true ∧
      (String.ofList (cs.takeWhile isSchemeChar)).toLower = scheme := by
  rw [splitScheme?_eq]
  split
  · rename_i behind hbehind
    rw [hbehind]
    split
    · simp_all [and_comm]
    · simp_all
  · rename_i hcolon
    constructor
    · intro h
      contradiction
    · rintro ⟨hbehind, -⟩
      exact absurd hbehind (hcolon rest)

def isWebScheme (scheme : String) : Bool := scheme == "http" || scheme == "https"

def webUrl (scheme : String) (rest : List Char) : Except UrlError WebUrl := do
  let (host, portNumber) ← hostAndPort true (splitAuthority true (rest.dropWhile isSlash)).1
  let (segments, query) := pathAndQuery (splitAuthority true (rest.dropWhile isSlash)).2
  return ⟨scheme == "https", host, portNumber, segments, query⟩

/-- Exactly a text with a scheme of the web has a URL of the web. -/
theorem ofText_eq_some {cs : List Char} {u : WebUrl} :
    WebUrl.ofText cs = .ok (some u) ↔ ∃ scheme rest,
      splitScheme? (cleaned cs) = some (scheme, rest) ∧ isWebScheme scheme = true ∧
        webUrl scheme rest = .ok u := by
  rw [WebUrl.ofText]
  cases hscheme : splitScheme? (cleaned cs) with
  | none => simp
  | some parts =>
    obtain ⟨scheme, rest⟩ := parts
    simp only [Option.some.injEq, Prod.mk.injEq, and_assoc, exists_and_left, exists_eq_left']
    cases hweb : isWebScheme scheme with
    | true =>
      have hscheme : (scheme == "http" || scheme == "https") = true := hweb
      simp only [hscheme, Bool.true_or, if_true, webUrl, true_and]
      cases hostAndPort true (splitAuthority true (rest.dropWhile isSlash)).1 <;>
        simp [bind, Except.bind, pure, Except.pure]
    | false =>
      have hscheme : (scheme == "http" || scheme == "https") = false := hweb
      have hnone : ∀ {α : Type} (x : Except UrlError α),
          (x >>= fun _ => pure none) ≠ .ok (some u) := by
        intro α x h
        obtain ⟨-, -, h⟩ := bind_eq_ok.mp h
        exact Option.some_ne_none u (Except.ok.inj h).symm
      simp only [hscheme, Bool.false_or, Bool.false_eq_true, if_false, false_and, iff_false]
      split
      · exact hnone _
      split
      · exact hnone _
      split
      · exact hnone _
      · simp [pure, Except.pure]

/-! ## Queries -/

theorem mem_of_mem_dropEndWhile {p : Char → Bool} {cs : List Char} {c : Char}
    (h : c ∈ Text.dropEndWhile p cs) : c ∈ cs := by
  obtain ⟨run, hrun, -⟩ := Text.dropEndWhile_append_run p cs
  rw [hrun]
  exact List.mem_append_left run h

theorem mem_of_mem_cleaned {cs : List Char} {c : Char} (h : c ∈ cleaned cs) : c ∈ cs :=
  (List.dropWhile_sublist _).mem (mem_of_mem_dropEndWhile (List.mem_filter.mp h).1)

theorem mem_of_mem_serverBase {base : List Char} {c : Char} (h : c ∈ serverBase base) :
    c ∈ base := by
  simp only [serverBase] at h
  split at h
  · exact mem_of_mem_dropEndWhile (List.mem_of_mem_take (mem_of_mem_dropEndWhile h))
  · exact mem_of_mem_dropEndWhile h

theorem snd_pathAndQuery {cs : List Char} (h : '?' ∉ cs) : (pathAndQuery cs).2 = none := by
  have hdrop : (cs.takeWhile (· != '#')).dropWhile (· != '?') = [] := by
    rw [List.dropWhile_eq_nil_iff]
    intro c hc
    have hne : c ≠ '?' := fun heq => h (heq ▸ (List.takeWhile_sublist _).mem hc)
    simpa using hne
  simp only [pathAndQuery, hdrop]

/-- A text without a question mark has no query. -/
theorem query_ofText {cs : List Char} (h : '?' ∉ cs) {u : WebUrl}
    (hu : WebUrl.ofText cs = .ok (some u)) : u.query = none := by
  obtain ⟨scheme, rest, hscheme, -, hu⟩ := ofText_eq_some.mp hu
  obtain ⟨hrest, -⟩ := splitScheme?_eq_some.mp hscheme
  simp only [webUrl, bind_eq_ok] at hu
  obtain ⟨⟨host, portNumber⟩, -, hu⟩ := hu
  obtain rfl := Except.ok.inj hu
  have hsuffix : (splitAuthority true (rest.dropWhile isSlash)).2.Sublist (cleaned cs) := by
    rw [splitAuthority, List.span_eq_takeWhile_dropWhile]
    exact ((List.dropWhile_sublist _).trans (List.dropWhile_sublist _)).trans
      ((hrest ▸ List.sublist_cons_self ':' rest).trans (List.dropWhile_sublist isSchemeChar))
  exact snd_pathAndQuery fun hmem => h (mem_of_mem_cleaned (hsuffix.mem hmem))

end ApiAtlas.Request
