import ApiAtlas.Proofs.Naming.Identifiers
import Mathlib.Data.List.Forall2

/-!
# Altered names

A raw name has a plain name, made of its words alone. A plain name that is reserved gets an
underscore behind it, and a name that is taken in a scope gets a qualifier and then a number behind
it. Every alteration brings in an underscore, which no built-in word has, but the altered name is
not looked up among the reserved words of the user again.
-/

namespace ApiAtlas.Naming

/-- The name for a raw name as long as nothing is in its way. -/
def plainName (raw : String) : String := Reserved.startable (snakeCase raw)

/-- The names that a plain name can be altered to. -/
inductive Altered (qualifiers : List String) (plain : String) : String → Prop
  | escaped : Altered qualifiers plain (plain ++ "_")
  | qualified {base qualifier : String} : base = plain ∨ base = plain ++ "_" →
      qualifier ∈ qualifiers → Altered qualifiers plain (base ++ "_" ++ qualifier)
  | numbered {base qualifier : String} {k : Nat} : base = plain ∨ base = plain ++ "_" →
      qualifier ∈ qualifiers → 2 ≤ k →
        Altered qualifiers plain (base ++ "_" ++ qualifier ++ "_" ++ toString k)

namespace Altered

variable {qualifiers : List String} {plain name : String}

/-- An alteration puts an underscore and perhaps more behind the plain name. -/
theorem exists_eq_append (h : Altered qualifiers plain name) :
    ∃ rest, name = plain ++ "_" ++ rest := by
  cases h with
  | escaped => exact ⟨"", String.append_empty.symm⟩
  | @qualified base qualifier hbase _ =>
    rcases hbase with rfl | rfl
    · exact ⟨qualifier, rfl⟩
    · exact ⟨"_" ++ qualifier, by simp only [String.append_assoc]⟩
  | @numbered base qualifier k hbase _ _ =>
    rcases hbase with rfl | rfl
    · exact ⟨qualifier ++ "_" ++ toString k, by simp only [String.append_assoc]⟩
    · exact ⟨"_" ++ qualifier ++ "_" ++ toString k, by simp only [String.append_assoc]⟩

theorem underscore_mem (h : Altered qualifiers plain name) : '_' ∈ name.toList := by
  obtain ⟨rest, rfl⟩ := h.exists_eq_append
  simp

theorem ne_plain (h : Altered qualifiers plain name) : name ≠ plain := by
  obtain ⟨rest, rfl⟩ := h.exists_eq_append
  exact append_underscore_ne plain rest

end Altered

/-! ## What is given for a raw name -/

/-- A name that is given for a raw name: its plain name, if that is not reserved, or an altered
one. -/
inductive GivenFor (r : Reserved) (qualifiers : List String) (raw : String) : String → Prop
  | plain : r.contains (plainName raw) = false → GivenFor r qualifiers raw (plainName raw)
  | altered {name : String} : Altered qualifiers (plainName raw) name →
      GivenFor r qualifiers raw name

namespace GivenFor

variable {r : Reserved} {qualifiers : List String} {raw name : String}

theorem eq_or_altered (h : GivenFor r qualifiers raw name) :
    name = plainName raw ∨ Altered qualifiers (plainName raw) name := by
  cases h with
  | plain => exact .inl rfl
  | altered halt => exact .inr halt

theorem not_mem_builtinWords (h : GivenFor r qualifiers raw name) : name ∉ builtinWords := by
  cases h with
  | plain hfree =>
    intro hmem
    simp [Reserved.contains, hmem] at hfree
  | altered halt => exact Naming.not_mem_builtinWords halt.underscore_mem

/-- What is given for a raw name is reserved only if the user has reserved just what the plain name
is altered to. -/
theorem contains_iff (h : GivenFor r qualifiers raw name) :
    r.contains name = true ↔ name ∈ r.extra ∧ name ≠ plainName raw := by
  have hextra : r.contains name = true ↔ name ∈ r.extra := by
    simp [Reserved.contains, h.not_mem_builtinWords]
  rw [hextra]
  constructor
  · intro hmem
    cases h with
    | plain hfree =>
      simp [Reserved.contains, hmem] at hfree
    | altered halt => exact ⟨hmem, halt.ne_plain⟩
  · exact And.left

theorem not_contains_of_no_underscore (h : GivenFor r qualifiers raw name)
    (hextra : ∀ word ∈ r.extra, '_' ∉ word.toList) : r.contains name = false := by
  rw [← Bool.not_eq_true, h.contains_iff]
  intro ⟨hmem, hne⟩
  rcases h.eq_or_altered with heq | halt
  · exact hne heq
  · exact hextra name hmem halt.underscore_mem

end GivenFor

/-! ## Escapes and scopes -/

/-- A plain name is escaped exactly if it is reserved. -/
theorem Reserved.member_cases (r : Reserved) (raw : String) :
    (r.contains (plainName raw) = false ∧ r.member raw = plainName raw) ∨
      (r.contains (plainName raw) = true ∧ r.member raw = plainName raw ++ "_") := by
  unfold Reserved.member Reserved.escape
  cases hr : r.contains (plainName raw) with
  | false => exact .inl ⟨rfl, if_neg (Bool.eq_false_iff.mp hr)⟩
  | true => exact .inr ⟨rfl, if_pos hr⟩

theorem givenFor_member (r : Reserved) (qualifiers : List String) (raw : String) :
    GivenFor r qualifiers raw (r.member raw) := by
  rcases r.member_cases raw with ⟨hfree, heq⟩ | ⟨-, heq⟩
  · rw [heq]
    exact .plain hfree
  · rw [heq]
    exact .altered .escaped

namespace NameScope

theorem givenFor_fresh (scope : NameScope) (r : Reserved) {qualifiers : List String}
    (raw : String) {qualifier : String} (hq : qualifier ∈ qualifiers) :
    GivenFor r qualifiers raw (scope.fresh (r.member raw) qualifier) := by
  have hbase : r.member raw = plainName raw ∨ r.member raw = plainName raw ++ "_" := by
    rcases r.member_cases raw with ⟨-, heq⟩ | ⟨-, heq⟩
    · exact .inl heq
    · exact .inr heq
  rcases scope.fresh_cases (r.member raw) qualifier with
    ⟨-, heq⟩ | ⟨-, -, heq⟩ | ⟨-, -, k, hk, heq, -⟩
  · rw [heq]
    exact givenFor_member r qualifiers raw
  · rw [heq]
    exact .altered (.qualified hbase hq)
  · rw [heq]
    exact .altered (.numbered hbase hq hk)

/-- Items that claim the members of their stems are named for their stems. -/
theorem givenFor_claimAll {α : Type} (r : Reserved) {qualifiers : List String}
    {stem qualifier : α → String} {items : List α} (hq : ∀ x ∈ items, qualifier x ∈ qualifiers)
    (scope : NameScope) :
    List.Forall₂ (GivenFor r qualifiers) (items.map stem)
      (scope.claimAll (items.map fun x => (r.member (stem x), qualifier x))).1 := by
  induction items generalizing scope with
  | nil => exact .nil
  | cons x rest ih =>
    obtain ⟨hx, hrest⟩ := List.forall_mem_cons.mp hq
    exact .cons (scope.givenFor_fresh r (stem x) hx) (ih hrest _)

end NameScope

end ApiAtlas.Naming
