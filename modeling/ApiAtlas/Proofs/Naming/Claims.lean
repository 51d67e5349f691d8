import ApiAtlas.Naming.Scope
import Mathlib.Data.List.Nodup
import Mathlib.Logic.Function.Iterate

/-!
# Claims of names

A claim tests one name after another until one is free, and nothing bounds its loop. The names that
it tests are all different, so it ends behind as many tests as there are taken names and one more.
A run of claims on an empty scope gives out different names, whatever is claimed.
-/

namespace ApiAtlas.Naming

variable {base qualifier : String}

/-! ## The names that are tested -/

/-- The names that a claim tests, in order. -/
def candidate (base qualifier : String) : Nat → String
  | 0 => base
  | 1 => base ++ "_" ++ qualifier
  | k + 2 => base ++ "_" ++ qualifier ++ "_" ++ toString (k + 2)

theorem candidate_succ_ne (base qualifier : String) (i : Nat) :
    candidate base qualifier (i + 1) ≠ base := by
  cases i with
  | zero => exact append_underscore_ne base qualifier
  | succ k =>
    have hassoc : candidate base qualifier (k + 2) =
        base ++ "_" ++ (qualifier ++ "_" ++ toString (k + 2)) := by
      simp only [candidate, String.append_assoc]
    rw [hassoc]
    exact append_underscore_ne base _

theorem candidate_injective (base qualifier : String) :
    Function.Injective (candidate base qualifier) := by
  have hqualified (k : Nat) : candidate base qualifier (k + 2) ≠ candidate base qualifier 1 :=
    append_underscore_ne (base ++ "_" ++ qualifier) (toString (k + 2))
  intro i j h
  match i, j with
  | 0, 0 => rfl
  | 0, j + 1 => exact absurd h.symm (candidate_succ_ne base qualifier j)
  | i + 1, 0 => exact absurd h (candidate_succ_ne base qualifier i)
  | 1, 1 => rfl
  | 1, j + 2 => exact absurd h.symm (hqualified j)
  | i + 2, 1 => exact absurd h (hqualified i)
  | i + 2, j + 2 => exact eq_of_append_toString h

/-- Where the first candidates are all taken, there are at least as many taken names. -/
theorem le_length_of_taken {taken : List String} {i : Nat}
    (h : ∀ j < i, candidate base qualifier j ∈ taken) : i ≤ taken.length := by
  have hnodup : ((List.range i).map (candidate base qualifier)).Nodup :=
    (List.nodup_map_iff (candidate_injective base qualifier)).mpr List.nodup_range
  have hsub : (List.range i).map (candidate base qualifier) ⊆ taken := by
    intro name hname
    obtain ⟨j, hj, rfl⟩ := List.mem_map.mp hname
    exact h j (List.mem_range.mp hj)
  simpa using hnodup.length_le_of_subset hsub

/-! ## The name that is due -/

/-- Whether a name is the one that is due for a claim behind earlier names: the base name if it is
new, otherwise the base name with the qualifier if this is new, and otherwise these with the
smallest number from 2 on that makes a new name. -/
inductive Due (earlier : List String) (base qualifier : String) : String → Prop
  | plain : base ∉ earlier → Due earlier base qualifier base
  | qualified : base ∈ earlier → base ++ "_" ++ qualifier ∉ earlier →
      Due earlier base qualifier (base ++ "_" ++ qualifier)
  | numbered (k : Nat) : base ∈ earlier → base ++ "_" ++ qualifier ∈ earlier → 2 ≤ k →
      base ++ "_" ++ qualifier ++ "_" ++ toString k ∉ earlier →
      (∀ j, 2 ≤ j → j < k → base ++ "_" ++ qualifier ++ "_" ++ toString j ∈ earlier) →
      Due earlier base qualifier (base ++ "_" ++ qualifier ++ "_" ++ toString k)

namespace Due

variable {earlier : List String} {name : String}

/-- The name that is due is the first new candidate. -/
theorem exists_candidate (h : Due earlier base qualifier name) :
    ∃ i, candidate base qualifier i = name ∧ name ∉ earlier ∧
      ∀ j < i, candidate base qualifier j ∈ earlier := by
  cases h with
  | plain hfree => exact ⟨0, rfl, hfree, fun j hj => absurd hj (Nat.not_lt_zero j)⟩
  | qualified hbase hfree =>
    refine ⟨1, rfl, hfree, fun j hj => ?_⟩
    obtain rfl : j = 0 := by omega
    exact hbase
  | numbered k hbase hqualified hk hfree hbefore =>
    obtain ⟨k, rfl⟩ : ∃ n, k = n + 2 := ⟨k - 2, by omega⟩
    refine ⟨k + 2, rfl, hfree, fun j hj => ?_⟩
    match j with
    | 0 => exact hbase
    | 1 => exact hqualified
    | j + 2 => exact hbefore (j + 2) (by omega) hj

theorem congr {other : List String} (h : Due earlier base qualifier name)
    (hmem : ∀ n, n ∈ earlier ↔ n ∈ other) : Due other base qualifier name := by
  cases h with
  | plain hfree => exact .plain (by rwa [← hmem])
  | qualified hbase hfree => exact .qualified ((hmem _).mp hbase) (by rwa [← hmem])
  | numbered k hbase hqualified hk hfree hbefore =>
    exact .numbered k ((hmem _).mp hbase) ((hmem _).mp hqualified) hk (by rwa [← hmem])
      fun j hj hlt => (hmem _).mp (hbefore j hj hlt)

end Due

theorem NameScope.due_fresh (scope : NameScope) (base qualifier : String) :
    Due scope.taken base qualifier (scope.fresh base qualifier) := by
  rcases scope.fresh_cases base qualifier with
    ⟨hfree, heq⟩ | ⟨hbase, hfree, heq⟩ | ⟨hbase, hqualified, k, hk, heq, hfree, hbefore⟩
  · rw [heq]
    exact .plain hfree
  · rw [heq]
    exact .qualified hbase hfree
  · rw [heq] at hfree ⊢
    exact .numbered k hbase hqualified hk hfree hbefore

/-! ## The loop of a claim -/

/-- Where a claim is: at the test of a candidate, or at its end with the name that it has given out
and the scope behind it. -/
inductive Search where
  | trying (scope : NameScope) (i : Nat)
  | given (name : String) (scope : NameScope)

namespace Search

variable {scope : NameScope} {i : Nat}

/-- One test: a free candidate is taken and given out, behind a taken one comes the next. -/
def step (base qualifier : String) : Search → Search
  | .trying scope i =>
    let name := candidate base qualifier i
    if scope.taken.contains name then .trying scope (i + 1)
    else .given name ⟨name :: scope.taken⟩
  | .given name scope => .given name scope

theorem step_taken (h : candidate base qualifier i ∈ scope.taken) :
    step base qualifier (.trying scope i) = .trying scope (i + 1) := by
  simp [step, h]

theorem step_free (h : candidate base qualifier i ∉ scope.taken) :
    step base qualifier (.trying scope i) = .given (candidate base qualifier i)
      ⟨candidate base qualifier i :: scope.taken⟩ := by
  simp [step, h]

theorem iterate_step_taken (h : ∀ j < i, candidate base qualifier j ∈ scope.taken) :
    (step base qualifier)^[i] (.trying scope 0) = .trying scope i := by
  induction i with
  | zero => rfl
  | succ i ih =>
    rw [Function.iterate_succ_apply', ih fun j hj => h j (Nat.lt_succ_of_lt hj)]
    exact step_taken (h i (Nat.lt_succ_self i))

end Search

/-- The loop of a claim ends with what is claimed, behind at most one test more than there are taken
names. -/
theorem NameScope.exists_iterate_step (scope : NameScope) (base qualifier : String) :
    ∃ tests ≤ scope.taken.length + 1, (Search.step base qualifier)^[tests] (.trying scope 0) =
      .given (scope.claim base qualifier).1 (scope.claim base qualifier).2 := by
  obtain ⟨i, hname, hfree, hbefore⟩ := (scope.due_fresh base qualifier).exists_candidate
  refine ⟨i + 1, Nat.succ_le_succ (le_length_of_taken hbefore), ?_⟩
  rw [Function.iterate_succ_apply', Search.iterate_step_taken hbefore,
    Search.step_free (hname ▸ hfree), hname]
  rfl

/-! ## Runs of claims -/

namespace NameScope

theorem claimAll_append (scope : NameScope) (xs ys : List (String × String)) :
    scope.claimAll (xs ++ ys) =
      ((scope.claimAll xs).1 ++ ((scope.claimAll xs).2.claimAll ys).1,
        ((scope.claimAll xs).2.claimAll ys).2) := by
  induction xs generalizing scope with
  | nil => rfl
  | cons c rest ih => simp only [List.cons_append, claimAll, ih]

/-- What claims make of an empty scope: the names in the order of the claims, and the scope behind
them. -/
def ofClaims (claims : List (String × String)) : List String × NameScope :=
  ({} : NameScope).claimAll claims

variable {claims : List (String × String)} {i : Nat}

theorem length_ofClaims (claims : List (String × String)) :
    (ofClaims claims).1.length = claims.length :=
  length_claimAll {} claims

theorem taken_ofClaims (claims : List (String × String)) :
    (ofClaims claims).2.taken = (ofClaims claims).1.reverse := by
  rw [ofClaims, taken_claimAll, List.append_nil]

theorem nodup_ofClaims (claims : List (String × String)) : (ofClaims claims).1.Nodup := by
  have hnodup : (ofClaims claims).2.taken.Nodup := nodup_claimAll List.nodup_nil claims
  rwa [taken_ofClaims, List.nodup_reverse] at hnodup

theorem ofClaims_append (xs ys : List (String × String)) :
    ofClaims (xs ++ ys) =
      ((ofClaims xs).1 ++ ((ofClaims xs).2.claimAll ys).1, ((ofClaims xs).2.claimAll ys).2) :=
  claimAll_append {} xs ys

theorem length_ofClaims_take (hi : i ≤ claims.length) :
    (ofClaims (claims.take i)).1.length = i := by
  rw [length_ofClaims, List.length_take, Nat.min_eq_left hi]

/-- The first names are those of the first claims. -/
theorem take_ofClaims (hi : i ≤ claims.length) :
    (ofClaims claims).1.take i = (ofClaims (claims.take i)).1 := by
  have happend := congrArg Prod.fst (ofClaims_append (claims.take i) (claims.drop i))
  rw [List.take_append_drop] at happend
  rw [happend, List.take_left' (length_ofClaims_take hi)]

/-- A claim of a run is made on the scope behind the claims in front of it. -/
theorem ofClaims_take_succ (h : claims[i]? = some (base, qualifier)) :
    ofClaims (claims.take (i + 1)) =
      ((ofClaims (claims.take i)).1 ++ [((ofClaims (claims.take i)).2.claim base qualifier).1],
        ((ofClaims (claims.take i)).2.claim base qualifier).2) := by
  rw [List.take_add_one, h, ofClaims_append]
  rfl

theorem getElem?_ofClaims (h : claims[i]? = some (base, qualifier)) :
    (ofClaims claims).1[i]? = some ((ofClaims (claims.take i)).2.claim base qualifier).1 := by
  have hi : i < claims.length := (List.getElem?_eq_some_iff.mp h).1
  have hlength := length_ofClaims_take (Nat.le_of_lt hi)
  rw [← List.getElem?_take_of_lt (Nat.lt_succ_self i), take_ofClaims hi, ofClaims_take_succ h]
  simp only [List.getElem?_append_right (Nat.le_of_eq hlength), hlength, Nat.sub_self,
    List.getElem?_cons_zero]

/-- A run of claims on an empty scope gives out as many names as there are claims, and no name
twice. Each claim ends, with the name that is due behind the names given out before: its loop makes
at most one test more than there are such names, so that its number is never larger than their
count. -/
theorem ofClaims_due (claims : List (String × String)) :
    (ofClaims claims).1.length = claims.length ∧ (ofClaims claims).1.Nodup ∧
      ∀ i base qualifier, claims[i]? = some (base, qualifier) →
        ∃ name, (ofClaims claims).1[i]? = some name ∧
          Due ((ofClaims claims).1.take i) base qualifier name ∧
          ∃ tests ≤ i + 1,
            (Search.step base qualifier)^[tests] (.trying (ofClaims (claims.take i)).2 0) =
              .given name (ofClaims (claims.take (i + 1))).2 := by
  refine ⟨length_ofClaims claims, nodup_ofClaims claims, fun i base qualifier h => ?_⟩
  have hi : i ≤ claims.length := Nat.le_of_lt (List.getElem?_eq_some_iff.mp h).1
  obtain ⟨scope, hscope⟩ : ∃ scope, (ofClaims (claims.take i)).2 = scope := ⟨_, rfl⟩
  have htaken : scope.taken = ((ofClaims claims).1.take i).reverse := by
    rw [← hscope, taken_ofClaims, take_ofClaims hi]
  have hcount : scope.taken.length = i := by
    rw [htaken, List.length_reverse, take_ofClaims hi, length_ofClaims_take hi]
  obtain ⟨tests, hle, hends⟩ := scope.exists_iterate_step base qualifier
  refine ⟨(scope.claim base qualifier).1, ?_, ?_, tests, hcount ▸ hle, ?_⟩
  · rw [getElem?_ofClaims h, hscope]
  · exact (scope.due_fresh base qualifier).congr fun n => by rw [htaken, List.mem_reverse]
  · rw [ofClaims_take_succ h, hscope]
    exact hends

/-- Claims with a base name that is what a later claim would be given. -/
def overlappingClaims : List (String × String) :=
  [("status", "get"), ("status_post_2", "get"), ("status", "post"), ("status", "post")]

theorem ofClaims_due_overlapping : overlappingClaims[3]? = some ("status", "post") ∧
    (ofClaims overlappingClaims).1 =
      ["status", "status_post_2", "status_post", "status_post_3"] ∧
    (ofClaims overlappingClaims).1.Nodup ∧
    Due ["status", "status_post_2", "status_post"] "status" "post" "status_post_3" := by
  have hnames : (ofClaims overlappingClaims).1 =
      ["status", "status_post_2", "status_post", "status_post_3"] := by decide +kernel
  obtain ⟨-, hnodup, hrun⟩ := ofClaims_due overlappingClaims
  obtain ⟨name, hname, hdue, -⟩ := hrun 3 "status" "post" rfl
  rw [hnames] at hname hdue
  obtain rfl : "status_post_3" = name := Option.some.inj hname
  exact ⟨rfl, hnames, hnodup, hdue⟩

end NameScope

end ApiAtlas.Naming
