import ApiAtlas.Files.Faults
import ApiAtlas.Naming.Scope
import ApiAtlas.Proofs.Checks

/-!
# What replacing a file leaves

A replacement that stops at any of its steps leaves the files of a tree as they were; at most some
directories of the path were made. One that does not stop changes the file of its path, and no
other.
-/

namespace ApiAtlas.Files.FileTree

open Checks

variable {t u v : FileTree} {path : String} {here place target : Path}

/-! ## Places that are kept -/

/-- At a place of a tree is what was there, or a directory where nothing was. -/
def KeptAt (t u : FileTree) (place : Path) : Prop :=
  u.get? place = t.get? place ∨ t.get? place = none ∧ u.get? place = some .directory

theorem KeptAt.refl (t : FileTree) (place : Path) : KeptAt t t place := .inl rfl

theorem KeptAt.get?_eq_some {e : Entry} (h : KeptAt t u place) (he : t.get? place = some e) :
    u.get? place = some e := by
  rcases h with heq | ⟨hnone, -⟩
  · exact heq.trans he
  · rw [he] at hnone
    contradiction

theorem KeptAt.trans (h : KeptAt t u place) (h' : KeptAt u v place) : KeptAt t v place := by
  rcases h with heq | ⟨hnone, hdirectory⟩
  · rw [KeptAt, ← heq]
    exact h'
  · exact .inr ⟨hnone, h'.get?_eq_some hdirectory⟩

/-- The top is always there. -/
theorem ne_nil_of_get?_eq_none (h : t.get? place = none) : place ≠ [] := by
  rintro rfl
  contradiction

theorem keptAt_put_directory (h : t.get? target = none) (place : Path) :
    KeptAt t (t.put target .directory) place := by
  by_cases heq : place = target
  · subst heq
    exact .inr ⟨h, t.get?_put_self (ne_nil_of_get?_eq_none h) .directory⟩
  · exact .inl (t.get?_put_of_ne heq .directory)

/-! ## Directories -/

theorem get?_of_enter_eq_notFound {piece : String} (h : t.enter here piece = .error .notFound) :
    t.get? (here ++ [piece]) = none := by
  unfold enter at h
  split at h
  · contradiction
  · split at h
    · contradiction
    · split at h
      · contradiction
      · cases hget : t.get? (here ++ [piece]) with
        | none => rfl
        | some e => cases e <;> simp [hget] at h

theorem keptAt_makeDirectories (pieces : List String) (t : FileTree) (madeSome : Bool)
    (here place : Path) : KeptAt t (t.makeDirectories madeSome here pieces).1 place := by
  induction pieces generalizing t madeSome here with
  | nil => exact .refl t place
  | cons piece rest ih =>
    rw [makeDirectories]
    split
    · exact ih t _ _
    · rename_i hmissing
      exact (keptAt_put_directory (get?_of_enter_eq_notFound hmissing) place).trans (ih _ _ _)
    · exact .refl t place
    · exact .refl t place

theorem keptAt_makePathUnder (fault : Option Fault) (t : FileTree) (path : String) (place : Path) :
    KeptAt t (t.makePathUnder fault path).1 place := by
  have hpath : KeptAt t (t.makePath path).1 place := by
    unfold makePath
    split
    · exact keptAt_makeDirectories _ t _ _ place
    · exact .refl t place
  unfold makePathUnder
  split
  · exact keptAt_makeDirectories _ t _ _ place
  · exact hpath

/-! ## Paths to files -/

/-- Whether a path leads through directories to a place, whose name is the last piece. -/
def LeadsTo (t : FileTree) (path : String) (target : Path) : Prop :=
  checkText path = .ok () ∧ ∃ front last here, pieces path = front ++ [last] ∧
    t.walk front = .ok here ∧ isIdle last = false ∧ last ≠ ".." ∧
    last.utf8ByteSize ≤ nameLimit ∧ here ++ [last] = target

theorem exists_pieces_eq (path : String) : ∃ front last, pieces path = front ++ [last] := by
  have hne : pieces path ≠ [] := by
    simp [pieces]
  exact ⟨_, _, (List.dropLast_append_getLast hne).symm⟩

theorem enter_eq_ok_iff {there : Path} {piece : String} :
    t.enter here piece = .ok there ↔ (isIdle piece = true ∧ here = there) ∨
      (isIdle piece = false ∧ piece = ".." ∧ here.dropLast = there) ∨
      (isIdle piece = false ∧ piece ≠ ".." ∧ piece.utf8ByteSize ≤ nameLimit ∧
        here ++ [piece] = there ∧ t.get? there = some .directory) := by
  unfold enter
  cases isIdle piece with
  | true => simp
  | false =>
    by_cases hup : piece = ".."
    · simp [hup]
    · by_cases hlong : nameLimit < piece.utf8ByteSize
      · simp [hup, hlong, Nat.not_le.mpr hlong]
      · rcases hget : t.get? (here ++ [piece]) with _ | _ | text
        all_goals
          simp only [hup, hlong, Nat.not_lt.mp hlong, reduceCtorEq, false_and, false_or, true_and,
            if_false, ne_eq, not_false_eq_true]
        · exact iff_of_false (by simp) fun ⟨heq, h⟩ => by simp [← heq, hget] at h
        · simpa using fun heq => heq ▸ hget
        · exact iff_of_false (by simp) fun ⟨heq, h⟩ => by simp [← heq, hget] at h

/-- Whether what is a directory in a tree is one in another tree as well. -/
def DirectoriesIn (t u : FileTree) : Prop :=
  ∀ place, t.get? place = some .directory → u.get? place = some .directory

theorem DirectoriesIn.enter {there : Path} {piece : String} (hdir : DirectoriesIn t u)
    (h : t.enter here piece = .ok there) : u.enter here piece = .ok there := by
  rw [enter_eq_ok_iff] at h ⊢
  exact h.imp_right (.imp_right fun ⟨hidle, hup, hshort, hthere, hget⟩ =>
    ⟨hidle, hup, hshort, hthere, hdir there hget⟩)

theorem DirectoriesIn.foldlM_enter {there : Path} (hdir : DirectoriesIn t u) (pieces : List String)
    (h : pieces.foldlM t.enter here = .ok there) : pieces.foldlM u.enter here = .ok there := by
  induction pieces generalizing here with
  | nil => exact h
  | cons piece rest ih =>
    rw [List.foldlM_cons] at h ⊢
    obtain ⟨next, hnext, hrest⟩ := bind_eq_ok.mp h
    exact bind_eq_ok.mpr ⟨next, hdir.enter hnext, ih hrest⟩

theorem LeadsTo.of_directoriesIn (hdir : DirectoriesIn t u) (h : t.LeadsTo path target) :
    u.LeadsTo path target := by
  obtain ⟨hcheck, front, last, here, hpieces, hwalk, hrest⟩ := h
  exact ⟨hcheck, front, last, here, hpieces, hdir.foldlM_enter front hwalk, hrest⟩

/-- Reading a path gives the text of the file that it leads to. -/
theorem read_eq_ok_iff {text : String} :
    t.read path = .ok text ↔
      ∃ target, t.LeadsTo path target ∧ t.get? target = some (.file text) := by
  obtain ⟨front, last, hpieces⟩ := exists_pieces_eq path
  simp only [read, hpieces, List.getLastD_concat, List.dropLast_concat]
  constructor
  · intro h
    obtain ⟨_, hcheck, h⟩ := bind_eq_ok.mp h
    split at h
    · obtain ⟨_, -, h⟩ := bind_eq_ok.mp h
      contradiction
    · rename_i hplain
      simp only [Bool.or_eq_true, beq_iff_eq, not_or, Bool.not_eq_true] at hplain
      obtain ⟨here, hwalk, h⟩ := bind_eq_ok.mp h
      split at h
      · contradiction
      · rename_i hshort
        refine ⟨here ++ [last], ⟨hcheck, front, last, here, hpieces, hwalk, hplain.1, hplain.2,
          Nat.not_lt.mp hshort, rfl⟩, ?_⟩
        rcases hget : t.get? (here ++ [last]) with _ | _ | content
        all_goals rw [hget] at h
        · contradiction
        · contradiction
        · rw [Except.ok.inj h]
  · rintro ⟨target, ⟨hcheck, front', last', here, hpieces', hwalk, hidle, hup, hshort, rfl⟩, hfile⟩
    obtain ⟨rfl, heq⟩ := List.append_inj' (hpieces.symm.trans hpieces') rfl
    obtain rfl := List.singleton_injective heq
    simp [hcheck, hidle, hup, hwalk, hfile, bind, Except.bind, Nat.not_lt.mpr hshort]

/-- A path that reads as a text does so in each tree that keeps all places. -/
theorem read_of_keptAt {text : String} (hkept : ∀ place, KeptAt t u place)
    (h : t.read path = .ok text) : u.read path = .ok text := by
  obtain ⟨target, hleads, hfile⟩ := read_eq_ok_iff.mp h
  have hdir : DirectoriesIn t u := fun place => (hkept place).get?_eq_some
  exact read_eq_ok_iff.mpr ⟨target, hleads.of_directoriesIn hdir, (hkept target).get?_eq_some hfile⟩

/-- Pieces without a name lead nowhere. -/
theorem foldlM_enter_filter (t : FileTree) (pieces : List String) (here : Path) :
    (pieces.filter (· != "")).foldlM t.enter here = pieces.foldlM t.enter here := by
  induction pieces generalizing here with
  | nil => rfl
  | cons piece rest ih =>
    by_cases hempty : piece = ""
    · subst hempty
      exact ih here
    · rw [List.filter_cons_of_pos (by simpa using hempty), List.foldlM_cons, List.foldlM_cons]
      exact bind_congr fun next => ih next

/-- A file lands where its path leads. -/
theorem leadsTo_of_landing (h : t.landing path = .ok target) :
    t.LeadsTo path target ∧ t.get? target ≠ some .directory := by
  obtain ⟨front, last, hpieces⟩ := exists_pieces_eq path
  simp only [landing, hpieces] at h
  obtain ⟨_, hcheck, h⟩ := bind_eq_ok.mp h
  by_cases hempty : last = ""
  · subst hempty
    split at h
    · contradiction
    · obtain ⟨here, -, h⟩ := bind_eq_ok.mp h
      simp only [List.getLast?_concat] at h
      split at h
      · contradiction
      · split at h <;> contradiction
  · have hfilter : (front ++ [last]).filter (· != "") = front.filter (· != "") ++ [last] := by
      simp [hempty]
    simp only [hfilter, List.getLast?_concat, List.dropLast_concat] at h
    obtain ⟨here, hwalk, h⟩ := bind_eq_ok.mp h
    rw [walk, foldlM_enter_filter] at hwalk
    split at h
    · contradiction
    · rename_i hdots
      split at h
      · contradiction
      · rename_i hshort
        rw [if_neg (by simpa using hempty)] at h
        split at h
        · contradiction
        · rename_i hfree
          obtain rfl := Except.ok.inj h
          obtain ⟨hdot, hup⟩ := not_or.mp hdots
          exact ⟨⟨hcheck, front, last, here, hpieces, hwalk, by simp [isIdle, hempty, hdot], hup,
            Nat.not_lt.mp hshort, rfl⟩, hfree⟩

/-! ## New files -/

theorem freshPath_injective (here : Path) :
    Function.Injective fun n : Nat => here ++ [".tmp" ++ toString n] := by
  intro n m h
  have hname : ".tmp" ++ toString n = ".tmp" ++ toString m :=
    List.singleton_injective (List.append_cancel_left h)
  exact Naming.eq_of_append_toString hname

/-- More names are tried than there are entries, so one of them is free. -/
theorem get?_freshName (t : FileTree) (here : Path) :
    t.get? (here ++ [t.freshName here]) = none := by
  unfold freshName
  dsimp only
  cases hfind : List.find? (fun name => (t.get? (here ++ [name])).isNone)
      ((List.range (t.entries.length + 1)).map fun n => ".tmp" ++ toString n) with
  | some name => simpa using List.find?_some hfind
  | none =>
    have hused : ((List.range (t.entries.length + 1)).map fun n : Nat =>
        here ++ [".tmp" ++ toString n]) ⊆ t.entries.map Prod.fst := by
      intro place hplace
      obtain ⟨n, hn, rfl⟩ := List.mem_map.mp hplace
      have htaken := List.find?_eq_none.mp hfind _ (List.mem_map_of_mem hn)
      obtain ⟨e, he⟩ : ∃ e, (here ++ [".tmp" ++ toString n], e) ∈ t.entries := by
        simpa [get?] using htaken
      exact List.mem_map_of_mem he
    have hnodup : ((List.range (t.entries.length + 1)).map fun n : Nat =>
        here ++ [".tmp" ++ toString n]).Nodup :=
      List.pairwise_map.mpr (List.nodup_range.imp fun hne heq => hne (freshPath_injective here heq))
    have hlength := hnodup.length_le_of_subset hused
    simp only [List.length_map, List.length_range] at hlength
    omega

/-- A file put where nothing was leaves nothing behind when it goes away. -/
theorem keptAt_erase_put (h : t.get? target = none) (e : Entry) (place : Path) :
    KeptAt t ((t.put target e).erase target) place := by
  by_cases heq : place = target
  · subst heq
    exact .inl ((get?_erase_self _ (ne_nil_of_get?_eq_none h)).trans h.symm)
  · exact .inl ((get?_erase_of_ne _ heq).trans (get?_put_of_ne t heq e))

/-! ## Moving files -/

variable {temporary : Path} {content : String}

/-- A new file is moved to a place: it is there then, and all other places are kept. -/
theorem get?_move_put (hfree : t.get? temporary = none) (hne : target ≠ []) (e : Entry) :
    ((t.put temporary e).move temporary target).get? target = some e ∧
      ∀ other, other ≠ target →
        ((t.put temporary e).move temporary target).get? other = t.get? other := by
  have htop : temporary ≠ [] := ne_nil_of_get?_eq_none hfree
  rw [move, t.get?_put_self htop e]
  refine ⟨get?_put_self _ hne e, fun other hother => ?_⟩
  rw [get?_put_of_ne _ hother]
  by_cases heq : other = temporary
  · subst heq
    exact (get?_erase_self _ htop).trans hfree.symm
  · exact (get?_erase_of_ne _ heq).trans (get?_put_of_ne t heq e)

theorem LeadsTo.target_ne_nil (h : t.LeadsTo path target) : target ≠ [] := by
  obtain ⟨-, front, last, here, -, -, -, -, -, rfl⟩ := h
  exact List.concat_ne_nil last here

/-! ## Replacing -/

/-- What a replacement of the file of a path can leave. -/
inductive Outcome (t : FileTree) (path content : String) :
    FileTree × Except WriteError Unit → Prop
  | kept {u : FileTree} {e : WriteError} : (∀ place, KeptAt t u place) →
      Outcome t path content (u, .error e)
  | replaced {u : FileTree} {target : Path} : u.LeadsTo path target →
      u.get? target = some (.file content) → (∀ other, other ≠ target → KeptAt t u other) →
      Outcome t path content (u, .ok ())

theorem outcome_finish_error (hkept : ∀ place, KeptAt t u place) (hfree : u.get? temporary = none)
    (e : Entry) (reason : FileError) :
    Outcome t path content ((u.put temporary e).finish temporary path (.error reason)) :=
  .kept fun place => (hkept place).trans (keptAt_erase_put hfree e place)

theorem outcome_finish_landing (hkept : ∀ place, KeptAt t u place)
    (hfree : u.get? temporary = none) :
    Outcome t path content ((u.put temporary (.file content)).finish temporary path
      ((u.put temporary (.file content)).landing path)) := by
  cases hlanding : (u.put temporary (.file content)).landing path with
  | error reason => exact outcome_finish_error hkept hfree _ reason
  | ok target =>
    obtain ⟨hleads, hfile⟩ := leadsTo_of_landing hlanding
    obtain ⟨hthere, hothers⟩ := get?_move_put hfree hleads.target_ne_nil (.file content)
    refine .replaced (hleads.of_directoriesIn fun place hdirectory => ?_) hthere
      fun other hother => (hkept other).trans (.inl (hothers other hother))
    have htarget : place ≠ target := by
      rintro rfl
      exact hfile hdirectory
    rw [hothers place htarget]
    by_cases htemporary : place = temporary
    · subst htemporary
      simp [get?_put_self u (ne_nil_of_get?_eq_none hfree)] at hdirectory
    · rwa [get?_put_of_ne u htemporary] at hdirectory

/-- A replacement, wherever it stops, has one of the two outcomes. -/
theorem outcome_replaceUnder (fault : Option Fault) (t : FileTree) (path content : String) :
    Outcome t path content (t.replaceUnder fault path content) := by
  have hkept := keptAt_makePathUnder fault t (parentText path)
  unfold replaceUnder
  dsimp only
  cases hmade : t.makePathUnder fault (parentText path) with
  | mk made result =>
    rw [hmade] at hkept
    cases result with
    | error e => exact .kept hkept
    | ok here =>
      have hfree := made.get?_freshName here
      dsimp only
      split
      · exact .kept hkept
      · split
        · exact .kept hkept
        · exact outcome_finish_error hkept hfree _ _
        · exact outcome_finish_error hkept hfree _ _
        · exact outcome_finish_landing hkept hfree

end ApiAtlas.Files.FileTree
