import ApiAtlas.Command.Produce
import ApiAtlas.Proofs.Checks

/-!
# Dry runs

The flag `--dry-run` is given by the word of this name alone. In front of words without it, it only
takes the file away that they name for the code.
-/

namespace ApiAtlas.Command

namespace Words

variable {g : Grammar} {w w' : Words} {word name : String}

/-! ## Steps -/

/-- Adds a word that is not looked at: the value that is due, or a plain word. -/
def addPlain? (w : Words) (word : String) : Option Words :=
  match w.pending with
  | some name => w.addOption? name word
  | none => some { w with plain := w.plain ++ [word] }

theorem add?_eq (g : Grammar) (w : Words) (word : String) :
    w.add? g word =
      if w.onlyPlain then w.addPlain? word
      else
        match word.toList with
        | ['-', '-'] => if w.pending.isSome then none else some { w with onlyPlain := true }
        | '-' :: '-' :: cs =>
          if w.pending.isSome then none
          else
            w.addLong? g (cs.takeWhile (· != '=')) (match cs.dropWhile (· != '=') with
              | _ :: value => some value
              | [] => none)
        | '-' :: c :: cs =>
          if w.pending.isSome then none
          else (c :: cs).foldlM (fun w c => (g.letters.lookup c).bind w.addFlag?) w
        | _ => w.addPlain? word := rfl

/-- Whether no option waits for a value where all words are plain. -/
def Coherent (w : Words) : Prop := w.onlyPlain = true → w.pending = none

/-- Sorted words keep their flags and plain words when further ones are added. -/
structure Grows (w w' : Words) : Prop where
  flags : w.flags ⊆ w'.flags
  plain : w.plain <+: w'.plain
  coherent : w.Coherent → w'.Coherent

theorem Grows.refl (w : Words) : Grows w w := ⟨fun _ h => h, List.prefix_refl _, id⟩

theorem Grows.trans {w'' : Words} (h : Grows w w') (h' : Grows w' w'') : Grows w w'' :=
  ⟨fun _ hf => h'.flags (h.flags hf), h.plain.trans h'.plain, h'.coherent ∘ h.coherent⟩

theorem grows_addFlag? (h : w.addFlag? name = some w') : Grows w w' := by
  unfold addFlag? at h
  split at h
  · contradiction
  · obtain rfl := Option.some.inj h
    exact ⟨List.subset_cons_self _ _, List.prefix_refl _, id⟩

theorem grows_addOption? {value : String} (h : w.addOption? name value = some w') :
    Grows w w' := by
  unfold addOption? at h
  split at h
  · contradiction
  · obtain rfl := Option.some.inj h
    exact ⟨fun _ hf => hf, List.prefix_refl _, fun _ _ => rfl⟩

theorem grows_addLong? {name : List Char} {value : Option (List Char)}
    (hplain : w.onlyPlain = false) (h : w.addLong? g name value = some w') : Grows w w' := by
  unfold addLong? at h
  dsimp only at h
  split at h
  · split at h
    · exact grows_addOption? h
    · contradiction
  · split at h
    · exact grows_addFlag? h
    · split at h
      · obtain rfl := Option.some.inj h
        exact ⟨fun _ hf => hf, List.prefix_refl _, fun _ htrue => by simp [hplain] at htrue⟩
      · contradiction

theorem grows_foldlM_addFlag? {letters : List Char}
    (h : letters.foldlM (fun w c => (g.letters.lookup c).bind w.addFlag?) w = some w') :
    Grows w w' := by
  induction letters generalizing w with
  | nil =>
    obtain rfl := Option.some.inj h
    exact .refl w
  | cons c cs ih =>
    obtain ⟨next, hnext, hrest⟩ := Option.bind_eq_some_iff.mp h
    obtain ⟨name, -, hname⟩ := Option.bind_eq_some_iff.mp hnext
    exact (grows_addFlag? hname).trans (ih hrest)

theorem grows_addPlain? (h : w.addPlain? word = some w') : Grows w w' := by
  unfold addPlain? at h
  split at h
  · exact grows_addOption? h
  · rename_i hpending
    obtain rfl := Option.some.inj h
    exact ⟨fun _ hf => hf, List.prefix_append _ _, fun _ _ => hpending⟩

theorem grows_add? (h : w.add? g word = some w') : Grows w w' := by
  rw [add?_eq] at h
  split at h
  · exact grows_addPlain? h
  · rename_i hplain
    simp only [Bool.not_eq_true] at hplain
    split at h
    · split at h
      · contradiction
      · rename_i hpending
        obtain rfl := Option.some.inj h
        exact ⟨fun _ hf => hf, List.prefix_refl _, fun _ _ => by simpa using hpending⟩
    · split at h
      · contradiction
      · exact grows_addLong? hplain h
    · split at h
      · contradiction
      · exact grows_foldlM_addFlag? h
    · exact grows_addPlain? h

theorem grows_foldlM_add? {words : List String} (h : words.foldlM (add? g) w = some w') :
    Grows w w' := by
  induction words generalizing w with
  | nil =>
    obtain rfl := Option.some.inj h
    exact .refl w
  | cons word rest ih =>
    obtain ⟨next, hnext, hrest⟩ := Option.bind_eq_some_iff.mp h
    exact (grows_add? hnext).trans (ih hrest)

/-! ## The flag -/

def produceGrammar : Grammar := { flags := ["dry-run"], options := ["schema", "out", "config"] }

/-- The word of the flag gives the flag where not all words are plain and no value is due. -/
theorem add?_dryRun_eq (hplain : w.onlyPlain = false) :
    w.add? produceGrammar "--dry-run" =
      if w.pending.isSome then none else w.addFlag? "dry-run" := by
  have hword : "--dry-run".toList = ['-', '-', 'd', 'r', 'y', '-', 'r', 'u', 'n'] := by decide
  have hname : String.ofList ['d', 'r', 'y', '-', 'r', 'u', 'n'] = "dry-run" := by decide
  rw [add?_eq, hword]
  simp [hplain, addLong?, hname, produceGrammar]

/-- The word of the flag gives the flag, or it is a plain word. -/
theorem add?_dryRun (hw : w.Coherent) (h : w.add? produceGrammar "--dry-run" = some w') :
    "dry-run" ∈ w'.flags ∨ w'.plain ≠ [] := by
  cases hplain : w.onlyPlain with
  | true =>
    have hpending := hw hplain
    obtain rfl : { w with plain := w.plain ++ ["--dry-run"] } = w' := by
      simpa [add?_eq, addPlain?, hplain, hpending] using h
    exact .inr (by simp)
  | false =>
    rw [add?_dryRun_eq hplain] at h
    split at h
    · contradiction
    · unfold addFlag? at h
      split at h
      · contradiction
      · obtain rfl := Option.some.inj h
        exact .inl List.mem_cons_self

def withFlags (w : Words) (flags : List String) : Words := { w with flags := flags }

@[simp] theorem withFlags_pending (w : Words) (flags : List String) :
    (w.withFlags flags).pending = w.pending := rfl

theorem addOption?_withFlags (flags : List String) (name value : String) :
    (w.withFlags flags).addOption? name value =
      (w.addOption? name value).map (·.withFlags flags) := by
  unfold addOption? option? withFlags
  dsimp only
  split <;> rfl

theorem addPlain?_withFlags (flags : List String) (word : String) :
    (w.withFlags flags).addPlain? word = (w.addPlain? word).map (·.withFlags flags) := by
  unfold addPlain?
  dsimp only [withFlags_pending]
  split
  · exact addOption?_withFlags flags _ word
  · rfl

theorem addLong?_withFlags {name : List Char} {value : Option (List Char)}
    (hname : value = none → String.ofList name ≠ "dry-run") (flags : List String) :
    (w.withFlags flags).addLong? produceGrammar name value =
      (w.addLong? produceGrammar name value).map (·.withFlags flags) := by
  unfold addLong?
  dsimp only
  cases value with
  | some value =>
    dsimp only
    split
    · exact addOption?_withFlags flags _ _
    · rfl
  | none =>
    have hflag : produceGrammar.flags.contains (String.ofList name) = false := by
      simpa [produceGrammar] using hname rfl
    simp only [hflag, Bool.false_eq_true, if_false]
    split <;> rfl

/-- Only the word of the flag names it behind two dashes. -/
theorem eq_dryRun {cs : List Char} (hword : word.toList = '-' :: '-' :: cs)
    (hvalue : cs.dropWhile (· != '=') = [])
    (hname : String.ofList (cs.takeWhile (· != '=')) = "dry-run") : word = "--dry-run" := by
  have hall : cs.takeWhile (· != '=') = cs := by
    simpa [hvalue] using List.takeWhile_append_dropWhile (p := (· != '=')) (l := cs)
  rw [hall] at hname
  apply String.toList_inj.mp
  rw [hword, ← String.toList_ofList (l := cs), hname]
  decide

/-- Words other than that of the flag do not look at flags. -/
theorem add?_withFlags (hword : word ≠ "--dry-run") (flags : List String) :
    (w.withFlags flags).add? produceGrammar word =
      (w.add? produceGrammar word).map (·.withFlags flags) := by
  rw [add?_eq, add?_eq]
  by_cases hplain : w.onlyPlain = true
  · rw [if_pos hplain, if_pos (show (w.withFlags flags).onlyPlain = true from hplain)]
    exact addPlain?_withFlags flags word
  · rw [if_neg hplain, if_neg (show ¬(w.withFlags flags).onlyPlain = true from hplain)]
    split
    · rw [apply_ite (Option.map _)]
      rfl
    · rename_i cs hcs
      rw [apply_ite (Option.map _)]
      refine if_congr Iff.rfl rfl (addLong?_withFlags (fun hvalue hname => ?_) flags)
      refine hword (eq_dryRun hcs ?_ hname)
      split at hvalue
      · contradiction
      · assumption
    · simp [produceGrammar]
    · exact addPlain?_withFlags flags word

/-- Words without that of the flag are sorted in the same way whatever flags were given. -/
theorem foldlM_withFlags {words : List String} (hwords : "--dry-run" ∉ words)
    (flags : List String) :
    words.foldlM (add? produceGrammar) (w.withFlags flags) =
      (words.foldlM (add? produceGrammar) w).map (·.withFlags flags) := by
  induction words generalizing w with
  | nil => rfl
  | cons word rest ih =>
    obtain ⟨hne, hrest⟩ := not_or.mp (mt List.mem_cons.mpr hwords)
    rw [List.foldlM_cons, List.foldlM_cons, add?_withFlags (Ne.symm hne)]
    cases w.add? produceGrammar word with
    | none => rfl
    | some next => exact ih hrest

theorem sort?_withFlags {words : List String} (hwords : "--dry-run" ∉ words) :
    sort? produceGrammar ("--dry-run" :: words) =
      (sort? produceGrammar words).map (·.withFlags ["dry-run"]) := by
  have hflag : ({} : Words).add? produceGrammar "--dry-run" =
      some (({} : Words).withFlags ["dry-run"]) := by
    rw [add?_dryRun_eq rfl]
    rfl
  rw [sort?, sort?, List.foldlM_cons, hflag]
  change (words.foldlM (add? produceGrammar) (({} : Words).withFlags ["dry-run"])).bind _ = _
  rw [foldlM_withFlags hwords]
  cases words.foldlM (add? produceGrammar) {} with
  | none => rfl
  | some w =>
    change (if w.pending.isSome then none else some (w.withFlags _)) = _
    split <;> simp [*]

theorem foldlM_of_sort? {words : List String} (h : sort? g words = some w) :
    words.foldlM (add? g) {} = some w := by
  obtain ⟨sorted, hsorted, hw⟩ := Option.bind_eq_some_iff.mp h
  split at hw
  · contradiction
  · rw [hsorted, hw]

theorem flags_of_sort? {words : List String} (hwords : "--dry-run" ∉ words)
    (h : sort? produceGrammar words = some w) : w.flags = [] := by
  have hfold := foldlM_of_sort? h
  have hsame := foldlM_withFlags (w := {}) hwords []
  change words.foldlM (add? produceGrammar) {} = _ at hsame
  rw [hfold] at hsame
  exact congrArg flags (Option.some.inj hsame)

theorem dryRun_of_sort? {words : List String} (hwords : "--dry-run" ∈ words)
    (h : sort? produceGrammar words = some w) : "dry-run" ∈ w.flags ∨ w.plain ≠ [] := by
  obtain ⟨front, back, rfl⟩ := List.append_of_mem hwords
  have hfold := foldlM_of_sort? h
  rw [List.foldlM_append] at hfold
  obtain ⟨before, hbefore, hfold⟩ := Option.bind_eq_some_iff.mp hfold
  obtain ⟨behind, hbehind, hfold⟩ := Option.bind_eq_some_iff.mp hfold
  have hcoherent : before.Coherent :=
    (grows_foldlM_add? hbefore).coherent fun h => by contradiction
  have hgrows := grows_foldlM_add? hfold
  rcases add?_dryRun hcoherent hbehind with hflag | hne
  · exact .inl (hgrows.flags hflag)
  · exact .inr fun hnil => hne (List.prefix_nil.mp (hnil ▸ hgrows.plain))

end Words

/-! ## What is asked for -/

namespace ProduceRequest

open Words

variable {w : Words} {words : List String} {r : ProduceRequest}

/-- Whether sorted words ask for something: with the flag to show the code, else to put it into the
file that they name. -/
structure AskedBy (r : ProduceRequest) (w : Words) : Prop where
  plain : w.plain = []
  schema : w.option? "schema" = some r.schema
  settings : w.option? "config" = r.settings
  shown : "dry-run" ∈ w.flags → r.target = none
  written : "dry-run" ∉ w.flags → r.target ≠ none ∧ w.option? "out" = r.target

theorem ofWords?_eq_some_iff :
    ofWords? words = some r ↔ ∃ w, sort? produceGrammar words = some w ∧ r.AskedBy w := by
  change (sort? produceGrammar words).bind _ = some r ↔ _
  rw [Option.bind_eq_some_iff]
  refine exists_congr fun w => and_congr_right fun _ => ?_
  obtain ⟨schema, settings, target⟩ := r
  by_cases hflag : "dry-run" ∈ w.flags
  · have hhas : w.hasFlag "dry-run" = true := by simpa [hasFlag] using hflag
    constructor
    · intro h
      obtain ⟨hschema, hplain, hsettings, htarget⟩ : w.option? "schema" = some schema ∧
          w.plain = [] ∧ w.option? "config" = settings ∧ none = target := by
        simpa [hhas, Option.bind_eq_some_iff] using h
      exact ⟨hplain, hschema, hsettings, fun _ => htarget.symm, absurd hflag⟩
    · rintro ⟨hplain, hschema, hsettings, hshown, -⟩
      have htarget := hshown hflag
      simp only at hschema hsettings htarget
      simp [hplain, hschema, hsettings, htarget, hhas]
  · have hhas : w.hasFlag "dry-run" = false := by simpa [hasFlag] using hflag
    constructor
    · intro h
      obtain ⟨hschema, ⟨hplain, hgiven⟩, hsettings, rfl⟩ : w.option? "schema" = some schema ∧
          (w.plain = [] ∧ w.option? "out" ≠ none) ∧ w.option? "config" = settings ∧
          w.option? "out" = target := by
        simpa [hhas, Option.bind_eq_some_iff] using h
      exact ⟨hplain, hschema, hsettings, fun hwith => absurd hwith hflag, fun _ => ⟨hgiven, rfl⟩⟩
    · rintro ⟨hplain, hschema, hsettings, -, hwritten⟩
      obtain ⟨hsome, hout⟩ := hwritten hflag
      simp only at hschema hsettings hsome hout
      simp [hplain, hschema, hsettings, hout, hhas, hsome]

/-- Words ask to show the code exactly if they have the flag. -/
theorem target_eq_none_iff (h : ofWords? words = some r) :
    r.target = none ↔ "--dry-run" ∈ words := by
  obtain ⟨w, hsort, hasked⟩ := ofWords?_eq_some_iff.mp h
  by_cases hwords : "--dry-run" ∈ words
  · have hflag := (dryRun_of_sort? hwords hsort).resolve_right (not_not.mpr hasked.plain)
    exact iff_of_true (hasked.shown hflag) hwords
  · have hflag : "dry-run" ∉ w.flags := by simp [flags_of_sort? hwords hsort]
    exact iff_of_false (hasked.written hflag).1 hwords

/-- With the flag in front, words that ask for a file ask to show its code. -/
theorem ofWords?_dryRun (h : ofWords? words = some r) (hwords : "--dry-run" ∉ words) :
    ofWords? ("--dry-run" :: words) = some { r with target := none } := by
  obtain ⟨w, hsort, hasked⟩ := ofWords?_eq_some_iff.mp h
  have hdry : sort? produceGrammar ("--dry-run" :: words) = some (w.withFlags ["dry-run"]) := by
    rw [sort?_withFlags hwords, hsort]
    rfl
  exact ofWords?_eq_some_iff.mpr ⟨_, hdry, hasked.plain, hasked.schema, hasked.settings,
    fun _ => rfl, absurd List.mem_cons_self⟩

end ProduceRequest

end ApiAtlas.Command
