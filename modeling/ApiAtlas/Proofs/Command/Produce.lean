import ApiAtlas.Proofs.Command.Runs
import ApiAtlas.Proofs.Command.Words
import ApiAtlas.Proofs.Files.Replacing

/-!
# Runs that produce clients

A run that produces a client puts the whole code into the file that it is for, or it leaves all
files as they are, wherever it stops.
-/

namespace ApiAtlas.Command

open Client Files FileTree Resources

variable {α β ε : Type} {fault : Option Fault}

/-! ## Actions that leave a desk as it is -/

/-- Whether an action leaves each desk as it is. -/
def Kept (action : Action (StateM Desk) α) : Prop := ∀ desk : Desk, (desk.run action).2 = desk

theorem kept_pure (a : α) : Kept (pure a) := fun _ => rfl

theorem kept_throw (e : CommandError) : Kept (throw e : Action (StateM Desk) α) := fun _ => rfl

theorem kept_settle (failure : ε → CommandError) (result : Except ε α) :
    Kept (settle failure result) := fun desk => congrArg Prod.snd (desk.run_settle failure result)

theorem kept_read (failure : FileError → CommandError) (path : String) :
    Kept (attempt failure ((Desk.systemUnder fault).read path)) := fun desk =>
  congrArg Prod.snd (desk.run_settle failure (desk.files.readUnder fault path))

theorem Kept.bind {x : Action (StateM Desk) α} {f : α → Action (StateM Desk) β} (hx : Kept x)
    (hf : ∀ a, Kept (f a)) : Kept (x >>= f) := by
  intro desk
  have hdesk := hx desk
  rw [Desk.run_bind]
  cases hrun : desk.run x with
  | mk result next =>
    rw [hrun] at hdesk
    subst hdesk
    cases result with
    | error e => rfl
    | ok a => exact hf a next

theorem kept_loadSettings (settings : Option String) :
    Kept (loadSettings (Desk.systemUnder fault) settings) := by
  cases settings with
  | none => exact kept_pure _
  | some path =>
    refine (kept_read _ path).bind fun text => ?_
    cases Settings.ofYaml? text with
    | none => exact kept_throw _
    | some s => exact kept_pure s

theorem kept_produceCode (r : ProduceRequest) :
    Kept (produceCode (Desk.systemUnder fault) r) :=
  (kept_loadSettings r.settings).bind fun _ => (kept_read _ r.schema).bind fun _ =>
    (kept_settle _ _).bind fun _ => kept_settle _ _

/-! ## Runs -/

section

variable (desk : Desk) (x : Action (StateM Desk) α)

theorem Desk.exists_run_eq_ok {a : α} (h : (desk.run x).1.toOption = some a) :
    ∃ after, desk.run x = (.ok a, after) := by
  cases hrun : desk.run x with
  | mk result after =>
    rw [hrun] at h
    cases result with
    | error e => contradiction
    | ok b =>
      obtain rfl := Option.some.inj h
      exact ⟨after, rfl⟩

theorem Desk.exists_run_eq_error {P : Desk → Prop}
    (h : (desk.run x).1.toOption.isNone = true ∧ P (desk.run x).2) :
    ∃ e after, desk.run x = (.error e, after) ∧ P after := by
  cases hrun : desk.run x with
  | mk result after =>
    rw [hrun] at h
    cases result with
    | error e => exact ⟨e, after, rfl, h.2⟩
    | ok b => exact absurd h.1 (by simp [Except.toOption])

end

variable {desk : Desk} {words : List String} {r : ProduceRequest}

def Desk.codeUnder (fault : Option Fault) (desk : Desk) (r : ProduceRequest) :
    Except CommandError String :=
  (desk.run (produceCode (Desk.systemUnder fault) r)).1

theorem Desk.run_produceCode (fault : Option Fault) (desk : Desk) (r : ProduceRequest) :
    desk.run (produceCode (Desk.systemUnder fault) r) = (desk.codeUnder fault r, desk) :=
  Prod.ext rfl (kept_produceCode r desk)

theorem Desk.run_replace (fault : Option Fault) (desk : Desk) (path content : String) :
    desk.run (attempt .write ((Desk.systemUnder fault).replace path content)) =
      ((desk.files.replaceUnder fault path content).2.mapError .write,
        { desk with files := (desk.files.replaceUnder fault path content).1 }) := by
  change Desk.run { desk with files := (desk.files.replaceUnder fault path content).1 }
    (settle .write (desk.files.replaceUnder fault path content).2) = _
  exact Desk.run_settle _ _ _

theorem Desk.run_produce_usage (h : ProduceRequest.ofWords? words = none) :
    desk.run (produce (Desk.systemUnder fault) words) = (.error .usage, desk) := by
  unfold produce
  rw [h]
  rfl

/-- What happens to the code that is asked for: it is shown or written. -/
theorem Desk.run_produce (h : ProduceRequest.ofWords? words = some r) :
    desk.run (produce (Desk.systemUnder fault) words) = match desk.codeUnder fault r with
      | .error e => (.error e, desk)
      | .ok code => match r.target with
        | none => (.ok code, desk)
        | some path =>
          (((desk.files.replaceUnder fault path code).2.mapError .write).map fun _ => "",
            { desk with files := (desk.files.replaceUnder fault path code).1 }) := by
  unfold produce
  rw [h]
  change desk.run (produceCode _ r >>= _) = _
  rw [desk.run_bind_kept _ (desk.run_produceCode fault r)]
  cases desk.codeUnder fault r with
  | error e => rfl
  | ok code =>
    cases r.target with
    | none => rfl
    | some path =>
      dsimp only
      rw [Desk.run_bind, Desk.run_replace]
      cases (desk.files.replaceUnder fault path code).2 <;> rfl

theorem Desk.run_produce_error {e : CommandError} (h : ProduceRequest.ofWords? words = some r)
    (hcode : desk.codeUnder fault r = .error e) :
    desk.run (produce (Desk.systemUnder fault) words) = (.error e, desk) := by
  rw [Desk.run_produce h, hcode]

theorem Desk.run_produce_shown {code : String} (h : ProduceRequest.ofWords? words = some r)
    (hcode : desk.codeUnder fault r = .ok code) (htarget : r.target = none) :
    desk.run (produce (Desk.systemUnder fault) words) = (.ok code, desk) := by
  rw [Desk.run_produce h, hcode, htarget]

/-! ## What runs leave -/

/-- Whether a desk has all the files of another one and no more; directories may have been made. -/
def Desk.KeepsFiles (desk after : Desk) : Prop :=
  (∀ place, KeptAt desk.files after.files place) ∧
    ∀ path text, desk.files.read path = .ok text → after.files.read path = .ok text

/-- Whether a desk has a text in the file of a path, and all other files of another desk. -/
def Desk.Writes (desk after : Desk) (path text : String) : Prop :=
  after.files.read path = .ok text ∧ ∃ target, after.files.LeadsTo path target ∧
    ∀ other, other ≠ target → KeptAt desk.files after.files other

theorem Desk.KeepsFiles.refl (desk : Desk) : desk.KeepsFiles desk :=
  ⟨fun place => .refl desk.files place, fun _ _ h => h⟩

/-- Code that goes into a file gets there whole, or no file is another one than before. -/
theorem Desk.run_produce_written {code path : String}
    (h : ProduceRequest.ofWords? words = some r) (hcode : desk.codeUnder fault r = .ok code)
    (htarget : r.target = some path) : ∃ after,
      (∃ e, desk.run (produce (Desk.systemUnder fault) words) = (.error e, after) ∧
        desk.KeepsFiles after) ∨
      (desk.run (produce (Desk.systemUnder fault) words) = (.ok "", after) ∧
        desk.Writes after path code) := by
  rw [Desk.run_produce h, hcode, htarget]
  dsimp only
  have houtcome := outcome_replaceUnder fault desk.files path code
  cases hreplace : desk.files.replaceUnder fault path code with
  | mk files written =>
    rw [hreplace] at houtcome
    refine ⟨{ desk with files := files }, ?_⟩
    cases houtcome with
    | @kept _ e hkept =>
      exact .inl ⟨.write e, rfl, hkept, fun _ _ hread => read_of_keptAt hkept hread⟩
    | replaced hleads hfile hothers =>
      exact .inr ⟨rfl, read_eq_ok_iff.mpr ⟨_, hleads, hfile⟩, _, hleads, hothers⟩

/-- A run that produces a client, whatever goes wrong with files, ends in one of three ways. If it
fails, all files are as they were, and nothing is left beside them. With the flag `--dry-run`
nothing changes at all. If it succeeds without the flag, the file that it is for has the text that
the same run with the flag shows, and all other files are as they were. -/
theorem produce_allOrNothing {after : Desk} {result : Except CommandError String}
    (h : desk.run (produce (Desk.systemUnder fault) words) = (result, after)) :
    (∀ e, result = .error e → desk.KeepsFiles after) ∧
    ("--dry-run" ∈ words → after = desk) ∧
    ∀ shown, result = .ok shown → "--dry-run" ∉ words → shown = "" ∧
      ∃ r path code, ProduceRequest.ofWords? words = some r ∧ r.target = some path ∧
        desk.run (produce (Desk.systemUnder fault) ("--dry-run" :: words)) = (.ok code, desk) ∧
        desk.Writes after path code := by
  cases hwords : ProduceRequest.ofWords? words with
  | none =>
    obtain ⟨rfl, rfl⟩ := Prod.mk.inj ((Desk.run_produce_usage hwords).symm.trans h)
    exact ⟨fun _ _ => .refl desk, fun _ => rfl, fun _ hok => by contradiction⟩
  | some r =>
    have hflag := ProduceRequest.target_eq_none_iff hwords
    cases hcode : desk.codeUnder fault r with
    | error e =>
      obtain ⟨rfl, rfl⟩ := Prod.mk.inj ((Desk.run_produce_error hwords hcode).symm.trans h)
      exact ⟨fun _ _ => .refl desk, fun _ => rfl, fun _ hok => by contradiction⟩
    | ok code =>
      cases htarget : r.target with
      | none =>
        have hrun := Desk.run_produce_shown hwords hcode htarget
        obtain ⟨rfl, rfl⟩ := Prod.mk.inj (hrun.symm.trans h)
        exact ⟨fun _ _ => .refl desk, fun _ => rfl, fun _ _ hnot => absurd (hflag.mp htarget) hnot⟩
      | some path =>
        have hnot : "--dry-run" ∉ words := fun hmem => by
          rw [hflag.mpr hmem] at htarget
          contradiction
        obtain ⟨left, ⟨e, hrun, hkeeps⟩ | ⟨hrun, hwrites⟩⟩ :=
          Desk.run_produce_written hwords hcode htarget
        · obtain ⟨rfl, rfl⟩ := Prod.mk.inj (hrun.symm.trans h)
          exact ⟨fun _ _ => hkeeps, fun hmem => absurd hmem hnot, fun _ hok => by contradiction⟩
        · obtain ⟨rfl, rfl⟩ := Prod.mk.inj (hrun.symm.trans h)
          have hdry : desk.run (produce (Desk.systemUnder fault) ("--dry-run" :: words)) =
              (.ok code, desk) :=
            Desk.run_produce_shown (ProduceRequest.ofWords?_dryRun hwords hnot) hcode rfl
          exact ⟨fun _ herror => by contradiction, fun hmem => absurd hmem hnot, fun _ hok _ =>
            ⟨(Except.ok.inj hok).symm, r, path, code, rfl, htarget, hdry, hwrites⟩⟩

def schemaDesk : Desk := { files := ⟨[(["api.json"], .file "[]")]⟩ }

/-- A client goes into a new directory, and a full disk leaves that directory without a file. -/
theorem produce_allOrNothing_client : ∃ code after left e,
    schemaDesk.run (produce Desk.system
        ["--schema", "api.json", "--out", "src/client.rs"]) = (.ok "", after) ∧
      schemaDesk.run (produce Desk.system
        ["--dry-run", "--schema", "api.json", "--out", "src/client.rs"]) = (.ok code, schemaDesk) ∧
      schemaDesk.Writes after "src/client.rs" code ∧
      schemaDesk.run (produce (Desk.systemUnder (some (.writing "// This" (.other "disk full"))))
        ["--schema", "api.json", "--out", "src/client.rs"]) = (.error e, left) ∧
      left.files.get? ["src"] = some .directory ∧ schemaDesk.KeepsFiles left := by
  rw [← Desk.systemUnder_none]
  obtain ⟨after, hrun⟩ := schemaDesk.exists_run_eq_ok
    (produce (Desk.systemUnder none) ["--schema", "api.json", "--out", "src/client.rs"])
    (a := "") (by decide +kernel)
  obtain ⟨e, left, hfailed, hdirectory⟩ := schemaDesk.exists_run_eq_error
    (produce (Desk.systemUnder (some (.writing "// This" (.other "disk full"))))
      ["--schema", "api.json", "--out", "src/client.rs"])
    (P := fun left => left.files.get? ["src"] = some .directory) (by decide +kernel)
  obtain ⟨-, r, path, code, hwords, htarget, hdry, hwrites⟩ :=
    (produce_allOrNothing hrun).2.2 "" rfl (by decide)
  have hpath : path = "src/client.rs" := by
    have hasked : (ProduceRequest.ofWords? ["--schema", "api.json", "--out", "src/client.rs"]).bind
        (·.target) = some "src/client.rs" := by decide +kernel
    rw [hwords] at hasked
    exact Option.some.inj (htarget.symm.trans hasked)
  subst hpath
  exact ⟨code, after, left, e, hrun, hdry, hwrites, hfailed, hdirectory,
    (produce_allOrNothing hfailed).1 e rfl⟩

end ApiAtlas.Command
