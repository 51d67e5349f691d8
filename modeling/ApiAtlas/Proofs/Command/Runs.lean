import ApiAtlas.Command.Explore

/-!
# Commands at a desk

What the parts of a command give at a desk, and what they leave there. Looking at the environment
and at files leaves a desk as it is, and a request is added to those that were sent.
-/

namespace ApiAtlas.Command

open Descriptor Explorer Files Request Resources

/-- What an action gives at a desk, and the desk behind it. -/
def Desk.run {α : Type} (desk : Desk) (action : Action (StateM Desk) α) :
    Except CommandError α × Desk :=
  StateT.run (ExceptT.run action) desk

section

variable {α β ε : Type} (desk : Desk)

@[simp] theorem Desk.run_pure (a : α) : desk.run (pure a) = (.ok a, desk) := rfl

@[simp] theorem Desk.run_throw (e : CommandError) :
    desk.run (throw e : Action (StateM Desk) α) = (.error e, desk) := rfl

theorem Desk.run_bind (x : Action (StateM Desk) α) (f : α → Action (StateM Desk) β) :
    desk.run (x >>= f) = match desk.run x with
      | (.ok a, next) => next.run (f a)
      | (.error e, next) => (.error e, next) := by
  change StateT.run (ExceptT.run (x >>= f)) desk = _
  rw [ExceptT.run_bind, StateT.run_bind]
  unfold Desk.run
  cases StateT.run (ExceptT.run x) desk with
  | mk result next => cases result <;> rfl

/-- Behind a step that leaves the desk as it is, an action goes on at the same desk. -/
theorem Desk.run_bind_kept {x : Action (StateM Desk) α} {result : Except CommandError α}
    (f : α → Action (StateM Desk) β) :
    desk.run x = (result, desk) → desk.run (x >>= f) = match result with
      | .ok a => desk.run (f a)
      | .error e => (.error e, desk) := by
  intro h
  rw [Desk.run_bind, h]
  cases result <;> rfl

theorem Desk.run_settle (failure : ε → CommandError) (result : Except ε α) :
    desk.run (settle failure result) = (result.mapError failure, desk) := by
  cases result <;> rfl

theorem mapError_eq_ok {ε' : Type} {failure : ε → ε'} {x : Except ε α} {a : α} :
    x.mapError failure = .ok a ↔ x = .ok a := by
  cases x with
  | ok b =>
    constructor
    · intro h
      rw [Except.ok.inj h]
    · intro h
      rw [Except.ok.inj h]
      rfl
  | error e =>
    constructor
    all_goals
      intro h
      contradiction

/-! ## Schemas -/

/-- Whether a schema, or the one that a variable names instead, is that of a catalog. -/
def Desk.Loads (schema : Option String) (c : Catalog) : Prop :=
  ∃ path text, schema.or (desk.environment.lookup "PVE_SCHEMA") = some path ∧
    desk.files.read path = .ok text ∧ Catalog.ofText text = .ok c

theorem Desk.Loads.unique {desk : Desk} {schema : Option String} {c d : Catalog}
    (hc : desk.Loads schema c) (hd : desk.Loads schema d) : c = d := by
  obtain ⟨path, text, hpath, htext, hc⟩ := hc
  obtain ⟨path', text', hpath', htext', hd⟩ := hd
  obtain rfl := Option.some.inj (hpath.symm.trans hpath')
  obtain rfl := Except.ok.inj (htext.symm.trans htext')
  exact Except.ok.inj (hc.symm.trans hd)

def Desk.valueOf (name need : String) : Except CommandError String :=
  match desk.environment.lookup name with
  | some value => .ok value
  | none => .error (.unset need)

theorem Desk.run_require (name need : String) :
    desk.run (Desk.system.require name need) = (desk.valueOf name need, desk) := by
  change desk.run (match desk.environment.lookup name with
    | some value => pure value
    | none => throw (.unset need)) = _
  rw [Desk.valueOf]
  cases desk.environment.lookup name <;> rfl

theorem Desk.run_read (failure : FileError → CommandError) (path : String) :
    desk.run (attempt failure (Desk.system.read path)) =
      ((desk.files.read path).mapError failure, desk) := by
  change desk.run (settle failure (desk.files.read path)) = _
  exact desk.run_settle failure (desk.files.read path)

/-- Loading a schema leaves the desk as it is. -/
theorem Desk.run_loadCatalog (schema : Option String) :
    ∃ result, desk.run (loadCatalog Desk.system schema) = (result, desk) ∧
      ∀ c, result = .ok c ↔ desk.Loads schema c := by
  have htail : ∀ path, ∃ result, desk.run (do
      let text ← attempt (.unreadableSchema path) (Desk.system.read path)
      settle (.invalidSchema ("load schema " ++ path)) (Catalog.ofText text)) = (result, desk) ∧
        ∀ c, result = .ok c ↔
          ∃ text, desk.files.read path = .ok text ∧ Catalog.ofText text = .ok c := by
    intro path
    rw [desk.run_bind_kept _ (desk.run_read _ path)]
    cases desk.files.read path with
    | error e => exact ⟨_, rfl, fun c => by simp⟩
    | ok text =>
      refine ⟨_, desk.run_settle _ _, fun c => ?_⟩
      simp [mapError_eq_ok]
  simp only [Desk.Loads, exists_and_left]
  cases schema with
  | some path =>
    simp only [Option.some_or, Option.some.injEq, exists_eq_left']
    exact htail path
  | none =>
    unfold loadCatalog
    dsimp only
    rw [desk.run_bind_kept _ (desk.run_require _ _), Desk.valueOf, Option.none_or]
    cases desk.environment.lookup "PVE_SCHEMA" with
    | none => exact ⟨_, rfl, fun c => by simp⟩
    | some path => simpa using htail path

/-! ## Requests -/

def Desk.request (verb : Verb) (path : String) (fields : Params) :
    Except CommandError HttpRequest := do
  let base ← desk.valueOf "PVE_HOST" "PVE_HOST missing"
  let token ← desk.valueOf "PVE_API_TOKEN" "PVE_API_TOKEN missing"
  (httpRequest ⟨base, token⟩ verb path fields).mapError .request

theorem Desk.run_send (request : HttpRequest) :
    desk.run (attempt .request (Desk.system.send request)) =
      (desk.reply.mapError .request, { desk with sent := desk.sent ++ [request] }) := by
  change Desk.run { desk with sent := desk.sent ++ [request] } (settle .request desk.reply) = _
  exact Desk.run_settle _ _ _

/-- What a request is answered with, if a reply comes and is no refusal. -/
def Desk.answer : Except RequestError Json := desk.reply >>= Reply.answer

theorem Desk.run_ask (verb : Verb) (path : String) (fields : Params) :
    desk.run (ask Desk.system verb path fields) =
      match desk.request verb path fields with
      | .ok request => (desk.answer.mapError .request, { desk with sent := desk.sent ++ [request] })
      | .error e => (.error e, desk) := by
  rw [ask, Desk.request, desk.run_bind_kept _ (desk.run_require _ _)]
  cases desk.valueOf "PVE_HOST" "PVE_HOST missing" with
  | error e => rfl
  | ok base =>
    dsimp only
    rw [desk.run_bind_kept _ (desk.run_require _ _)]
    cases desk.valueOf "PVE_API_TOKEN" "PVE_API_TOKEN missing" with
    | error e => rfl
    | ok token =>
      dsimp only
      rw [desk.run_bind_kept _ (desk.run_settle _ _)]
      simp only [bind, Except.bind]
      cases httpRequest ⟨base, token⟩ verb path fields with
      | error e => rfl
      | ok request =>
        change desk.run (attempt CommandError.request (Desk.system.send request) >>=
          fun reply => settle CommandError.request reply.answer) = _
        rw [Desk.run_bind, desk.run_send, Desk.answer]
        cases desk.reply with
        | error e => rfl
        | ok reply => exact Desk.run_settle _ _ reply.answer

end

end ApiAtlas.Command
