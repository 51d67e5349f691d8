import ApiAtlas.Proofs.Command.Fields
import ApiAtlas.Proofs.Command.Required
import ApiAtlas.Proofs.Command.Runs
import ApiAtlas.Proofs.Request.Http

/-!
# Calls and what they send

A call is looked at before anything is sent: the first check that it does not pass is what it fails
with. If it passes all of them, one request is sent, and it carries for each name the last value
that the words give.
-/

namespace ApiAtlas.Command

open Checks Descriptor Explorer Request Resources

/-! ## The checks of a call -/

/-- What is looked at before a call is sent. -/
inductive CallCheck where
  | verb
  | resource
  | method
  | fields
  | required
  | host
  | token
  deriving DecidableEq, Repr

/-- The checks that need no environment, in the order in which they are made. -/
def CallCheck.ofWords : List CallCheck := [.verb, .resource, .method, .fields, .required]

/-- All checks in the order in which they are made. -/
def CallCheck.inOrder : List CallCheck := CallCheck.ofWords ++ [.host, .token]

/-- Whether a path gives a parameter a value. -/
def Binds (c : Catalog) (path : String) (p : Parameter) : Prop :=
  p.wireName ∈ ((c.bindKeys? path).getD []).map (·.1)

instance (c : Catalog) (path : String) (p : Parameter) : Decidable (Binds c path p) :=
  inferInstanceAs (Decidable (_ ∈ _))

/-- A call of a verb and a path, with words for its fields. -/
structure Asked where
  verb : String
  path : String
  words : List String
  deriving DecidableEq, Repr

namespace Asked

/-- The first required parameter of a method that neither the path nor the words give a value. -/
def ungiven? (c : Catalog) (a : Asked) (m : Method) : Option Parameter :=
  m.required.find? fun p => ¬ Binds c a.path p ∧ ¬ Gives a.words p

/-- What a call fails with if it passes all checks that are made before one, but not this one. -/
def complaint? (desk : Desk) (c : Catalog) (a : Asked) : CallCheck → Option CommandError
  | .verb => if Verb.ofText? a.verb = none then some (.unknownVerb a.verb) else none
  | .resource => if c.locate? a.path = none then some (.unknownResource a.path) else none
  | .method => do
    let verb ← Verb.ofText? a.verb
    let r := c.get (← c.locate? a.path)
    if r.hasMethod verb then none else some (.request (.unsupportedVerb verb r.path))
  | .fields => (badWord? a.words).map .notAField
  | .required => do
    let verb ← Verb.ofText? a.verb
    let m ← (c.get (← c.locate? a.path)).method? verb
    (a.ungiven? c m).map fun p => .request (.missingParameter p.wireName)
  | .host =>
    if desk.environment.lookup "PVE_HOST" = none then some (.unset "PVE_HOST missing") else none
  | .token =>
    if desk.environment.lookup "PVE_API_TOKEN" = none then some (.unset "PVE_API_TOKEN missing")
    else none

/-- What a call fails with, if it does not pass all checks. -/
def firstComplaint? (desk : Desk) (c : Catalog) (a : Asked) : Option CommandError :=
  CallCheck.inOrder.findSome? (a.complaint? desk c)

/-- Whether a call asks a resource for a method that it has, with all that the method requires. -/
structure Fits (c : Catalog) (a : Asked) (verb : Verb) (id : Nat) (m : Method) : Prop where
  verb_reads : Verb.ofText? a.verb = some verb
  located : c.locate? a.path = some id
  has_method : (c.get id).method? verb = some m
  words_split : ∀ word ∈ a.words, ∃ field, splitField? word = some field
  required_given : ∀ p ∈ m.required, Binds c a.path p ∨ Gives a.words p

section Checking

variable {desk : Desk} {c : Catalog} {a : Asked}

theorem firstMissing?_eq_ungiven? {m : Method} {fields : Params}
    (h : fieldsOf a.words = .ok fields) :
    firstMissing? m (((c.bindKeys? a.path).getD []).map (·.1)) fields = a.ungiven? c m := by
  refine congrArg (m.required.find? ·) (funext fun p => ?_)
  simp only [← supplies_iff h, Binds]
  simp

/-- Checking a call ends with the first complaint that its words give rise to. -/
theorem check_cases (desk : Desk) (c : Catalog) (a : Asked) :
    (∃ e, Call.check c a.verb a.path a.words = .error e ∧
        CallCheck.ofWords.findSome? (a.complaint? desk c) = some e) ∨
      ∃ verb id m fields, Call.check c a.verb a.path a.words = .ok ⟨verb, a.path, m, fields⟩ ∧
        CallCheck.ofWords.findSome? (a.complaint? desk c) = none ∧ a.Fits c verb id m ∧
        fieldsOf a.words = .ok fields := by
  cases hverb : Verb.ofText? a.verb with
  | none =>
    refine .inl ⟨.unknownVerb a.verb, ?_, by simp [CallCheck.ofWords, complaint?, hverb]⟩
    simp only [Call.check, verbOf, hverb, bind, Except.bind]
  | some verb =>
  cases hpath : c.locate? a.path with
  | none =>
    refine .inl ⟨.unknownResource a.path, ?_, by simp [CallCheck.ofWords, complaint?, hverb, hpath]⟩
    simp only [Call.check, verbOf, hverb, resourceAt, hpath, bind, Except.bind]
  | some id =>
  cases hm : (c.get id).method? verb with
  | none =>
    have hhas : (c.get id).hasMethod verb = false := by
      rw [Resource.hasMethod, hm, Option.isSome_none]
    refine .inl ⟨.request (.unsupportedVerb verb (c.get id).path), ?_,
      by simp [CallCheck.ofWords, complaint?, hverb, hpath, hhas]⟩
    simp only [Call.check, verbOf, hverb, resourceAt, hpath, bind, Except.bind, hm]
  | some m =>
  have hhas : (c.get id).hasMethod verb = true := by rw [Resource.hasMethod, hm, Option.isSome_some]
  cases hbad : badWord? a.words with
  | some word =>
    refine .inl ⟨.notAField word, ?_,
      by simp [CallCheck.ofWords, complaint?, hverb, hpath, hhas, hbad]⟩
    simp only [Call.check, verbOf, hverb, resourceAt, hpath, bind, Except.bind, hm, fieldsOf_eq,
      hbad]
  | none =>
  have hfields : fieldsOf a.words = .ok (insertAll {} (given a.words)) := by rw [fieldsOf_eq, hbad]
  have hmissing := firstMissing?_eq_ungiven? (c := c) (m := m) hfields
  cases hp : a.ungiven? c m with
  | some p =>
    rw [hp] at hmissing
    refine .inl ⟨.request (.missingParameter p.wireName), ?_,
      by simp [CallCheck.ofWords, complaint?, hverb, hpath, hhas, hbad, hm, hp]⟩
    simp only [Call.check, verbOf, hverb, resourceAt, hpath, bind, Except.bind, hm, hfields,
      hmissing]
  | none =>
    rw [hp] at hmissing
    refine .inr ⟨verb, id, m, _, ?_, ?_, ⟨hverb, hpath, hm, ?_, ?_⟩, hfields⟩
    · simp only [Call.check, verbOf, hverb, resourceAt, hpath, bind, Except.bind, hm, hfields,
        hmissing]
    · simp [CallCheck.ofWords, complaint?, hverb, hpath, hhas, hbad, hm, hp]
    · intro word hword
      have hsplit := List.find?_eq_none.mp hbad word hword
      exact Option.ne_none_iff_exists'.mp fun hnone => hsplit (by rw [hnone]; rfl)
    · intro p hmem
      have hgiven := List.find?_eq_none.mp hp p hmem
      simp only [decide_eq_true_eq, not_and_or, not_not] at hgiven
      exact hgiven

end Checking

/-- Whether a call fits and its desk has what a request needs besides. -/
structure Ready (desk : Desk) (c : Catalog) (a : Asked) (verb : Verb) (base token : String) :
    Prop where
  fits : ∃ id m, a.Fits c verb id m
  base_set : desk.environment.lookup "PVE_HOST" = some base
  token_set : desk.environment.lookup "PVE_API_TOKEN" = some token

/-- What a call gives and which requests it sends: none with a complaint, and otherwise the request
that is made of its verb, its path and its fields, if there is one. -/
inductive Outcome (desk : Desk) (c : Catalog) (a : Asked) :
    Except CommandError String → List HttpRequest → Prop
  | refused {e : CommandError} (complaint : a.firstComplaint? desk c = some e) :
    Outcome desk c a (.error e) []
  | unsendable {verb : Verb} {fields : Params} {base token : String} {reason : RequestError}
      (complaint : a.firstComplaint? desk c = none) (ready : a.Ready desk c verb base token)
      (given : fieldsOf a.words = .ok fields)
      (made : httpRequest ⟨base, token⟩ verb a.path fields = .error reason) :
    Outcome desk c a (.error (.request reason)) []
  | sent {verb : Verb} {fields : Params} {base token : String} {request : HttpRequest}
      {result : Except CommandError String}
      (complaint : a.firstComplaint? desk c = none) (ready : a.Ready desk c verb base token)
      (given : fieldsOf a.words = .ok fields)
      (made : httpRequest ⟨base, token⟩ verb a.path fields = .ok request)
      (answered : ∀ reason, desk.answer = .error reason → result = .error (.request reason)) :
    Outcome desk c a result [request]

theorem run_makeCall (desk : Desk) (c : Catalog) (a : Asked) (isRendered isPretty : Bool) :
    ∃ result requests,
      desk.run (makeCall Desk.system c a.verb a.path a.words isRendered isPretty) =
        (result, { desk with sent := desk.sent ++ requests }) ∧
      a.Outcome desk c result requests := by
  rw [makeCall, desk.run_bind_kept _ (desk.run_settle _ _)]
  have hcomplaint : a.firstComplaint? desk c =
      (CallCheck.ofWords.findSome? (a.complaint? desk c)).or
        ([CallCheck.host, .token].findSome? (a.complaint? desk c)) := by
    rw [firstComplaint?, CallCheck.inOrder, List.findSome?_append]
  rcases check_cases desk c a with
    ⟨e, hcheck, hfirst⟩ | ⟨verb, id, m, fields, hcheck, hfirst, hfits, hfields⟩
  · rw [hfirst, Option.some_or] at hcomplaint
    refine ⟨.error e, [], ?_, .refused hcomplaint⟩
    rw [hcheck, List.append_nil]
    rfl
  rw [hfirst, Option.none_or] at hcomplaint
  rw [hcheck]
  dsimp only [Except.mapError]
  rw [Desk.run_bind, Desk.run_ask, Desk.request, Desk.valueOf, Desk.valueOf]
  cases hbase : desk.environment.lookup "PVE_HOST" with
  | none =>
    have hunset : a.firstComplaint? desk c = some (.unset "PVE_HOST missing") := by
      simp [hcomplaint, complaint?, hbase]
    exact ⟨.error (.unset "PVE_HOST missing"), [], by rw [List.append_nil]; rfl, .refused hunset⟩
  | some base =>
  cases htoken : desk.environment.lookup "PVE_API_TOKEN" with
  | none =>
    have hunset : a.firstComplaint? desk c = some (.unset "PVE_API_TOKEN missing") := by
      simp [hcomplaint, complaint?, hbase, htoken]
    exact ⟨.error (.unset "PVE_API_TOKEN missing"), [], by rw [List.append_nil]; rfl,
      .refused hunset⟩
  | some token =>
  have hnone : a.firstComplaint? desk c = none := by
    simp [hcomplaint, complaint?, hbase, htoken]
  have hready : a.Ready desk c verb base token := ⟨⟨id, m, hfits⟩, hbase, htoken⟩
  cases hrequest : httpRequest ⟨base, token⟩ verb a.path fields with
  | error reason =>
    refine ⟨.error (.request reason), [], ?_, .unsendable hnone hready hfields hrequest⟩
    rw [List.append_nil]
    simp only [bind, Except.bind, hrequest, Except.mapError]
  | ok request =>
    simp only [bind, Except.bind, hrequest, Except.mapError]
    cases hanswer : desk.answer with
    | error reason =>
      refine ⟨.error (.request reason), [request], rfl, .sent hnone hready hfields hrequest ?_⟩
      intro other hother
      rw [Except.error.inj (hanswer.symm.trans hother)]
    | ok answer =>
      refine ⟨.ok _, [request], rfl, .sent hnone hready hfields hrequest ?_⟩
      intro reason hreason
      exact absurd (hanswer.symm.trans hreason) (by simp)

/-- What a call sends carries for each name the last value that its words give. -/
theorem fields?_of_made {a : Asked} {verb : Verb} {fields : Params} {base token : String}
    {request : HttpRequest} (hfields : fieldsOf a.words = .ok fields)
    (h : httpRequest ⟨base, token⟩ verb a.path fields = .ok request)
    (hpath : '?' ∉ a.path.toList) (hbase : '?' ∉ base.toList) :
    ∃ pairs, request.fields? = some pairs ∧ (pairs.map (·.1)).Nodup ∧
      ∀ name, pairs.lookup name = lastGiven? a.words name :=
  ⟨fields.fields, fields?_httpRequest h hbase hpath, nodup_fieldsOf hfields, get?_fieldsOf hfields⟩

namespace Outcome

variable {desk : Desk} {c : Catalog} {a : Asked} {result : Except CommandError String}
  {requests : List HttpRequest}

theorem length_le (h : a.Outcome desk c result requests) : requests.length ≤ 1 := by
  cases h <;> simp

theorem ready_of_mem (h : a.Outcome desk c result requests) {request : HttpRequest}
    (hrequest : request ∈ requests) :
    ∃ base token, a.Ready desk c request.verb base token ∧
      ('?' ∉ a.path.toList → '?' ∉ base.toList → ∃ pairs, request.fields? = some pairs ∧
        (pairs.map (·.1)).Nodup ∧ ∀ name, pairs.lookup name = lastGiven? a.words name) := by
  cases h with
  | refused => exact absurd hrequest List.not_mem_nil
  | unsendable => exact absurd hrequest List.not_mem_nil
  | sent _ ready given made _ =>
    have heq := List.mem_singleton.mp hrequest
    rw [← heq] at made
    rw [verb_httpRequest made]
    exact ⟨_, _, ready, fields?_of_made given made⟩

theorem of_complaint (h : a.Outcome desk c result requests) :
    match a.firstComplaint? desk c with
    | some e => result = .error e ∧ requests = []
    | none => (requests ≠ [] ∧
          ∀ reason, desk.answer = .error reason → result = .error (.request reason)) ∨
        ∃ reason, result = .error (.request reason) := by
  cases h with
  | refused complaint =>
    rw [complaint]
    exact ⟨rfl, rfl⟩
  | unsendable complaint =>
    rw [complaint]
    exact .inr ⟨_, rfl⟩
  | sent complaint _ _ _ answered =>
    rw [complaint]
    exact .inl ⟨List.cons_ne_nil _ _, answered⟩

end Outcome

end Asked

/-- A call sends at most one request, and only if it has all that it needs. The request has the verb
of the call and, if its URL has no query of its own, carries for each name the last value that the
words give. Once the schema is loaded, the call fails with the first complaint; without one it fails
with what goes wrong where the request is made, sent or answered. -/
theorem call_checked_then_sent {line : List String} {schema : Option String} {a : Asked}
    {isPretty isRendered : Bool} (hline : ExploreRequest.ofWords? line =
      some ⟨schema, isPretty, .call a.verb a.path isRendered a.words⟩) (desk : Desk) :
    ∃ result requests,
      desk.run (explore Desk.system line) = (result, { desk with sent := desk.sent ++ requests }) ∧
      requests.length ≤ 1 ∧
      (∀ request ∈ requests, ∃ c base token, desk.Loads schema c ∧
        a.Ready desk c request.verb base token ∧
        ('?' ∉ a.path.toList → '?' ∉ base.toList → ∃ pairs, request.fields? = some pairs ∧
          (pairs.map (·.1)).Nodup ∧ ∀ name, pairs.lookup name = lastGiven? a.words name)) ∧
      ∀ c, desk.Loads schema c → match a.firstComplaint? desk c with
        | some e => result = .error e ∧ requests = []
        | none => (requests ≠ [] ∧
              ∀ reason, desk.answer = .error reason → result = .error (.request reason)) ∨
            ∃ reason, result = .error (.request reason) := by
  obtain ⟨loaded, hload, hloaded⟩ := desk.run_loadCatalog schema
  rw [explore, hline]
  dsimp only
  rw [desk.run_bind_kept _ hload]
  cases loaded with
  | error e =>
    refine ⟨.error e, [], by rw [List.append_nil], Nat.zero_le 1, by simp, fun c hc => ?_⟩
    have hcontra := (hloaded c).mpr hc
    contradiction
  | ok c =>
  have hc : desk.Loads schema c := (hloaded c).mp rfl
  obtain ⟨result, requests, hrun, houtcome⟩ := a.run_makeCall desk c isRendered isPretty
  refine ⟨result, requests, hrun, houtcome.length_le, fun request hrequest => ?_, fun d hd => ?_⟩
  · obtain ⟨base, token, hready, hfields⟩ := houtcome.ready_of_mem hrequest
    exact ⟨c, base, token, hc, hready, hfields⟩
  · rw [← hc.unique hd]
    exact houtcome.of_complaint

def poolsDocument : Json :=
  .arr [.obj [("text", .str "pools"), ("path", .str "/pools"),
    ("info", .obj [("POST", .obj [("name", .str "add"),
      ("parameters", .obj [("properties", .obj [("id", .obj [])])]),
      ("returns", .obj [("type", .str "null")])])])]]

def poolsDesk : Desk where
  environment := [("PVE_HOST", "https://[::1]"), ("PVE_API_TOKEN", "secret")]
  files := ⟨[(["schema"], .file poolsDocument.compact)]⟩

theorem call_checked_then_sent_pools : ∃ request c base token,
    (poolsDesk.run (explore Desk.system
      ["--schema", "schema", "call", "post", "/pools", "id=a", "id=b c"])).2.sent = [request] ∧
    poolsDesk.Loads (some "schema") c ∧
    Asked.Ready poolsDesk c ⟨"post", "/pools", ["id=a", "id=b c"]⟩ request.verb base token ∧
    ∃ pairs, request.fields? = some pairs ∧ pairs.lookup "id" = some "b c" := by
  let a : Asked := ⟨"post", "/pools", ["id=a", "id=b c"]⟩
  have hline : ExploreRequest.ofWords?
      ["--schema", "schema", "call", "post", "/pools", "id=a", "id=b c"] =
        some ⟨some "schema", false, .call a.verb a.path false a.words⟩ := by decide +kernel
  obtain ⟨result, requests, hrun, hle, hsent, -⟩ := call_checked_then_sent hline poolsDesk
  have hlength : (poolsDesk.run (explore Desk.system
      ["--schema", "schema", "call", "post", "/pools", "id=a", "id=b c"])).2.sent.length = 1 := by
    decide +kernel
  rw [hrun] at hlength ⊢
  obtain ⟨request, hrequest⟩ := List.length_eq_one_iff.mp hlength
  have hmem : request ∈ requests := by
    rw [show requests = [request] from hrequest]
    exact List.mem_singleton_self request
  obtain ⟨c, base, token, hc, hready, hfields⟩ := hsent request hmem
  have hbase : base = "https://[::1]" := Option.some.inj (hready.base_set.symm.trans rfl)
  obtain ⟨pairs, hpairs, -, hlast⟩ := hfields (by decide) (by rw [hbase]; decide)
  exact ⟨request, c, base, token, hrequest, hc, hready, pairs, hpairs,
    (hlast "id").trans (by decide +kernel)⟩

end ApiAtlas.Command
