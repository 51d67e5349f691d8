import ApiAtlas.Proofs.Command.Calls
import ApiAtlas.Proofs.Request.Keys
import ApiAtlas.Proofs.Request.Plain

/-!
# Where requests go

Calls and the listings that a server fills send a request for a path, and no other command sends
any. The request is for a resource that was located by the segments of the path, and it goes to this
resource exactly if the base stands for a server and the path is plain.
-/

namespace ApiAtlas.Command

open Descriptor Explorer Request Resources

theorem Desk.valueOf_eq_ok {desk : Desk} {name need value : String} :
    desk.valueOf name need = .ok value ↔ desk.environment.lookup name = some value := by
  rw [Desk.valueOf]
  cases desk.environment.lookup name <;> simp

theorem Desk.request_eq_ok {desk : Desk} {verb : Verb} {path : String} {fields : Params}
    {request : HttpRequest} : desk.request verb path fields = .ok request ↔
      ∃ base token, desk.environment.lookup "PVE_HOST" = some base ∧
        desk.environment.lookup "PVE_API_TOKEN" = some token ∧
        httpRequest ⟨base, token⟩ verb path fields = .ok request := by
  unfold Desk.request
  simp only [Checks.bind_eq_ok, Desk.valueOf_eq_ok, mapError_eq_ok, exists_and_left]

/-! ## What is sent -/

/-- Whether an action sends nothing but one request, with a property, or nothing at all. -/
def Desk.SendsOnly {α : Type} (desk : Desk) (P : HttpRequest → Prop)
    (x : Action (StateM Desk) α) : Prop :=
  ∃ result requests, desk.run x = (result, { desk with sent := desk.sent ++ requests }) ∧
    requests.length ≤ 1 ∧ ∀ request ∈ requests, P request

namespace Desk

variable {α β : Type} {desk : Desk} {P Q : HttpRequest → Prop} {x : Action (StateM Desk) α}

theorem sendsOnly_of_kept {result : Except CommandError α} (h : desk.run x = (result, desk)) :
    desk.SendsOnly P x := by
  refine ⟨result, [], ?_, Nat.zero_le 1, by simp⟩
  rw [h, List.append_nil]

/-- Behind a step that leaves the desk as it is, an action sends what the rest of it sends. -/
theorem sendsOnly_bind_kept {result : Except CommandError α} {f : α → Action (StateM Desk) β}
    (h : desk.run x = (result, desk)) (hf : ∀ a, result = .ok a → desk.SendsOnly P (f a)) :
    desk.SendsOnly P (x >>= f) := by
  have hbind := desk.run_bind_kept f h
  cases result with
  | error e => exact sendsOnly_of_kept hbind
  | ok a =>
    unfold SendsOnly
    rw [hbind]
    exact hf a rfl

theorem SendsOnly.imp (h : desk.SendsOnly P x) (himp : ∀ request, P request →
    (desk.run x).2.sent = desk.sent ++ [request] → Q request) : desk.SendsOnly Q x := by
  obtain ⟨result, requests, hrun, hle, hrequests⟩ := h
  refine ⟨result, requests, hrun, hle, fun request hmem => ?_⟩
  have hone : requests = [request] := by
    have hpos := List.length_pos_of_mem hmem
    obtain ⟨only, honly⟩ := List.length_eq_one_iff.mp (by omega : requests.length = 1)
    rw [honly] at hmem ⊢
    rw [List.mem_singleton.mp hmem]
  apply himp request (hrequests request hmem)
  rw [hrun, hone]

theorem sendsOnly_ask (verb : Verb) (path : String) (fields : Params) (f : Json → α) :
    desk.SendsOnly (fun request => desk.request verb path fields = .ok request)
      (ask Desk.system verb path fields >>= fun answer => pure (f answer)) := by
  unfold SendsOnly
  rw [run_bind, run_ask]
  cases desk.request verb path fields with
  | error e => exact ⟨.error e, [], by rw [List.append_nil], Nat.zero_le 1, by simp⟩
  | ok request =>
    have hsent : ∀ sent ∈ [request], Except.ok request = (.ok sent : Except CommandError _) := by
      simp
    cases desk.answer with
    | error reason => exact ⟨_, [request], rfl, Nat.le_refl 1, hsent⟩
    | ok answer => exact ⟨_, [request], rfl, Nat.le_refl 1, hsent⟩

end Desk

/-- A listing sends a request only if a server is to fill it, and then for its path. -/
theorem sendsOnly_listing (desk : Desk) (c : Catalog) (path : String) (isRemote isJson : Bool) :
    desk.SendsOnly (fun request => isRemote = true ∧ (∃ id, c.locate? path = some id) ∧
      desk.request .get path {} = .ok request) (listing Desk.system c path isRemote isJson) := by
  unfold listing
  apply Desk.sendsOnly_bind_kept (desk.run_settle _ _)
  intro id hid
  have hlocated : c.locate? path = some id := by
    rw [mapError_eq_ok, resourceAt] at hid
    split at hid
    · rename_i found hfound
      rw [hfound, Except.ok.inj hid]
    · contradiction
  split
  · exact Desk.sendsOnly_of_kept (desk.run_pure _)
  split
  · rename_i hremote
    refine (Desk.sendsOnly_ask .get path {} _).imp fun request hrequest _ => ?_
    exact ⟨(Bool.and_eq_true_iff.mp hremote).1, ⟨id, hlocated⟩, hrequest⟩
  · exact Desk.sendsOnly_of_kept (desk.run_pure _)

theorem sendsOnly_makeCall (desk : Desk) (c : Catalog) (a : Asked) (isRendered isPretty : Bool) :
    desk.SendsOnly (fun request => ∃ base token verb fields id,
      desk.environment.lookup "PVE_HOST" = some base ∧ fieldsOf a.words = .ok fields ∧
        c.locate? a.path = some id ∧ httpRequest ⟨base, token⟩ verb a.path fields = .ok request)
      (makeCall Desk.system c a.verb a.path a.words isRendered isPretty) := by
  obtain ⟨result, requests, hrun, houtcome⟩ := a.run_makeCall desk c isRendered isPretty
  refine ⟨result, requests, hrun, houtcome.length_le, fun request hmem => ?_⟩
  cases houtcome with
  | refused => exact absurd hmem List.not_mem_nil
  | unsendable => exact absurd hmem List.not_mem_nil
  | sent _ ready given made _ =>
    obtain ⟨id, m, hfits⟩ := ready.fits
    rw [← List.mem_singleton.mp hmem] at made
    exact ⟨_, _, _, _, id, ready.base_set, given, hfits.located, made⟩

/-- Whether a call or a listing of a path sends a request, with words for its fields. -/
inductive Desk.Sends (desk : Desk) (c : Catalog) (path : String) (request : HttpRequest) :
    List String → Prop
  | call {verb : String} {words : List String} {isRendered isPretty : Bool}
      (sent : (desk.run (makeCall Desk.system c verb path words isRendered isPretty)).2.sent =
        desk.sent ++ [request]) : desk.Sends c path request words
  | list {isJson : Bool}
      (sent : (desk.run (listing Desk.system c path true isJson)).2.sent =
        desk.sent ++ [request]) : desk.Sends c path request []

/-- What is sent for a path was made of it, once a resource was located. -/
theorem Desk.Sends.made {desk : Desk} {c : Catalog} {path : String} {request : HttpRequest}
    {words : List String} (h : desk.Sends c path request words) :
    ∃ base token verb fields id, desk.environment.lookup "PVE_HOST" = some base ∧
      fieldsOf words = .ok fields ∧ c.locate? path = some id ∧
      httpRequest ⟨base, token⟩ verb path fields = .ok request := by
  have hmem : ∀ {P : HttpRequest → Prop} {x : Action (StateM Desk) String},
      desk.SendsOnly P x → (desk.run x).2.sent = desk.sent ++ [request] → P request := by
    rintro P x ⟨result, requests, hrun, -, hrequests⟩ hsent
    rw [hrun] at hsent
    apply hrequests
    rw [show requests = [request] from List.append_cancel_left hsent]
    exact List.mem_singleton_self request
  cases h with
  | @call verb words isRendered isPretty sent =>
    exact hmem (sendsOnly_makeCall desk c ⟨verb, path, words⟩ isRendered isPretty) sent
  | @list isJson sent =>
    obtain ⟨-, ⟨id, hid⟩, hrequest⟩ := hmem (sendsOnly_listing desk c path true isJson) sent
    obtain ⟨base, token, hbase, -, hmade⟩ := Desk.request_eq_ok.mp hrequest
    exact ⟨base, token, .get, {}, id, hbase, rfl, hid, hmade⟩

/-- The path and the words for fields of a command that may send a request. -/
def Exploration.asked? : Exploration → Option (String × List String)
  | .call _ path _ words => some (path, words)
  | .list path true _ => some (path, [])
  | _ => none

/-- A run sends at most one request, and only for the path of its command. -/
theorem sendsOnly_explore (desk : Desk) (line : List String) :
    desk.SendsOnly (fun request => ∃ r c path words, ExploreRequest.ofWords? line = some r ∧
      desk.Loads r.schema c ∧ r.exploration.asked? = some (path, words) ∧
        desk.Sends c path request words) (explore Desk.system line) := by
  unfold explore
  cases hline : ExploreRequest.ofWords? line with
  | none => exact Desk.sendsOnly_of_kept (desk.run_throw _)
  | some r =>
  obtain ⟨loaded, hload, hloaded⟩ := desk.run_loadCatalog r.schema
  dsimp only
  apply Desk.sendsOnly_bind_kept hload
  intro c hc
  have hloads : desk.Loads r.schema c := (hloaded c).mp hc
  obtain ⟨schema, isPretty, exploration⟩ := r
  cases exploration with
  | list path isRemote isJson =>
    refine (sendsOnly_listing desk c path isRemote isJson).imp fun request hrequest hsent => ?_
    obtain rfl := hrequest.1
    exact ⟨_, c, path, [], rfl, hloads, rfl, .list hsent⟩
  | usage path verb isVerbose => exact Desk.sendsOnly_of_kept (desk.run_settle _ _)
  | tree isJson => exact Desk.sendsOnly_of_kept (desk.run_pure _)
  | call verb path isRendered words =>
    refine (sendsOnly_makeCall desk c ⟨verb, path, words⟩ isRendered isPretty).imp
      fun request _ hsent => ?_
    exact ⟨_, c, path, words, rfl, hloads, rfl, .call hsent⟩

/-! ## Where it goes -/

/-- A request for a path goes to the resource that was located, with no query but that of its
fields, exactly if the base stands for a server and the path is plain. -/
theorem sent_reaches_located_iff {desk : Desk} {c : Catalog} {path : String}
    {request : HttpRequest} {words : List String} (h : desk.Sends c path request words) :
    ∃ base fields id, desk.environment.lookup "PVE_HOST" = some base ∧
      fieldsOf words = .ok fields ∧ c.locate? path = some id ∧
      ((Reaches base (segmentsOf path) request.url ∧
          request.url.query = ownQuery? request.verb fields) ↔
        (∃ server, Serves base server) ∧ PlainPath path) := by
  obtain ⟨base, token, verb, fields, id, hbase, hfields, hid, hmade⟩ := h.made
  have hiff := httpRequest_reaches_iff hmade
  dsimp only at hiff
  exact ⟨base, fields, id, hbase, hfields, hid, hiff⟩

def loopbackDesk : Desk where
  environment := [("PVE_HOST", "https://[::1]:8006/"), ("PVE_API_TOKEN", "secret")]

theorem sent_reaches_located_disks : ∃ c request base,
    Catalog.build (Client.leafDocument "disks") = .ok c ∧
      loopbackDesk.Sends c "/pve 1/disks" request [] ∧
      loopbackDesk.environment.lookup "PVE_HOST" = some base ∧
      Reaches base ["pve 1", "disks"] request.url ∧ request.url.query = none := by
  obtain ⟨c, hc, hsent⟩ := Catalog.exists_built (Client.leafDocument "disks")
    (P := fun c => (loopbackDesk.run (listing Desk.system c "/pve 1/disks" true false)).2.sent =
      [⟨.get, ⟨true, "[::1]", some 8006, ["api2", "json", "pve%201", "disks"], none⟩,
        "PVEAPIToken=secret", none⟩]) (by decide +kernel)
  have hsends : loopbackDesk.Sends c "/pve 1/disks" _ [] := .list hsent
  obtain ⟨base, fields, id, hbase, -, -, hiff⟩ := sent_reaches_located_iff hsends
  have hbaseText : base = "https://[::1]:8006/" := Option.some.inj (hbase.symm.trans rfl)
  have hnames : segmentsOf "/pve 1/disks" = ["pve 1", "disks"] := by decide +kernel
  have hplain : PlainPath "/pve 1/disks" := by decide +kernel
  have hreaches := hiff.mpr ⟨⟨_, hbaseText ▸ serves_loopback⟩, hplain⟩
  rw [hnames] at hreaches
  exact ⟨c, _, base, hc, hsends, hbase, hreaches.1, rfl⟩

/-- A question mark in a value ends the path, and the rest of the path is asked as a query. -/
theorem not_reaches_located_question : ∃ c request,
    Catalog.build (Client.leafDocument "disks") = .ok c ∧
      c.locate? "/a?b/disks" = some 2 ∧ loopbackDesk.Sends c "/a?b/disks" request ["digest=1"] ∧
      request.url.target = "/api2/json/a?b/disks&digest=1" ∧
      ¬ Reaches "https://[::1]:8006/" ["a?b", "disks"] request.url := by
  obtain ⟨c, hc, hid, hsent⟩ := Catalog.exists_built (Client.leafDocument "disks")
    (P := fun c => c.locate? "/a?b/disks" = some 2 ∧
      (loopbackDesk.run (makeCall Desk.system c "get" "/a?b/disks" ["digest=1"]
        false false)).2.sent =
          [⟨.get, ⟨true, "[::1]", some 8006, ["api2", "json", "a"], some "b/disks&digest=1"⟩,
            "PVEAPIToken=secret", none⟩]) (by decide +kernel)
  refine ⟨c, _, hc, hid, .call hsent, by decide +kernel, fun hreaches => ?_⟩
  have hadded : (⟨true, "[::1]", some 8006, ["api2", "json", "a"], some "b/disks&digest=1"⟩ :
      WebUrl) = WebUrl.addPairs ⟨true, "[::1]", some 8006, ["api2", "json", "a"], some "b/disks"⟩
        [("digest", "1")] := by decide +kernel
  have hurl : resourceUrl "https://[::1]:8006/" "/a?b/disks" =
      .ok ⟨true, "[::1]", some 8006, ["api2", "json", "a"], some "b/disks"⟩ := by decide +kernel
  have hnames : segmentsOf "/a?b/disks" = ["a?b", "disks"] := by decide +kernel
  have hnot : ¬ PlainPath "/a?b/disks" := by decide +kernel
  rw [hadded, reaches_addPairs, ← hnames, serves_loopback.reaches_segmentsOf_iff hurl] at hreaches
  exact hnot hreaches

end ApiAtlas.Command
