import ApiAtlas.Proofs.Request.Form
import ApiAtlas.Proofs.Request.Url
import ApiAtlas.Request.Http

/-!
# Fields of requests

The fields of a request are in its form or in its query, by its verb. What is read there is what the
request was made of, if its URL has no query of its own.
-/

namespace ApiAtlas.Request

open Checks Descriptor

/-- The names and values that a request carries. -/
def HttpRequest.fields? (r : HttpRequest) : Option (List (String × String)) :=
  if r.verb.sendsBody then r.form.bind formPairs? else formPairs? (r.url.query.getD "")

theorem resourceUrl_eq_ok {base path : String} {u : WebUrl} :
    resourceUrl base path = .ok u ↔
      WebUrl.ofText (resourceText base path).toList = .ok (some u) := by
  rw [resourceUrl]
  split <;> simp_all

/-- A request is made of a URL of its resource and carries the fields. -/
theorem httpRequest_eq_ok {access : Access} {verb : Verb} {path : String} {fields : Params}
    {request : HttpRequest} :
    httpRequest access verb path fields = .ok request ↔ ∃ u, resourceUrl access.base path = .ok u ∧
      access.token.toList.all isHeaderChar = true ∧
      request = if verb.sendsBody then
          ⟨verb, u, "PVEAPIToken=" ++ access.token, some (formPairs fields.fields)⟩
        else ⟨verb, u.addPairs fields.fields, "PVEAPIToken=" ++ access.token, none⟩ := by
  rw [httpRequest, bind_eq_ok]
  refine exists_congr fun u => and_congr_right fun _ => ?_
  cases access.token.toList.all isHeaderChar with
  | true => cases verb.sendsBody <;> simp [pure, Except.pure, eq_comm]
  | false => simp [bind, Except.bind]

theorem verb_httpRequest {access : Access} {verb : Verb} {path : String} {fields : Params}
    {request : HttpRequest} (h : httpRequest access verb path fields = .ok request) :
    request.verb = verb := by
  obtain ⟨u, -, -, rfl⟩ := httpRequest_eq_ok.mp h
  split <;> rfl

/-- The headers of a request have values that can stand there; they tell the type of a body exactly
for a verb that sends one. -/
theorem headers_httpRequest {access : Access} {verb : Verb} {path : String} {fields : Params}
    {request : HttpRequest} (h : httpRequest access verb path fields = .ok request) :
    (request.headers.all fun header => header.2.toList.all isHeaderChar) = true ∧
      (("content-type", formType) ∈ request.headers ↔ verb.sendsBody = true) := by
  obtain ⟨u, -, htoken, rfl⟩ := httpRequest_eq_ok.mp h
  have huser : userAgent.toList.all isHeaderChar = true := by decide
  have hform : formType.toList.all isHeaderChar = true := by decide
  have hauthorization : ("PVEAPIToken=" ++ access.token).toList.all isHeaderChar = true := by
    rw [String.toList_append, List.all_append, htoken]
    decide
  cases hverb : verb.sendsBody with
  | true => simp [HttpRequest.headers, huser, hauthorization, hform, -String.toList_append]
  | false => simp [HttpRequest.headers, huser, hauthorization, -String.toList_append]

theorem question_not_mem_resourceText {base path : String} (hbase : '?' ∉ base.toList)
    (hpath : '?' ∉ path.toList) : '?' ∉ (resourceText base path).toList := by
  rw [resourceText, String.toList_ofList]
  have hserver : '?' ∉ serverBase base.toList := fun h => hbase (mem_of_mem_serverBase h)
  have hrest : '?' ∉ path.toList.dropWhile (· == '/') := fun h =>
    hpath ((List.dropWhile_sublist _).mem h)
  have hroot : '?' ∉ resourceRoot := by decide
  simp [hserver, hrest, hroot]

theorem query_addPairs {u : WebUrl} (h : u.query = none) (pairs : List (String × String)) :
    (u.addPairs pairs).query.getD "" = formPairs pairs := by
  rw [WebUrl.addPairs]
  cases pairs with
  | nil => simp [h, formPairs]
  | cons pair rest => simp [h]

/-- Without question marks in the base and the path, a request carries exactly its fields. -/
theorem fields?_httpRequest {access : Access} {verb : Verb} {path : String} {fields : Params}
    {request : HttpRequest} (h : httpRequest access verb path fields = .ok request)
    (hbase : '?' ∉ access.base.toList) (hpath : '?' ∉ path.toList) :
    request.fields? = some fields.fields := by
  obtain ⟨u, hu, -, rfl⟩ := httpRequest_eq_ok.mp h
  have hquery : u.query = none :=
    query_ofText (question_not_mem_resourceText hbase hpath) (resourceUrl_eq_ok.mp hu)
  rw [HttpRequest.fields?]
  cases hverb : verb.sendsBody with
  | true => simp [hverb, formPairs?_formPairs]
  | false => simp [hverb, query_addPairs hquery, formPairs?_formPairs]

end ApiAtlas.Request
