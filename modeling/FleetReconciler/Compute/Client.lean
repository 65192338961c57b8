import FleetReconciler.Cloud
import FleetReconciler.Json.Reader
import FleetReconciler.Text.Utf8
import FleetReconciler.Url.Reader

/-!
# The client of the compute API

The calls of a service become requests of the web, and the answers are read.

* `ComputeClient.list?`, `ComputeClient.delete?` — the request of a call, or why there is none;
* `readAnswer` — what an answer says;
* `ComputeClient.cloud` — the access to the API over a transport.
-/

namespace FleetReconciler

/-- A request that posts JSON. The fields of its header are left to the transport. -/
structure HttpRequest where
  url : Url
  body : Json
  /-- The token that authenticates the request. -/
  token : Option String

/-- An answer to a request. -/
structure HttpResponse where
  status : Nat
  body : ByteArray
  /-- Whether all of the body has arrived. -/
  complete : Bool := true

/-- What carries requests, over a state. There may be no answer. -/
structure Transport (τ : Type) where
  send : HttpRequest → τ → Option HttpResponse × τ
  /-- A bound on the number of pages that can still be answered. -/
  pageBudget : τ → Nat

/-- A transport that reaches nobody. -/
def Transport.offline : Transport Unit where
  send _ s := (none, s)
  pageBudget _ := 1

/-- A client with the base URL of the API and a token. -/
structure ComputeClient where
  endpoint : String
  token : Option String
  deriving DecidableEq

namespace ComputeClient

/-- The client of the settings. Slashes at the end of the base URL do not count. -/
def ofSettings (s : ComputeSettings) (token : Option String) : ComputeClient :=
  { endpoint := String.ofList (Text.dropEndWhile (· = '/') s.endpoint.toList), token }

/-- What is to be logged when a client is made. -/
def notice? (c : ComputeClient) : Option Notice :=
  if c.token.isNone then some .unauthenticated else none

/-! ## Requests -/

/-- The error of a request that could not be made. -/
def unusable (url : Option Url) : ComputeError :=
  .transport ("builder error" ++ (url.map fun u => " for url (" ++ u.text ++ ")").getD "")

/-- The error of a request that was not answered. -/
def unanswered (url : Url) : ComputeError :=
  .transport ("error sending request for url (" ++ url.text ++ ")")

/-- Whether a text can be sent in a header. -/
def isHeaderText (s : String) : Bool :=
  s.toList.all fun c => c = '\t' || (c.toNat ≥ 0x20 && c.toNat ≠ 0x7F)

/-- The longest URL of a request, in bytes. -/
def maxUrlBytes : Nat := 65534

/-- Whether a request can be sent to a URL: it is one of the web, its host has no signs that cannot
stand in the line of a request, and it is not too long. -/
def isReachable (u : Url) : Bool :=
  let host := (u.authority.map (·.host)).getD ""
  (u.scheme = "http" || u.scheme = "https") &&
    host.toList.all (fun c => c ∉ ['"', '\x60', '\x7b', '\x7d']) &&
    u.text.utf8ByteSize ≤ maxUrlBytes

/-- The request to a URL with a query and a body. -/
def request? (c : ComputeClient) (url : String) (query : List (String × String)) (body : Json) :
    Except ComputeError HttpRequest :=
  match Url.parse? url with
  | none => .error (unusable none)
  | some u =>
    if !u.hasHost then .error (unusable u)
    else
      let u := u.withoutUser.withQuery query
      if !c.token.all isHeaderText then .error (unusable none)
      else if !isReachable u then .error (unusable u)
      else .ok ⟨u, body, c.token⟩

/-- The URL of a zone of a project. -/
def zoneUrl (c : ComputeClient) (project zone : String) : String :=
  c.endpoint ++ "/projects/" ++ project ++ "/zones/" ++ zone

/-- The request that lists a page of a group. -/
def list? (c : ComputeClient) (call : ListCall) : Except ComputeError HttpRequest :=
  let url :=
    c.zoneUrl call.project call.zone ++ "/instanceGroups/" ++ call.group ++ "/listInstances"
  let token := call.token.toList.map fun t => ("pageToken", t)
  c.request? url (("maxResults", Decimal.text call.pageSize.toNat) :: token) (.obj [])

/-- The request that deletes instances. -/
def delete? (c : ComputeClient) (call : DeleteCall) : Except ComputeError HttpRequest :=
  let url :=
    c.zoneUrl call.project call.zone ++ "/instanceGroupManagers/" ++ call.group ++
      "/deleteInstances"
  c.request? url [] (.obj [("instances", .strings call.urls)])

/-! ## Answers -/

/-- The message in the body of an error: the one that it names, or else all of it. -/
def errorMessage (body : String) : String :=
  let named := do
    let j ← Json.parse? body
    (← (← j.member? "error").member? "message").asString?
  named.getD (Text.trimBlank body)

/-- Whether a status is one of success. -/
def isSuccess (status : Nat) : Bool := 200 ≤ status && status < 300

/-- What an answer says. -/
def readAnswer {α : Type} (decode : Decoder α) (r : HttpResponse) : Except ComputeError α :=
  if isSuccess r.status then
    let value := do
      if !r.complete then none
      (decode (← Json.parse? (← String.fromUTF8? r.body))).toOption
    match value with
    | some a => .ok a
    | none => .error (.decode "error decoding response body")
  else
    .error (.http r.status (errorMessage (if r.complete then Text.lossyText r.body else "")))

/-- Sends a request and reads the answer. -/
def exchange {α τ : Type} (t : Transport τ) (decode : Decoder α)
    (request : Except ComputeError HttpRequest) (state : τ) : Except ComputeError α × τ :=
  match request with
  | .error e => (.error e, state)
  | .ok r =>
    match t.send r state with
    | (some answer, state) => (readAnswer decode answer, state)
    | (none, state) => (.error (unanswered r.url), state)

/-- The access to the API over a transport. -/
def cloud {τ : Type} (c : ComputeClient) (t : Transport τ) : Cloud τ where
  list call := exchange t InstancePage.decode (c.list? call)
  delete call := exchange t Operation.decode (c.delete? call)
  pageBudget := t.pageBudget

end ComputeClient

end FleetReconciler
