import HostWatch.Http.SocketAddress
import HostWatch.Json.Printer
import HostWatch.Status.Summary
/-!
# The status page

The summary of the status is served under one path to anyone, on any site.  Every client may ask a
few times; what goes beyond is refused.  Questions about what is allowed are always answered.
-/

namespace HostWatch

namespace Page

/-- A request to the page. -/
structure Query where
  /-- The method. -/
  method : String
  /-- What is asked for. -/
  path : String
  /-- The machine that asks. -/
  client : Ip

/-- An answer of the page. -/
structure Answer where
  /-- The status. -/
  status : Nat
  /-- The headers. -/
  headers : List (String × String)
  /-- What it carries. -/
  body : String

/-- How often each client has asked. -/
abbrev Counts := List (Ip × Nat)

/-- How often a client has asked. -/
def count (client : Ip) : Counts → Nat
  | [] => 0
  | (c, n) :: rest => if c = client then n else count client rest

/-- A client has asked once more. -/
def increase (client : Ip) : Counts → Counts
  | [] => [(client, 1)]
  | (c, n) :: rest => if c = client then (c, n + 1) :: rest else (c, n) :: increase client rest

/-- How often a client may ask, unless told otherwise. -/
def usualLimit : Nat := 3

/-- How often a client may ask under a limit: at least once. -/
def budget (limit : Nat) : Nat := max 1 limit

/-- The only path. -/
def path : String := "/status"

/-- The methods that the path knows. -/
def knows (method : String) : Bool := method = "GET" || method = "HEAD"

/-- Allows any site to read an answer. -/
def openHeader : String × String := ("access-control-allow-origin", "*")

/-- Names the methods that other sites may use. -/
def methodsHeader : String × String := ("access-control-allow-methods", "GET")

/-- Names the methods that the path knows. -/
def allowHeader : String × String := ("allow", "GET,HEAD")

/-- What stands before a query or a fragment. -/
def beforeQuery (s : List Char) : List Char := s.takeWhile fun c ↦ c ≠ '?' && c ≠ '#'

/-- The path that is asked for: what is asked for can also be a whole address, of which only the
path counts. -/
def pathOf (q : Query) : String :=
  match splitAtPiece "://".toList (beforeQuery q.path.toList) with
  | scheme :: rest@(_ :: _) =>
    if scheme.head? = some '/' then .ofList (beforeQuery q.path.toList)
    else match ("://".toList.intercalate rest).dropWhile (· ≠ '/') with
      | [] => "/"
      | path => .ofList path
  | _ => .ofList (beforeQuery q.path.toList)

/-- The headers of a refusal: a wrong method for the path is told which ones it knows. -/
def refusalHeaders (q : Query) : List (String × String) :=
  if pathOf q = path ∧ !knows q.method then [openHeader, allowHeader] else [openHeader]

/-- The text of a summary. -/
def summaryText (s : Summary) : String :=
  (Json.object [("code", .integer (.ofUInt64 0)), ("data", s.encode)]).compact

/-- The answer to a request within the budget. -/
def serve (s : Summary) (q : Query) : Answer :=
  if pathOf q ≠ path then ⟨404, refusalHeaders q, ""⟩
  else if knows q.method then
    ⟨200, [openHeader, ("content-type", "application/json")],
      if q.method = "HEAD" then "" else summaryText s⟩
  else ⟨405, refusalHeaders q, ""⟩

/-- Answer a request. -/
def answer (limit : Nat) (s : Summary) (counts : Counts) (q : Query) : Answer × Counts :=
  if q.method = "OPTIONS" then (⟨200, methodsHeader :: refusalHeaders q, ""⟩, counts)
  else if count q.client counts < budget limit then (serve s q, increase q.client counts)
  else (⟨429, refusalHeaders q, ""⟩, counts)

/-- Answer requests one after another. -/
def answerAll (limit : Nat) (s : Summary) : Counts → List Query → List Answer
  | _, [] => []
  | counts, q :: rest =>
    let (a, counts) := answer limit s counts q
    a :: answerAll limit s counts rest

end Page

end HostWatch
