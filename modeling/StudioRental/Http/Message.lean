import StudioRental.Error
import StudioRental.Json.Value

/-!
HTTP requests and responses as the service sees them.

A request is its method, its target (the path, then `?` and the query if there is one), its
headers in the order they were given, and its body. Header names compare without regard to case,
and a header is read from its first occurrence. A header value is only read as text when it is
visible ASCII (tabs and spaces allowed); otherwise it counts as absent.

A response is a status, the content type if it has a body, and the body: JSON, plain text, or
nothing. A failed request answers with the error's status and `{"error": {"code", "message"}}`,
where storage failures are not described.
-/

namespace StudioRental

namespace Http

/-- A request. -/
structure Request where
  method : String
  target : String
  headers : List (String × String)
  body : String

/-- What a response carries. -/
inductive Body where
  | empty
  | text (s : String)
  | json (j : Json)

/-- A response. -/
structure Response where
  status : Nat
  contentType : Option String
  body : Body

/-- Whether a header value reads as text: tabs and visible ASCII. -/
def isVisible (value : String) : Bool :=
  value.toList.all fun c => c = '\t' || (32 ≤ c.toNat && c.toNat < 127)

namespace Request

/-- The target up to a `#`. -/
def location (r : Request) : List Char := r.target.toList.takeWhile (· != '#')

/-- The path: the target before its `?`. -/
def path (r : Request) : String := String.ofList (r.location.takeWhile (· != '?'))

/-- The query: the target after its first `?`, if it has one. -/
def query? (r : Request) : Option String :=
  match r.location.dropWhile (· != '?') with
  | _ :: q => some (String.ofList q)
  | [] => none

/-- The first value of a header, as text. -/
def header? (r : Request) (name : String) : Option String :=
  match r.headers.find? (fun (n, _) => n.toLower == name) with
  | some (_, v) => if isVisible v then some v else none
  | none => none

end Request

namespace Response

/-- A JSON response. -/
def json (status : Nat) (j : Json) : Response := ⟨status, some "application/json", .json j⟩

/-- A plain-text response. -/
def text (status : Nat) (s : String) : Response :=
  ⟨status, some "text/plain; charset=utf-8", .text s⟩

/-- A response with no body. -/
def bare (status : Nat) : Response := ⟨status, none, .empty⟩

/-- The response to a failed request. -/
def ofError (e : Error) : Response :=
  json e.status (Json.obj [("error",
    Json.obj [("code", .string e.code), ("message", .string e.publicMessage)])])

end Response

end Http

end StudioRental
