/-!
The service's routes, and how a request's method and path pick one.

| method | path |
|---|---|
| GET | `/health` |
| GET | `/rooms/:id/availability` |
| POST | `/bookings` |
| GET | `/bookings/:id` |
| PATCH | `/bookings/:id/confirm`, `/cancel`, `/complete`, `/mark-paid`, `/deposit` |
| POST | `/payments/init`, `/payments/result` |
| GET | `/payments/success` |

The path is split at `/` and compared segment by segment, as written (escapes are decoded only
in the captured `:id`). A captured segment may be empty except at the end of the path. A path
that matches no route is not found; one that matches with another method is not allowed. `GET`
routes also answer `HEAD`.
-/

namespace StudioRental

namespace Http

/-- What a request asks for; identifiers are the captured path segments, still escaped. -/
inductive Endpoint where
  | health
  | availability (room : String)
  | createBooking
  | showBooking (id : String)
  | confirm (id : String)
  | cancel (id : String)
  | complete (id : String)
  | markPaid (id : String)
  | deposit (id : String)
  | initPayment
  | paymentResult
  | paymentSuccess

/-- The outcome of routing. -/
inductive Routing where
  | found (e : Endpoint)
  | notFound
  | methodNotAllowed

/-- The segments of a path after its leading `/`. -/
def segments (path : String) : List String :=
  (path.splitOn "/").drop 1

/-- The route a path matches, with its method. -/
def resolve? : List String → Option (String × Endpoint)
  | ["health"] => some ("GET", .health)
  | ["rooms", id, "availability"] => some ("GET", .availability id)
  | ["bookings"] => some ("POST", .createBooking)
  | ["bookings", id] => if id.isEmpty then none else some ("GET", .showBooking id)
  | ["bookings", id, "confirm"] => some ("PATCH", .confirm id)
  | ["bookings", id, "cancel"] => some ("PATCH", .cancel id)
  | ["bookings", id, "complete"] => some ("PATCH", .complete id)
  | ["bookings", id, "mark-paid"] => some ("PATCH", .markPaid id)
  | ["bookings", id, "deposit"] => some ("PATCH", .deposit id)
  | ["payments", "init"] => some ("POST", .initPayment)
  | ["payments", "result"] => some ("POST", .paymentResult)
  | ["payments", "success"] => some ("GET", .paymentSuccess)
  | _ => none

/-- Route a request by its method and path. -/
def route (method path : String) : Routing :=
  match resolve? (segments path) with
  | none => .notFound
  | some (m, e) =>
    if method == m || (m == "GET" && method == "HEAD") then .found e else .methodNotAllowed

end Http

end StudioRental
