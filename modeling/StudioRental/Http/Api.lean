import StudioRental.Server.Payments
import StudioRental.Http.Message
import StudioRental.Http.Media
import StudioRental.Http.Route
import StudioRental.Json.Shape

/-!
The JSON API over the booking and payment services.

Each route reads its inputs in a fixed order and the first one that fails answers the request:

* `GET /health`: `{"status": "ok", "storage"}`, or 503 with `{"status": "degraded", "storage":
  code}` when storage fails.
* `GET /rooms/:id/availability?date=`: the room's identifier, then the query, which must give
  `date` exactly once as `year-month-day`.
* `POST /bookings`: the caller, then the JSON body `{room_id, studio_id, start_time, end_time,
  notes?}`; answers 201 with `{"booking": {"id", "status"}}`.
* `GET /bookings/:id` and the `PATCH` commands: the caller, the identifier, then for `cancel` the
  body `{reason}` and for `deposit` the body `{deposit_amount}`; they answer `{"booking"}`.
* `POST /payments/init`: the caller, then `{booking_id, out_sum, description, shp_params?}`.
* `POST /payments/result`: a form body; answers the text `OK` and the invoice number.
* `GET /payments/success`: the query as a form; answers `{"status": "ok", "validated": true,
  "inv_id"}`, or `"validated": false` (without the invoice) when the signature or the amount is
  wrong.

The caller comes from the `x-user-id` and `x-user-role` headers, trimmed; a missing or unreadable
one is unauthenticated. A body or query that cannot be read is a validation error whose text
starts with what went wrong: `Expected request with`, `Failed to parse the request body as
JSON`, `Failed to deserialize the JSON body into the target type`, `Failed to deserialize query
string`, `Form requests must have`, or `Invalid URL` for an identifier in the path.
-/

namespace StudioRental

namespace Http

open Server

/-- The caller named by the identity headers. -/
def identity (req : Request) : Except Error Actor := do
  let user ← match (req.header? "x-user-id").bind (fun v => Ulid.parse? (Text.trimBlank v)) with
    | some u => pure u
    | none => throw .unauthenticated
  match (req.header? "x-user-role").map (fun v => Role.parse (Text.trimBlank v)) with
  | some (.ok role) => pure ⟨user, role⟩
  | _ => throw .unauthenticated

/-- An identifier captured from the path: escapes decoded, then read as UTF-8 and as an
identifier. -/
def pathId (raw : String) : Except Error Ulid :=
  match String.fromUTF8? ⟨(FormUrl.percentDecode raw.toUTF8.data.toList).toArray⟩ with
  | none => throw (.validation "Invalid URL: Invalid UTF-8 in `id`")
  | some s =>
    match Ulid.parse? s with
    | some u => pure u
    | none =>
      throw (.validation ("Invalid URL: " ++
        (if s.utf8ByteSize != 26 then "invalid length" else "invalid character")))

/-- The date of an availability query. -/
def queryDate (query : Option String) : Except Error Date :=
  let fail (detail : String) : Except Error Date :=
    throw (.validation ("Failed to deserialize query string: " ++ detail))
  match (FormUrl.decode (query.getD "")).filter (·.1 == "date") with
  | [(_, v)] =>
    match TimeText.parseDate? v with
    | some d => pure d
    | none => fail "input contains invalid characters"
  | [] => fail "missing field `date`"
  | _ => fail "duplicate field `date`"

/-- A JSON body of the given shape. -/
def jsonBody (req : Request) (shape : Shape) : Except Error Json :=
  if !((req.header? "content-type").map Media.isJson).getD false then
    throw (.validation "Expected request with `Content-Type: application/json`")
  else
    match JsonReader.read shape req.body with
    | .ok j => pure j
    | .error e =>
      if e.isData then
        throw (.validation ("Failed to deserialize the JSON body into the target type: " ++ e.message))
      else throw (.validation ("Failed to parse the request body as JSON: " ++ e.message))

/-- A form body, the last value of a repeated name kept. -/
def formBody (req : Request) : Except Error TextMap :=
  if ((req.header? "content-type").map Media.isForm).getD false then
    pure (TextMap.ofList (FormUrl.decode req.body))
  else
    throw (.validation
      "Form requests must have `Content-Type: application/x-www-form-urlencoded`")

/-- The body of a booking request. -/
def createShape : Shape :=
  .record "CreateBody" [("room_id", .ulid, false), ("studio_id", .ulid, false),
    ("start_time", .instant, false), ("end_time", .instant, false), ("notes", .option .text, true)]

/-- The body of a cancellation. -/
def cancelShape : Shape := .record "CancelBody" [("reason", .text, false)]

/-- The body of a deposit change. -/
def depositShape : Shape := .record "DepositBody" [("deposit_amount", .decimal, false)]

/-- The body of a payment request. -/
def initShape : Shape :=
  .record "InitBody" [("booking_id", .ulid, false), ("out_sum", .amount "AmountText", false),
    ("description", .text, false), ("shp_params", .textMap, true)]

/-- The text of a field of a body already checked against its shape. -/
def textField? (j : Json) (name : String) : Option String := (j.get? name).bind Json.str?

/-- Read a checked body; the shape guarantees it reads, and a body that does not is refused
like any body of the wrong type. -/
def decoded (r : Option α) : Except Error α :=
  match r with
  | some a => pure a
  | none => throw (.validation "Failed to deserialize the JSON body into the target type")

/-- A booking request from its checked body. -/
def newBooking? (j : Json) : Option NewBooking := do
  pure ⟨← Ulid.parse? (← textField? j "room_id"), ← Ulid.parse? (← textField? j "studio_id"),
    ← TimeText.parseInstant? (← textField? j "start_time"),
    ← TimeText.parseInstant? (← textField? j "end_time"), textField? j "notes"⟩

/-- A payment request from its checked body. -/
def paymentRequest? (j : Json) : Option PaymentRequest := do
  let shp := match j.get? "shp_params" with
    | some (.object ms) => ms.filterMap fun (k, v) => v.str?.map (k, ·)
    | _ => []
  pure ⟨← Ulid.parse? (← textField? j "booking_id"), ← textField? j "out_sum",
    ← textField? j "description", shp⟩

/-- `{"booking": b}`. -/
def bookingJson (b : Booking) : Response := .json 200 (Json.obj [("booking", b.toJson)])

/-- Answer a request that reached an endpoint. -/
def serve (req : Request) : Endpoint → ServerM Response
  | .health => do
    try
      let storage ← ping
      pure (.json 200 (Json.obj [("status", .string "ok"), ("storage", .string storage)]))
    catch e =>
      pure (.json 503 (Json.obj [("status", .string "degraded"), ("storage", .string e.code)]))
  | .availability raw => do
    let room ← Server.ofExcept (pathId raw)
    let date ← Server.ofExcept (queryDate req.query?)
    return .json 200 (← availability room date).toJson
  | .createBooking => do
    let actor ← Server.ofExcept (identity req)
    let body ← Server.ofExcept (jsonBody req createShape)
    let b ← createBooking actor (← Server.ofExcept (decoded (newBooking? body)))
    return .json 201 (Json.obj [("booking",
      Json.obj [("id", .string b.id.render), ("status", .string b.status.text)])])
  | .showBooking raw => do
    let actor ← Server.ofExcept (identity req)
    return bookingJson (← getBooking actor (← Server.ofExcept (pathId raw)))
  | .confirm raw => do
    let actor ← Server.ofExcept (identity req)
    return bookingJson (← confirm actor (← Server.ofExcept (pathId raw)))
  | .cancel raw => do
    let actor ← Server.ofExcept (identity req)
    let id ← Server.ofExcept (pathId raw)
    let body ← Server.ofExcept (jsonBody req cancelShape)
    return bookingJson (← cancel actor id (← Server.ofExcept (decoded (textField? body "reason"))))
  | .complete raw => do
    let actor ← Server.ofExcept (identity req)
    return bookingJson (← complete actor (← Server.ofExcept (pathId raw)))
  | .markPaid raw => do
    let actor ← Server.ofExcept (identity req)
    return bookingJson (← markPaid actor (← Server.ofExcept (pathId raw)))
  | .deposit raw => do
    let actor ← Server.ofExcept (identity req)
    let id ← Server.ofExcept (pathId raw)
    let body ← Server.ofExcept (jsonBody req depositShape)
    let amount ← Server.ofExcept (decoded ((textField? body "deposit_amount").bind Decimal.parse?))
    return bookingJson (← setDeposit actor id amount)
  | .initPayment => do
    let actor ← Server.ofExcept (identity req)
    let body ← Server.ofExcept (jsonBody req initShape)
    let p ← initPayment actor (← Server.ofExcept (decoded (paymentRequest? body)))
    return .json 200 p.toJson
  | .paymentResult => do
    let invoice ← handleResult (← Server.ofExcept (formBody req))
    return .text 200 ("OK" ++ toString invoice)
  | .paymentSuccess => do
    try
      let i ← handleSuccess (TextMap.ofList (FormUrl.decode (req.query?.getD "")))
      return .json 200 (Json.obj [("status", .string "ok"), ("validated", .bool true),
        ("inv_id", Json.ofInt i.invoice)])
    catch e =>
      match e with
      | .invalidSignature | .amountMismatch _ _ =>
        return .json 200 (Json.obj [("status", .string "ok"), ("validated", .bool false)])
      | e => throw e

/-- Answer a request: route it, serve it, and turn a failure into its response. A `HEAD`
request gets the response of `GET` without its body. -/
def respond (req : Request) : StateM Server Response := do
  match route req.method req.path with
  | .notFound => pure (.bare 404)
  | .methodNotAllowed => pure (.bare 405)
  | .found e =>
    let r := match ← (serve req e).run with
      | .ok r => r
      | .error err => .ofError err
    pure (if req.method == "HEAD" then { r with body := .empty } else r)

end Http

end StudioRental
