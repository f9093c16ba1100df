import StudioRental.Booking.Record
import StudioRental.Number.Power

/-!
Payment intents: one signed attempt to settle a booking through the gateway, numbered by its
invoice.

An intent is `created` when issued, `pending` once the payer has come back from the gateway,
and ends `paid` or `failed`. It keeps the gateway's callbacks as it received them: the
parameters of the settlement notice and of the payer's return.

Two intents are the same record (`Intent.same`) when every field agrees, the amount compared as
a number.
-/

namespace StudioRental

open scoped CorePow

/-- Where a payment attempt stands. -/
inductive IntentStatus where
  | created | pending | paid | failed
  deriving DecidableEq, Repr, Inhabited

namespace IntentStatus

/-- The status as written in records. -/
def text : IntentStatus → String
  | created => "created"
  | pending => "pending"
  | paid => "paid"
  | failed => "failed"

/-- Read a status written in lower case. -/
def parse? : String → Option IntentStatus
  | "created" => some created
  | "pending" => some pending
  | "paid" => some paid
  | "failed" => some failed
  | _ => none

/-- The position of the status in the list of statuses. -/
def index : IntentStatus → Nat
  | created => 0
  | pending => 1
  | paid => 2
  | failed => 3

/-- The status at a position of the list of statuses. -/
def ofIndex? : Nat → Option IntentStatus
  | 0 => some created
  | 1 => some pending
  | 2 => some paid
  | 3 => some failed
  | _ => none

end IntentStatus

/-- Invoice numbers are signed 64-bit integers. -/
def invoiceMin : Int := -2 ^ (63 : Nat)
def invoiceMax : Int := 2 ^ (63 : Nat) - 1

/-- Read an invoice number: an optional sign and at least one ASCII digit, within 64 bits. -/
def parseInvoice? (s : String) : Option Int :=
  let (neg, ds) := match s.toList with
    | '+' :: rest => (false, rest)
    | '-' :: rest => (true, rest)
    | cs => (false, cs)
  if ds.isEmpty || !ds.all Char.isDigit then none
  else
    let n : Int := ds.foldl (fun acc c => acc * 10 + (c.toNat - 48)) 0
    let v := if neg then -n else n
    if invoiceMin ≤ v && v ≤ invoiceMax then some v else none

/-- One attempt to settle a booking. -/
structure Intent where
  invoice : Int
  booking : Ulid
  amount : Decimal
  description : String
  shp : TextMap
  status : IntentStatus
  signature : String
  failureReason : Option String
  resultPayload : Option TextMap
  successPayload : Option TextMap
  paidAt : Option Instant
  createdAt : Instant
  updatedAt : Instant
  deriving DecidableEq

namespace Intent

/-- Field by field equality, the amount compared as a number. -/
def same (a b : Intent) : Bool :=
  a.invoice == b.invoice && a.booking == b.booking && a.amount == b.amount &&
    a.description == b.description && a.shp == b.shp && a.status == b.status &&
    a.signature == b.signature && a.failureReason == b.failureReason &&
    a.resultPayload == b.resultPayload && a.successPayload == b.successPayload &&
    a.paidAt == b.paidAt && a.createdAt == b.createdAt && a.updatedAt == b.updatedAt

/-- A map of text as a JSON object. -/
def payloadJson (p : TextMap) : Json := .object (p.map fun (k, v) => (k, .string v))

/-- The record as JSON. -/
def toJson (i : Intent) : Json :=
  let optPayload : Option TextMap → Json := fun
    | some p => payloadJson p
    | none => .null
  Json.obj [("inv_id", Json.ofInt i.invoice), ("booking_id", .string i.booking.render),
    ("amount", .string i.amount.render), ("description", .string i.description),
    ("shp_params", payloadJson i.shp), ("status", .string i.status.text),
    ("signature", .string i.signature), ("failure_reason", Json.optStr i.failureReason),
    ("result_payload", optPayload i.resultPayload),
    ("success_payload", optPayload i.successPayload),
    ("paid_at", match i.paidAt with | some t => .string t.render | none => .null),
    ("created_at", .string i.createdAt.render), ("updated_at", .string i.updatedAt.render)]

/-- The field names in their written order. -/
def fieldNames : List String :=
  ["inv_id", "booking_id", "amount", "description", "shp_params", "status", "signature",
    "failure_reason", "result_payload", "success_payload", "paid_at", "created_at", "updated_at"]

/-- Read an intent record; the amount must be written as text. -/
def ofJson (j : Json) : Except String Intent := do
  let r ← RecordFields.ofJson fieldNames j
  return {
    invoice := ← r.req "inv_id" (Json.readIntIn invoiceMin invoiceMax),
    booking := ← r.req "booking_id" Json.readUlid,
    amount := ← r.req "amount" Json.readDecimalText,
    description := ← r.req "description" Json.readString,
    shp := ← r.req "shp_params" Json.readTextMap,
    status := ← r.req "status" (Json.readNamed IntentStatus.parse?),
    signature := ← r.req "signature" Json.readString,
    failureReason := ← r.opt "failure_reason" Json.readString,
    resultPayload := ← r.opt "result_payload" Json.readTextMap,
    successPayload := ← r.opt "success_payload" Json.readTextMap,
    paidAt := ← r.opt "paid_at" Json.readInstant,
    createdAt := ← r.req "created_at" Json.readInstant,
    updatedAt := ← r.req "updated_at" Json.readInstant }

end Intent

end StudioRental
