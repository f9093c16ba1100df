import StudioRental.Server.Bookings
import StudioRental.Text.FormUrl

/-!
The payment service: issuing a signed intent for a booking, and handling the gateway's two
callbacks.

An intent is issued, in this order of checks, for a positive amount that is money, a
description of 1 to 500 characters after trimming, at most 16 custom parameters with well-formed
names and values of at most 256 characters, and a booking the caller may read that is not
cancelled. Issuing one signs the merchant login, the amount, the invoice number and the first
password, stores the intent, marks the booking unpaid again, and gives the gateway's address
with the request in its query.

A callback is checked against the intent inside the storage's lock. An unsigned callback for an
unknown invoice is told only that its signature is wrong. A settlement that applies marks the
booking paid and tells the studio's owner.
-/

namespace StudioRental

/-- A request to pay for a booking. -/
structure PaymentRequest where
  booking : Ulid
  outSum : String
  description : String
  shp : TextMap

/-- An issued intent: its invoice, where to send the payer, and its signature. -/
structure PaymentInit where
  invoice : Int
  paymentUrl : String
  signature : String
  status : IntentStatus

namespace PaymentInit

/-- The issued intent as JSON. -/
def toJson (p : PaymentInit) : Json :=
  Json.obj [("inv_id", Json.ofInt p.invoice), ("payment_url", .string p.paymentUrl),
    ("signature", .string p.signature), ("status", .string p.status.text)]

end PaymentInit

namespace Server

/-- The longest description, in characters. -/
def maxDescription : Nat := 500

/-- The longest custom parameter value, in characters. -/
def maxShpValue : Nat := 256

/-- The prefix of custom parameter names. -/
def shpPrefix : String := "Shp_"

/-- Custom parameters with their names trimmed and given the `Shp_` prefix. A name, without the
prefix, must be ASCII letters, digits and `_`; two names may not end up the same. -/
def normalizeShp (params : TextMap) : Except Error TextMap := do
  if params.length > maxShpParams then
    throw (.validation "at most 16 custom parameters are allowed")
  params.foldlM (fun acc (key, value) => do
    let key := Text.trimBlank key
    let bare := if Signature.isShpKey key then String.ofList (key.toList.drop 4) else key
    if bare.isEmpty || !bare.toList.all (fun c => (c.toNat < 128 && c.isAlphanum) || c == '_') then
      throw (.validation ("invalid custom parameter name: " ++ Text.quoted key))
    if value.length > maxShpValue then
      throw (.validation ("custom parameter " ++ bare ++ " is too long"))
    let full := shpPrefix ++ bare
    if acc.any (·.1 == full) then throw (.validation ("duplicate custom parameter: " ++ bare))
    return acc.insert full value) []

/-- Issue a signed intent for a booking. -/
def initPayment (actor : Actor) (req : PaymentRequest) : ServerM PaymentInit := do
  let amount ← match (Signature.parseAmount req.outSum).filter (Decimal.zero < ·) with
    | some a => pure a
    | none => throw (.validation "out_sum must be a positive decimal")
  let amount ← ofExcept (Money.check amount "out_sum")
  let description := Text.trimBlank req.description
  if description.isEmpty || description.length > maxDescription then
    throw (.validation "description must be 1 to 500 characters")
  let shp ← ofExcept (normalizeShp req.shp)
  let b ← getBooking actor req.booking
  if b.status == .cancelled then
    throw (.invalidTransition "cannot pay for a cancelled booking")
  let invoice ← nextInvoice
  let outSum := amount.render
  let invText := toString invoice
  let gw := (← get).gateway
  let signature := Signature.sign [gw.merchantLogin, outSum, invText, gw.password1] shp
  let t ← now
  let i ← insertIntent {
    invoice, booking := b.id, amount, description, shp, status := .created, signature,
    failureReason := none, resultPayload := none, successPayload := none, paidAt := none,
    createdAt := t, updatedAt := t }
  try let _ ← syncPayment b.id .unpaid catch _ => pure ()
  let query := [("MerchantLogin", gw.merchantLogin), ("OutSum", outSum), ("InvId", invText),
    ("Description", description), ("SignatureValue", signature)] ++
    (if gw.testMode then [("IsTest", "1")] else []) ++ shp
  return ⟨invoice, gw.paymentUrl ++ "?" ++ FormUrl.encode query, signature, i.status⟩

/-- Check a callback on a channel against its intent: the intent after it and the verdict. -/
def reconcileCallback (channel : Channel) (p : CallbackParams) : ServerM (Intent × Verdict) := do
  let gw := (← get).gateway
  let password := match channel with
    | .result => gw.password2
    | .success => gw.password1
  let check : CallbackCheck := ⟨channel, p.signatureValid password,
    Signature.parseAmount p.outSum, p.raw, ← now⟩
  try
    let ((i, _), v) ← reconcile p.invoice check
    return (i, v)
  catch e =>
    match e with
    | .notFound _ => if check.signatureValid then throw e else throw .invalidSignature
    | _ => throw e

/-- The settlement callback: the invoice number to acknowledge. -/
def handleResult (form : TextMap) : ServerM Int := do
  let p ← ofExcept (CallbackParams.ofForm form)
  let (i, v) ← reconcileCallback .result p
  match v with
  | .applied =>
    try let _ ← syncPayment i.booking .paid catch _ => pure ()
    notifyPayment i.booking (.paymentReceived i.booking i.invoice i.amount)
    return p.invoice
  | .alreadyApplied | .acknowledged => return p.invoice
  | .invalidSignature => throw .invalidSignature
  | .amountMismatch => throw (.amountMismatch i.amount p.outSum)
  | .alreadyFailed =>
    throw (.invalidTransition ("invoice " ++ toString p.invoice ++ " has already failed"))

/-- The payer's return: the intent after it is recorded. -/
def handleSuccess (query : TextMap) : ServerM Intent := do
  let p ← ofExcept (CallbackParams.ofForm query)
  let (i, v) ← reconcileCallback .success p
  match v with
  | .invalidSignature => throw .invalidSignature
  | .amountMismatch => throw (.amountMismatch i.amount p.outSum)
  | _ => return i

end Server

end StudioRental
