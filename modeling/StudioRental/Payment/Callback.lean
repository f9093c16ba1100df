import StudioRental.Payment.Signature
import StudioRental.Error
import StudioRental.Text.Quoted

/-!
Gateway callbacks and what they do to an intent.

The gateway calls back on two channels: the settlement notice (`result`, signed with the second
password) and the payer's return (`success`, signed with the first). A callback's verdict is,
in order: an invalid signature, an amount that is not the intent's (as numbers, an unreadable
amount never matching), and then by channel and status:

| channel | intent status     | verdict           |
|---------|-------------------|-------------------|
| result  | paid              | already applied   |
| result  | failed            | already failed    |
| result  | created, pending  | applied           |
| success | any               | acknowledged      |

A paid intent never changes on the result channel. Otherwise an applied settlement makes the
intent paid; an invalid or mismatched settlement makes it failed with the reason, unless it has
failed already; the success channel records its parameters and moves a created intent to pending
when acknowledged. A settlement records its parameters whenever it changes the intent, and the
update time moves to the callback's time exactly when the record changes.
-/

namespace StudioRental

/-- The two ways the gateway calls back. -/
inductive Channel where
  /-- The server-to-server settlement notice. -/
  | result
  /-- The payer's browser returning after checkout. -/
  | success
  deriving DecidableEq, Repr, Inhabited

namespace Channel

/-- The channel's name. -/
def text : Channel → String
  | result => "result"
  | success => "success"

end Channel

/-- What a callback did to its intent. -/
inductive Verdict where
  | applied | alreadyApplied | acknowledged | invalidSignature | amountMismatch | alreadyFailed
  deriving DecidableEq, Repr, Inhabited

namespace Verdict

/-- The verdict's name. -/
def text : Verdict → String
  | applied => "applied"
  | alreadyApplied => "already_applied"
  | acknowledged => "acknowledged"
  | invalidSignature => "invalid_signature"
  | amountMismatch => "amount_mismatch"
  | alreadyFailed => "already_failed"

end Verdict

/-- The fields of one callback, read from its parameters. -/
structure CallbackParams where
  /-- The amount as written, trimmed. -/
  outSum : String
  invoice : Int
  /-- The invoice number as written, trimmed; the signature covers this text. -/
  invoiceText : String
  signature : String
  /-- The custom parameters, untrimmed. -/
  shp : TextMap
  /-- All parameters as received. -/
  raw : TextMap

namespace CallbackParams

/-- The trimmed value of the first parameter, in name order, whose name is `name` up to ASCII
case. -/
def field (raw : TextMap) (name : String) : Option String :=
  (raw.find? fun (k, _) => Signature.eqIgnoreAsciiCase k name).map fun (_, v) => Text.trimBlank v

/-- Read the callback's fields; the invoice number is required. -/
def ofForm (raw : TextMap) : Except Error CallbackParams := do
  let text ← match field raw "InvId" with
    | some t => pure t
    | none => throw (.validation "InvId is required")
  let invoice ← match parseInvoice? text with
    | some n => pure n
    | none => throw (.validation ("invalid InvId: " ++ Text.quoted text))
  return { outSum := (field raw "OutSum").getD "", invoice, invoiceText := text,
           signature := (field raw "SignatureValue").getD "",
           shp := raw.filter fun (k, _) => Signature.isShpKey k, raw }

/-- Whether the callback is signed with `password` over its amount and invoice number. -/
def signatureValid (p : CallbackParams) (password : String) : Bool :=
  Signature.verify (Signature.sign [p.outSum, p.invoiceText, password] p.shp) p.signature

end CallbackParams

/-- A callback checked and ready to be applied to its intent. -/
structure CallbackCheck where
  channel : Channel
  signatureValid : Bool
  /-- The amount read from the callback, if it could be read. -/
  amount : Option Decimal
  payload : TextMap
  time : Instant

namespace CallbackCheck

/-- The verdict on a callback for an intent. -/
def verdict (c : CallbackCheck) (i : Intent) : Verdict :=
  if !c.signatureValid then .invalidSignature
  else if !(c.amount.any (· == i.amount)) then .amountMismatch
  else match c.channel, i.status with
    | .result, .paid => .alreadyApplied
    | .result, .failed => .alreadyFailed
    | .result, _ => .applied
    | .success, _ => .acknowledged

/-- The intent as the callback edits it, before the update time moves; none when the callback
leaves it as it is. -/
def edit (c : CallbackCheck) (v : Verdict) (i : Intent) : Option Intent :=
  match c.channel with
  | .result =>
    if i.status == .paid then none
    else match v with
      | .applied =>
        some { i with status := .paid, paidAt := some c.time, resultPayload := some c.payload }
      | .invalidSignature | .amountMismatch =>
        if i.status == .failed then none
        else
          let reason := if v == .invalidSignature then "invalid signature" else "amount mismatch"
          some { i with status := .failed, failureReason := some reason,
                        resultPayload := some c.payload }
      | _ => none
  | .success =>
    let status := if v == .acknowledged && i.status == .created then .pending else i.status
    if i.successPayload == some c.payload && status == i.status then none
    else some { i with successPayload := some c.payload, status }

/-- Apply the callback: the verdict and the intent after it. -/
def apply (c : CallbackCheck) (i : Intent) : Intent × Verdict :=
  let v := c.verdict i
  match c.edit v i with
  | some n => ({ n with updatedAt := c.time }, v)
  | none => (i, v)

end CallbackCheck

end StudioRental
