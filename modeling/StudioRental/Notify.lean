import StudioRental.Payment.Intent

/-!
Notifications to the other party of a booking, and the hub that delivers them.

Each subscription is a receiver for one user; a user may hold several. A notification to a user
reaches every receiver the user holds at that moment, and is dropped when there is none.
Receivers read their notifications in the order they arrived.
-/

namespace StudioRental

/-- A message to a booking's counterparty. -/
inductive Notification where
  | bookingRequested (booking : Ulid)
  | bookingConfirmed (booking : Ulid)
  | bookingCancelled (booking : Ulid) (reason : String)
  | bookingCompleted (booking : Ulid)
  | paymentReceived (booking : Ulid) (invoice : Int) (amount : Decimal)

namespace Notification

/-- The notification as JSON, its kind under `type`. -/
def toJson : Notification → Json
  | bookingRequested b =>
    Json.obj [("type", .string "booking_requested"), ("booking_id", .string b.render)]
  | bookingConfirmed b =>
    Json.obj [("type", .string "booking_confirmed"), ("booking_id", .string b.render)]
  | bookingCancelled b r =>
    Json.obj [("type", .string "booking_cancelled"), ("booking_id", .string b.render),
      ("reason", .string r)]
  | bookingCompleted b =>
    Json.obj [("type", .string "booking_completed"), ("booking_id", .string b.render)]
  | paymentReceived b i a =>
    Json.obj [("type", .string "payment_received"), ("booking_id", .string b.render),
      ("inv_id", Json.ofInt i), ("amount", .string a.render)]

end Notification

/-- Receivers in the order they subscribed, each with the notifications not yet read. -/
structure Hub where
  receivers : List (Ulid × List Notification) := []

namespace Hub

/-- Add a receiver for a user. -/
def subscribe (h : Hub) (user : Ulid) : Hub :=
  { receivers := h.receivers ++ [(user, [])] }

/-- Drop all receivers of a user. -/
def unsubscribe (h : Hub) (user : Ulid) : Hub :=
  { receivers := h.receivers.filter (·.1 != user) }

/-- Deliver a notification to every receiver of the user. -/
def notify (h : Hub) (user : Ulid) (n : Notification) : Hub :=
  { receivers := h.receivers.map fun (u, q) => if u == user then (u, q ++ [n]) else (u, q) }

/-- Read every receiver's notifications, receiver by receiver, leaving them empty. -/
def drain (h : Hub) : List (Ulid × Notification) × Hub :=
  (h.receivers.flatMap (fun (u, q) => q.map (u, ·)),
    { receivers := h.receivers.map fun (u, _) => (u, []) })

end Hub

end StudioRental
