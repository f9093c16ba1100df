import StudioRental.Server.Bookings

/-!
Transitions of bookings running side by side.

A transition does its work in two parts. Before it locks the booking's room it reads the booking
and its studio, works out the caller's standing and checks that the standing allows the command
(`Server.transitionRead`). Under the lock it changes the booking, and when the booking changed it
tells the other party, judging from the status the first part read
(`Server.transitionWrite`). `Server.transition` is the two parts run back to back. Between them
other calls may run, so the booking the first part read may no longer be the one the second part
changes.

A configuration (`Server.TransitionConfig`) is the server with the transitions in flight
(`Server.PendingTransition`), and the notices sent so far, each with its caller and the stored
booking before and after the change that sent it (`Server.SentNotice`). That record is kept
beside the server, and nothing the server does reads it. An interleaving step starts a
transition or makes the next part of one in flight (`Server.TransitionConfig.Interleaves`).
-/

namespace StudioRental

namespace Server

/-- The part of a transition made before its booking's room is locked: the booking and its
studio, the caller's standing, the time, and the check that the standing allows the command. -/
def transitionRead (actor : Actor) (id : Ulid) (cmd : Command) :
    ServerM (Booking × Option Studio × Change) := do
  let b ← booking id
  let studio ← studio? b.studio
  let c : Change := ⟨cmd, Standing.of actor b studio, ← now⟩
  ofExcept c.authorize
  return (b, studio, c)

/-- The part of a transition made under the lock, given what the first part read: the change,
and the notice to the other party when the booking changed. -/
def transitionWrite (id : Ulid) (before : Booking) (studio : Option Studio) (c : Change) :
    ServerM (Booking × Option (Ulid × Notification)) := do
  let (b', changed) ← modifyBooking id c
  let notice := if changed then counterpartyNotice b' before.status c.standing studio c.command
    else none
  if let some (r, n) := notice then notify r n
  return (b', notice)

/-- A transition in flight: about to make its first part, or past it and waiting for the lock. -/
inductive PendingTransition where
  | start (actor : Actor) (id : Ulid) (cmd : Command)
  | held (actor : Actor) (id : Ulid) (before : Booking) (studio : Option Studio) (c : Change)

/-- A notice sent: the caller whose change sent it, its recipient, and the stored booking before
and after the change. -/
structure SentNotice where
  caller : Actor
  recipient : Ulid
  notice : Notification
  before : Option Booking
  after : Booking

/-- A transition's next part on the server: the server after it, what is left of the transition,
and the notices it sent. -/
def PendingTransition.advance (s : Server) :
    PendingTransition → Server × Option PendingTransition × List SentNotice
  | .start actor id cmd =>
    match (transitionRead actor id cmd).run.run s with
    | (.ok (b, studio, c), s') => (s', some (.held actor id b studio c), [])
    | (.error _, s') => (s', none, [])
  | .held actor id before studio c =>
    match (transitionWrite id before studio c).run.run s with
    | (.ok (b', some (r, n)), s') => (s', none, [⟨actor, r, n, s.engine.getBooking id, b'⟩])
    | (_, s') => (s', none, [])

/-- The server with the transitions in flight, and the notices sent so far. -/
structure TransitionConfig where
  server : Server
  flights : List PendingTransition
  sent : List SentNotice

/-- One step of transitions running side by side: a transition starts, or one in flight makes
its next part. -/
inductive TransitionConfig.Interleaves : TransitionConfig → TransitionConfig → Prop
  | begin (s : Server) (fs : List PendingTransition) (sent : List SentNotice) (actor : Actor)
      (id : Ulid) (cmd : Command) :
      TransitionConfig.Interleaves ⟨s, fs, sent⟩ ⟨s, fs ++ [.start actor id cmd], sent⟩
  | advance (s : Server) (l₁ l₂ : List PendingTransition) (f : PendingTransition)
      (sent : List SentNotice) :
      TransitionConfig.Interleaves ⟨s, l₁ ++ f :: l₂, sent⟩
        ⟨(f.advance s).1, l₁ ++ (f.advance s).2.1.toList ++ l₂, sent ++ (f.advance s).2.2⟩

end Server

end StudioRental
