import StudioRental.Address.Idna
import StudioRental.Address.Idna.Mapping
import StudioRental.Address.Idna.Properties
import StudioRental.Address.Idna.Punycode
import StudioRental.Address.Ip
import StudioRental.Address.Url
import StudioRental.Booking.Change
import StudioRental.Booking.Record
import StudioRental.Catalog.Basic
import StudioRental.Catalog.Hours
import StudioRental.Config
import StudioRental.Digest.Crc32
import StudioRental.Digest.Sha256
import StudioRental.Engine.Basic
import StudioRental.Engine.Concurrent
import StudioRental.Engine.Error
import StudioRental.Engine.Room
import StudioRental.Error
import StudioRental.Http.Api
import StudioRental.Http.Media
import StudioRental.Http.Message
import StudioRental.Http.Route
import StudioRental.Ident.Ulid
import StudioRental.Journal.Binary
import StudioRental.Journal.Event
import StudioRental.Journal.Log
import StudioRental.Json.Decode
import StudioRental.Json.Parse
import StudioRental.Json.Print
import StudioRental.Json.Reader
import StudioRental.Json.Shape
import StudioRental.Json.Value
import StudioRental.Main
import StudioRental.Money.Decimal
import StudioRental.Money.Decimal.Arith
import StudioRental.Money.Decimal.Text
import StudioRental.Money.Price
import StudioRental.Notify
import StudioRental.Number.Binary64
import StudioRental.Number.Power
import StudioRental.Payment.Callback
import StudioRental.Payment.Intent
import StudioRental.Payment.Signature
import StudioRental.Schedule.FreeSlots
import StudioRental.Schedule.Span
import StudioRental.Server.Basic
import StudioRental.Server.Bookings
import StudioRental.Server.Concurrent
import StudioRental.Server.Polling
import StudioRental.Server.Database
import StudioRental.Server.Disk
import StudioRental.Server.Payments
import StudioRental.Server.Startup
import StudioRental.Text.Blank
import StudioRental.Text.FormUrl
import StudioRental.Text.Map
import StudioRental.Text.Printable
import StudioRental.Text.Quoted
import StudioRental.Text.Utf8
import StudioRental.Time.Calendar
import StudioRental.Time.Instant
import StudioRental.Time.Text
import StudioRental.Proofs.Payment.Lifecycle
import StudioRental.Proofs.Engine.Room
import StudioRental.Proofs.Journal.Replay
import StudioRental.Proofs.Engine.Calls
import StudioRental.Proofs.Engine.Invariant
import StudioRental.Proofs.Engine.Snapshot
import StudioRental.Proofs.Engine.Restart
import StudioRental.Proofs.Engine.Exclusion
import StudioRental.Proofs.Engine.Durability
import StudioRental.Proofs.Schedule.Tiling
import StudioRental.Proofs.Schedule.Merge
import StudioRental.Proofs.Schedule.Subtract
import StudioRental.Proofs.Server.Run
import StudioRental.Proofs.Text.Trim
import StudioRental.Proofs.Text.Map
import StudioRental.Proofs.Payment.Echo
import StudioRental.Proofs.Server.Frame
import StudioRental.Proofs.Server.Settlement
import StudioRental.Proofs.Server.Issue
import StudioRental.Proofs.Server.Access
import StudioRental.Proofs.Money.Price
import StudioRental.Proofs.Booking.Lifecycle
import StudioRental.Proofs.Engine.History
import StudioRental.Proofs.Time.Leap
import StudioRental.Proofs.Server.Calls
import StudioRental.Proofs.Server.Session
import StudioRental.Proofs.Server.Probe
import StudioRental.Proofs.Money.Quotient
import StudioRental.Proofs.Money.Cents
import StudioRental.Proofs.Engine.Parts
import StudioRental.Proofs.Engine.Interleaving
import StudioRental.Proofs.Server.Notices
import StudioRental.Journal.Writer
import StudioRental.Journal.Device
import StudioRental.Proofs.Journal.RoundTrip
import StudioRental.Proofs.Journal.Commit
import StudioRental.Proofs.Payment.Idempotence
import StudioRental.Proofs.Payment.Custom
import StudioRental.Proofs.Booking.Retry
import StudioRental.Proofs.Server.Create
import StudioRental.Proofs.Engine.Commit
import StudioRental.Proofs.Payment.Compare
import StudioRental.Payment.InvoiceIds
import StudioRental.Proofs.Payment.Invoices
import StudioRental.Proofs.Catalog.Window
import StudioRental.Proofs.Engine.Search
import StudioRental.Proofs.Text.Digits
import StudioRental.Proofs.Time.Calendar
import StudioRental.Proofs.Time.Text
import StudioRental.Proofs.Money.Text
import StudioRental.Proofs.Journal.Layout
