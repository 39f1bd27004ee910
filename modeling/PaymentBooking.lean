import PaymentBooking.Main
import PaymentBooking.Proofs.Booking.Movements
import PaymentBooking.Proofs.Job.Atomicity
import PaymentBooking.Proofs.Json.Substitution
import PaymentBooking.Proofs.Ledger.Balance
import PaymentBooking.Proofs.Ledger.Resources
import PaymentBooking.Proofs.Ledger.Solvency
import PaymentBooking.Proofs.Booking.Settlement
import PaymentBooking.Proofs.Booking.Balances
import PaymentBooking.Proofs.Booking.Transfer
import PaymentBooking.Proofs.Job.Effect
import PaymentBooking.Proofs.Job.Lookups
import PaymentBooking.Proofs.Booking.Renumbering
import PaymentBooking.Proofs.Booking.Orders
import PaymentBooking.Proofs.Booking.Description
import PaymentBooking.Proofs.Reading.Record
import PaymentBooking.Proofs.Request
import PaymentBooking.Proofs.Job.Details
import PaymentBooking.Proofs.Settings.Addressing
import PaymentBooking.Proofs.Job.Tenants
import PaymentBooking.Proofs.Job.Outcomes
import PaymentBooking.Proofs.Booking.Resolution
import PaymentBooking.Proofs.Job.Report
import PaymentBooking.Proofs.Booking.Columns
import PaymentBooking.Proofs.Booking.Planning
import PaymentBooking.Proofs.Booking.Failure
import PaymentBooking.Proofs.Job.Failure
import PaymentBooking.Proofs.Job.Variables
import PaymentBooking.Proofs.Booking.Replay
import PaymentBooking.Proofs.Ledger.Registry
import PaymentBooking.Proofs.Lookup
import PaymentBooking.Proofs.Tenant
import PaymentBooking.Proofs.Ledger.Concatenation
import PaymentBooking.Proofs.Ledger.Frame
import PaymentBooking.Proofs.Request.Decoding
import PaymentBooking.Proofs.Cli.Run
import PaymentBooking.Proofs.Booking.Keys
import PaymentBooking.Proofs.Job.Numbering
import PaymentBooking.Proofs.Job.Record
import PaymentBooking.Proofs.Iban.Mistyping
import PaymentBooking.Proofs.Calendar.Pattern
import PaymentBooking.Proofs.Calendar.Writing
