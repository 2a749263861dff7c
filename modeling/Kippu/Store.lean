import Kippu.Conc.Table
import Kippu.Conc.System
import Mathlib.Data.Nat.Notation

/-!
# The store

The rows of the Kippu store, as far as sales, events' writes and what they call
read them. Identifiers are numbers. A time is a number of milliseconds, an amount
a number of the asset's minor units. Columns no modelled statement reads
(`created_at`, `ended_at`, request ids kept for audit) are left out.
-/

namespace Kippu

open Conc

abbrev EventId := ℕ
abbrev ZoneId := ℕ
abbrev ClassId := ℕ
abbrev TicketId := ℕ
abbrev AccountId := ℕ
abbrev OrganiserId := ℕ
abbrev CheckoutId := ℕ
abbrev HoldId := ℕ
abbrev HostedId := ℕ
abbrev ProviderCheckoutId := ℕ
abbrev SaleId := ℕ
abbrev GrantedId := ℕ
abbrev ProofRequestId := ℕ
abbrev OperationId := ℕ
abbrev RequestId := ℕ
abbrev Cursor := ℕ
abbrev Asset := ℕ
abbrev Time := ℕ

inductive EventStatus
  | active
  | sealed
  | cancelled
  | finished
  deriving DecidableEq

inductive ZoneKind
  | seated
  | unseated
  deriving DecidableEq

inductive Provenance
  | purchased
  | granted
  deriving DecidableEq

inductive HoldStatus
  | outstanding
  | issuing
  | confirmed
  | lapsed
  | released
  deriving DecidableEq

/-- Where a hosted checkout stands; `opened` is the source's `open`. -/
inductive HostedCheckoutStatus
  | opened
  | paid
  | expired
  | cancelled
  deriving DecidableEq

inductive SaleStatus
  | issuing
  | issued
  | rejected
  | failed
  deriving DecidableEq

inductive GrantedStatus
  | pending
  | settled
  | rejected
  | failed
  deriving DecidableEq

inductive RefundReason
  | issuanceRejected
  | placeGone
  | amountMismatch
  | eventClosed
  | eventCancelled
  deriving DecidableEq

inductive ProofStatus
  | pending
  | approved
  | rejected
  deriving DecidableEq

/-- The codes of `SPEC.md` §10 that the modelled functions raise or tell apart. -/
inductive Code
  | eventNotFound
  | eventSealed
  | eventCancelled
  | eventFinished
  | unknownZone
  | zoneKindMismatch
  | ticketIdExists
  | ticketNotFound
  | capacityExceeded
  | other
  deriving DecidableEq

inductive AuditOutcome
  | pending
  | settled
  | rejected (code : Code)
  | failed
  deriving DecidableEq

/-- The steps of a primary checkout that `checkout_audit` records. -/
inductive CheckoutStep
  | held
  | holdRefused
  | paymentStarted
  | paymentVerified
  | issued
  | issuanceRejected
  | issuanceFailed
  | refundEntitled
  | holdReleased
  deriving DecidableEq

inductive CommandKind
  | issueTicket
  | registerCredential
  deriving DecidableEq

-- ---------------------------------------------------------------------------
-- Rows
-- ---------------------------------------------------------------------------

/-- A row of `checkout_sessions`. -/
structure Checkout where
  /-- Stands for the token's hash. -/
  token : ℕ
  event : EventId
  zone : ZoneId
  classId : ClassId
  /-- The seat's canonical designation, in a seated zone. -/
  position : Option String
  createdAt : Time
  holderAccount : Option AccountId
  linkConfirmed : Bool

structure Hold where
  checkout : CheckoutId
  event : EventId
  zone : ZoneId
  classId : ClassId
  /-- The seat's canonical designation, in a seated zone. -/
  position : Option String
  status : HoldStatus
  expiresAt : Time
  extendedAt : Option Time
  price : Option ℕ
  asset : Option Asset

/-- A row of `hosted_checkouts`. -/
structure Hosted where
  hold : HoldId
  providerCheckout : ProviderCheckoutId
  url : ℕ
  amount : ℕ
  asset : Asset
  status : HostedCheckoutStatus
  expiresAt : Time

/-- A row of `primary_sales`. -/
structure Sale where
  hosted : HostedId
  hold : HoldId
  holder : AccountId
  status : SaleStatus
  ticket : Option TicketId
  cursor : Option Cursor
  errorCode : Option Code
  operation : Option OperationId

structure Refund where
  hosted : HostedId
  checkout : CheckoutId
  amount : ℕ
  asset : Asset
  reason : RefundReason

structure FaceValue where
  event : EventId
  classId : ClassId
  sale : SaleId
  amount : ℕ
  asset : Asset

/-- A row of `granted_issuances`. -/
structure Granted where
  event : EventId
  classId : ClassId
  ticket : Option TicketId
  holder : AccountId
  organiser : OrganiserId
  request : RequestId
  status : GrantedStatus
  operation : Option OperationId
  errorCode : Option Code

/-- A row of `event_sale_closures`. -/
structure Closure where
  event : EventId
  request : RequestId
  reopened : Bool

structure TicketClass where
  event : EventId
  provenance : Provenance
  price : Option ℕ
  quota : Option ℕ

structure AuditRow where
  request : RequestId
  kind : CommandKind
  outcome : AuditOutcome
  recordedAt : Time

structure LedgerAccount where
  account : AccountId
  registration : Bool
  registered : Bool

/-- A row of `derived_tickets`: the copy of a ticket of the ledger. -/
structure DerivedTicket where
  event : EventId
  placementKind : ZoneKind
  provenance : Provenance

structure Db where
  checkouts : Table Checkout
  holds : Table Hold
  hosted : Table Hosted
  sales : Table Sale
  refunds : Table Refund
  faceValues : Table FaceValue
  granted : Table Granted
  closures : Table Closure
  classes : Table TicketClass
  /-- `event_sale_assets`, by event. -/
  saleAssets : Table Asset
  audit : Table AuditRow
  /-- `organisers`. -/
  organisers : Table Unit
  accounts : Table LedgerAccount
  /-- `organiser_events`, by event. -/
  organiserEvents : Table OrganiserId
  derivedTickets : Table DerivedTicket
  /-- `seat_positions`: the canonical designations of a zone's seats. -/
  seatPositions : List (EventId × ZoneId × String)
  /-- `checkout_audit`, in the order its rows were committed. -/
  steps : List (CheckoutId × CheckoutStep)

def Db.empty : Db where
  checkouts := .empty
  holds := .empty
  hosted := .empty
  sales := .empty
  refunds := .empty
  faceValues := .empty
  granted := .empty
  closures := .empty
  classes := .empty
  saleAssets := .empty
  audit := .empty
  organisers := .empty
  accounts := .empty
  organiserEvents := .empty
  derivedTickets := .empty
  seatPositions := []
  steps := []

-- ---------------------------------------------------------------------------
-- Locks
-- ---------------------------------------------------------------------------

/-- Tables whose rows statements lock, `holds` and `hosted_checkouts` apart. -/
inductive Rows
  | sales
  | audit
  | organisers
  | accounts
  deriving DecidableEq

/-- Unique indexes: an entry being inserted is locked until its transaction ends. -/
inductive Index
  | holds
  | holdsCheckout
  | hosted
  | hostedProvider
  | hostedOpen
  | sales
  | salesHosted
  | refunds
  | refundsHosted
  | faceValues
  | faceValuesSale
  | audit
  | accounts
  deriving DecidableEq

/-- The locks transactions take. A hold's row is named with its event. Foreign keys lock the
rows they reference in a mode that only `FOR UPDATE` conflicts with, and only the transaction
that holds a hold's row inserts references to it, so these locks are left out. -/
inductive Key
  | seat (ticket : TicketId)
  | allocation (event : EventId)
  | hosted (id : HostedId)
  | hold (event : EventId) (id : HoldId)
  | row (table : Rows) (id : ℕ)
  | entry (index : Index) (id : ℕ)
  deriving DecidableEq

end Kippu
