import Kippu.Derived.AdmissionFlags
import Kippu.Derived.OnSale
import Kippu.Logged

/-!
# Derived queries

The reads of the copy. Each is one statement, which joins the copy's head with the
rows of a projection, so that an answer and the position it states are of one
committed store. A query for one key is computed; one that lists rows is the
relation between the store and its answer, since a table has no order of its own.
-/

namespace Kippu.Derived

open Logged

-- ---------------------------------------------------------------------------
-- What a query answers
-- ---------------------------------------------------------------------------

structure Projected (α : Type) where
  value : α
  sequence : ℕ

structure ProjectedTicket extends Projected Ticket where
  id : TicketId

structure Attendance where
  event : EventId
  ticket : TicketId
  count : ℕ
  lastRecordedAt : Time

structure ConsumedPass where
  event : EventId
  ticket : TicketId
  pass : PassId
  holder : AccountId
  notBefore : Time
  notAfter : Time
  presentedAt : Time
  recordedAt : Time

structure Transfer where
  event : EventId
  ticket : TicketId
  fromHolder : AccountId
  toHolder : AccountId
  recordedAt : Time

structure RegisteredCredential where
  account : AccountId
  credential : CredentialId
  registration : Registration
  registeredAt : Time

structure DerivedRead (α : Type) where
  result : α
  freshness : CopyFreshness

abbrev Read (α : Type) := Except ReadError (DerivedRead α)

def readAt (db : ReaderDb Copy) (result : Except ReadError α) : Read α :=
  result.map fun answer => ⟨answer, freshnessOf db⟩

-- ---------------------------------------------------------------------------
-- A row's answer
-- ---------------------------------------------------------------------------

def policyOf (row : TicketRow) : Except ReadError AttendancePolicy :=
  match row.policy with
  | .single => .ok .single
  | .multiple max validUntil => do return .multiple (← int max) (← validUntil.mapM int)
  | .unlimited validUntil => do return .unlimited (← validUntil.mapM int)

def ticketOf (id : TicketId) (row : TicketRow) : Except ReadError ProjectedTicket := do
  let policy ← policyOf row
  let attendances ← int row.attendances
  let sequence ← int row.sequence
  return ⟨⟨⟨row.eventId, row.holder, row.classId, row.provenance, row.zoneId, row.placement, policy,
    ⟨row.cannotResale, row.cannotTransfer⟩, attendances⟩, sequence⟩, id⟩

def attendanceOf (ticket : TicketId) (row : AttendanceRow) :
    Except ReadError (Projected Attendance) := do
  let count ← int row.count
  let lastRecordedAt ← int row.lastRecordedAt
  let sequence ← int row.sequence
  return ⟨⟨row.eventId, ticket, count, lastRecordedAt⟩, sequence⟩

def consumedPassOf (key : TicketId × PassId) (row : PassRow) :
    Except ReadError (Projected ConsumedPass) := do
  let notBefore ← int row.notBefore
  let notAfter ← int row.notAfter
  let presentedAt ← int row.presentedAt
  let recordedAt ← int row.recordedAt
  let sequence ← int row.sequence
  return ⟨⟨row.eventId, key.1, key.2, row.holder, notBefore, notAfter, presentedAt, recordedAt⟩,
    sequence⟩

def transferOf (sequence : ℕ) (row : TransferRow) : Except ReadError (Projected Transfer) := do
  let recordedAt ← int row.recordedAt
  let sequence ← int sequence
  return ⟨⟨row.eventId, row.ticketId, row.fromHolder, row.toHolder, recordedAt⟩, sequence⟩

/-- `LEFT JOIN derived_log l ON l.sequence = c.sequence`: the row refers to its record, which is
then there. -/
def credentialOf (db : ReaderDb Copy) (key : AccountId × CredentialId) (row : CredentialRow) :
    Except ReadError (Projected RegisteredCredential) := do
  let registeredAt ← int (((db.log.get row.sequence).map LogRow.recordedAt).getD 0)
  let sequence ← int row.sequence
  return ⟨⟨key.1, key.2, row.registration, registeredAt⟩, sequence⟩

-- ---------------------------------------------------------------------------
-- The queries
-- ---------------------------------------------------------------------------

namespace DerivedQueries

variable (db : ReaderDb Copy)

def event (id : EventId) : Read (Option ProjectedEvent) :=
  readAt db ((db.copy.events id).mapM (eventOf id))

def ticket (id : TicketId) : Read (Option ProjectedTicket) :=
  readAt db ((db.copy.tickets id).mapM (ticketOf id))

def attendance (ticket : TicketId) : Read (Option (Projected Attendance)) :=
  readAt db ((db.copy.attendance ticket).mapM (attendanceOf ticket))

def consumedPass (ticket : TicketId) (pass : PassId) : Read (Option (Projected ConsumedPass)) :=
  readAt db ((db.copy.passes (ticket, pass)).mapM (consumedPassOf (ticket, pass)))

def credential (account : AccountId) (credential : CredentialId) :
    Read (Option (Projected Registration)) :=
  readAt db ((db.copy.credentials (account, credential)).mapM fun row => do
    let registered ← credentialOf db (account, credential) row
    let sequence ← int row.sequence
    return ⟨registered.value.registration, sequence⟩)

/-- `min(l.sequence)` of an event's records; there is none for an event without one. -/
def created (id : EventId) : WithTop ℕ :=
  (db.log.ids.filter fun n => (db.log.get n).any (·.eventId = some id)).min

/-- `ORDER BY c.created DESC, e.id`: what has no value comes first. -/
def EventsOwnedBy (account : AccountId) (answer : Read (List ProjectedEvent)) : Prop :=
  ∃ rows, Selects db.copy.events (fun _ row => row.owner = account)
      (fun id _ => toLex (OrderDual.toDual (created db id), id)) rows ∧
    answer = readAt db (rows.mapM fun (id, row) => eventOf id row)

/-- `ORDER BY t.event_id, t.id`. -/
def Holdings (account : AccountId) (answer : Read (List ProjectedTicket)) : Prop :=
  ∃ rows, Selects db.copy.tickets (fun _ row => row.holder = account)
      (fun id row => toLex (row.eventId, id)) rows ∧
    answer = readAt db (rows.mapM fun (id, row) => ticketOf id row)

/-- `ORDER BY t.sequence`, of those recorded `BETWEEN $2 AND $3`. -/
def Transfers (ticket : TicketId) (since till : ℤ) (answer : Read (List (Projected Transfer))) :
    Prop :=
  ∃ rows, Selects db.copy.transfers
      (fun _ row => row.ticketId = ticket ∧ since ≤ row.recordedAt ∧ row.recordedAt ≤ till)
      (fun sequence _ => sequence) rows ∧
    answer = readAt db (rows.mapM fun (sequence, row) => transferOf sequence row)

/-- `ORDER BY c.sequence, c.credential`. -/
def Credentials (account : AccountId) (answer : Read (List (Projected RegisteredCredential))) :
    Prop :=
  ∃ rows, Selects db.copy.credentials (fun key _ => key.1 = account)
      (fun key row => toLex (row.sequence, key.2)) rows ∧
    answer = readAt db (rows.mapM fun (key, row) => credentialOf db key row)

end DerivedQueries

end Kippu.Derived
