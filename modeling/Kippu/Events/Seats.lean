import Kippu.Hex
import Kippu.Statements

/-!
# Seats

A seat's identity is its ticket id, derived through the profile from event, zone
and position, so every way of allocating a seat locks and checks the same thing.
-/

namespace Kippu

open Conc Conc.Prog

-- ---------------------------------------------------------------------------
-- Positions
-- ---------------------------------------------------------------------------

/-- The ledger position of a seat designation: the UTF-8 bytes of its NFC form, in
hexadecimal. -/
def positionOf [Profile] (designation : String) : String :=
  String.ofList ((Profile.nfc designation).toUTF8.data.toList.flatMap hexByte)

-- ---------------------------------------------------------------------------
-- The seated double-allocation pre-check
-- ---------------------------------------------------------------------------

variable [Profile]

def ticketOf (event : EventId) (zone : ZoneId) (position : String) : TicketId :=
  Profile.ticketId event zone (.seated position)

def lockSeat (event : EventId) (zone : ZoneId) (position : String) : Prog TicketId := do
  let ticket := ticketOf event zone position
  lock (.seat ticket)
  pure ticket

/-- A granted issuance of a ticket that the ledger has not refused. -/
def Granted.inFlight (ticket : TicketId) (g : Granted) : Bool :=
  g.ticket = some ticket ∧ g.status ≠ .rejected

/-- The seat's ticket id, provided the seat is free: the ledger holds no ticket for it, and
Kippu has no granted issuance of it that the ledger has not refused. -/
def assertFree (event : EventId) (zone : ZoneId) (position : String) : Prog TicketId := do
  let ticket := ticketOf event zone position
  if ← read (·.granted.any (Granted.inFlight ticket)) then
    raise (.spec .ticketIdExists "the seat is already allocated" none)
  else
    match ← ext (.getTicket ticket) with
    | .ok _ => raise (.spec .ticketIdExists "the seat is already issued" none)
    | .error .ticketNotFound => pure ticket
    | .error code => raise (.spec code "" none)

end Kippu
