import Kippu.Sales.Holds

/-!
# Inventory

The public sale inventory of an event: counted with the accounting a hold is placed
with, each statement on a connection of its own.
-/

namespace Kippu

open Conc Conc.Prog

variable [Profile]

/-- A zone on sale: the free seats of a seated one. -/
inductive ZoneOnSale
  | unseated (id : ZoneId)
  | seated (id : ZoneId) (freeSeats : List String)

def TicketClass.pricedOf (event : EventId) (c : TicketClass) : Bool :=
  c.event = event ∧ c.provenance = .purchased ∧ c.price.isSome

/-- Whether a ticket holds a seat of the event, in Kippu's copy or by a granted issuance. -/
def Db.seatTaken (db : Db) (event : EventId) (ticket : TicketId) : Bool :=
  (db.derivedTickets.get ticket).any (fun t => t.event = event ∧ t.placementKind = .seated) ||
    db.granted.any fun g => g.event = event ∧ g.inFlight ticket

def zonesOnSale (event : EventId) (available : Option ℕ) (at_ : Time) (taken : Db)
    (zones : List Zone) : Prog (List ZoneOnSale) :=
  foldEach zones [] fun done zone =>
    match zone.kind with
    | .unseated => pure (done ++ [.unseated zone.id])
    | .seated => do
        let designations ← query (read fun db =>
          (db.seatPositions.filter fun (e, z, _) => e = event ∧ z = zone.id).map (·.2.2))
        let held ← query (heldPositions event zone.id at_)
        let free := if available = some 0 then [] else designations.filter fun designation =>
          !held.contains designation &&
            !taken.seatTaken event (ticketOf event zone.id (positionOf designation))
        pure (done ++ [.seated zone.id free])

end Kippu
