import Kippu.Offering.Placing

/-!
# What `inventory` answers

The inventory lists each priced class with what is left of it, and each zone with the seats
that neither Kippu's holds nor the tickets it knows of have.
-/

namespace Kippu.Offering

open Conc Conc.Prog

def HasPlace (db : Db) (event : EventId) (found : Event) (zone : ZoneId) :
    Option String → Prop
  | none => ⟨zone, .unseated⟩ ∈ found.zones
  | some position => ⟨zone, .seated⟩ ∈ found.zones ∧ (event, zone, position) ∈ db.seatPositions

/-- A hold that has a seat at a time, whether or not its lapse is recorded. -/
def Hold.takesAt (event : EventId) (zone : ZoneId) (at_ : Time) (h : Hold) : Bool :=
  h.event = event ∧ h.zone = zone ∧
    (h.status = .issuing ∨ h.status = .confirmed ∨ h.status = .outstanding ∧ at_ < h.expiresAt)

variable [Profile]

variable {at_ : Time} {p : Pid} {v db : Db} {env : Env}

def seatHeldAt (event : EventId) (zone : ZoneId) (at_ : Time) (v : Db) (position : String) : Bool :=
  v.holds.any fun h => Hold.takesAt event zone at_ h && h.position = some position

/-- What the inventory offers a class of an event with a place on. -/
structure Listed (d : Shared Db Env) (at_ : Time) (target : AllocationTarget) (found : Event) :
    Prop where
  onSale : OnSale d target.event found
  sold : ∃ row, d.db.classes.get target.classId = some row ∧ row.pricedOf target.event
  room : HasRoom found (countsOf target (lapsed target.event at_ d.db))
  place : HasPlace d.db target.event found target.zone target.position
  seat : ∀ position, target.position = some position →
    seatHeldAt target.event target.zone at_ (lapsed target.event at_ d.db) position = false ∧
      d.db.seatTaken target.event (ticketOf target.event target.zone (positionOf position)) = false

end Kippu.Offering
