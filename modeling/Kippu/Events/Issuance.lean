import Kippu.Authority
import Kippu.Sales.Holds

/-!
# The seat of a granted issuance

An organiser asks for a seat by its designation, which must be one of the zone's
canonical positions; the issuance is for the position derived from it, provided the
seat is free.
-/

namespace Kippu

open Conc Conc.Prog

variable [Profile]

inductive PlacementInput
  | seated (position : String)
  | unseated

structure IssueGrantedInput where
  event : EventId
  zone : ZoneId
  classId : ClassId
  placement : PlacementInput
  holder : AccountId

structure Seat where
  position : String
  designation : String

def findClass (event : EventId) (classId : ClassId) : Prog (Option TicketClass) :=
  query (read fun db => (db.classes.get classId).filter (·.event = event))

/-- The position of one of the zone's canonical designations. -/
def canonicalPosition (event : EventId) (zone : ZoneId) (designation : String) : Prog String := do
  let normalised := Profile.nfc designation
  if ← query (read fun db => db.seatPositions.contains (event, zone, normalised)) then
    pure (positionOf normalised)
  else
    raise (.refused s!"\"{designation}\" is not one of the zone's canonical seat positions"
      .badRequest none)

def IssueGrantedInput.target (input : IssueGrantedInput) (seat : Option Seat) :
    AllocationTarget where
  event := input.event
  zone := input.zone
  classId := input.classId
  position := seat.map (·.designation)

/-- The ticket id of an issuance's seat, provided the seat is free. -/
def seatTicket (input : IssueGrantedInput) (seat : Option Seat) (counts : AllocationCounts) :
    Prog (Option TicketId) :=
  match seat with
  | none => pure none
  | some seat => do
      let ticket ← assertFree input.event input.zone seat.position
      if counts.seatHeld then
        raise (.refused "the seat is held by a buyer's checkout" .conflict (some "seat-held"))
      else pure (some ticket)

/-- The seat an issuance is for, in a seated zone, and the placement to issue it at. -/
def placementOf (event : Event) (input : IssueGrantedInput) : Prog (Option Seat × Placement) := do
  match input.placement with
  | .seated designation =>
      match event.zones.find? (·.id = input.zone) with
      | some ⟨_, .seated⟩ => do
          let position ← canonicalPosition input.event input.zone designation
          pure (some ⟨position, Profile.nfc designation⟩, .seated position)
      -- The ledger refuses a seat in an unknown or unseated zone with its own code.
      | _ => pure (none, .seated (positionOf designation))
  | .unseated => do
      let discriminator ← randomUUID
      pure (none, .unseated discriminator)

end Kippu
