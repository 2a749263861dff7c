import Kippu.Events.Seats

/-!
# Allocation

The accounting every allocation of an event's issuance shares: a checkout's hold
and a granted issuance each count the others. An allocation locks its seat, when
it has one, and then the event's allocations; it counts and is recorded under
these locks.
-/

namespace Kippu

open Conc Conc.Prog

variable [Profile]

structure AllocationTarget where
  event : EventId
  zone : ZoneId
  classId : ClassId
  position : Option String

def lockEventAllocations (event : EventId) : Prog Unit := lock (.allocation event)

/-- Takes the allocation's locks in the one order every allocation uses. -/
def lockAllocation (target : AllocationTarget) : Prog Unit := do
  match target.position with
  | some position => do
      let _ ← lockSeat target.event target.zone (positionOf position)
      lockEventAllocations target.event
  | none => lockEventAllocations target.event

-- ---------------------------------------------------------------------------
-- Sale terms
-- ---------------------------------------------------------------------------

structure SaleTerms where
  asset : Asset
  price : ℕ

def TicketClass.unpriced (event : EventId) (c : TicketClass) : Bool :=
  c.event = event ∧ c.provenance = .purchased ∧ c.price.isNone

/-- The event's sale asset and the class's current price, or `none` when the event is not on
sale: it has no sale asset, or a `Purchased` class of it has no price. -/
def saleTermsOf (event : EventId) (classId : ClassId) (db : Db) : Option SaleTerms :=
  if db.classes.any (TicketClass.unpriced event) then none
  else do
    let asset ← db.saleAssets.get event
    let ticketClass ← db.classes.get classId
    let price ← ticketClass.price
    if ticketClass.event = event then some ⟨asset, price⟩ else none

def saleTerms (event : EventId) (classId : ClassId) : Prog (Option SaleTerms) :=
  read (saleTermsOf event classId)

structure AllocationCounts where
  eventHolds : ℕ
  classHolds : ℕ
  seatHeld : Bool
  purchased : ℕ
  classPurchased : ℕ
  granted : ℕ
  classGranted : ℕ
  quota : Option ℕ

/-- A hold not yet issued: outstanding, or paid and being issued. -/
def Hold.pending (h : Hold) : Bool := h.status = .outstanding ∨ h.status = .issuing

def countsOf (target : AllocationTarget) (db : Db) : AllocationCounts where
  eventHolds := db.holds.count fun h => h.event = target.event ∧ h.pending
  classHolds := db.holds.count fun h => h.classId = target.classId ∧ h.pending
  seatHeld := db.holds.any (Hold.holdsSeat target.event target.zone target.position)
  purchased := db.holds.count fun h => h.event = target.event ∧ h.status = .confirmed
  classPurchased := db.holds.count fun h => h.classId = target.classId ∧ h.status = .confirmed
  granted := db.granted.count fun g => g.event = target.event ∧ g.status ≠ .rejected
  classGranted := db.granted.count fun g => g.classId = target.classId ∧ g.status ≠ .rejected
  quota := (db.classes.get target.classId).bind (·.quota)

def Hold.expiredOf (event : EventId) (at_ : Time) (h : Hold) : Bool :=
  h.event = event ∧ h.status = .outstanding ∧ h.expiresAt ≤ at_

def Hold.lapse (h : Hold) : Hold := { h with status := .lapsed }

/-- Records the event's expired holds as lapsed, then counts what stands against the target. -/
def allocationCounts (target : AllocationTarget) (at_ : Time) : Prog AllocationCounts := do
  let _ ← updateHolds (Hold.expiredOf target.event at_) Hold.lapse
  read (countsOf target)

/-- How many more allocations the event's capacity admits; `none` when issuance is unbounded. -/
def capacityRemaining (event : Event) (counts : AllocationCounts) : Option ℕ :=
  event.maxCapacity.map fun capacity =>
    capacity - max event.issued (counts.granted + counts.purchased) - counts.eventHolds

def allocatedCount (event : Event) (counts : AllocationCounts) : ℕ :=
  max event.issued (counts.granted + counts.purchased) + counts.eventHolds

def Closure.inForce (event : EventId) (c : Closure) : Bool := c.event = event ∧ c.reopened = false

def salesClosed (event : EventId) : Prog Bool := read (·.closures.any (Closure.inForce event))

def capacityHasRoom (event : Event) (counts : AllocationCounts) : Bool :=
  match capacityRemaining event counts with
  | none => true
  | some remaining => 0 < remaining

/-- How many more allocations the class quota admits; `none` for a class with no quota. -/
def quotaRemaining (counts : AllocationCounts) : Option ℕ :=
  counts.quota.map fun quota =>
    quota - counts.classHolds - counts.classPurchased - counts.classGranted

def quotaHasRoom (counts : AllocationCounts) : Bool :=
  match quotaRemaining counts with
  | none => true
  | some remaining => 0 < remaining

/-- The canonical designations of a zone's seats held by holds outstanding, issuing or issued. -/
def heldPositions (event : EventId) (zone : ZoneId) (at_ : Time) : Prog (List String) := do
  let (db, ids) ← scan (·.holds.select fun h => h.event = event ∧ h.zone = zone ∧
    (h.status = .issuing ∨ h.status = .confirmed ∨ h.status = .outstanding ∧ at_ < h.expiresAt))
  pure (ids.filterMap fun id => (db.holds.get id).bind (·.position))

end Kippu
