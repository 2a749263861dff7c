import Kippu.Offering.Statements

/-!
# What `place` answers

A hold is placed if and only if the event is on sale, the class has a price, one more
allocation fits the event's capacity and the class's quota, and the seat is free. Expired
holds are recorded as lapsed before anything is counted.
-/

namespace Kippu.Offering

open Conc Conc.Prog

/-- An event on sale: active, its sales not closed, with a sale asset, and a price for each class
that is sold. -/
structure OnSale (d : Shared Db Env) (event : EventId) (found : Event) : Prop where
  recorded : d.env.events.get event = some found
  active : found.status = .active
  opened : d.db.closures.any (Closure.inForce event) = false
  asset : (d.db.saleAssets.get event).isSome
  priced : d.db.classes.any (TicketClass.unpriced event) = false

def Priced (db : Db) (event : EventId) (classId : ClassId) : Prop :=
  ∃ row, db.classes.get classId = some row ∧ row.event = event ∧ row.price.isSome

/-- Whether one more allocation fits the event's capacity and the class's quota. -/
def HasRoom (found : Event) (counts : AllocationCounts) : Prop :=
  capacityHasRoom found counts = true ∧ quotaHasRoom counts = true

def Fresh (db : Db) (checkout : CheckoutId) : Prop :=
  ∀ i h, db.holds.get i = some h → h.checkout ≠ checkout

variable [Profile]

variable {at_ : Time} {p : Pid} {v db : Db} {env : Env} {d₀ : Shared Db Env}

end Kippu.Offering
