import Kippu.Sales.Allocation

/-!
# Holds

A hold reserves the issuance of one ticket for one checkout. It is placed under
the allocation's locks, lives ten minutes, is extended once by five when payment
starts, and is released or lapses.
-/

namespace Kippu

open Conc Conc.Prog

variable [Profile]

def HOLD_LIFETIME_MS : Time := 10 * 60 * 1000

/-- How much longer a hold lives, once, when payment starts. -/
def HOLD_EXTENSION_MS : Time := 5 * 60 * 1000

def notOnSale (status : EventStatus) : Option (Code × String) :=
  match status with
  | .active => none
  | .sealed => some (.eventSealed, "the event is Sealed")
  | .cancelled => some (.eventCancelled, "the event is Cancelled")
  | .finished => some (.eventFinished, "the event is Finished")

/-- The event, as the ledger records it now, provided it is on sale: it exists, is `Active`, and
Kippu has not closed its sales. -/
def eventOnSale (event : EventId) : Prog Event := do
  match ← ext (.getEvent event) with
  | .error code => raise (.spec code "" none)
  | .ok found => do
      match notOnSale found.status with
      | some (code, detail) => raise (.spec code detail none)
      | none => pure ()
      if ← salesClosed event then
        raise (.checkout .salesClosed
          "the event's sales are closed: it is being sealed or cancelled")
      else pure found

structure HoldTarget extends AllocationTarget where
  checkoutId : CheckoutId

inductive HoldRefusal
  | seatTaken
  | soldOut
  | classSoldOut
  deriving DecidableEq

def HoldStatus.name : HoldStatus → String
  | .outstanding => "outstanding"
  | .issuing => "issuing"
  | .confirmed => "confirmed"
  | .lapsed => "lapsed"
  | .released => "released"

/-- Whether an error says that a seat is taken. -/
def Err.ticketIdExists : Err → Bool
  | .spec .ticketIdExists _ _ => true
  | _ => false

def holdOf (target : HoldTarget) (terms : SaleTerms) (at_ : Time) : Hold where
  checkout := target.checkoutId
  event := target.event
  zone := target.zone
  classId := target.classId
  position := target.position
  status := .outstanding
  expiresAt := at_ + HOLD_LIFETIME_MS
  extendedAt := none
  price := some terms.price
  asset := some terms.asset

def insertHold (id : HoldId) (hold : Hold) : Prog Unit :=
  insert [.entry .holds id, .entry .holdsCheckout hold.checkout]
    (fun db => (db.holds.get id).isSome || db.holds.any (·.checkout = hold.checkout) ||
      db.holds.any (Hold.holdsSeat hold.event hold.zone hold.position))
    fun db => { db with holds := db.holds.set id hold }

/-- Whether the target's seat is taken, as the ledger, Kippu's granted issuances and its holds
have it. -/
def seatRefusal (target : HoldTarget) (counts : AllocationCounts) : Prog (Option HoldRefusal) :=
  match target.position with
  | none => pure none
  | some position => do
      match ← attempt (assertFree target.event target.zone (positionOf position)) with
      | .ok _ => pure (if counts.seatHeld then some .seatTaken else none)
      | .error e => if e.ticketIdExists then pure (some .seatTaken) else raise e

/-- The first reason a hold is refused for. -/
def refusalOf (event : Event) (counts : AllocationCounts) (seat : Option HoldRefusal) :
    Option HoldRefusal :=
  match seat with
  | some refusal => some refusal
  | none =>
    if capacityHasRoom event counts then
      if quotaHasRoom counts then none else some .classSoldOut
    else some .soldOut

/-- Places the checkout's hold, or says why it is refused; `none` when the checkout's hold is
outstanding, whether placed now or before. -/
def place (target : HoldTarget) : Prog (Option HoldRefusal) := transaction do
  lockAllocation target.toAllocationTarget
  let at_ ← now
  let counts ← allocationCounts target.toAllocationTarget at_
  let (db, existing) ← scan (·.holds.select (·.checkout = target.checkoutId))
  match (existing.head?.bind db.holds.get).map Hold.status with
  | some .outstanding => pure none
  | some status =>
      let name := status.name
      raise (.checkout .holdEnded s!"the checkout's hold is {name}")
  | none => do
      let event ← eventOnSale target.event
      match ← saleTerms target.event target.classId with
      | none =>
          raise (.refused
            "the event has no sale asset, or the class no price: nothing of it can be held yet"
            .preconditionFailed none)
      | some terms => do
          let seat ← seatRefusal target counts
          match refusalOf event counts seat with
          | some refusal => do
              recordCheckoutStep target.checkoutId .holdRefused
              pure (some refusal)
          | none => do
              let holdId ← randomUUID
              insertHold holdId (holdOf target terms at_)
              recordCheckoutStep target.checkoutId .held
              pure none

/-- A hold given up at a time: lapsed if it had expired by then, released otherwise. -/
def Hold.giveUp (at_ : Time) (h : Hold) : Hold :=
  { h with status := if h.expiresAt ≤ at_ then .lapsed else .released }

end Kippu
