import Kippu.Sales.Allocation
import Mathlib.Logic.Function.Basic

/-!
# Lowering an event's capacity

One event's allocations, each under the event's allocation lock: holds placed, places
taken by payments, granted issuances reserved, and capacity decreases, which check
what is allocated and await the ledger's verdict before the lock is freed. A decrease
may also end without a verdict, and the ledger decide about its write later.
-/

namespace Kippu.Decreasing

/-- A call; each allocates once, or lowers the capacity once. -/
abbrev Call := ℕ

/-- A row of `holds`, and whether its ticket is on the ledger. -/
structure Hold where
  status : HoldStatus
  landed : Bool

def Hold.pending (h : Hold) : Bool := h.status = .outstanding ∨ h.status = .issuing

structure Granted where
  status : GrantedStatus
  landed : Bool

def Granted.undertaken (g : Granted) : Bool := g.status ≠ .rejected

inductive Ask
  | place
  | reserve
  /-- A payment takes the place of a hold. -/
  | take (i : HoldId)

inductive Task
  | idle
  /-- An allocation, under the event's lock: before `allocationCounts`, and with its answer. -/
  | locked (ask : Ask)
  | counted (ask : Ask) (counts : AllocationCounts)
  | admitted (ask : Ask)
  /-- A decrease, under the event's lock. -/
  | decreasing (capacity : ℕ)
  | owned (capacity : ℕ) (active : Bool)
  | found (capacity : ℕ) (event : Event)
  | checked (capacity : ℕ)
  | awaiting (capacity : ℕ)
  | ended

def Task.Locked : Task → Prop
  | .idle => False
  | .ended => False
  | _ => True

structure State where
  holds : Conc.Table Hold
  grants : Conc.Table Granted
  /-- The event on the ledger, but for the tickets issued. -/
  ledger : Event
  lock : Option Call
  task : Call → Task
  /-- Decreases the ledger may still accept. -/
  submitted : Call → Option ℕ

def State.issued (s : State) : ℕ := s.holds.count Hold.landed + s.grants.count Granted.landed

/-- Holds outstanding or issuing, and granted issuances undertaken, without a ticket yet. -/
def State.promised (s : State) : ℕ :=
  s.holds.count (fun h => h.pending && !h.landed) +
    s.grants.count (fun g => g.undertaken && !g.landed)

def State.event (s : State) : Event := { s.ledger with issued := s.issued }

/-- What `allocationCounts` reads of the event, whatever it reads of the class. -/
def State.Counted (s : State) (counts : AllocationCounts) : Prop :=
  counts.eventHolds = s.holds.count Hold.pending ∧
    counts.purchased = s.holds.count (fun h => h.status = .confirmed) ∧
    counts.granted = s.grants.count Granted.undertaken

def State.goto (s : State) (c : Call) (t : Task) : State :=
  { s with task := Function.update s.task c t }

def State.setHolds (s : State) (holds : Conc.Table Hold) : State := { s with holds }

def State.setGrants (s : State) (grants : Conc.Table Granted) : State := { s with grants }

def State.setCapacity (s : State) (maxCapacity : Option ℕ) : State :=
  { s with ledger := { s.ledger with maxCapacity } }

def State.submit (s : State) (c : Call) (write : Option ℕ) : State :=
  { s with submitted := Function.update s.submitted c write }

def State.unlock (s : State) (c : Call) : State := { s with lock := none }.goto c .ended

/-- Whether a payment finds its hold ended, and takes the place only if there is room. -/
def State.Asks (s : State) : Ask → Prop
  | .take i => ∃ hold, s.holds.get i = some hold ∧
      (hold.status = .lapsed ∨ hold.status = .released)
  | _ => True

/-- One step, where the ledger accepts decreases whose transaction has ended only if `late` says
so. -/
inductive Step (late : Prop) (s : State) : State → Prop
  -- without the lock
  | holdEnds (i : HoldId) (status : HoldStatus) : status = .lapsed ∨ status = .released →
      s.holds.get i = some hold → hold.status = .outstanding →
      Step late s (s.setHolds (s.holds.update i fun h => { h with status }))
  | holdConfirmed (i : HoldId) : s.holds.get i = some hold → hold.landed = true →
      Step late s (s.setHolds (s.holds.update i fun h => { h with status := .confirmed }))
  /-- A refused issuance gives the place back. -/
  | holdReleased (i : HoldId) : s.holds.get i = some hold → hold.status = .issuing →
      hold.landed = false →
      Step late s (s.setHolds (s.holds.update i fun h => { h with status := .released }))
  | holdLands (i : HoldId) : s.holds.get i = some hold → hold.status = .issuing →
      s.ledger.status = .active → (∀ m ∈ s.ledger.maxCapacity, s.issued < m) →
      Step late s (s.setHolds (s.holds.update i fun h => { h with landed := true }))
  | grantCompletes (i : ℕ) (status : GrantedStatus) : s.grants.get i = some grant →
      (status = .rejected → grant.landed = false) →
      (grant.status = .rejected → status = .rejected) →
      Step late s (s.setGrants (s.grants.update i fun g => { g with status }))
  | grantLands (i : ℕ) : s.grants.get i = some grant → grant.undertaken = true →
      s.ledger.status = .active → (∀ m ∈ s.ledger.maxCapacity, s.issued < m) →
      Step late s (s.setGrants (s.grants.update i fun g => { g with landed := true }))
  /-- An increase, with its proof. -/
  | raised : (∀ m ∈ maxCapacity, ∃ m' ∈ s.ledger.maxCapacity, m' ≤ m) →
      Step late s (s.setCapacity maxCapacity)
  | statusChanges (status : EventStatus) : status ≠ .active →
      Step late s { s with ledger := { s.ledger with status } }
  -- an allocation
  | locks (ask : Ask) : s.task c = .idle → s.lock = none →
      Step late s ({ s with lock := some c }.goto c (.locked ask))
  | counts : s.task c = .locked ask → s.Counted counts → Step late s (s.goto c (.counted ask counts))
  /-- The hold is outstanding: its place is taken already. -/
  | findsOutstanding : s.task c = .counted (.take i) counts → s.holds.get i = some hold →
      hold.status = .outstanding → Step late s (s.goto c (.admitted (.take i)))
  | findsRoom : s.task c = .counted ask counts → s.Asks ask →
      (s.ledger.status = .active → capacityHasRoom s.event counts = true) →
      Step late s (s.goto c (.admitted ask))
  | places : s.task c = .admitted .place → s.holds.get i = none →
      Step late s ((s.setHolds (s.holds.set i ⟨.outstanding, false⟩)).unlock c)
  | reserves : s.task c = .admitted .reserve → s.grants.get i = none →
      Step late s ((s.setGrants (s.grants.set i ⟨.pending, false⟩)).unlock c)
  | takes : s.task c = .admitted (.take i) →
      Step late s ((s.setHolds (s.holds.update i fun h => { h with status := .issuing })).unlock c)
  -- a decrease
  | locksDecrease (capacity : ℕ) : s.task c = .idle → s.lock = none →
      Step late s ({ s with lock := some c }.goto c (.decreasing capacity))
  | ownsEvent : s.task c = .decreasing capacity → (∀ m ∈ s.ledger.maxCapacity, capacity ≤ m) →
      Step late s (s.goto c (.owned capacity (s.ledger.status = .active)))
  | getsEvent : s.task c = .owned capacity true → Step late s (s.goto c (.found capacity s.event))
  /-- `canDecreaseCapacity`. -/
  | checks : s.task c = .found capacity event → s.Counted counts →
      allocatedCount event counts ≤ capacity → Step late s (s.goto c (.checked capacity))
  | checksNothing : s.task c = .owned capacity false → Step late s (s.goto c (.checked capacity))
  | submits : s.task c = .checked capacity →
      Step late s ((s.submit c (some capacity)).goto c (.awaiting capacity))
  /-- The ledger's own floor is the tickets issued; it takes no increase without a proof. -/
  | accepts : s.submitted c = some capacity → s.ledger.status = .active → s.issued ≤ capacity →
      (∀ m ∈ s.ledger.maxCapacity, capacity ≤ m) → (late ∨ s.lock = some c) →
      Step late s ((s.setCapacity (some capacity)).submit c none)
  | refuses : s.submitted c = some capacity → Step late s (s.submit c none)
  /-- The transaction ends: with its verdict, without one, or as its process stops. -/
  | ends : (s.task c).Locked → Step late s (s.unlock c)

inductive Steps (late : Prop) (s : State) : State → Prop
  | refl : Steps late s s
  | step : Steps late s s' → Step late s' s'' → Steps late s s''

/-- Whether an active event's capacity bears what is issued and promised. -/
def State.Bears (s : State) : Prop :=
  s.ledger.status = .active → ∀ m ∈ s.ledger.maxCapacity, s.issued + s.promised ≤ m

/-- Before any of the calls; tickets on the ledger are those of holds and issuances not refused. -/
structure State.Initial (s : State) : Prop where
  lock : s.lock = none
  task : ∀ c, s.task c = .idle
  submitted : ∀ c, s.submitted c = none
  holds : ∀ i h, s.holds.get i = some h → h.landed = true →
    h.status = .issuing ∨ h.status = .confirmed
  grants : ∀ i g, s.grants.get i = some g → g.landed = true → g.undertaken = true
  bears : s.Bears

end Kippu.Decreasing
