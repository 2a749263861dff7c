import Kippu.Sales.Allocation
import Mathlib.Logic.Function.Basic

/-!
# Allocating an event's places

One event's allocations by any number of processes: holds placed, places taken by
payments, granted issuances reserved and capacity decreases, each under the event's
allocation lock; and what gives a place back or keeps it, without the lock. The
ledger issues what it likes of what it is sent; the capacity changes by an increase,
or by a decrease while its call awaits the verdict.
-/

namespace Kippu.Allocating

/-- A call; each allocates once, or lowers the capacity once. -/
abbrev Call := ℕ

structure Hold where
  classId : ClassId
  status : HoldStatus

def Hold.pending (h : Hold) : Bool := h.status = .outstanding ∨ h.status = .issuing

def Hold.taken (h : Hold) : Bool :=
  h.status = .outstanding ∨ h.status = .issuing ∨ h.status = .confirmed

structure Granted where
  classId : ClassId
  status : GrantedStatus

def Granted.undertaken (g : Granted) : Bool := g.status ≠ .rejected

inductive Ask
  | place
  | reserve
  /-- A payment takes the place of a hold. -/
  | take (i : HoldId)

inductive Task
  | idle
  /-- An allocation of the class, under the event's lock: before `allocationCounts`, and with its
  answer. -/
  | locked (ask : Ask) (classId : ClassId)
  | counted (ask : Ask) (classId : ClassId) (counts : AllocationCounts)
  | admitted (ask : Ask) (classId : ClassId)
  /-- `issue` of a sale, and `issueGranted`, once the place is recorded. -/
  | issuing (i : HoldId)
  | granting (g : ℕ)
  /-- A decrease, under the event's lock. -/
  | decreasing (capacity : ℕ)
  | owned (capacity : ℕ) (active : Bool)
  | found (capacity : ℕ) (event : Event)
  | checked (capacity : ℕ)
  | awaiting (capacity : ℕ)
  | ended

def Task.Locked : Task → Prop
  | .idle | .issuing _ | .granting _ | .ended => False
  | _ => True

structure State where
  holds : Conc.Table Hold
  grants : Conc.Table Granted
  ledger : Event
  lock : Option Call
  task : Call → Task

/-- Holds of some classes outstanding, issuing or confirmed, and granted issuances of them that
are not rejected. -/
def State.allocated (s : State) (p : ClassId → Bool) : ℕ :=
  s.holds.count (fun h => h.taken && p h.classId) +
    s.grants.count fun g => g.undertaken && p g.classId

/-- What `allocationCounts` reads for a class. -/
def State.Counted (s : State) (quota : ClassId → Option ℕ) (c : ClassId)
    (counts : AllocationCounts) : Prop :=
  counts.eventHolds = s.holds.count Hold.pending ∧
    counts.classHolds = s.holds.count (fun h => h.classId = c ∧ h.pending) ∧
    counts.purchased = s.holds.count (fun h => h.status = .confirmed) ∧
    counts.classPurchased = s.holds.count (fun h => h.classId = c ∧ h.status = .confirmed) ∧
    counts.granted = s.grants.count Granted.undertaken ∧
    counts.classGranted = s.grants.count (fun g => g.classId = c ∧ g.undertaken) ∧
    counts.quota = quota c

def State.goto (s : State) (c : Call) (t : Task) : State :=
  { s with task := Function.update s.task c t }

def State.setHolds (s : State) (holds : Conc.Table Hold) : State := { s with holds }

def State.setGrants (s : State) (grants : Conc.Table Granted) : State := { s with grants }

def State.setLedger (s : State) (ledger : Event) : State := { s with ledger }

def State.unlock (s : State) (c : Call) (t : Task) : State := { s with lock := none }.goto c t

/-- What `complete("rejected")` makes of a hold. -/
def Hold.reject (h : Hold) : Hold :=
  if h.status = .issuing then { h with status := .released } else h

inductive Step (quota : ClassId → Option ℕ) (s : State) : State → Prop
  -- without the lock
  /-- A hold lapses or is released, by its buyer, a sweep, a cancellation or an organiser's action;
  an extension changes no status. -/
  | holdEnds (i : HoldId) (status : HoldStatus) : status = .lapsed ∨ status = .released →
      s.holds.get i = some hold → hold.status = .outstanding →
      Step quota s (s.setHolds (s.holds.update i fun h => { h with status }))
  | confirms : s.task c = .issuing i →
      Step quota s ((s.setHolds (s.holds.update i fun h => { h with status := .confirmed })).goto c
        .ended)
  | rejects : s.task c = .issuing i →
      Step quota s ((s.setHolds (s.holds.update i Hold.reject)).goto c .ended)
  | grantCompletes (status : GrantedStatus) : s.task c = .granting g →
      Step quota s ((s.setGrants (s.grants.update g fun x => { x with status })).goto c .ended)
  /-- Nothing was signed: the row is deleted. -/
  | grantDeletes : s.task c = .granting g →
      Step quota s ((s.setGrants (s.grants.erase g)).goto c .ended)
  /-- A process stops, or nothing is recorded of a missing verdict. -/
  | stops : ¬ (s.task c).Locked → Step quota s (s.goto c .ended)
  | ledgerIssues (issued : ℕ) : Step quota s (s.setLedger { s.ledger with issued })
  /-- An increase, with its proof. -/
  | raised : (∀ m ∈ maxCapacity, ∃ m' ∈ s.ledger.maxCapacity, m' ≤ m) →
      Step quota s (s.setLedger { s.ledger with maxCapacity })
  | statusChanges (status : EventStatus) : status ≠ .active →
      Step quota s (s.setLedger { s.ledger with status })
  -- an allocation
  | locks (ask : Ask) (classId : ClassId) : s.task c = .idle → s.lock = none →
      (∀ i, ask = .take i → ∃ hold, s.holds.get i = some hold ∧ hold.classId = classId) →
      Step quota s ({ s with lock := some c }.goto c (.locked ask classId))
  | counts : s.task c = .locked ask classId → s.Counted quota classId counts →
      Step quota s (s.goto c (.counted ask classId counts))
  /-- The hold is outstanding: its place is taken already. -/
  | findsOutstanding : s.task c = .counted (.take i) classId counts →
      s.holds.get i = some hold → hold.status = .outstanding →
      Step quota s (s.goto c (.admitted (.take i) classId))
  /-- There is room; a payment asks for it when its hold has ended. -/
  | findsRoom : s.task c = .counted ask classId counts →
      (∀ i, ask = .take i → ∃ hold, s.holds.get i = some hold ∧
        (hold.status = .lapsed ∨ hold.status = .released)) →
      (s.ledger.status = .active → capacityHasRoom s.ledger counts = true) →
      quotaHasRoom counts = true → Step quota s (s.goto c (.admitted ask classId))
  | places : s.task c = .admitted .place classId → s.holds.get i = none →
      Step quota s ((s.setHolds (s.holds.set i ⟨classId, .outstanding⟩)).unlock c .ended)
  | reserves : s.task c = .admitted .reserve classId → s.grants.get g = none →
      Step quota s ((s.setGrants (s.grants.set g ⟨classId, .pending⟩)).unlock c (.granting g))
  | takes : s.task c = .admitted (.take i) classId →
      Step quota s ((s.setHolds (s.holds.update i fun h => { h with status := .issuing })).unlock c
        (.issuing i))
  -- a decrease
  | locksDecrease (capacity : ℕ) : s.task c = .idle → s.lock = none →
      Step quota s ({ s with lock := some c }.goto c (.decreasing capacity))
  | ownsEvent : s.task c = .decreasing capacity →
      Step quota s (s.goto c (.owned capacity (s.ledger.status = .active)))
  | getsEvent : s.task c = .owned capacity true →
      Step quota s (s.goto c (.found capacity s.ledger))
  /-- `canDecreaseCapacity`. -/
  | checks : s.task c = .found capacity event → s.Counted quota classId counts →
      allocatedCount event counts ≤ capacity → Step quota s (s.goto c (.checked capacity))
  | checksNothing : s.task c = .owned capacity false → Step quota s (s.goto c (.checked capacity))
  | submits : s.task c = .checked capacity → Step quota s (s.goto c (.awaiting capacity))
  /-- The ledger accepts it while the call awaits the verdict. -/
  | accepts : s.task c = .awaiting capacity → s.ledger.status = .active →
      Step quota s (s.setLedger { s.ledger with maxCapacity := some capacity })
  /-- A transaction ends without recording anything more: it is refused, fails or is rolled back,
  commits what the ledger has decided, or its process stops. -/
  | ends : (s.task c).Locked → Step quota s (s.unlock c .ended)

inductive Steps (quota : ClassId → Option ℕ) (s : State) : State → Prop
  | refl : Steps quota s s
  | step : Steps quota s s' → Step quota s' s'' → Steps quota s s''

structure State.Initial (s : State) : Prop where
  lock : s.lock = none
  task : ∀ c, s.task c = .idle
  holds : ∀ i, s.holds.get i = none
  grants : ∀ g, s.grants.get g = none

end Kippu.Allocating
