import Kippu.Sales.Allocation

/-!
# Places in use

One event's holds and granted issuances, each with how far its issuance got: a paid
hold is issued, and a granted issuance too, by a write that is signed, that the
ledger decides at some time, and whose verdict may not be heard. What stands against
the event's capacity is counted by their recorded statuses and by the ledger's
tickets. Which allocations are admitted matters to no count: any may be.
-/

namespace Kippu.Counting

inductive Issue
  | unsigned
  | signed
  deriving DecidableEq

/-- A row of `holds`, with its sale's issuance while it runs. -/
structure Hold where
  classId : ClassId
  status : HoldStatus
  issue : Option Issue
  /-- Its write is signed, and the ledger has not decided. -/
  write : Bool
  /-- Its ticket is on the ledger. -/
  landed : Bool

structure Granted where
  classId : ClassId
  status : GrantedStatus
  issue : Option Issue
  write : Bool
  landed : Bool

def Hold.pending (h : Hold) : Bool := h.status = .outstanding ∨ h.status = .issuing

def Granted.undertaken (g : Granted) : Bool := g.status ≠ .rejected

-- ---------------------------------------------------------------------------
-- Steps
-- ---------------------------------------------------------------------------

inductive Hold.Step (h : Hold) : Hold → Prop
  /-- It lapses, or is released. -/
  | ends (status : HoldStatus) : status = .lapsed ∨ status = .released → h.status = .outstanding →
      Step h { h with status }
  /-- A payment takes its place, and its ticket's issuance begins. -/
  | paid : h.status = .outstanding ∨ h.status = .lapsed ∨ h.status = .released →
      Step h { h with status := .issuing, issue := some .unsigned }
  | signs : h.issue = some .unsigned → Step h { h with issue := some .signed, write := true }
  /-- Nothing was signed: the place is given back. -/
  | unsigned : h.issue = some .unsigned → Step h { h with status := .released, issue := none }
  | lands : h.write = true → Step h { h with write := false, landed := true }
  | refused : h.write = true → Step h { h with write := false }
  /-- `complete("issued")`. -/
  | issued : h.issue = some .signed → h.landed = true →
      Step h { h with status := .confirmed, issue := none }
  /-- `complete("rejected")`: the ledger refused. -/
  | rejected : h.issue = some .signed → h.write = false → h.landed = false →
      Step h { h with status := .released, issue := none }
  /-- `complete("failed")`, with no verdict: the hold is left as it is. -/
  | failed : h.issue = some .signed → Step h { h with issue := none }
  /-- The process stops, or the outcome cannot be recorded. -/
  | stops : Step h { h with issue := none }

inductive Granted.Step (g : Granted) : Granted → Prop
  | signs : g.issue = some .unsigned → Step g { g with issue := some .signed, write := true }
  | lands : g.write = true → Step g { g with write := false, landed := true }
  | refused : g.write = true → Step g { g with write := false }
  | settled : g.issue = some .signed → g.landed = true →
      Step g { g with status := .settled, issue := none }
  | rejected : g.issue = some .signed → g.write = false → g.landed = false →
      Step g { g with status := .rejected, issue := none }
  | failed : g.issue = some .signed → Step g { g with status := .failed, issue := none }
  | stops : Step g { g with issue := none }

/-- One event: its rows, what the ledger holds of it but for its tickets, and its classes'
quotas. -/
structure State where
  holds : Conc.Table Hold
  grants : Conc.Table Granted
  ledger : Event
  quota : ClassId → Option ℕ

inductive Step (s : State) : State → Prop
  | placed (i : ℕ) (classId : ClassId) : s.holds.get i = none →
      Step s { s with holds := s.holds.set i ⟨classId, .outstanding, none, false, false⟩ }
  | hold (i : ℕ) (h h' : Hold) : s.holds.get i = some h → h.Step h' →
      Step s { s with holds := s.holds.set i h' }
  | reserved (i : ℕ) (classId : ClassId) : s.grants.get i = none →
      Step s { s with grants := s.grants.set i ⟨classId, .pending, some .unsigned, false, false⟩ }
  | granted (i : ℕ) (g g' : Granted) : s.grants.get i = some g → g.Step g' →
      Step s { s with grants := s.grants.set i g' }
  /-- Nothing was signed: the row is deleted. -/
  | deleted (i : ℕ) (g : Granted) : s.grants.get i = some g → g.issue = some .unsigned →
      Step s { s with grants := s.grants.erase i }
  /-- The event's capacity, zones or status change on the ledger, or a class's quota. -/
  | changed (ledger : Event) (quota : ClassId → Option ℕ) : Step s { s with ledger, quota }

inductive Steps (s : State) : State → Prop
  | refl : Steps s s
  | step : Steps s s' → Step s' s'' → Steps s s''

structure State.Initial (s : State) : Prop where
  holds : s.holds = .empty
  grants : s.grants = .empty

/-- No issuance is between its own steps. -/
structure State.AtRest (s : State) : Prop where
  holds : ∀ i h, s.holds.get i = some h → h.issue = none
  grants : ∀ i g, s.grants.get i = some g → g.issue = none

-- ---------------------------------------------------------------------------
-- Counts
-- ---------------------------------------------------------------------------

def State.issued (s : State) : ℕ := s.holds.count Hold.landed + s.grants.count Granted.landed

def State.event (s : State) : Event := { s.ledger with issued := s.issued }

/-- What `allocationCounts` reads for a class of the event. -/
structure State.Counted (s : State) (classId : ClassId) (counts : AllocationCounts) : Prop where
  eventHolds : counts.eventHolds = s.holds.count Hold.pending
  classHolds : counts.classHolds = s.holds.count fun h => h.classId = classId && h.pending
  purchased : counts.purchased = s.holds.count fun h => h.status = .confirmed
  classPurchased : counts.classPurchased =
    s.holds.count fun h => h.classId = classId && h.status = .confirmed
  granted : counts.granted = s.grants.count Granted.undertaken
  classGranted : counts.classGranted =
    s.grants.count fun g => g.classId = classId && g.undertaken
  quota : counts.quota = s.quota classId

/-- The distinct places in use: tickets on the ledger, pending holds whose ticket is not, and
granted issuances not rejected whose ticket is not. -/
def State.inUse (s : State) : ℕ :=
  s.issued + s.holds.count (fun h => h.pending && !h.landed) +
    s.grants.count (fun g => g.undertaken && !g.landed)

end Kippu.Counting
