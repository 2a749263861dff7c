import Kippu.Store
import Mathlib.Logic.Function.Basic

/-!
# The life of a hold

Holds, the sales that paid for them and the face values of their tickets, with every
statement that writes them: placed and taken under their event's allocation lock,
extended by a payment that has the row locked, and otherwise changed by single
statements. A transaction's statements take effect as it commits. Every step is made by
a process that goes by some reading of its clock.
-/

namespace Kippu.Holding

def HOLD_LIFETIME_MS : Time := 10 * 60 * 1000

def HOLD_EXTENSION_MS : Time := 5 * 60 * 1000

abbrev Call := ℕ

structure Hold where
  checkout : ℕ
  event : EventId
  classId : ClassId
  status : HoldStatus
  createdAt : Time
  expiresAt : Time
  extendedAt : Option Time
  price : ℕ
  asset : Asset

structure Sale where
  hosted : HostedId
  hold : HoldId
  status : SaleStatus
  ticket : Option TicketId
  cursor : Option Cursor

structure FaceValue where
  sale : SaleId
  amount : ℕ
  asset : Asset

inductive Stage
  | idle
  | issuing
  /-- The ticket's id is recorded, and its submission made. -/
  | submitted (ticket : TicketId)
  | done

inductive Task
  | idle
  /-- Under the event's allocation lock. -/
  | locked (event : EventId)
  /-- `takePlace` found the hold outstanding, or ended and its place free. -/
  | taking (i : HoldId) (hosted : HostedId)
  /-- `pay` has the hold's row locked, and read its clock. -/
  | paying (i : HoldId) (at_ : Time)
  | ended

structure State where
  holds : Conc.Table Hold
  sales : Conc.Table Sale
  faces : TicketId → Option FaceValue
  /-- The price of each class, and the asset of its event, now. -/
  terms : ClassId → Option (ℕ × Asset)
  lock : EventId → Option Call
  rowLock : HoldId → Option Call
  task : Call → Task
  stage : SaleId → Stage

def State.goto (s : State) (c : Call) (t : Task) : State :=
  { s with task := Function.update s.task c t }

def State.setHold (s : State) (i : HoldId) (f : Hold → Hold) : State :=
  { s with holds := s.holds.update i f }

def State.setStatus (s : State) (i : HoldId) (status : HoldStatus) : State :=
  s.setHold i fun h => { h with status }

def State.setSale (s : State) (i : SaleId) (f : Sale → Sale) : State :=
  { s with sales := s.sales.update i f }

def State.setStage (s : State) (i : SaleId) (stage : Stage) : State :=
  { s with stage := Function.update s.stage i stage }

/-- `INSERT INTO holds`. -/
def State.place (s : State) (i : HoldId) (h : Hold) : State := { s with holds := s.holds.set i h }

def State.take (s : State) (j : SaleId) (x : Sale) : State :=
  { s with sales := s.sales.set j x }.setStatus x.hold .issuing

/-- `INSERT INTO face_values`. -/
def State.face (s : State) (ticket : TicketId) (f : FaceValue) : State :=
  { s with faces := Function.update s.faces ticket (some f) }

/-- `complete` writes a sale, and the status of its hold. -/
def State.complete (s : State) (j : SaleId) (i : HoldId) (f : Sale → Sale) (status : HoldStatus) :
    State := (s.setSale j f).setStatus i status

def State.unlock (s : State) (c : Call) : State :=
  { s with
    lock := fun e => if s.lock e = some c then none else s.lock e
    rowLock := fun i => if s.rowLock i = some c then none else s.rowLock i }.goto c .ended

def Hold.placed (checkout : ℕ) (event : EventId) (classId : ClassId) (at_ : Time) (price : ℕ)
    (asset : Asset) : Hold where
  checkout
  event
  classId
  status := .outstanding
  createdAt := at_
  expiresAt := at_ + HOLD_LIFETIME_MS
  extendedAt := none
  price
  asset

def Hold.extend (at_ : Time) (h : Hold) : Hold :=
  { h with expiresAt := h.expiresAt + HOLD_EXTENSION_MS, extendedAt := some at_ }

/-- What `complete` writes of a sale that was issued. -/
def Sale.issue (ticket : TicketId) (cursor : Cursor) (x : Sale) : Sale :=
  { x with status := .issued, ticket := some ticket, cursor := some cursor }

def Sale.fail (status : SaleStatus) (x : Sale) : Sale := { x with status, cursor := none }

def State.Writes (s : State) (i : HoldId) (h : Hold) : Prop :=
  s.holds.get i = some h ∧ s.rowLock i = none

/-- One step, by a process that goes by the clock reading. -/
inductive Step (at_ : Time) (s : State) : State → Prop
  /-- A price or a sale asset is set. -/
  | repriced : Step at_ s { s with terms }
  -- single statements
  | extended : s.Writes i h → h.status = .outstanding → h.extendedAt = none → at_ < h.expiresAt →
      Step at_ s (s.setHold i (Hold.extend at_))
  /-- `release`, and `releaseHold` in `cancel` and `takePlace`. -/
  | givesUp : s.Writes i h → h.status = .outstanding →
      Step at_ s (s.setStatus i (if h.expiresAt ≤ at_ then .lapsed else .released))
  /-- `releaseAll`. -/
  | releases : s.Writes i h → h.status = .outstanding → Step at_ s (s.setStatus i .released)
  /-- `lapseExpired`, `sweep` and `allocationCounts`. -/
  | lapses : s.Writes i h → h.status = .outstanding → h.expiresAt ≤ at_ →
      Step at_ s (s.setStatus i .lapsed)
  -- under an event's lock
  | locks (event : EventId) : s.task c = .idle → s.lock event = none →
      Step at_ s ({ s with lock := Function.update s.lock event (some c) }.goto c (.locked event))
  | places : s.task c = .locked event → s.holds.get i = none → s.terms classId = some (price, asset) →
      (∀ j h, s.holds.get j = some h → h.checkout ≠ checkout) →
      Step at_ s ((s.place i (.placed checkout event classId at_ price asset)).unlock c)
  | finds (hosted : HostedId) : s.task c = .locked event → s.holds.get i = some h →
      h.event = event → (h.status = .outstanding ∨ h.status = .lapsed ∨ h.status = .released) →
      Step at_ s (s.goto c (.taking i hosted))
  | takes : s.task c = .taking i hosted → s.rowLock i = none → s.sales.get j = none →
      (∀ k x, s.sales.get k = some x → x.hosted ≠ hosted) → s.stage j = .idle →
      Step at_ s (((s.take j ⟨hosted, i, .issuing, none, none⟩).setStage j .issuing).unlock c)
  -- `pay`
  | paysFor : s.task c = .idle → s.Writes i h → h.status = .outstanding → at_ < h.expiresAt →
      Step at_ s ({ s with rowLock := Function.update s.rowLock i (some c) }.goto c (.paying i at_))
  | pays : s.task c = .paying i at_ → s.holds.get i = some h →
      Step at_ s ((if h.extendedAt = none then s.setHold i (Hold.extend at_) else s).unlock c)
  /-- A transaction ends with nothing written, or its process stops. -/
  | ends : s.task c ≠ .idle → Step at_ s (s.unlock c)
  -- `issue`
  | names (ticket : TicketId) : s.stage j = .issuing →
      Step at_ s ((s.setSale j fun x => { x with ticket := some ticket }).setStage j
        (.submitted ticket))
  /-- `complete` of an issued ticket. -/
  | issues : s.stage j = .submitted ticket → s.sales.get j = some x → s.Writes x.hold h →
      s.faces ticket = none →
      Step at_ s (((s.face ticket ⟨j, h.price, h.asset⟩).complete j x.hold (Sale.issue ticket cursor)
        .confirmed).setStage j .done)
  /-- `complete` of a refused one, or of one of which nothing was signed. -/
  | rejects : s.stage j = .issuing ∨ s.stage j = .submitted ticket → s.sales.get j = some x →
      s.Writes x.hold h →
      Step at_ s ((s.complete j x.hold (Sale.fail .rejected)
        (if h.status = .issuing then .released else h.status)).setStage j .done)
  /-- `complete` of one with no verdict. -/
  | fails : s.stage j = .submitted ticket →
      Step at_ s ((s.setSale j (Sale.fail .failed)).setStage j .done)
  /-- Its process stops, or `complete` fails. -/
  | stops : s.stage j ≠ .idle → Step at_ s (s.setStage j .done)

inductive Steps (s : State) : State → Prop
  | refl : Steps s s
  | step : Steps s s' → Step at_ s' s'' → Steps s s''

structure State.Initial (s : State) : Prop where
  holds : ∀ i, s.holds.get i = none
  sales : ∀ i, s.sales.get i = none
  faces : ∀ i, s.faces i = none
  lock : ∀ e, s.lock e = none
  rowLock : ∀ i, s.rowLock i = none
  task : ∀ c, s.task c = .idle
  stage : ∀ i, s.stage i = .idle

end Kippu.Holding
