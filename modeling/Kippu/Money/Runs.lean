import Kippu.Store
import Mathlib.Logic.Function.Basic

/-!
# Sales and refunds of paid checkouts

What becomes of the payment of a hosted checkout: every prompt (a webhook, `pay`,
`cancel`, a sweep, `releaseAll`) may have it reconciled, any number of times and at
once. `takePlace` reads and writes under the event's allocation lock, while holds end
and sales complete without it; a cancellation records refunds beside.
-/

namespace Kippu.Money

structure Sale where
  hosted : HostedId
  hold : HoldId
  status : SaleStatus

structure Refund where
  hosted : HostedId
  reason : RefundReason

inductive Outcome
  | issued
  | rejected
  | failed
  deriving DecidableEq

inductive Task
  /-- `takePlace`, before its locks. -/
  | place (j : HostedId) (i : HoldId)
  /-- Under the locks: before it looks for a sale or a refund of the checkout, having found none,
  and having read the hold's status. -/
  | locked (j : HostedId) (i : HoldId)
  | unhandled (j : HostedId) (i : HoldId)
  | found (j : HostedId) (i : HoldId) (status : HoldStatus)
  /-- `issue`, until `complete` commits. -/
  | issue (id : SaleId) (j : HostedId) (i : HoldId)
  /-- `recordCancellationRefunds`, before a sale's refund. -/
  | refund (j : HostedId)

structure State where
  /-- The hold of each hosted checkout. -/
  hosted : HostedId → Option HoldId
  holds : HoldId → Option HoldStatus
  sales : Conc.Table Sale
  refunds : Conc.Table Refund
  /-- Who has an event's allocation lock. -/
  lock : EventId → Option ℕ
  tasks : ℕ → Option Task
  nextTask : ℕ

def State.put (s : State) (t : ℕ) (task : Option Task) : State :=
  { s with tasks := Function.update s.tasks t task }

def State.finish (s : State) (t : ℕ) (task : Option Task) : State :=
  { s with
    lock := fun e => if s.lock e = some t then none else s.lock e
    tasks := Function.update s.tasks t task }

def State.spawn (s : State) (task : Task) : State :=
  { s with tasks := Function.update s.tasks s.nextTask (some task), nextTask := s.nextTask + 1 }

def State.setHold (s : State) (i : HoldId) (status : HoldStatus) : State :=
  { s with holds := Function.update s.holds i (some status) }

/-- `UPDATE holds` of a hold given up, if it is outstanding. -/
def State.releaseHold (s : State) (i : HoldId) (status : HoldStatus) : State :=
  if s.holds i = some .outstanding then s.setHold i status else s

def State.handled (s : State) (j : HostedId) : Bool :=
  s.sales.any (·.hosted = j) || s.refunds.any (·.hosted = j)

/-- `ON CONFLICT DO NOTHING`. -/
def State.entitle (s : State) (r : ℕ) (j : HostedId) (reason : RefundReason) : State :=
  if s.refunds.any (·.hosted = j) then s else { s with refunds := s.refunds.set r ⟨j, reason⟩ }

def State.addSale (s : State) (id : SaleId) (j : HostedId) (i : HoldId) : State :=
  { s with sales := s.sales.set id ⟨j, i, .issuing⟩ }

def State.setSale (s : State) (id : SaleId) (status : SaleStatus) : State :=
  { s with sales := s.sales.update id fun sale => { sale with status } }

def State.complete (s : State) (id : SaleId) (j : HostedId) (i : HoldId) (r : ℕ) :
    Outcome → State
  | .issued => (s.setSale id .issued).setHold i .confirmed
  | .rejected =>
    let s := (s.setSale id .rejected).entitle r j .issuanceRejected
    if s.holds i = some .issuing then s.setHold i .released else s
  | .failed => s.setSale id .failed

/-- One step, of the holds of the events `event` says. -/
inductive Step (event : HoldId → EventId) (s : State) : State → Prop
  | held : s.holds i = none → Step event s (s.setHold i .outstanding)
  /-- An outstanding hold lapses or is released, under no lock. -/
  | holdEnded (status : HoldStatus) : s.holds i = some .outstanding →
      status = .lapsed ∨ status = .released → Step event s (s.setHold i status)
  | checkoutCreated : s.hosted j = none →
      Step event s { s with hosted := Function.update s.hosted j (some i) }
  /-- Anything has a checkout reconciled. -/
  | prompted : s.hosted j = some i → Step event s (s.spawn (.place j i))
  | locked : s.tasks t = some (.place j i) → s.lock (event i) = none →
      Step event s ({ s with lock := Function.update s.lock (event i) (some t) }.put t
        (some (.locked j i)))
  | handled : s.tasks t = some (.locked j i) → s.handled j = true → Step event s (s.finish t none)
  | unhandled : s.tasks t = some (.locked j i) → s.handled j = false →
      Step event s (s.put t (some (.unhandled j i)))
  /-- The amount is another one, or the event's sales are closed. -/
  | refused (reason : RefundReason) (status : HoldStatus) : s.tasks t = some (.unhandled j i) →
      reason = .amountMismatch ∨ reason = .eventClosed → status = .lapsed ∨ status = .released →
      s.refunds.get r = none →
      Step event s (((s.entitle r j reason).releaseHold i status).finish t none)
  | found : s.tasks t = some (.unhandled j i) → s.holds i = some status →
      Step event s (s.put t (some (.found j i status)))
  /-- The place is gone, or it is another payment's. -/
  | placeGone : s.tasks t = some (.found j i status) → status ≠ .outstanding →
      s.refunds.get r = none → Step event s ((s.entitle r j .placeGone).finish t none)
  | taken {id : SaleId} : s.tasks t = some (.found j i status) → status ≠ .issuing →
      status ≠ .confirmed → s.sales.get id = none →
      Step event s (((s.setHold i .issuing).addSale id j i).finish t (some (.issue id j i)))
  | completed {id : SaleId} (outcome : Outcome) : s.tasks t = some (.issue id j i) →
      s.refunds.get r = none →
      Step event s ((s.complete id j i r outcome).put t none)
  /-- A cancellation selects the sales issued, or left without a verdict. -/
  | selected {id : SaleId} {sale : Sale} : s.sales.get id = some sale →
      sale.status = .issued ∨ sale.status = .failed →
      Step event s (s.spawn (.refund sale.hosted))
  | cancelled : s.tasks t = some (.refund j) → s.refunds.get r = none →
      Step event s ((s.entitle r j .eventCancelled).put t none)
  /-- A statement fails, or the process stops. -/
  | stops : s.tasks t = some task → Step event s (s.finish t none)

inductive Steps (event : HoldId → EventId) (s : State) : State → Prop
  | refl : Steps event s s
  | step : Steps event s s' → Step event s' s'' → Steps event s s''

structure State.Initial (s : State) : Prop where
  sales : ∀ id, s.sales.get id = none
  refunds : ∀ r, s.refunds.get r = none
  tasks : ∀ t, s.tasks t = none

end Kippu.Money
