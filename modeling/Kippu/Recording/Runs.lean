import Kippu.Store
import Mathlib.Logic.Function.Basic

/-!
# Recording a hosted checkout's status

The rows of hosted checkouts, beside what the provider has of them. `pay`, `cancel`
and `releaseAll` lock the hold's row, sweeps and `reconcile` lock nothing; each asks
the provider and records its answer some time after. A unique index admits one
checkout recorded open for a hold, and what would add another fails.
-/

namespace Kippu.Recording

/-- A call: each runs once. -/
abbrev Call := ℕ

structure Hosted where
  hold : HoldId
  status : HostedCheckoutStatus

/-- The status `pay` records of the checkout it found open, with the row of a new one. -/
abbrev Replaced := Option (HostedId × HostedCheckoutStatus)

inductive Task
  | idle
  /-- `pay` found an open checkout of its hold: before and after `retrieve`. -/
  | paying (i : HoldId) (j : HostedId)
  | payTold (i : HoldId) (j : HostedId) (remote : HostedCheckoutStatus)
  /-- `pay` goes on without one: before and after `createCheckout`. -/
  | creating (i : HoldId) (old : Replaced)
  | created (i : HoldId) (old : Replaced) (j : HostedId)
  /-- `cancelHosted`, before and after `cancel`. -/
  | cancelling (j : HostedId)
  | cancelTold (j : HostedId) (remote : HostedCheckoutStatus)
  /-- `reconcile`, before and after `retrieve`. -/
  | reconciling (j : HostedId)
  | told (j : HostedId) (remote : HostedCheckoutStatus)
  | ended

structure State where
  hosted : HostedId → Option Hosted
  /-- The provider's status of each checkout it created. -/
  provider : HostedId → Option HostedCheckoutStatus
  /-- Which transaction has a hold's row locked. -/
  lock : HoldId → Option Call
  task : Call → Task
  /-- Whether a recording failed on the index. -/
  refused : Bool

def State.goto (s : State) (c : Call) (t : Task) : State :=
  { s with task := Function.update s.task c t }

def State.lockHold (s : State) (c : Call) (i : HoldId) : State :=
  { s with lock := Function.update s.lock i (some c) }

def State.unlock (s : State) (c : Call) : State :=
  { s with lock := fun i => if s.lock i = some c then none else s.lock i }

def State.setProvider (s : State) (j : HostedId) (status : HostedCheckoutStatus) : State :=
  { s with provider := Function.update s.provider j (some status) }

/-- `recordStatus`. -/
def State.record (s : State) (j : HostedId) (status : HostedCheckoutStatus) : State :=
  { s with hosted := Function.update s.hosted j ((s.hosted j).map fun h => { h with status }) }

def State.recordOld (s : State) : Replaced → State
  | none => s
  | some (j, status) => s.record j status

def State.create (s : State) (j : HostedId) (i : HoldId) : State :=
  { s with hosted := Function.update s.hosted j (some ⟨i, .opened⟩) }

/-- `hosted_checkouts_open`: no other checkout of the hold is recorded open. -/
def State.Fits (s : State) (i : HoldId) (j : HostedId) : Prop :=
  ∀ k, s.hosted k = some ⟨i, .opened⟩ → k = j

/-- What the provider answers to `cancel`: an open checkout is cancelled. -/
def cancelled : HostedCheckoutStatus → HostedCheckoutStatus
  | .opened => .cancelled
  | status => status

/-- One step, where `reconcile` records the answer `open` of a checkout no longer recorded open
only if `stale` says so. -/
inductive Step (stale : Prop) (s : State) : State → Prop
  /-- The buyer pays, or the checkout is cancelled there or expires. -/
  | settles (j : HostedId) (status : HostedCheckoutStatus) : s.provider j = some .opened →
      Step stale s (s.setProvider j status)
  -- `pay`
  | payFinds (c : Call) (i : HoldId) (j : HostedId) : s.task c = .idle → s.lock i = none →
      s.hosted j = some ⟨i, .opened⟩ → Step stale s ((s.lockHold c i).goto c (.paying i j))
  | payFindsNone (c : Call) (i : HoldId) : s.task c = .idle → s.lock i = none →
      (∀ j, s.hosted j ≠ some ⟨i, .opened⟩) →
      Step stale s ((s.lockHold c i).goto c (.creating i none))
  | payRetrieves (c : Call) : s.task c = .paying i j → s.provider j = some remote →
      Step stale s (s.goto c (.payTold i j remote))
  | payReturns (c : Call) : s.task c = .payTold i j .opened →
      Step stale s ((s.unlock c).goto c .ended)
  | payFindsPaid (c : Call) : s.task c = .payTold i j .paid →
      Step stale s (((s.record j .paid).unlock c).goto c (.reconciling j))
  | payGoesOn (c : Call) : s.task c = .payTold i j remote → remote ≠ .opened → remote ≠ .paid →
      Step stale s (s.goto c (.creating i (some (j, remote))))
  | creates (c : Call) : s.task c = .creating i old → s.provider j = none →
      Step stale s ((s.setProvider j .opened).goto c (.created i old j))
  | commits (c : Call) : s.task c = .created i old j → s.hosted j = none →
      (s.recordOld old).Fits i j →
      Step stale s ((((s.recordOld old).create j i).unlock c).goto c .ended)
  | commitFails (c : Call) : s.task c = .created i old j → ¬ (s.recordOld old).Fits i j →
      Step stale s (({ s with refused := true }.unlock c).goto c .ended)
  -- `cancel`, `releaseAll` and sweeps
  | cancels (c : Call) (i : HoldId) (j : HostedId) : s.task c = .idle → s.lock i = none →
      s.hosted j = some ⟨i, .opened⟩ → Step stale s ((s.lockHold c i).goto c (.cancelling j))
  | sweeps (c : Call) (j : HostedId) : s.task c = .idle → s.hosted j = some h →
      Step stale s (s.goto c (.cancelling j))
  | cancelAnswers (c : Call) : s.task c = .cancelling j → s.provider j = some status →
      Step stale s ((s.setProvider j (cancelled status)).goto c (.cancelTold j (cancelled status)))
  | cancelRecords (c : Call) : s.task c = .cancelTold j remote → remote ≠ .paid →
      Step stale s (((s.record j remote).unlock c).goto c .ended)
  | cancelFindsPaid (c : Call) : s.task c = .cancelTold j .paid →
      Step stale s ((s.unlock c).goto c (.reconciling j))
  -- `reconcile`
  | prompted (c : Call) (j : HostedId) : s.task c = .idle → s.hosted j = some h →
      Step stale s (s.goto c (.reconciling j))
  | retrieves (c : Call) : s.task c = .reconciling j → s.provider j = some remote →
      Step stale s (s.goto c (.told j remote))
  | recordsOpen (c : Call) : s.task c = .told j .opened → s.hosted j = some h →
      stale ∨ h.status = .opened → s.Fits h.hold j →
      Step stale s ((s.record j .opened).goto c .ended)
  | recordFails (c : Call) : s.task c = .told j .opened → s.hosted j = some h →
      stale ∨ h.status = .opened → ¬ s.Fits h.hold j →
      Step stale s ({ s with refused := true }.goto c .ended)
  | records (c : Call) : s.task c = .told j remote → remote ≠ .opened →
      Step stale s ((s.record j remote).goto c .ended)
  /-- A call fails, or its process stops. -/
  | stops (c : Call) : Step stale s ((s.unlock c).goto c .ended)

inductive Steps (stale : Prop) (s : State) : State → Prop
  | refl : Steps stale s s
  | step : Steps stale s s' → Step stale s' s'' → Steps stale s s''

def Steps.last (_ : Steps stale s s') : State := s'

structure State.Initial (s : State) : Prop where
  hosted : ∀ j, s.hosted j = none
  lock : ∀ i, s.lock i = none
  task : ∀ c, s.task c = .idle
  refused : s.refused = false

/-- From one state to a later one, recorded statuses only moved forward: one that is not open stays
as it is, paid or not, no hold has two checkouts recorded open, and no recording failed because it
would have. -/
structure Forward (s s' : State) : Prop where
  settled : ∀ j h, s.hosted j = some h → h.status ≠ .opened → s'.hosted j = some h
  single : ∀ i j k, s'.hosted j = some ⟨i, .opened⟩ → s'.hosted k = some ⟨i, .opened⟩ → j = k
  refused : s'.refused = false

end Kippu.Recording
