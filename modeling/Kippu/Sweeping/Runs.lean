import Kippu.Store
import Mathlib.Data.Finset.Insert
import Mathlib.Logic.Function.Basic

/-!
# Sweeping

What Kippu records of hosted checkouts, beside what the provider has of them: `pay`,
`cancel`, `releaseAll`, webhooks and sweeps ask the provider and record its answer, at
different moments and in any order. A sweep selects the checkouts recorded open whose
hold has ended, cancels each at the provider, and reconciles those that turn out paid.
-/

namespace Kippu.Sweeping

/-- A call: each runs once. -/
abbrev Call := ℕ

structure Hosted where
  hold : HoldId
  status : HostedCheckoutStatus

/-- How a cancellation or a reconciliation goes on. -/
inductive After
  | ends
  /-- A sweep, with what it selected and has not looked at. -/
  | sweeps (todo : List HostedId)

inductive Task
  | idle
  /-- `pay` has found an open hosted checkout of its hold: before and after `retrieve`. -/
  | paying (j : HostedId)
  | payTold (j : HostedId) (remote : HostedCheckoutStatus)
  /-- `cancelHosted`, before and after `cancel`. -/
  | cancelling (j : HostedId) (after : After)
  | cancelTold (j : HostedId) (remote : HostedCheckoutStatus) (after : After)
  /-- `reconcile`, before and after `retrieve`. -/
  | reconciling (j : HostedId) (after : After)
  | told (j : HostedId) (remote : HostedCheckoutStatus) (after : After)
  | sweeping (todo : List HostedId)
  /-- A sweep that hit no error has returned. -/
  | swept
  | ended

def After.task : After → Task
  | .ends => .ended
  | .sweeps todo => .sweeping todo

structure State where
  holds : HoldId → Option HoldStatus
  hosted : HostedId → Option Hosted
  /-- The provider's status of each checkout. -/
  provider : HostedId → HostedCheckoutStatus
  /-- The checkouts with a row of `primary_sales`, and of `refund_entitlements`. -/
  sales : Finset HostedId
  refunds : Finset HostedId
  task : Call → Task

def State.goto (s : State) (c : Call) (t : Task) : State :=
  { s with task := Function.update s.task c t }

def State.setHold (s : State) (i : HoldId) (status : HoldStatus) : State :=
  { s with holds := Function.update s.holds i (some status) }

def State.setProvider (s : State) (j : HostedId) (status : HostedCheckoutStatus) : State :=
  { s with provider := Function.update s.provider j status }

def State.create (s : State) (j : HostedId) (i : HoldId) : State :=
  { s with hosted := Function.update s.hosted j (some ⟨i, .opened⟩) }

/-- `recordStatus`. -/
def State.record (s : State) (j : HostedId) (status : HostedCheckoutStatus) : State :=
  { s with hosted := Function.update s.hosted j ((s.hosted j).map fun h => { h with status }) }

def State.entitle (s : State) (j : HostedId) : State :=
  { s with refunds := Insert.insert j s.refunds }

def State.addSale (s : State) (j : HostedId) : State :=
  { s with sales := Insert.insert j s.sales }

def State.releaseHold (s : State) (i : HoldId) (status : HoldStatus) : State :=
  if s.holds i = some .outstanding then s.setHold i status else s

def State.handled (s : State) (j : HostedId) : Prop := j ∈ s.sales ∨ j ∈ s.refunds

instance (s : State) (j : HostedId) : Decidable (s.handled j) := inferInstanceAs (Decidable (_ ∨ _))

def State.Over (s : State) (j : HostedId) : Prop :=
  ∃ h, s.hosted j = some h ∧ (s.holds h.hold = some .lapsed ∨ s.holds h.hold = some .released)

def State.Selects (s : State) (todo : List HostedId) : Prop :=
  ∀ j, j ∈ todo ↔ s.Over j ∧ ∃ i, s.hosted j = some ⟨i, .opened⟩

/-- What `takePlace` commits of a checkout the provider reports as paid. -/
inductive Takes (s : State) (j : HostedId) : State → Prop
  | handled : s.handled j → Takes s j (s.record j .paid)
  /-- The amount is another one, or the event's sales are closed. -/
  | refused (status : HoldStatus) : s.hosted j = some h → ¬ s.handled j →
      status = .lapsed ∨ status = .released →
      Takes s j (((s.record j .paid).entitle j).releaseHold h.hold status)
  | placeGone : s.hosted j = some h → ¬ s.handled j → s.holds h.hold ≠ some .outstanding →
      Takes s j ((s.record j .paid).entitle j)
  | taken : s.hosted j = some h → ¬ s.handled j → s.holds h.hold = some status →
      status ≠ .issuing → status ≠ .confirmed →
      Takes s j (((s.record j .paid).addSale j).setHold h.hold .issuing)

/-- One step, where `pay` finds open checkouts already paid only if `finds` says so, and `names`
is the hold in each checkout's metadata, as the provider reports it. -/
inductive Step (finds : HostedId → Prop) (names : HostedId → Option HoldId) (s : State) :
    State → Prop
  -- holds and the provider
  | held : s.holds i = none → Step finds names s (s.setHold i .outstanding)
  | holdEnds (status : HoldStatus) : s.holds i = some .outstanding →
      status = .lapsed ∨ status = .released → Step finds names s (s.setHold i status)
  /-- `complete`: a refused issuance gives the place back, and is refunded. -/
  | issued : s.holds i = some .issuing → Step finds names s (s.setHold i .confirmed)
  | rejected : s.hosted j = some h → j ∈ s.sales → s.holds h.hold = some .issuing →
      Step finds names s ((s.entitle j).setHold h.hold .released)
  | cancellationRefund : j ∈ s.sales → Step finds names s (s.entitle j)
  /-- The buyer pays, or the checkout expires. -/
  | settles (status : HostedCheckoutStatus) : s.provider j = .opened →
      Step finds names s (s.setProvider j status)
  -- `pay`
  | pays : s.task c = .idle → s.hosted j = some ⟨i, .opened⟩ → s.holds i = some .outstanding →
      Step finds names s (s.goto c (.paying j))
  | payCreates : s.task c = .idle → s.holds i = some .outstanding →
      (∀ j, s.hosted j ≠ some ⟨i, .opened⟩) → s.hosted j = none →
      Step finds names s ((s.create j i).goto c .ended)
  | payRetrieves : s.task c = .paying j →
      Step finds names s (s.goto c (.payTold j (s.provider j)))
  | payReturns : s.task c = .payTold j .opened → Step finds names s (s.goto c .ended)
  /-- Its status is recorded first, and then the checkout is reconciled. -/
  | payFindsPaid : s.task c = .payTold j .paid → finds j →
      Step finds names s ((s.record j .paid).goto c (.reconciling j .ends))
  | payReplaces : s.task c = .payTold j remote → remote ≠ .opened → remote ≠ .paid →
      s.hosted j = some h → s.hosted j' = none →
      Step finds names s (((s.record j remote).create j' h.hold).goto c .ended)
  -- `cancel`, `releaseAll` and sweeps
  | cancels : s.task c = .idle → s.hosted j = some ⟨i, .opened⟩ →
      Step finds names s (s.goto c (.cancelling j .ends))
  | selects (todo : List HostedId) : s.task c = .idle → s.Selects todo →
      Step finds names s (s.goto c (.sweeping todo))
  | next : s.task c = .sweeping (j :: todo) →
      Step finds names s (s.goto c (.cancelling j (.sweeps todo)))
  | returns : s.task c = .sweeping [] → Step finds names s (s.goto c .swept)
  | cancelOpen : s.task c = .cancelling j after → s.provider j = .opened →
      Step finds names s ((s.setProvider j .cancelled).goto c (.cancelTold j .cancelled after))
  | cancelSettled : s.task c = .cancelling j after → s.provider j ≠ .opened →
      Step finds names s (s.goto c (.cancelTold j (s.provider j) after))
  | cancelReleases (status : HoldStatus) : s.task c = .cancelTold j remote .ends →
      remote ≠ .paid → s.hosted j = some h → status = .lapsed ∨ status = .released →
      Step finds names s (((s.record j remote).releaseHold h.hold status).goto c .ended)
  | sweepRecords : s.task c = .cancelTold j remote (.sweeps todo) → remote ≠ .paid →
      Step finds names s ((s.record j remote).goto c (.sweeping todo))
  | cancelFindsPaid : s.task c = .cancelTold j .paid after →
      Step finds names s (s.goto c (.reconciling j after))
  -- `reconcile`
  | prompted : s.task c = .idle → s.hosted j = some h →
      Step finds names s (s.goto c (.reconciling j .ends))
  | retrieves : s.task c = .reconciling j after → s.hosted j = some h →
      names j = some h.hold → Step finds names s (s.goto c (.told j (s.provider j) after))
  /-- It returns with no error. -/
  | otherHold : s.task c = .reconciling j after → s.hosted j = some h →
      names j ≠ some h.hold → Step finds names s (s.goto c after.task)
  | records : s.task c = .told j remote after → remote ≠ .paid →
      Step finds names s ((s.record j remote).goto c after.task)
  | takes : s.task c = .told j .paid after → Takes s j s' →
      Step finds names s (s'.goto c after.task)
  /-- A call fails, or its process stops. -/
  | stops : Step finds names s (s.goto c .ended)

inductive Steps (finds : HostedId → Prop) (names : HostedId → Option HoldId) (s : State) :
    State → Prop
  | refl : Steps finds names s s
  | step : Steps finds names s s' → Step finds names s' s'' → Steps finds names s s''

/-- A sweep selects in `s`, and has returned with no error in `s'`. -/
def Swept (finds : HostedId → Prop) (names : HostedId → Option HoldId) (s s' : State) : Prop :=
  ∃ c todo, s.task c = .idle ∧ s.Selects todo ∧
    Steps finds names (s.goto c (.sweeping todo)) s' ∧ s'.task c = .swept

structure State.Initial (s : State) : Prop where
  hosted : ∀ j, s.hosted j = none
  task : ∀ c, s.task c = .idle

end Kippu.Sweeping
