import Kippu.Sales.Holds
import Mathlib.Logic.Function.Basic

/-!
# Releasing an event

`releaseAll` closes an event's sales under its allocation lock, and then takes its
holds one by one, each under its row's lock: the open hosted checkout of a hold is
cancelled at the provider, and a checkout that turns out paid is reconciled at the end.
Holds are placed, paid for, cancelled, swept and reconciled meanwhile, of this event and
of others. A transaction's statements take effect as it commits; what it reads it reads
as it goes.
-/

namespace Kippu.Releasing

/-- A request, or a sweep's or webhook's work on one checkout: each runs once. -/
abbrev Call := ℕ

abbrev Charge := ℕ × Asset

structure Hold where
  event : EventId
  status : HoldStatus
  expiresAt : Time
  extended : Bool
  price : Charge

structure Hosted where
  hold : HoldId
  status : HostedCheckoutStatus
  charge : Charge

structure Sale where
  hosted : HostedId
  hold : HoldId
  status : SaleStatus

/-- What the provider has of a checkout, and answers to `retrieve` and `cancel`. -/
structure Remote where
  hold : HoldId
  status : HostedCheckoutStatus
  charge : Charge

/-- A run of `releaseAll` that has closed its event's sales. -/
structure Release where
  event : EventId
  /-- How often the event's sales had been reopened as it closed them. -/
  reopened : ℕ
  /-- The checkouts it found paid. -/
  paid : List HostedId
  /-- The checkouts it found recorded open; nothing of the source keeps them. -/
  seen : List HostedId

/-- What `takePlace` is about to commit. -/
inductive Verdict
  | handled
  | refuses (reason : RefundReason)
  | gone
  | takes

/-- Where `reconcile` goes on: it ends, or `releaseAll` has more to reconcile. -/
abbrev After := Option (Release × List HostedId)

inductive Task
  | idle
  -- `place`, under its event's allocation lock
  | placing (e : EventId)
  | onSale (e : EventId)
  -- `pay`, with its hold's row locked
  | paying (i : HoldId)
  | selling (i : HoldId)
  /-- The provider has answered for the hold's open checkout. -/
  | told (i : HoldId) (k : HostedId) (status : HostedCheckoutStatus)
  /-- The provider has a new checkout; the one it replaces has this status. -/
  | created (i : HoldId) (k : HostedId) (replaces : Option (HostedId × HostedCheckoutStatus))
  -- `cancel`, with its hold's row locked
  | giving (i : HoldId)
  | gave (i : HoldId) (k : HostedId) (status : HostedCheckoutStatus)
  /-- `sweep` has selected a checkout, and cancelled it. -/
  | sweeping (k : HostedId)
  | swept (k : HostedId) (status : HostedCheckoutStatus)
  -- `reconcile`
  | reconciling (k : HostedId) (after : After)
  | answered (k : HostedId) (remote : Remote) (after : After)
  /-- `takePlace`, under the allocation lock of the hold's event. -/
  | taking (k : HostedId) (remote : Remote) (after : After)
  | decided (k : HostedId) (verdict : Verdict) (after : After)
  -- `releaseAll`
  | closing (e : EventId)
  | closed (e : EventId) (reopened : ℕ)
  | clearing (r : Release) (todo : List HoldId)
  /-- A hold's row is locked. -/
  | clears (r : Release) (i : HoldId) (todo : List HoldId)
  | looked (r : Release) (i : HoldId) (todo : List HoldId) (found : Option HostedId)
  | cancelled (r : Release) (i : HoldId) (todo : List HoldId) (k : HostedId)
      (status : HostedCheckoutStatus)
  | settling (r : Release) (todo : List HostedId)
  | released (r : Release)
  | ended

def After.task : After → Task
  | none => .ended
  | some (r, todo) => .settling r todo

structure Store where
  holds : HoldId → Option Hold
  hosted : HostedId → Option Hosted
  sales : SaleId → Option Sale
  refunds : HostedId → Option RefundReason
  remote : HostedId → Option Remote
  /-- Whether a closure of the event's sales is in force. -/
  closed : EventId → Bool
  /-- How often the event's sales were reopened. -/
  reopened : EventId → ℕ

structure State extends Store where
  alloc : EventId → Option Call
  rowLock : HoldId → Option Call
  task : Call → Task

-- ---------------------------------------------------------------------------
-- Statements
-- ---------------------------------------------------------------------------

def Store.place (s : Store) (i : HoldId) (h : Hold) : Store :=
  { s with holds := Function.update s.holds i (some h) }

def Store.setHold (s : Store) (i : HoldId) (f : Hold → Hold) : Store :=
  { s with holds := Function.update s.holds i ((s.holds i).map f) }

def Store.setStatus (s : Store) (i : HoldId) (status : HoldStatus) : Store :=
  s.setHold i fun h => { h with status }

def Store.setStatusOf (s : Store) (i : HoldId) (old status : HoldStatus) : Store :=
  s.setHold i fun h => if h.status = old then { h with status } else h

def Store.giveUp (s : Store) (i : HoldId) (status : HoldStatus) : Store :=
  s.setStatusOf i .outstanding status

def Store.extend (s : Store) (i : HoldId) : Store :=
  s.setHold i fun h =>
    if h.extended then h
    else { h with expiresAt := h.expiresAt + HOLD_EXTENSION_MS, extended := true }

def Store.create (s : Store) (k : HostedId) (h : Hosted) : Store :=
  { s with hosted := Function.update s.hosted k (some h) }

/-- `recordStatus`. -/
def Store.record (s : Store) (k : HostedId) (status : HostedCheckoutStatus) : Store :=
  { s with hosted := Function.update s.hosted k ((s.hosted k).map fun h => { h with status }) }

/-- A checkout has one refund at most. -/
def Store.entitle (s : Store) (k : HostedId) (reason : RefundReason) : Store :=
  { s with refunds := Function.update s.refunds k (some ((s.refunds k).getD reason)) }

def Store.sell (s : Store) (j : SaleId) (x : Sale) : Store :=
  { s with sales := Function.update s.sales j (some x) }

def Store.setRemote (s : Store) (k : HostedId) (x : Remote) : Store :=
  { s with remote := Function.update s.remote k (some x) }

def Store.close (s : Store) (e : EventId) : Store :=
  { s with closed := Function.update s.closed e true }

def Store.reopen (s : Store) (e : EventId) : Store :=
  { s with
    closed := Function.update s.closed e false
    reopened := Function.update s.reopened e (s.reopened e + 1) }

def Remote.cancel (x : Remote) : Remote :=
  if x.status = .opened then { x with status := .cancelled } else x

def Hold.over (h : Hold) (at_ : Time) : HoldStatus :=
  if h.expiresAt ≤ at_ then .lapsed else .released

def Store.Opens (s : Store) (i : HoldId) (k : HostedId) : Prop :=
  ∃ h, s.hosted k = some h ∧ h.hold = i ∧ h.status = .opened

def Store.Handled (s : Store) (k : HostedId) : Prop :=
  (∃ j x, s.sales j = some x ∧ x.hosted = k) ∨ (s.refunds k).isSome = true

/-- The holds `releaseAll` selects: outstanding, or with an open hosted checkout. -/
def Store.Selects (s : Store) (e : EventId) (i : HoldId) : Prop :=
  ∃ h, s.holds i = some h ∧ h.event = e ∧ (h.status = .outstanding ∨ ∃ k, s.Opens i k)

def Store.replace (s : Store) : Option (HostedId × HostedCheckoutStatus) → Store
  | none => s
  | some (k, status) => s.record k status

-- ---------------------------------------------------------------------------
-- Transactions
-- ---------------------------------------------------------------------------

def State.goto (s : State) (c : Call) (t : Task) : State :=
  { s with task := Function.update s.task c t }

def State.write (s : State) (d : Store) : State := { s with toStore := d }

def State.lockEvent (s : State) (e : EventId) (c : Call) : State :=
  { s with alloc := Function.update s.alloc e (some c) }

def State.lockRow (s : State) (i : HoldId) (c : Call) : State :=
  { s with rowLock := Function.update s.rowLock i (some c) }

def State.unlock (s : State) (c : Call) : State :=
  { s with
    alloc := fun e => if s.alloc e = some c then none else s.alloc e
    rowLock := fun i => if s.rowLock i = some c then none else s.rowLock i }

def State.commit (s : State) (c : Call) (d : Store) (t : Task) : State :=
  ((s.write d).unlock c).goto c t

/-- What `takePlace` reads of a paid checkout under the allocation lock, and concludes. A hold that
expired is recorded as lapsed on the way, which locks its row. -/
inductive Decides (at_ : Time) (s : State) (c : Call) (k : HostedId) (remote : Remote)
    (h : Hosted) (hd : Hold) : Verdict → State → Prop
  | handled : s.Handled k → Decides at_ s c k remote h hd .handled s
  | mismatch : ¬ s.Handled k → remote.charge ≠ h.charge →
      Decides at_ s c k remote h hd (.refuses .amountMismatch) s
  | closed : ¬ s.Handled k → remote.charge = h.charge → s.closed hd.event = true →
      Decides at_ s c k remote h hd (.refuses .eventClosed) s
  | outstanding : ¬ s.Handled k → remote.charge = h.charge → s.closed hd.event = false →
      hd.status = .outstanding → at_ < hd.expiresAt → Decides at_ s c k remote h hd .takes s
  /-- It ended, and its place is free. -/
  | free : ¬ s.Handled k → remote.charge = h.charge → s.closed hd.event = false →
      hd.status = .lapsed ∨ hd.status = .released → Decides at_ s c k remote h hd .takes s
  | gone : ¬ s.Handled k → remote.charge = h.charge → s.closed hd.event = false →
      hd.status ≠ .outstanding → Decides at_ s c k remote h hd .gone s
  | lapses (v : Verdict) : ¬ s.Handled k → remote.charge = h.charge → s.closed hd.event = false →
      hd.status = .outstanding → hd.expiresAt ≤ at_ → s.rowLock h.hold = none →
      v = .takes ∨ v = .gone → Decides at_ s c k remote h hd v (s.lockRow h.hold c)

/-- Whether what it commits writes the hold's row. -/
def Verdict.Writes (hd : Hold) : Verdict → Prop
  | .handled => False
  | .refuses _ | .gone => hd.status = .outstanding
  | .takes => True

inductive Commits (at_ : Time) (s : Store) (k : HostedId) (h : Hosted) (hd : Hold) :
    Verdict → Store → Prop
  | handled : Commits at_ s k h hd .handled (s.record k .paid)
  | refused : Commits at_ s k h hd (.refuses reason)
      (((s.record k .paid).giveUp h.hold (hd.over at_)).entitle k reason)
  | gone : Commits at_ s k h hd .gone
      (((s.record k .paid).giveUp h.hold .lapsed).entitle k .placeGone)
  /-- A sale is the only one of its checkout. -/
  | taken : s.sales j = none → (∀ j x, s.sales j = some x → x.hosted ≠ k) →
      Commits at_ s k h hd .takes
        (((s.record k .paid).setStatus h.hold .issuing).sell j ⟨k, h.hold, .issuing⟩)

/-- One step, by a process that goes by the clock reading. -/
inductive Step (at_ : Time) (s : State) : State → Prop
  -- the provider's buyers
  | buyerPays (charge : Charge) : s.remote k = some x → x.status = .opened →
      Step at_ s (s.write (s.setRemote k { x with status := .paid, charge }))
  | expires : s.remote k = some x → x.status = .opened →
      Step at_ s (s.write (s.setRemote k { x with status := .expired }))
  -- single statements
  /-- `sweep`, `lapseExpired` and `allocationCounts`. -/
  | lapses : s.holds i = some h → s.rowLock i = none → h.status = .outstanding →
      h.expiresAt ≤ at_ → Step at_ s (s.write (s.giveUp i .lapsed))
  /-- `release`. -/
  | givesUp : s.holds i = some h → s.rowLock i = none → h.status = .outstanding →
      Step at_ s (s.write (s.giveUp i (h.over at_)))
  | extended : s.holds i = some h → s.rowLock i = none → h.status = .outstanding →
      at_ < h.expiresAt → Step at_ s (s.write (s.extend i))
  /-- `reopenSales`. -/
  | reopens : s.closed e = true → Step at_ s (s.write (s.reopen e))
  -- `issue`, and `recordCancellationRefunds`
  | issues : s.sales j = some x → x.status = .issuing → s.rowLock x.hold = none →
      Step at_ s (s.write ((s.setStatus x.hold .confirmed).sell j { x with status := .issued }))
  | rejects : s.sales j = some x → x.status = .issuing → s.rowLock x.hold = none →
      Step at_ s (s.write (((s.setStatusOf x.hold .issuing .released).entitle x.hosted
        .issuanceRejected).sell j { x with status := .rejected }))
  | fails : s.sales j = some x → x.status = .issuing →
      Step at_ s (s.write (s.sell j { x with status := .failed }))
  | refunded : s.sales j = some x → Step at_ s (s.write (s.entitle x.hosted .eventCancelled))
  -- `place`
  | locksPlace (e : EventId) : s.task c = .idle → s.alloc e = none →
      Step at_ s ((s.lockEvent e c).goto c (.placing e))
  | readsOnSale : s.task c = .placing e → s.closed e = false → Step at_ s (s.goto c (.onSale e))
  | places (price : Charge) : s.task c = .onSale e → s.holds i = none → s.rowLock i = none →
      Step at_ s (s.commit c
        (s.place i ⟨e, .outstanding, at_ + HOLD_LIFETIME_MS, false, price⟩) .ended)
  -- `pay`
  | locksPay : s.task c = .idle → s.holds i = some h → s.rowLock i = none →
      h.status = .outstanding → at_ < h.expiresAt →
      Step at_ s ((s.lockRow i c).goto c (.paying i))
  | sells : s.task c = .paying i → s.holds i = some h → s.closed h.event = false →
      Step at_ s (s.goto c (.selling i))
  | retrievesOpen : s.task c = .selling i → s.Opens i k → s.remote k = some x →
      Step at_ s (s.goto c (.told i k x.status))
  | payReturns : s.task c = .told i k .opened → Step at_ s (s.commit c s.toStore .ended)
  | findsPaid : s.task c = .told i k .paid →
      Step at_ s (s.commit c (s.record k .paid) (.reconciling k none))
  | creates : s.task c = .selling i → (∀ k, ¬ s.Opens i k) → s.holds i = some h →
      s.remote k = none →
      Step at_ s ((s.write (s.setRemote k ⟨i, .opened, h.price⟩)).goto c (.created i k none))
  | replaces : s.task c = .told i old status → status ≠ .opened → status ≠ .paid →
      s.holds i = some h → s.remote k = none →
      Step at_ s ((s.write (s.setRemote k ⟨i, .opened, h.price⟩)).goto c
        (.created i k (some (old, status))))
  /-- At most one checkout of a hold is recorded open. -/
  | pays : s.task c = .created i k old → s.holds i = some h → s.hosted k = none →
      (∀ j, ¬ (s.replace old).Opens i j) →
      Step at_ s (s.commit c (((s.replace old).extend i).create k ⟨i, .opened, h.price⟩) .ended)
  -- `cancel`
  | locksCancel : s.task c = .idle → s.holds i = some h → s.rowLock i = none →
      h.status = .outstanding → Step at_ s ((s.lockRow i c).goto c (.giving i))
  | gives : s.task c = .giving i → s.holds i = some h → (∀ k, ¬ s.Opens i k) →
      Step at_ s (s.commit c (s.giveUp i (h.over at_)) .ended)
  | cancelsOpen : s.task c = .giving i → s.Opens i k → s.remote k = some x →
      Step at_ s ((s.write (s.setRemote k x.cancel)).goto c (.gave i k x.cancel.status))
  | gavePaid : s.task c = .gave i k .paid →
      Step at_ s (s.commit c s.toStore (.reconciling k none))
  | gaveUp : s.task c = .gave i k status → status ≠ .paid → s.holds i = some h →
      Step at_ s (s.commit c ((s.record k status).giveUp i (h.over at_)) .ended)
  -- `sweep`
  | sweeps : s.task c = .idle → s.Opens i k → s.holds i = some h →
      h.status = .lapsed ∨ h.status = .released → Step at_ s (s.goto c (.sweeping k))
  | sweepCancels : s.task c = .sweeping k → s.remote k = some x →
      Step at_ s ((s.write (s.setRemote k x.cancel)).goto c (.swept k x.cancel.status))
  | sweptPaid : s.task c = .swept k .paid → Step at_ s (s.goto c (.reconciling k none))
  | sweptRecords : s.task c = .swept k status → status ≠ .paid →
      Step at_ s ((s.write (s.record k status)).goto c .ended)
  -- `reconcile`
  | prompted : s.task c = .idle → s.hosted k = some h →
      Step at_ s (s.goto c (.reconciling k none))
  | retrieves : s.task c = .reconciling k after → s.remote k = some x →
      Step at_ s (s.goto c (.answered k x after))
  | otherHold : s.task c = .answered k x after → s.hosted k = some h → x.hold ≠ h.hold →
      Step at_ s (s.goto c after.task)
  | records : s.task c = .answered k x after → x.status ≠ .paid → s.hosted k = some h →
      (x.status = .opened → ∀ j, j ≠ k → ¬ s.Opens h.hold j) →
      Step at_ s ((s.write (s.record k x.status)).goto c after.task)
  | locksTake : s.task c = .answered k x after → x.status = .paid → s.hosted k = some h →
      x.hold = h.hold → s.holds h.hold = some hd → s.alloc hd.event = none →
      Step at_ s ((s.lockEvent hd.event c).goto c (.taking k x after))
  | decides : s.task c = .taking k x after → s.hosted k = some h → s.holds h.hold = some hd →
      Decides at_ s c k x h hd v s' → Step at_ s (s'.goto c (.decided k v after))
  | commits : s.task c = .decided k v after → s.hosted k = some h → s.holds h.hold = some hd →
      (v.Writes hd → s.rowLock h.hold = none ∨ s.rowLock h.hold = some c) →
      Commits at_ s.toStore k h hd v d → Step at_ s (s.commit c d after.task)
  -- `releaseAll`
  | locksRelease (e : EventId) : s.task c = .idle → s.alloc e = none →
      Step at_ s ((s.lockEvent e c).goto c (.closing e))
  | closes : s.task c = .closing e →
      Step at_ s (s.commit c (s.close e) (.closed e (s.reopened e)))
  | selects (todo : List HoldId) : s.task c = .closed e n → (∀ i, i ∈ todo ↔ s.Selects e i) →
      Step at_ s (s.goto c (.clearing ⟨e, n, [], []⟩ todo))
  | locksRow : s.task c = .clearing r (i :: todo) → s.rowLock i = none →
      Step at_ s ((s.lockRow i c).goto c (.clears r i todo))
  /-- The open checkout of the hold, if any: an index of the table admits one. -/
  | looks (found : Option HostedId) : s.task c = .clears r i todo →
      (∀ k, s.Opens i k ↔ found = some k) →
      Step at_ s (s.goto c (.looked { r with seen := found.toList ++ r.seen } i todo found))
  | frees : s.task c = .looked r i todo none →
      Step at_ s (s.commit c (s.giveUp i .released) (.clearing r todo))
  | asks : s.task c = .looked r i todo (some k) → s.remote k = some x →
      Step at_ s ((s.write (s.setRemote k x.cancel)).goto c
        (.cancelled r i todo k x.cancel.status))
  | remembers : s.task c = .cancelled r i todo k .paid →
      Step at_ s (s.commit c s.toStore (.clearing { r with paid := r.paid ++ [k] } todo))
  | clears : s.task c = .cancelled r i todo k status → status ≠ .paid →
      Step at_ s (s.commit c ((s.record k status).giveUp i .released) (.clearing r todo))
  | settles : s.task c = .clearing r [] → Step at_ s (s.goto c (.settling r r.paid))
  | reconciles : s.task c = .settling r (k :: todo) →
      Step at_ s (s.goto c (.reconciling k (some (r, todo))))
  | returns : s.task c = .settling r [] → Step at_ s (s.goto c (.released r))
  /-- A call fails, or its process stops. -/
  | stops : s.task c ≠ .idle → Step at_ s (s.commit c s.toStore .ended)

inductive Steps (s : State) : State → Prop
  | refl : Steps s s
  | step {t : Time} : Steps s s' → Step t s' s'' → Steps s s''

structure State.Initial (s : State) : Prop where
  holds : ∀ i, s.holds i = none
  hosted : ∀ k, s.hosted k = none
  sales : ∀ j, s.sales j = none
  refunds : ∀ k, s.refunds k = none
  alloc : ∀ e, s.alloc e = none
  rowLock : ∀ i, s.rowLock i = none
  task : ∀ c, s.task c = .idle

end Kippu.Releasing
