import Kippu.Sales.Payment

/-!
# Payments, against any provider

The same store, with a provider that may answer anything and webhooks that anyone
may send. Every task is at a point of its code, with the rows it read; a
transaction is one step, and between two steps prices, holds and other tasks move.
What the provider answered to each retrieval is remembered.
-/

namespace Kippu.Payments

variable [Profile]

-- ---------------------------------------------------------------------------
-- Transactions
-- ---------------------------------------------------------------------------

inductive PlaceOutcome
  | handled
  | amountMismatch
  | eventClosed
  | placeGone
  | taken
  deriving DecidableEq

/-- What `takePlace` decides under its locks; `free` is what the ledger and the allocation say
of the place of a hold that ended. -/
def placeOutcome (db : Db) (hosted : HostedRow) (hold : Hold) (remote : HostedCheckout)
    (free : Bool) : PlaceOutcome :=
  if handled hosted.id db then .handled
  else if remote.amount ≠ hosted.amount ∨ remote.asset ≠ hosted.asset then .amountMismatch
  else if db.closures.any (Closure.inForce hold.event) then .eventClosed
  else match hold.status with
    | .outstanding => .taken
    | .lapsed | .released => if free then .taken else .placeGone
    | .issuing | .confirmed => .placeGone

/-- `UPDATE hosted_checkouts` of a hosted checkout's status. -/
def setStatus (db : Db) (id : HostedId) (status : HostedCheckoutStatus) : Db :=
  { db with hosted := db.hosted.update id fun k => { k with status } }

def addRefund (db : Db) (id : ℕ) (hosted : HostedRow) (hold : Hold) (remote : HostedCheckout)
    (reason : RefundReason) : Db :=
  { db with
    refunds := db.refunds.set id
      { hosted := hosted.id, checkout := hold.checkout, amount := remote.amount,
        asset := remote.asset, reason } }

/-- `UPDATE holds` of a hold given up, if it is outstanding. -/
def giveUpHold (db : Db) (id : HoldId) (at_ : Time) : Db :=
  db.setHold id fun h => if h.status = .outstanding then h.giveUp at_ else h

def addSale (db : Db) (id : SaleId) (hosted : HostedRow) (holder : AccountId) : Db :=
  { db with
    sales := db.sales.set id
      { hosted := hosted.id, hold := hosted.hold, holder, status := .issuing, ticket := none,
        cursor := none, errorCode := none, operation := none } }

def takePlace (db : Db) (hosted : HostedRow) (hold : Hold) (remote : HostedCheckout)
    (holder : AccountId) (at_ : Time) (id : ℕ) (outcome : PlaceOutcome) : Db :=
  let db := setStatus db hosted.id remote.status
  match outcome with
  | .handled => db
  | .amountMismatch =>
    giveUpHold (addRefund db id hosted hold remote .amountMismatch) hosted.hold at_
  | .eventClosed => giveUpHold (addRefund db id hosted hold remote .eventClosed) hosted.hold at_
  | .placeGone => addRefund db id hosted hold remote .placeGone
  | .taken =>
    addSale (db.setHold hosted.hold fun h => { h with status := .issuing }) id hosted holder

def names (named : VerifiedWebhook) (k : Hosted) : Bool :=
  named.checkoutIds.contains k.providerCheckout || named.holdIds.contains k.hold

/-- The recorded checkouts a webhook selects, in any order. -/
def Selects (db : Db) (named : VerifiedWebhook) (checkouts : List ProviderCheckoutId) : Prop :=
  ∃ ids : List HostedId, ids.Nodup ∧ ids.toFinset = db.hosted.select (names named) ∧
    checkouts = (ids.filterMap db.hosted.get).map Hosted.providerCheckout

/-- The changes other operations make of a hold: it is extended, lapses, is given up or
released, or its sale is completed. -/
inductive HoldChange : (Hold → Hold) → Prop
  | extended (expiresAt at_ : Time) :
      HoldChange fun h => { h with expiresAt, extendedAt := some at_ }
  | lapsed : HoldChange Hold.lapse
  | givenUp (at_ : Time) : HoldChange (Hold.giveUp at_)
  | status (status : HoldStatus) : HoldChange fun h => { h with status }

-- ---------------------------------------------------------------------------
-- Tasks
-- ---------------------------------------------------------------------------

inductive Point
  /-- `paymentWebhook`: before its query. -/
  | select (named : VerifiedWebhook)
  /-- Between two reconciliations. -/
  | next
  /-- `reconcile`: before its query, before `provider.retrieve`, and with its answer. -/
  | lookup (checkout : ProviderCheckoutId)
  | retrieve (hosted : HostedRow)
  | record (hosted : HostedRow) (remote : HostedCheckout)
  | place (hosted : HostedRow) (remote : HostedCheckout)
  /-- `issue`, of a sale recorded. -/
  | issue (sale : SaleId)
  /-- `pay`, with an open hosted checkout to retrieve; and before `provider.createCheckout`. -/
  | payOpen (hosted : HostedRow) (hold : HoldId) (price : ℕ) (asset : Asset)
  | payCreate (hold : HoldId) (price : ℕ) (asset : Asset)
  | payInsert (hold : HoldId) (price : ℕ) (asset : Asset) (checkout : ProviderCheckoutId)

/-- A task, and the checkouts it reconciles after this one. -/
structure Task where
  point : Point
  rest : List ProviderCheckoutId

structure State where
  db : Db
  tasks : ℕ → Option Task
  nextTask : ℕ
  /-- What the provider answered to each `retrieve`. -/
  retrieved : List (ProviderCheckoutId × HostedCheckout)

def State.put (s : State) (t : ℕ) (task : Option Task) : State :=
  { s with tasks := Function.update s.tasks t task }

def State.spawn (s : State) (point : Point) : State :=
  { s with
    tasks := Function.update s.tasks s.nextTask (some ⟨point, []⟩), nextTask := s.nextTask + 1 }

/-- A webhook arrives: `verifyWebhook` says what it names, or that it does not verify. -/
def State.paymentWebhook (s : State) (verified : Option VerifiedWebhook) : State × Bool :=
  match verified with
  | none => (s, false)
  | some named => (s.spawn (.select named), true)

def afterRetrieve (hosted : HostedRow) (remote : HostedCheckout) : Point :=
  if remote.holdId ≠ hosted.hold then .next
  else if remote.status ≠ .paid then .record hosted remote
  else .place hosted remote

/-- What `pay` does with the provider's answer about an open hosted checkout: nothing if it is
open, a reconciliation if it was paid, another hosted checkout otherwise. -/
def afterPayRetrieve (hosted : HostedRow) (hold : HoldId) (price : ℕ) (asset : Asset)
    (remote : HostedCheckout) : Point :=
  match remote.status with
  | .opened => .next
  | .paid => .lookup hosted.providerCheckout
  | _ => .payCreate hold price asset

-- ---------------------------------------------------------------------------
-- Steps
-- ---------------------------------------------------------------------------

/-- One step. `verify` is the provider's check of a webhook's body and signature. -/
inductive Step (verify : String → String → Option VerifiedWebhook) (s : State) : State → Prop
  /-- Anyone sends anything. -/
  | webhook (body signature : String) :
      Step verify s (s.paymentWebhook (verify body signature)).1
  | priced (c : ClassId) (price : ℕ) : Step verify s { s with
      db := { s.db with
        classes := s.db.classes.update c fun row => { row with price := some price } } }
  | saleAsset (event : EventId) (asset : Asset) : Step verify s { s with
      db := { s.db with saleAssets := s.db.saleAssets.set event asset } }
  /-- A hold is placed at the terms of the moment. -/
  | held (target : HoldTarget) (at_ : Time) : s.db.holds.get i = none →
      saleTermsOf target.event target.classId s.db = some terms →
      Step verify s { s with
        db := { s.db with holds := s.db.holds.set i (holdOf target terms at_) } }
  | holdChanged : HoldChange f → Step verify s { s with db := s.db.setHold i f }
  /-- A sale is completed. -/
  | saleCompleted (outcome : SaleOutcome) : Step verify s { s with
      db := { s.db with sales := s.db.sales.update i outcome.apply } }
  /-- The event's sales are closed or reopened. -/
  | salesClosed (closures : Conc.Table Closure) :
      Step verify s { s with db := { s.db with closures } }
  /-- A seal, a cancellation, a sweep or a client has a checkout reconciled. -/
  | reconcile (checkout : ProviderCheckoutId) : Step verify s (s.spawn (.lookup checkout))
  /-- A cancellation at the provider is recorded. -/
  | statusRecorded (id : HostedId) (status : HostedCheckoutStatus) :
      Step verify s { s with db := setStatus s.db id status }
  | selected : s.tasks t = some ⟨.select named, rest⟩ → Selects s.db named checkouts →
      Step verify s (s.put t (some ⟨.next, checkouts⟩))
  | next : s.tasks t = some ⟨.next, checkout :: rest⟩ →
      Step verify s (s.put t (some ⟨.lookup checkout, rest⟩))
  | lookup : s.tasks t = some ⟨.lookup checkout, rest⟩ → s.db.hosted.get i = some k →
      k.providerCheckout = checkout →
      Step verify s (s.put t (some ⟨.retrieve { k with id := i }, rest⟩))
  | unknown : s.tasks t = some ⟨.lookup checkout, rest⟩ →
      Step verify s (s.put t (some ⟨.next, rest⟩))
  /-- The provider answers anything. -/
  | retrieved (remote : HostedCheckout) : s.tasks t = some ⟨.retrieve hosted, rest⟩ →
      Step verify s (State.put
        { s with retrieved := (hosted.providerCheckout, remote) :: s.retrieved } t
        (some ⟨afterRetrieve hosted remote, rest⟩))
  | recorded : s.tasks t = some ⟨.record hosted remote, rest⟩ →
      Step verify s (State.put { s with db := setStatus s.db hosted.id remote.status } t
        (some ⟨.next, rest⟩))
  | placed {hold : Hold} (free : Bool) (holder : AccountId) (at_ : Time) (id : ℕ) :
      s.tasks t = some ⟨.place hosted remote, rest⟩ → s.db.holds.get hosted.hold = some hold →
      s.db.sales.get id = none → s.db.refunds.get id = none →
      placeOutcome s.db hosted hold remote free = outcome →
      Step verify s (State.put
        { s with db := takePlace s.db hosted hold remote holder at_ id outcome } t
        (some ⟨if outcome = .taken then .issue id else .next, rest⟩))
  | issued (outcome : SaleOutcome) : s.tasks t = some ⟨.issue sale, rest⟩ →
      Step verify s (State.put
        { s with db := { s.db with sales := s.db.sales.update sale outcome.apply } } t
        (some ⟨.next, rest⟩))
  /-- `pay` finds a hold it may be paid for, without an open hosted checkout. -/
  | payBegun {hold : HoldRow} (at_ : Time) : holdRow i s.db = some hold →
      payable hold at_ = .ok (price, asset) →
      Step verify s (s.spawn (.payCreate i price asset))
  | payBegunOpen {hold : HoldRow} (at_ : Time) : holdRow i s.db = some hold →
      payable hold at_ = .ok (price, asset) →
      s.db.hosted.get j = some k → Hosted.openFor i k →
      Step verify s (s.spawn (.payOpen { k with id := j } i price asset))
  | payRetrieved (remote : HostedCheckout) : s.tasks t = some ⟨.payOpen hosted i price asset, rest⟩ →
      Step verify s (State.put
        { s with
          db := setStatus s.db hosted.id remote.status
          retrieved := (hosted.providerCheckout, remote) :: s.retrieved } t
        (some ⟨afterPayRetrieve hosted i price asset remote, rest⟩))
  /-- The provider creates a hosted checkout under any id. -/
  | payCreated (checkout : ProviderCheckoutId) :
      s.tasks t = some ⟨.payCreate i price asset, rest⟩ →
      Step verify s (s.put t (some ⟨.payInsert i price asset checkout, rest⟩))
  | payInserted (url : ℕ) (expiresAt : Time) :
      s.tasks t = some ⟨.payInsert i price asset checkout, rest⟩ → s.db.hosted.get j = none →
      s.db.hosted.any (·.providerCheckout = checkout) = false →
      Step verify s (State.put
        { s with db := { s.db with
          hosted := s.db.hosted.set j
            { hold := i, providerCheckout := checkout, url, amount := price, asset,
              status := .opened, expiresAt } } } t none)
  /-- A task fails, ends, or stops with its process; what it committed stays. -/
  | ends : s.tasks t = some task → Step verify s (s.put t none)

inductive Steps (verify : String → String → Option VerifiedWebhook) (s : State) : State → Prop
  | refl : Steps verify s s
  | step : Steps verify s s' → Step verify s' s'' → Steps verify s s''

structure State.Initial (s : State) : Prop where
  hosted : ∀ i, s.db.hosted.get i = none
  sales : ∀ i, s.db.sales.get i = none
  tasks : ∀ t, s.tasks t = none

end Kippu.Payments
