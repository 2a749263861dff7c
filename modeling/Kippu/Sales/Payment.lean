import Kippu.Events.Issuance

/-!
# Payment

Paid checkout: a hosted checkout is created for an outstanding hold; a payment the
provider reports is trusted for the hold's amount and asset, takes the hold's
place under the allocation's locks, and the ticket is issued through the
organiser's authority. What cannot be issued is owed as a refund.
-/

namespace Kippu

open Conc Conc.Prog

variable [Profile]

structure HoldRow where
  id : HoldId
  hold : Hold
  holderAccount : Option AccountId
  linkConfirmed : Bool

structure HostedRow extends Hosted where
  id : HostedId

structure CheckoutPayment where
  status : HostedCheckoutStatus
  url : ℕ
  amount : ℕ
  asset : Asset
  expiresAt : Time

def paymentOf (row : Hosted) : CheckoutPayment where
  status := row.status
  url := row.url
  amount := row.amount
  asset := row.asset
  expiresAt := row.expiresAt

def holdRowOf (id : HoldId) (hold : Hold) (c : Checkout) : HoldRow where
  id := id
  hold := hold
  holderAccount := c.holderAccount
  linkConfirmed := c.linkConfirmed

def holdRow (id : HoldId) (db : Db) : Option HoldRow := do
  let hold ← db.holds.get id
  let c ← db.checkouts.get hold.checkout
  pure (holdRowOf id hold c)

-- ---------------------------------------------------------------------------
-- Statements
-- ---------------------------------------------------------------------------

def Hold.ofToken (token : ℕ) (db : Db) (h : Hold) : Bool :=
  (db.checkouts.get h.checkout).any (·.token = token)

/-- The hold of the checkout a token names, locked. -/
def holdByToken (token : ℕ) : Prog HoldRow := do
  let (db, ids) ← scan fun db => db.holds.select (Hold.ofToken token db)
  match ids.head?.bind (holdRow · db) with
  | some seen => do
      lock (.hold seen.hold.event seen.id)
      match ← read (·.holds.get seen.id) with
      | some hold => pure { seen with hold := hold }
      | none => raise (.checkout .holdRequired "place the checkout's hold before paying")
  | none => do
      if ← read (·.checkouts.any (·.token = token)) then
        raise (.checkout .holdRequired "place the checkout's hold before paying")
      else raise (.checkout .unknownCheckout "no checkout has this token")

def Hosted.openFor (hold : HoldId) (k : Hosted) : Bool := k.hold = hold ∧ k.status = .opened

def firstHosted (db : Db) (ids : List HostedId) : Option HostedRow :=
  ids.head?.bind fun id => (db.hosted.get id).map fun row => { row with id := id }

def openHosted (hold : HoldId) : Prog (Option HostedRow) := do
  let (db, ids) ← scan (·.hosted.select (Hosted.openFor hold))
  pure (firstHosted db ids)

/-- Records a hosted checkout's status. A hold has at most one open hosted checkout. -/
def recordStatus (id : HostedId) (status : HostedCheckoutStatus) : Prog Unit := do
  match ← selectForUpdate (.hosted id) (·.hosted.get id) with
  | none => pure ()
  | some row => do
      if status = .opened ∧ row.status ≠ .opened then
        lock (.entry .hostedOpen row.hold)
        require (!(← read (·.hosted.any (Hosted.openFor row.hold)))) .uniqueViolation
      else pure ()
      write fun db => { db with
        hosted := db.hosted.update id fun k => { k with status := status } }

/-- Gives an outstanding hold up. Answers whether it was outstanding. -/
def releaseHold (event : EventId) (id : HoldId) : Prog Bool := do
  let at_ ← now
  updateHold event id (·.status = .outstanding) (Hold.giveUp at_)

/-- Records a refund entitlement for a hosted checkout, unless it has one. -/
def entitle (hosted : HostedId) (checkout : CheckoutId) (amount : ℕ) (asset : Asset)
    (reason : RefundReason) : Prog Unit := do
  let id ← randomUUID
  require (0 < amount) .checkViolation
  let inserted ← insertUnless [.entry .refunds id, .entry .refundsHosted hosted]
    (fun db => (db.refunds.get id).isSome) (·.refunds.any (·.hosted = hosted))
    fun db => { db with
      refunds := db.refunds.set id
        { hosted, checkout, amount, asset, reason } }
  if inserted then recordCheckoutStep checkout .refundEntitled else pure ()

def insertSale (id : SaleId) (row : Sale) : Prog Unit :=
  insert [.entry .sales id, .entry .salesHosted row.hosted]
    (fun db => (db.sales.get id).isSome || db.sales.any (·.hosted = row.hosted))
    fun db => { db with sales := db.sales.set id row }

def updateSale (id : SaleId) (f : Sale → Sale) : Prog Unit := do
  let _ ← updateRow (.row .sales id) (·.sales.get id) (fun _ => true)
    fun db => { db with sales := db.sales.update id f }
  pure ()

-- ---------------------------------------------------------------------------
-- A verified payment's place
-- ---------------------------------------------------------------------------

def handled (hosted : HostedId) (db : Db) : Bool :=
  db.sales.any (·.hosted = hosted) || db.refunds.any (·.hosted = hosted)

def Hold.target (h : Hold) : AllocationTarget where
  event := h.event
  zone := h.zone
  classId := h.classId
  position := h.position

/-- Whether the place of a hold that ended is still free. -/
def stillFree (hold : Hold) (counts : AllocationCounts) : Prog Bool := do
  match ← ext (.getEvent hold.event) with
  | .error _ => pure false
  | .ok found =>
    if found.status = .active && capacityHasRoom found counts && quotaHasRoom counts &&
        !counts.seatHeld then
      match hold.position with
      | none => pure true
      | some position => do
          match ← attempt (assertFree hold.event hold.zone (positionOf position)) with
          | .ok _ => pure true
          | .error e => if e.ticketIdExists then pure false else raise e
    else pure false

/-- Whether a payment takes its hold's place, from how the hold stands under the locks. -/
def placeFor (hold : Hold) (counts : AllocationCounts) (current : Option HoldStatus) : Prog Bool :=
  match current with
  | some .outstanding => pure true
  | some .lapsed | some .released => stillFree hold counts
  | _ => pure false

/-- A place taken: the sale recorded, its hold, and the account the ticket is issued to. -/
structure Taken where
  sale : SaleId
  hold : HoldRow
  holder : AccountId

def recordTaken (hosted : HostedRow) (hold : HoldRow) : Prog Taken := do
  allocateHold hold.hold.event hold.id .issuing
  let id ← randomUUID
  match hold.holderAccount with
  | none => raise .checkViolation
  | some holder => do
      insertSale id
        { hosted := hosted.id, hold := hold.id, holder, status := .issuing, ticket := none,
          cursor := none, errorCode := none, operation := none }
      pure ⟨id, hold, holder⟩

/-- Takes the place of a payment that is trusted, or records that it is gone. -/
def takeOrRefund (hosted : HostedRow) (hold : HoldRow) (remote : HostedCheckout) :
    Prog (Option Taken) := do
  -- Lapses are recorded first; then the hold is looked at again under the locks.
  let at_ ← now
  let counts ← allocationCounts hold.hold.target at_
  let current ← read fun db => (db.holds.get hold.id).map (·.status)
  if ← placeFor hold.hold counts current then
    let taken ← recordTaken hosted hold
    pure (some taken)
  else do
    entitle hosted.id hold.hold.checkout remote.amount remote.asset .placeGone
    pure none

/-- Under a transaction: takes the verified payment's place, or records why it cannot. -/
def takePlace (hosted : HostedRow) (remote : HostedCheckout) : Prog (Option Taken) := transaction do
  match ← read (holdRow hosted.hold) with
  | none => raise (.error "the hold of a hosted checkout is missing")
  | some hold => do
    let { checkout, event, .. } := hold.hold
    lockAllocation hold.hold.target
    recordStatus hosted.id remote.status
    if ← read (handled hosted.id) then pure none
    else do
      recordCheckoutStep checkout .paymentVerified
      -- Trusted only for the hold's amount and asset.
      if remote.amount ≠ hosted.amount ∨ remote.asset ≠ hosted.asset then do
        entitle hosted.id checkout remote.amount remote.asset .amountMismatch
        let _ ← releaseHold event hold.id
        pure none
      else if ← salesClosed event then do
        entitle hosted.id checkout remote.amount remote.asset .eventClosed
        if ← releaseHold event hold.id then recordCheckoutStep checkout .holdReleased
        else pure ()
        pure none
      else takeOrRefund hosted hold remote

-- ---------------------------------------------------------------------------
-- Issuing
-- ---------------------------------------------------------------------------

inductive SaleOutcome
  | issued (ticket : TicketId) (cursor : Cursor)
  | rejected (errorCode : Option Code)
  | failed

def SaleOutcome.apply (outcome : SaleOutcome) (s : Sale) : Sale :=
  match outcome with
  | .issued ticket cursor =>
      { s with status := .issued, ticket := some ticket, cursor := some cursor, errorCode := none }
  | .rejected errorCode => { s with status := .rejected, cursor := none, errorCode := errorCode }
  | .failed => { s with status := .failed, cursor := none, errorCode := none }

/-- `INSERT INTO face_values`: the price and asset the hold recorded. -/
def insertFaceValue (ticket : TicketId) (sale : SaleId) (hold : Hold) : Prog Unit := do
  match hold.price, hold.asset with
  | some amount, some asset => do
      require (0 < amount) .checkViolation
      insert [.entry .faceValues ticket, .entry .faceValuesSale sale]
        (fun db => (db.faceValues.get ticket).isSome || db.faceValues.any (·.sale = sale))
        fun db => { db with
          faceValues := db.faceValues.set ticket
            { event := hold.event, classId := hold.classId, sale, amount, asset } }
  | _, _ => raise .checkViolation

def completeSale (hosted : HostedRow) (taken : Taken) (outcome : SaleOutcome) : Prog Unit :=
  transaction do
    let hold := taken.hold.hold
    updateSale taken.sale outcome.apply
    match outcome with
    | .issued ticket _ => do
        allocateHold hold.event taken.hold.id .confirmed
        insertFaceValue ticket taken.sale hold
        recordCheckoutStep hold.checkout .issued
    | .rejected _ => do
        -- Not issued: the place is given back, whatever the hold's lifetime said.
        let _ ← updateHold hold.event taken.hold.id (·.status = .issuing)
          fun h => { h with status := .released }
        recordCheckoutStep hold.checkout .issuanceRejected
        entitle hosted.id hold.checkout hosted.amount hosted.asset .issuanceRejected
    | .failed => recordCheckoutStep hold.checkout .issuanceFailed

/-- Assembles the ticket of a paid hold and relays its issuance. It fails only while nothing has
been signed. -/
def sell (requestId : RequestId) (taken : Taken) : Prog (TicketId × Submitted) := do
  let hold := taken.hold.hold
  let organiser ← query (read (·.organiserEvents.get hold.event))
  let ticketClass ← findClass hold.event hold.classId
  match organiser, ticketClass with
  | some organiser, some _ => do
      let placement ← match hold.position with
        | none => Placement.unseated <$> randomUUID
        | some position => pure (.seated (positionOf position))
      let input : IssueTicket :=
        { event := hold.event, zone := hold.zone, placement, classId := hold.classId,
          provenance := .purchased, holder := taken.holder }
      let submitted ← relay organiser requestId (.issueTicket input)
      pure (Profile.ticketId hold.event hold.zone placement, submitted)
  | _, _ =>
      raise (.refused "the event's organiser or the class is unknown to Kippu" .badRequest none)

def recordOperation (taken : Taken) (submitted : Submitted) : Prog Unit :=
  match submitted.operationId with
  | none => pure ()
  | some op => query (updateSale taken.sale fun s => { s with operation := some op })

/-- What follows once the issuance was relayed: its ticket, then its outcome, are recorded. -/
def followIssue (hosted : HostedRow) (taken : Taken) (ticket : TicketId) (submitted : Submitted) :
    Prog Unit := do
  query (updateSale taken.sale fun s => { s with ticket := some ticket })
  match ← attempt submitted.wait with
  | .error _ => do
      recordOperation taken submitted
      completeSale hosted taken .failed
  | .ok outcome => do
      recordOperation taken submitted
      match outcome with
      | .ok cursor => completeSale hosted taken (.issued ticket cursor)
      | .error code => completeSale hosted taken (.rejected (some code))

/-- Issues the paid hold's ticket through the organiser's authority, and records the outcome. -/
def issue (requestId : RequestId) (hosted : HostedRow) (taken : Taken) : Prog Unit := do
  match ← attempt (sell requestId taken) with
  -- Nothing was signed: the ticket does not exist.
  | .error _ => completeSale hosted taken (.rejected none)
  | .ok (ticket, submitted) => followIssue hosted taken ticket submitted

/-- Retrieves a hosted checkout from the provider and acts on what it says. -/
def reconcile (requestId : RequestId) (checkout : ProviderCheckoutId) : Prog Unit := do
  let (db, ids) ← query (scan (·.hosted.select (·.providerCheckout = checkout)))
  match firstHosted db ids with
  | none => pure ()
  | some hosted => do
      let remote ← ext (.retrieve checkout)
      if remote.holdId ≠ hosted.hold then pure ()
      else if remote.status ≠ .paid then query (recordStatus hosted.id remote.status)
      else do
        match ← takePlace hosted remote with
        | none => pure ()
        | some taken => issue requestId hosted taken

-- ---------------------------------------------------------------------------
-- Requests of buyers and of the provider
-- ---------------------------------------------------------------------------

/-- How a `pay` transaction ends: with the hosted checkout to pay, or with an open one found
paid. -/
inductive PayStep
  | payment (payment : CheckoutPayment)
  | paidFirst (checkout : ProviderCheckoutId)

/-- Whether `ROLLBACK` is sent when a `pay` transaction's `COMMIT` fails. -/
def PayStep.undo : PayStep → Bool
  | .payment _ => true
  | .paidFirst _ => false

def insertHosted (id : HostedId) (row : Hosted) : Prog Unit := do
  require (0 < row.amount) .checkViolation
  insert [.entry .hosted id, .entry .hostedProvider row.providerCheckout,
      .entry .hostedOpen row.hold]
    (fun db => (db.hosted.get id).isSome || db.hosted.any (Hosted.openFor row.hold) ||
      db.hosted.any (·.providerCheckout = row.providerCheckout))
    fun db => { db with hosted := db.hosted.set id row }

/-- Takes the hold's single extension, if it is left; answers when the hold expires. -/
def extendForPayment (hold : HoldRow) (at_ : Time) : Prog Time := do
  if hold.hold.extendedAt.isNone then
    let expiresAt := hold.hold.expiresAt + HOLD_EXTENSION_MS
    let _ ← updateHold hold.hold.event hold.id (fun _ => true)
      fun h => { h with expiresAt := expiresAt, extendedAt := some at_ }
    pure expiresAt
  else pure hold.hold.expiresAt

def startPayment (hold : HoldRow) (price : ℕ) (asset : Asset) (at_ : Time) : Prog PayStep := do
  let expiresAt ← extendForPayment hold at_
  let _ ← findClass hold.hold.event hold.hold.classId
  let (providerCheckout, created) ← ext
    (.createCheckout { holdId := hold.id, amount := price, asset, expiresAt })
  let id ← randomUUID
  let row : Hosted :=
    { hold := hold.id, providerCheckout, url := created.url, amount := price, asset,
      status := .opened, expiresAt }
  insertHosted id row
  recordCheckoutStep hold.hold.checkout .paymentStarted
  pure (.payment (paymentOf row))

/-- What a hold must be for a payment to start; answers its price and asset. -/
def payable (hold : HoldRow) (at_ : Time) : Except Err (ℕ × Asset) := do
  if !hold.linkConfirmed || hold.holderAccount.isNone then
    .error (.checkout .linkUnconfirmed "the checkout's link is not confirmed")
  else if hold.hold.status = .issuing ∨ hold.hold.status = .confirmed then
    .error (.checkout .alreadyPaid "the checkout's hold is already paid for")
  else if hold.hold.status ≠ .outstanding ∨ hold.hold.expiresAt ≤ at_ then
    .error (.checkout .holdEnded "the checkout's hold lapsed or was released")
  else match hold.hold.price, hold.hold.asset with
    | some price, some asset => .ok (price, asset)
    | _, _ => .error (.refused "the hold has no price: it was placed before prices existed"
        .badRequest none)

def payStep (token : ℕ) : Prog PayStep := do
  let hold ← holdByToken token
  let at_ ← now
  match payable hold at_ with
  | .error e => raise e
  | .ok (price, asset) => do
      if ← salesClosed hold.hold.event then
        raise (.checkout .salesClosed "the event's sales are closed")
      else
        match ← openHosted hold.id with
        | none => startPayment hold price asset at_
        | some hosted => do
            let remote ← ext (.retrieve hosted.providerCheckout)
            if remote.status = .opened then pure (.payment (paymentOf hosted.toHosted))
            else do
              recordStatus hosted.id remote.status
              if remote.status = .paid then pure (.paidFirst hosted.providerCheckout)
              else startPayment hold price asset at_

/-- Creates the hosted checkout to pay a checkout's hold with, or answers the open one. -/
def pay (requestId : RequestId) (token : ℕ) : Prog CheckoutPayment := do
  let (step, committed) ← transactionWith PayStep.undo (payStep token)
  match step with
  | .payment payment =>
      match committed with
      | .ok () => pure payment
      | .error e => raise e
  | .paidFirst checkout => do
      let _ ← attempt (reconcile requestId checkout)
      match committed with
      | .ok () => raise (.checkout .alreadyPaid "the checkout's hold is already paid for")
      | .error e => raise e

/-- A webhook whose signature verified: the checkouts and holds it names. -/
structure VerifiedWebhook where
  checkoutIds : List ProviderCheckoutId
  holdIds : List HoldId

end Kippu
