import Kippu.Paying.Runs

/-!
# What creates no checkout

Of the programs that `pay` runs, all but one operation leave the provider's checkouts
and the recorded ones as they are: nothing is created there, and nothing is recorded here
that was not.
-/

namespace Kippu.Paying

open Conc Conc.Prog

set_option linter.unusedSectionVars false

/-- An operation that creates no checkout, and writes no new one. -/
def quiet : (β : Type) → Op Db Key Call β → Prop
  | _, .ext (.createCheckout _) => False
  | _, .write u => ∀ db k, Recorded (u db) k → Recorded db k
  | _, _ => True

abbrev Quiet (m : Prog α) : Prop := m.Only quiet

-- ---------------------------------------------------------------------------
-- Statements
-- ---------------------------------------------------------------------------

theorem quiet_read (f : Db → α) : Quiet (read f) :=
  only_bind (only_perform trivial) fun _ => trivial

theorem quiet_scan (ids : Db → Finset ℕ) : Quiet (scan ids) := only_perform trivial

theorem quiet_lock (k : Key) : Quiet (lock k) := only_perform trivial

theorem quiet_now : Quiet now := only_perform trivial

theorem quiet_randomUUID : Quiet randomUUID := only_perform trivial

theorem quiet_write {u : Db → Db} (h : ∀ db, (u db).hosted = db.hosted) : Quiet (write u) :=
  only_perform fun db _ ⟨id, row, hrow, hk⟩ => ⟨id, row, h db ▸ hrow, hk⟩

theorem quiet_require (c : Bool) (e : Err) : Quiet (require c e) :=
  only_ite (only_pure ()) (only_raise e)

theorem quiet_rollbackIf (undo : Bool) : Quiet (rollbackIf undo) :=
  only_ite (only_attempt (only_perform trivial)) (only_pure _)

theorem quiet_conclude (undo : Bool) : Quiet (conclude undo) := by
  refine only_bind (only_attempt (only_perform trivial)) fun r => ?_
  cases r with
  | ok a => exact only_bind (only_perform trivial) fun _ => only_pure _
  | error e =>
    exact only_bind (quiet_rollbackIf undo) fun _ =>
      only_bind (only_perform trivial) fun _ => only_pure _

theorem quiet_abandon (e : Err) : Quiet (abandon e : Prog α) := by
  refine only_bind (only_attempt (only_perform trivial)) fun r => ?_
  refine only_bind (only_perform trivial) fun _ => ?_
  cases r with
  | ok a => exact only_raise e
  | error e' => exact only_raise e'

theorem quiet_transactionWith {m : Prog α} (undo : α → Bool) (h : Quiet m) :
    Quiet (transactionWith undo m) := by
  refine only_bind (only_perform trivial) fun _ => ?_
  refine only_bind (only_attempt (only_bind (only_perform trivial) fun _ => h)) fun r => ?_
  cases r with
  | ok a => exact only_bind (quiet_conclude _) fun _ => only_pure _
  | error e => exact quiet_abandon e

theorem quiet_transaction {m : Prog α} (h : Quiet m) : Quiet (transaction m) := by
  refine only_bind (quiet_transactionWith _ h) fun r => ?_
  obtain ⟨a, committed⟩ := r
  cases committed with
  | ok u => exact only_pure a
  | error e => exact only_raise e

theorem quiet_query {m : Prog α} (h : Quiet m) : Quiet (query m) := quiet_transaction h

theorem quiet_updateRow {key : Key} {row : Db → Option V} {which : V → Bool} {put : Db → Db}
    (h : Quiet (write put)) : Quiet (updateRow key row which put) := by
  refine only_bind (quiet_read row) fun seen => only_ite ?_ (only_pure false)
  refine only_bind (quiet_lock key) fun _ => only_bind (quiet_read row) fun found => ?_
  exact only_ite (only_bind h fun _ => only_pure true) (only_pure false)

theorem quiet_selectForUpdate {key : Key} {row : Db → Option V} :
    Quiet (selectForUpdate key row) := by
  refine only_bind (quiet_read row) fun seen => ?_
  cases seen with
  | none => exact only_pure none
  | some v => exact only_bind (quiet_lock key) fun _ => quiet_read row

theorem quiet_insertUnless {entries : List Key} {dup taken : Db → Bool} {put : Db → Db}
    (h : Quiet (write put)) : Quiet (insertUnless entries dup taken put) := by
  refine only_bind (only_forEach quiet_lock entries) fun _ => ?_
  refine only_bind (quiet_read _) fun found => ?_
  obtain ⟨clash, conflict⟩ := found
  exact only_ite (only_raise _) (only_ite (only_pure _) (only_bind h fun _ => only_pure _))

theorem quiet_insert {entries : List Key} {dup : Db → Bool} {put : Db → Db}
    (h : Quiet (write put)) : Quiet (insert entries dup put) :=
  only_bind (quiet_insertUnless h) fun _ => only_pure ()

theorem quiet_updateHold (event : EventId) (id : HoldId) (which : Hold → Bool)
    (f : Hold → Hold) : Quiet (updateHold event id which f) :=
  quiet_updateRow (quiet_write fun _ => rfl)

theorem quiet_updateHolds (which : Hold → Bool) (f : Hold → Hold) :
    Quiet (updateHolds which f) := by
  refine only_bind (quiet_scan _) fun r => ?_
  obtain ⟨db, ids⟩ := r
  refine only_foldEach (fun n id => ?_) ids 0
  cases db.holds.get id with
  | none => exact only_pure n
  | some hold =>
    refine only_bind (quiet_lock _) fun _ => only_bind (quiet_read _) fun found => ?_
    exact only_ite (only_bind (quiet_write fun _ => rfl) fun _ => only_pure _) (only_pure n)

theorem quiet_allocateHold (event : EventId) (id : HoldId) (status : HoldStatus) :
    Quiet (allocateHold event id status) := by
  refine only_bind quiet_selectForUpdate fun found => ?_
  cases found with
  | none => exact only_pure ()
  | some hold =>
    exact only_bind (quiet_read _) fun _ => only_ite (only_raise _) (quiet_write fun _ => rfl)

theorem quiet_recordCheckoutStep (checkout : CheckoutId) (step : CheckoutStep) :
    Quiet (recordCheckoutStep checkout step) := quiet_write fun _ => rfl

theorem quiet_writeStatus (id : HostedId) (status : HostedCheckoutStatus) :
    Quiet (write fun db : Db => { db with
      hosted := db.hosted.update id fun k => { k with status := status } }) := by
  refine only_perform fun db k ⟨j, row, hrow, hk⟩ => ?_
  rw [Table.get_update] at hrow
  split at hrow
  · obtain ⟨x, hx, rfl⟩ := Option.map_eq_some_iff.mp hrow
    exact ⟨id, x, hx, hk⟩
  · exact ⟨j, row, hrow, hk⟩

theorem quiet_recordStatus (id : HostedId) (status : HostedCheckoutStatus) :
    Quiet (recordStatus id status) := by
  refine only_bind quiet_selectForUpdate fun found => ?_
  cases found with
  | none => exact only_pure ()
  | some row =>
    have hwrite := quiet_writeStatus id status
    refine only_ite (only_bind (quiet_lock _) fun _ => ?_)
      (only_bind (only_pure ()) fun _ => hwrite)
    exact only_bind (quiet_read _) fun _ => only_bind (quiet_require _ _) fun _ => hwrite

-- ---------------------------------------------------------------------------
-- Taking a place
-- ---------------------------------------------------------------------------

variable [Profile]

theorem quiet_assertFree (event : EventId) (zone : ZoneId) (position : String) :
    Quiet (assertFree event zone position) := by
  refine only_bind (quiet_read _) fun inFlight => only_ite (only_raise _) ?_
  refine only_bind (only_perform trivial) fun answer => ?_
  split
  · exact only_raise _
  · exact only_pure _
  · exact only_raise _

theorem quiet_stillFree (hold : Hold) (counts : AllocationCounts) :
    Quiet (stillFree hold counts) := by
  refine only_bind (only_perform trivial) fun answer => ?_
  cases answer with
  | error code => exact only_pure false
  | ok found =>
    refine only_ite ?_ (only_pure false)
    split
    · exact only_pure true
    · refine only_bind (only_attempt (quiet_assertFree _ _ _)) fun r => ?_
      cases r with
      | ok ticket => exact only_pure true
      | error e => exact only_ite (only_pure false) (only_raise e)

theorem quiet_placeFor (hold : Hold) (counts : AllocationCounts) (current : Option HoldStatus) :
    Quiet (placeFor hold counts current) := by
  unfold placeFor
  split
  · exact only_pure true
  · exact quiet_stillFree hold counts
  · exact quiet_stillFree hold counts
  · exact only_pure false

theorem quiet_entitle (hosted : HostedId) (checkout : CheckoutId) (amount : ℕ) (asset : Asset)
    (reason : RefundReason) : Quiet (entitle hosted checkout amount asset reason) := by
  refine only_bind quiet_randomUUID fun id => only_bind (quiet_require _ _) fun _ => ?_
  refine only_bind (quiet_insertUnless (quiet_write fun _ => rfl)) fun inserted => ?_
  exact only_ite (quiet_recordCheckoutStep _ _) (only_pure ())

theorem quiet_releaseHold (event : EventId) (id : HoldId) : Quiet (releaseHold event id) :=
  only_bind quiet_now fun _ => quiet_updateHold _ _ _ _

theorem quiet_recordTaken (hosted : HostedRow) (hold : HoldRow) :
    Quiet (recordTaken hosted hold) := by
  refine only_bind (quiet_allocateHold _ _ _) fun _ => only_bind quiet_randomUUID fun id => ?_
  cases hold.holderAccount with
  | none => exact only_raise _
  | some holder =>
    exact only_bind (quiet_insert (quiet_write fun _ => rfl)) fun _ => only_pure _

theorem quiet_allocationCounts (target : AllocationTarget) (at_ : Time) :
    Quiet (allocationCounts target at_) :=
  only_bind (quiet_updateHolds _ _) fun _ => quiet_read _

theorem quiet_takeOrRefund (hosted : HostedRow) (hold : HoldRow) (remote : HostedCheckout) :
    Quiet (takeOrRefund hosted hold remote) := by
  refine only_bind quiet_now fun at_ => only_bind (quiet_allocationCounts _ _) fun counts => ?_
  refine only_bind (quiet_read _) fun current => only_bind (quiet_placeFor _ _ _) fun free => ?_
  refine only_ite ?_ ?_
  · exact only_bind (quiet_recordTaken _ _) fun _ => only_pure _
  · exact only_bind (quiet_entitle _ _ _ _ _) fun _ => only_pure none

theorem quiet_lockAllocation (target : AllocationTarget) : Quiet (lockAllocation target) := by
  unfold lockAllocation
  split
  · refine only_bind (only_bind (quiet_lock _) fun _ => only_pure _) fun _ => quiet_lock _
  · exact quiet_lock _

theorem quiet_takePlace (hosted : HostedRow) (remote : HostedCheckout) :
    Quiet (takePlace hosted remote) := by
  refine quiet_transaction (only_bind (quiet_read _) fun found => ?_)
  cases found with
  | none => exact only_raise _
  | some hold =>
    refine only_bind (quiet_lockAllocation _) fun _ => ?_
    refine only_bind (quiet_recordStatus _ _) fun _ => only_bind (quiet_read _) fun done => ?_
    refine only_ite (only_pure none) (only_bind (quiet_recordCheckoutStep _ _) fun _ => ?_)
    refine only_ite ?_ (only_bind (quiet_read _) fun closed => only_ite ?_ ?_)
    · exact only_bind (quiet_entitle _ _ _ _ _) fun _ =>
        only_bind (quiet_releaseHold _ _) fun _ => only_pure none
    · refine only_bind (quiet_entitle _ _ _ _ _) fun _ => ?_
      refine only_bind (quiet_releaseHold _ _) fun released => only_ite ?_ ?_
      · exact only_bind (quiet_recordCheckoutStep _ _) fun _ => only_pure none
      · exact only_bind (only_pure ()) fun _ => only_pure none
    · exact quiet_takeOrRefund _ _ _

-- ---------------------------------------------------------------------------
-- Relaying a command
-- ---------------------------------------------------------------------------

theorem quiet_record (request : RequestId) (op : OperationId) (kind : CommandKind) :
    Quiet (record request op kind) := by
  refine only_bind quiet_now fun at_ => ?_
  refine only_bind (quiet_query (quiet_insertUnless (quiet_write fun _ => rfl))) fun inserted => ?_
  exact only_ite (only_pure ()) (only_raise _)

theorem quiet_complete (op : OperationId) (outcome : AuditOutcome) :
    Quiet (complete op outcome) := by
  refine only_bind (quiet_query (quiet_updateRow (quiet_write fun _ => rfl))) fun updated => ?_
  exact only_ite (only_pure ()) (only_raise _)

theorem quiet_organiserSign (op : OperationId) (kind : CommandKind) :
    Quiet (organiserSign op kind) := by
  refine only_bind (quiet_query (quiet_read _)) fun row => ?_
  cases row with
  | none => exact only_raise _
  | some row => exact only_ite (only_perform trivial) (only_raise _)

theorem quiet_submit (request : RequestId) (command : Command) :
    Quiet (submit request command) := by
  refine only_bind (only_perform trivial) fun op => ?_
  refine only_bind (only_attempt (quiet_record _ _ _)) fun recorded => ?_
  cases recorded with
  | error e => exact only_pure _
  | ok u => exact only_bind (only_attempt (quiet_organiserSign _ _)) fun _ => only_pure _

theorem quiet_settle (s : Submitted) (outcome : AuditOutcome) : Quiet (s.settle outcome) :=
  only_ite (only_bind (only_attempt (quiet_complete _ _)) fun _ => only_pure ()) (only_pure ())

theorem quiet_wait (s : Submitted) : Quiet s.wait := by
  unfold Submitted.wait
  split
  · exact only_bind (quiet_settle _ _) fun _ => only_raise _
  · refine only_bind (only_attempt (only_perform trivial)) fun verdict => ?_
    split
    · exact only_bind (quiet_settle _ _) fun _ => only_raise _
    · exact only_bind (quiet_settle _ _) fun _ => only_pure _
    · exact only_bind (quiet_settle _ _) fun _ => only_pure _

theorem quiet_accountRow (organiser : OrganiserId) : Quiet (accountRow organiser) := by
  refine only_bind (quiet_query (quiet_read _)) fun row => ?_
  cases row with
  | some row => exact only_pure row
  | none =>
    refine quiet_transaction (only_bind quiet_selectForUpdate fun found => ?_)
    cases found with
    | none => exact only_raise _
    | some u =>
      refine only_bind (quiet_read _) fun row => ?_
      cases row with
      | some row => exact only_pure row
      | none =>
        refine only_bind (only_perform trivial) fun account => ?_
        exact only_bind (quiet_insert (quiet_write fun _ => rfl)) fun _ => only_pure _

/-- The part of `provision` that submits the registration. -/
theorem quiet_register (organiser : OrganiserId) (request : RequestId) (row : LedgerAccount) :
    Quiet (submit request (.registerCredential row.account) >>= fun submitted =>
      submitted.wait >>= fun
        | .error code => raise (.spec code "" none)
        | .ok _ => do
            let _ ← query (updateRow (.row .accounts organiser) (·.accounts.get organiser)
              (!·.registered) fun db => { db with
                accounts := db.accounts.update organiser fun r => { r with registered := true } })
            pure row.account) := by
  refine only_bind (quiet_submit _ _) fun submitted => ?_
  refine only_bind (quiet_wait submitted) fun outcome => ?_
  cases outcome with
  | error code => exact only_raise _
  | ok cursor =>
    exact only_bind (quiet_query (quiet_updateRow (quiet_write fun _ => rfl))) fun _ => only_pure _

theorem quiet_provision (organiser : OrganiserId) (request : RequestId) :
    Quiet (provision organiser request) := by
  refine only_bind (quiet_accountRow organiser) fun row => only_ite (only_pure _) ?_
  refine only_bind (only_perform trivial) fun _ => ?_
  refine only_ite (quiet_register organiser request row) ?_
  refine only_bind (only_perform trivial) fun _ => ?_
  refine only_bind (quiet_query (quiet_updateRow (quiet_write fun _ => rfl))) fun _ => ?_
  refine only_bind (quiet_query (quiet_read _)) fun _ => ?_
  exact quiet_register organiser request row

theorem quiet_relay (organiser : OrganiserId) (request : RequestId) (command : Command) :
    Quiet (relay organiser request command) := by
  refine only_bind (quiet_provision _ _) fun _ => ?_
  refine only_bind (quiet_query (quiet_read _)) fun _ => ?_
  exact only_bind (only_perform trivial) fun _ => quiet_submit _ _

-- ---------------------------------------------------------------------------
-- Issuing
-- ---------------------------------------------------------------------------

theorem quiet_updateSale (id : SaleId) (f : Sale → Sale) : Quiet (updateSale id f) :=
  only_bind (quiet_updateRow (quiet_write fun _ => rfl)) fun _ => only_pure ()

theorem quiet_insertFaceValue (ticket : TicketId) (sale : SaleId) (hold : Hold) :
    Quiet (insertFaceValue ticket sale hold) := by
  unfold insertFaceValue
  split
  · exact only_bind (quiet_require _ _) fun _ => quiet_insert (quiet_write fun _ => rfl)
  · exact only_raise _

theorem quiet_completeSale (hosted : HostedRow) (taken : Taken) (outcome : SaleOutcome) :
    Quiet (completeSale hosted taken outcome) := by
  refine quiet_transaction (only_bind (quiet_updateSale _ _) fun _ => ?_)
  cases outcome with
  | issued ticket cursor =>
    exact only_bind (quiet_allocateHold _ _ _) fun _ =>
      only_bind (quiet_insertFaceValue _ _ _) fun _ => quiet_recordCheckoutStep _ _
  | rejected code =>
    exact only_bind (quiet_updateHold _ _ _ _) fun _ =>
      only_bind (quiet_recordCheckoutStep _ _) fun _ => quiet_entitle _ _ _ _ _
  | failed => exact quiet_recordCheckoutStep _ _

theorem quiet_findClass (event : EventId) (classId : ClassId) : Quiet (findClass event classId) :=
  quiet_query (quiet_read _)

theorem quiet_sell (requestId : RequestId) (taken : Taken) : Quiet (sell requestId taken) := by
  refine only_bind (quiet_query (quiet_read _)) fun organiser => ?_
  refine only_bind (quiet_findClass _ _) fun ticketClass => ?_
  split
  · dsimp only
    split
    · refine only_bind (only_map quiet_randomUUID) fun placement => ?_
      exact only_bind (quiet_relay _ _ _) fun _ => only_pure _
    · refine only_bind (only_pure _) fun placement => ?_
      exact only_bind (quiet_relay _ _ _) fun _ => only_pure _
  · exact only_raise _

theorem quiet_recordOperation (taken : Taken) (submitted : Submitted) :
    Quiet (recordOperation taken submitted) := by
  unfold recordOperation
  split
  · exact only_pure ()
  · exact quiet_query (quiet_updateSale _ _)

theorem quiet_followIssue (hosted : HostedRow) (taken : Taken) (ticket : TicketId)
    (submitted : Submitted) : Quiet (followIssue hosted taken ticket submitted) := by
  refine only_bind (quiet_query (quiet_updateSale _ _)) fun _ => ?_
  refine only_bind (only_attempt (quiet_wait submitted)) fun r => ?_
  cases r with
  | error e =>
    exact only_bind (quiet_recordOperation _ _) fun _ => quiet_completeSale _ _ _
  | ok outcome =>
    refine only_bind (quiet_recordOperation _ _) fun _ => ?_
    cases outcome <;> exact quiet_completeSale _ _ _

theorem quiet_issue (requestId : RequestId) (hosted : HostedRow) (taken : Taken) :
    Quiet (issue requestId hosted taken) := by
  refine only_bind (only_attempt (quiet_sell requestId taken)) fun r => ?_
  cases r with
  | error e => exact quiet_completeSale _ _ _
  | ok sold => exact quiet_followIssue _ _ _ _

theorem quiet_reconcile (requestId : RequestId) (checkout : ProviderCheckoutId) :
    Quiet (reconcile requestId checkout) := by
  refine only_bind (quiet_query (quiet_scan _)) fun r => ?_
  obtain ⟨db, ids⟩ := r
  dsimp only
  cases firstHosted db ids with
  | none => exact only_pure ()
  | some hosted =>
    refine only_bind (only_perform trivial) fun remote => only_ite (only_pure ()) ?_
    refine only_ite (quiet_query (quiet_recordStatus _ _)) ?_
    refine only_bind (quiet_takePlace hosted remote) fun taken => ?_
    cases taken with
    | none => exact only_pure ()
    | some taken => exact quiet_issue _ _ _

-- ---------------------------------------------------------------------------
-- What `pay` reads before it creates a checkout
-- ---------------------------------------------------------------------------

theorem quiet_holdByToken (token : ℕ) : Quiet (holdByToken token) := by
  refine only_bind (quiet_scan _) fun r => ?_
  obtain ⟨db, ids⟩ := r
  dsimp only
  cases ids.head?.bind (holdRow · db) with
  | some seen =>
    refine only_bind (quiet_lock _) fun _ => only_bind (quiet_read _) fun found => ?_
    cases found with
    | some hold => exact only_pure _
    | none => exact only_raise _
  | none => exact only_bind (quiet_read _) fun _ => only_ite (only_raise _) (only_raise _)

theorem quiet_openHosted (hold : HoldId) : Quiet (openHosted hold) :=
  only_bind (quiet_scan _) fun _ => only_pure _

theorem quiet_extendForPayment (hold : HoldRow) (at_ : Time) :
    Quiet (extendForPayment hold at_) :=
  only_ite (only_bind (quiet_updateHold _ _ _ _) fun _ => only_pure _) (only_pure _)

end Kippu.Paying
