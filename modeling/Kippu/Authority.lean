import Kippu.Statements

/-!
# Organisers' authority

Every command Kippu relays is signed with its organiser's key, and its audit row
is written before the signature. An organiser's ledger account is provisioned with
the first command. A submission settles, is refused, or fails without a verdict;
its audit row records which, and a failure to record it is not the submission's.
-/

namespace Kippu

open Conc Conc.Prog

variable [Profile]

-- ---------------------------------------------------------------------------
-- The audit log
-- ---------------------------------------------------------------------------

def record (request : RequestId) (op : OperationId) (kind : CommandKind) : Prog Unit := do
  let at_ ← now
  let inserted ← query (insertUnless [.entry .audit op] (fun _ => false)
    (fun db => (db.audit.get op).isSome) fun db => { db with
      audit := db.audit.set op { request, kind, outcome := .pending, recordedAt := at_ } })
  if inserted then pure () else raise (.audit "operation is already recorded")

def complete (op : OperationId) (outcome : AuditOutcome) : Prog Unit := do
  let updated ← query (updateRow (.row .audit op) (·.audit.get op) (·.outcome = .pending)
    fun db => { db with audit := db.audit.update op fun row => { row with outcome } })
  if updated then pure () else raise (.audit "operation has no pending audit row")

/-- The signer of an organiser's key: it signs only a command that has a pending audit row. -/
def organiserSign (op : OperationId) (kind : CommandKind) : Prog Unit := do
  match ← query (read (·.audit.get op)) with
  | none => raise (.audit "refusing to sign operation: it has no pending audit row")
  | some row =>
      if row.outcome = .pending ∧ row.kind = kind then ext (.sign op)
      else raise (.audit "refusing to sign operation: it has no pending audit row")

-- ---------------------------------------------------------------------------
-- Relaying a command
-- ---------------------------------------------------------------------------

/-- A command handed to the ledger's SDK: whether its audit row was written, and whether it was
signed. -/
structure Submitted where
  operation : OperationId
  recorded : Bool
  signed : Except Err Unit

def Submitted.operationId (s : Submitted) : Option OperationId :=
  match s.signed with
  | .ok () => some s.operation
  | .error _ => none

/-- Assembles a command, records it, and signs it. The SDK signs and submits it while its caller
goes on, so what fails here is found when the verdict is awaited. -/
def submit (request : RequestId) (command : Command) : Prog Submitted := do
  let op ← ext (.assemble command)
  match ← attempt (record request op command.kind) with
  | .error e => pure ⟨op, false, .error e⟩
  | .ok () => do
      let signed ← attempt (organiserSign op command.kind)
      pure ⟨op, true, signed⟩

/-- Adds a write's outcome to its audit row, when it has one. That this failed is only reported. -/
def Submitted.settle (s : Submitted) (outcome : AuditOutcome) : Prog Unit := do
  if s.recorded then
    let _ ← attempt (complete s.operation outcome)
    pure ()
  else pure ()

/-- Waits for a submission: the ledger's verdict, or an error when there is none. -/
def Submitted.wait (s : Submitted) : Prog (Except Code Cursor) := do
  match s.signed with
  | .error e => do
      s.settle .failed
      raise e
  | .ok () =>
    match ← attempt (ext (.verdict s.operation)) with
    | .error e => do
        s.settle .failed
        raise e
    | .ok (.ok cursor) => do
        s.settle .settled
        pure (.ok cursor)
    | .ok (.error code) => do
        s.settle (.rejected code)
        pure (.error code)

-- ---------------------------------------------------------------------------
-- The organiser's account
-- ---------------------------------------------------------------------------

/-- The organiser's row, with a key created for it if it had none. Creation holds the
organiser's row, so concurrent first requests create one key. -/
def accountRow (organiser : OrganiserId) : Prog LedgerAccount := do
  match ← query (read (·.accounts.get organiser)) with
  | some row => pure row
  | none => transaction do
      match ← selectForUpdate (.row .organisers organiser) (·.organisers.get organiser) with
      | none => raise (.error "no organiser")
      | some () =>
        match ← read (·.accounts.get organiser) with
        | some row => pure row
        | none => do
            let account ← ext (.createKey organiser)
            let row : LedgerAccount := { account, registration := false, registered := false }
            insert [.entry .accounts organiser] (fun db => (db.accounts.get organiser).isSome)
              fun db => { db with accounts := db.accounts.set organiser row }
            pure row

def provision (organiser : OrganiserId) (request : RequestId) : Prog AccountId := do
  let row ← accountRow organiser
  if row.registered then pure row.account
  else do
    ext (.key organiser)
    if row.registration then pure ()
    else do
      ext (.signRegistration organiser)
      let _ ← query (updateRow (.row .accounts organiser) (·.accounts.get organiser)
        (!·.registration) fun db => { db with
          accounts := db.accounts.update organiser fun r => { r with registration := true } })
      let _ ← query (read (·.accounts.get organiser))
      pure ()
    let submitted ← submit request (.registerCredential row.account)
    match ← submitted.wait with
    | .error code => raise (.spec code "" none)
    | .ok _ => do
        let _ ← query (updateRow (.row .accounts organiser) (·.accounts.get organiser)
          (!·.registered) fun db => { db with
            accounts := db.accounts.update organiser fun r => { r with registered := true } })
        pure row.account

/-- Relays one ledger write signed with the organiser's authority. It fails only while nothing
has been signed. -/
def relay (organiser : OrganiserId) (request : RequestId) (command : Command) :
    Prog Submitted := do
  let _ ← provision organiser request
  let _ ← query (read (·.accounts.get organiser))
  ext (.key organiser)
  submit request command

end Kippu
