import Kippu.Store
import Mathlib.Logic.Function.Basic

/-!
# Attributing a sale's issuance

The issuance of a primary sale, from the audit row of its operation to the sale's
`operation_id`, by which `primary_checkout_audit` joins the two. The SDK asks for the
signature while the sale goes on to record its ticket; the row is written before the
signature, the operation is known after it and stored once the submission is over. The
store and the key service may fail, and the process stop, at any point.
-/

namespace Kippu.Attribution

inductive CommandKind
  | issueTicket
  | other
  deriving DecidableEq

inductive Cause
  | sale (j : SaleId)
  | granted (a : GrantedId)
  | other
  deriving DecidableEq

/-- A row of `audit_log`, by its operation; that it was a sale's is not in the store. -/
structure AuditRow where
  cause : Cause
  kind : CommandKind
  deriving DecidableEq

/-- Where the signing of the issuance stands: not asked for; asked for; its row recorded; signed;
over without a signature, or with the process. -/
inductive Signing
  | idle
  | asked
  | recorded (o : OperationId)
  | signed (o : OperationId)
  | over
  deriving DecidableEq

/-- Where `issue` stands: before `authority.relay`, the ticket's UPDATE, the end of the submission,
`recordOperation`, `complete`; or at its end. -/
inductive Point
  | relays
  | tickets
  | awaits
  | records
  | completes
  | ended
  deriving DecidableEq

structure Issue where
  point : Point
  signing : Signing
  operationId : Option OperationId

structure State where
  audit : OperationId → Option AuditRow
  /-- The `operation_id` of each row of `primary_sales`. -/
  sales : SaleId → Option (Option OperationId)
  issues : SaleId → Option Issue
  /-- The operation that the sale's ticket was signed as. -/
  signedAs : SaleId → Option OperationId

namespace State

def record (s : State) (o : OperationId) (row : AuditRow) : State :=
  { s with audit := Function.update s.audit o (some row) }

def setOperation (s : State) (j : SaleId) (o : Option OperationId) : State :=
  { s with sales := Function.update s.sales j (some o) }

def setIssue (s : State) (j : SaleId) (w : Issue) : State :=
  { s with issues := Function.update s.issues j (some w) }

def sign (s : State) (j : SaleId) (o : OperationId) : State :=
  { s with signedAs := Function.update s.signedAs j (some o) }

/-- A row of `primary_checkout_audit`: the audit row of an operation, joined to a sale. -/
def View (s : State) (o : OperationId) (j : SaleId) : Prop :=
  (∃ row, s.audit o = some row) ∧ s.sales j = some (some o)

def Unjoined (s : State) (j : SaleId) (w : Issue) : Prop :=
  ∃ o, (w.signing = .recorded o ∨ w.signing = .signed o) ∧ s.sales j ≠ some (some o)

end State

/-- One step. The steps that need `fails` lose an issuance whose row is recorded: its signature
fails, or what would name it in the sale ends first. -/
inductive Step (fails : Prop) (s : State) : State → Prop
  /-- A sale takes its place, and `issue` begins. -/
  | begins : s.sales j = none →
      Step fails s ((s.setOperation j none).setIssue j ⟨.relays, .idle, none⟩)
  /-- A write that is not a sale's issuance is recorded: a granted issuance's, say. -/
  | recordsOther (row : AuditRow) : s.audit o = none →
      (∀ j, row ≠ ⟨.sale j, .issueTicket⟩) → Step fails s (s.record o row)
  | relayThrew : s.issues j = some w → w.point = .relays →
      Step fails s (s.setIssue j { w with point := .completes })
  | relayed : s.issues j = some w → w.point = .relays →
      Step fails s (s.setIssue j { w with point := .tickets, signing := .asked })
  /-- The audited signer records the operation, also once `issue` has thrown. -/
  | audits : s.issues j = some w → w.signing = .asked → s.audit o = none →
      (w.point = .ended → fails) →
      Step fails s ((s.record o ⟨.sale j, .issueTicket⟩).setIssue j
        { w with signing := .recorded o })
  /-- No row is recorded, and nothing signed. -/
  | auditThrew : s.issues j = some w → w.signing = .asked →
      Step fails s (s.setIssue j { w with signing := .over })
  /-- The row is recorded, but the answer is lost. -/
  | auditLost : s.issues j = some w → w.signing = .asked → s.audit o = none → fails →
      Step fails s ((s.record o ⟨.sale j, .issueTicket⟩).setIssue j { w with signing := .over })
  | signs : s.issues j = some w → w.signing = .recorded o →
      Step fails s ((s.sign j o).setIssue j
        { w with signing := .signed o, operationId := some o })
  /-- The key service fails. -/
  | signThrew : s.issues j = some w → w.signing = .recorded o → fails →
      Step fails s (s.setIssue j { w with signing := .over })
  | ticketed : s.issues j = some w → w.point = .tickets →
      Step fails s (s.setIssue j { w with point := .awaits })
  | ticketFailed : s.issues j = some w → w.point = .tickets → (s.Unjoined j w → fails) →
      Step fails s (s.setIssue j { w with point := .ended })
  /-- The submission settles, is rejected or fails: not before its signing is over. -/
  | submissionEnds : s.issues j = some w → w.point = .awaits →
      (w.signing = .over ∨ ∃ o, w.signing = .signed o) →
      Step fails s (s.setIssue j { w with point := .records })
  | recordsOperation : s.issues j = some w → w.point = .records → w.operationId = some o →
      Step fails s ((s.setOperation j (some o)).setIssue j { w with point := .completes })
  | recordsNothing : s.issues j = some w → w.point = .records → w.operationId = none →
      Step fails s (s.setIssue j { w with point := .completes })
  | recordFailed : s.issues j = some w → w.point = .records → (s.Unjoined j w → fails) →
      Step fails s (s.setIssue j { w with point := .ended })
  /-- The operation is stored, but the answer is lost. -/
  | recordLost : s.issues j = some w → w.point = .records → w.operationId = some o →
      Step fails s ((s.setOperation j (some o)).setIssue j { w with point := .ended })
  | completed : s.issues j = some w → w.point = .completes →
      Step fails s (s.setIssue j { w with point := .ended })
  /-- The process stops. -/
  | stops : s.issues j = some w → (s.Unjoined j w → fails) →
      Step fails s (s.setIssue j { w with point := .ended, signing := .over })

inductive Steps (fails : Prop) (s : State) : State → Prop
  | refl : Steps fails s s
  | step : Steps fails s s' → Step fails s' s'' → Steps fails s s''

structure State.Initial (s : State) : Prop where
  audit : ∀ o j, s.audit o ≠ some ⟨.sale j, .issueTicket⟩
  sales : ∀ j, s.sales j = none
  issues : ∀ j, s.issues j = none

end Kippu.Attribution
