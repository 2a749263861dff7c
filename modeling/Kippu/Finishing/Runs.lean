import Mathlib.Logic.Function.Basic
import Mathlib.Order.Nat

/-!
# Running a scheduled finish

One event's schedule, from the moment it is first set: the scheduler processes that
claim and run it or settle it under its run lock, the organiser who sets it again or
cancels it, and the ledger, which may accept a submission as long as it is valid. A
schedule that is set again keeps its id, so every run of it is audited under one
request.
-/

namespace Kippu.Finishing

/-- How long before a scheduled `Finished` its notice is due. -/
def FINISH_NOTICE_MS : ℕ := 24 * 60 * 60 * 1000

/-- How long past an unanswered submission's lifetime reconciliation still waits. -/
def OPERATION_EXPIRY_MARGIN_MS : ℕ := 60 * 1000

/-- A scheduler's connection. -/
abbrev Proc := ℕ

/-- The operation id of an audited write. -/
abbrev Operation := ℕ

inductive Status
  | scheduled
  | running
  | finished
  | refused
  | cancelled
  deriving DecidableEq

/-- The row of `finish_schedules`. How often it was set again and claimed is not in the source. -/
structure Schedule where
  finishAt : ℕ
  status : Status
  noticed : Bool
  setting : ℕ
  run : ℕ

def Schedule.due (row : Schedule) (at_ : ℕ) : Prop :=
  row.status = .scheduled ∧ row.noticed = true ∧ row.finishAt ≤ at_

/-- A claim, with the row it found and the clock it was made by. -/
structure Claim where
  row : Schedule
  at_ : ℕ

inductive Outcome
  | pending
  | settled
  | rejected
  | failed
  deriving DecidableEq

/-- A row of `audit_log` of a `setEventStatus` under the schedule's request. The claim it was made
under, and what became of it on the ledger, are not in the row. -/
structure AuditRow where
  outcome : Outcome
  recordedAt : ℕ
  claim : Claim
  submitted : Bool
  verdict : Option Bool

def AuditRow.setting (row : AuditRow) : ℕ := row.claim.row.setting

def AuditRow.run (row : AuditRow) : ℕ := row.claim.row.run + 1

/-- Whether the ledger can accept the submission, by its own clock. -/
def AuditRow.CanBeAccepted (operationLifetime clock : ℕ) (row : AuditRow) : Prop :=
  row.submitted = true ∧ row.verdict = none ∧ clock < row.recordedAt + operationLifetime

/-- Whether the submission may still land, as `settle` judges it. -/
def AuditRow.MayLand (operationLifetime at_ : ℕ) (row : AuditRow) : Prop :=
  (row.outcome = .pending ∨ row.outcome = .failed) ∧
    at_ < row.recordedAt + operationLifetime + OPERATION_EXPIRY_MARGIN_MS

/-- Who closed the event's sales: a run of the schedule, or another call. -/
inductive Closer
  | byRun
  | byOther
  deriving DecidableEq

inductive Task
  | idle
  /-- `runDue` read its clock. -/
  | due (at_ : ℕ)
  | claiming (at_ : ℕ)
  /-- `status.finish`, before anything is audited. -/
  | finishing (claim : Claim)
  | signing (op : Operation)
  | awaiting (op : Operation)
  /-- The ledger refused the run. -/
  | refused
  /-- `run` is about to record how the finish ended. -/
  | recording (status : Status)
  /-- `reconcile` holds the run lock. -/
  | reading
  | settling
  /-- `settle` read the ledger: the event is not `Finished`. -/
  | judging
  /-- `settle` read the ledger and the audit log. -/
  | settled (status : Status)
  | unlocking

def Task.Locked : Task → Prop
  | .idle => False
  | .due _ => False
  | _ => True

structure State where
  row : Schedule
  lock : Option Proc
  task : Proc → Task
  audit : Operation → Option AuditRow
  /-- The ledger has the event `Finished`. -/
  finished : Bool
  closure : Option Closer
  /-- The ledger's clock. -/
  clock : ℕ

def State.goto (s : State) (p : Proc) (t : Task) : State :=
  { s with task := Function.update s.task p t }

def State.setRow (s : State) (row : Schedule) : State := { s with row }

def State.put (s : State) (op : Operation) (row : AuditRow) : State :=
  { s with audit := Function.update s.audit op (some row) }

def State.unlock (s : State) (p : Proc) : State :=
  { s with lock := if s.lock = some p then none else s.lock }.goto p .idle

/-- What a process's clock may read: the ledger's is at most the margin behind. -/
def State.Reads (s : State) (at_ : ℕ) : Prop := at_ ≤ s.clock + OPERATION_EXPIRY_MARGIN_MS

/-- The audit log has a run refused. -/
def State.Refused (s : State) : Prop := ∃ op row, s.audit op = some row ∧ row.outcome = .rejected

/-- The audit log has a run refused from before the schedule was last set. -/
def State.RefusedBefore (s : State) : Prop :=
  ∃ op row, s.audit op = some row ∧ row.outcome = .rejected ∧ row.setting ≠ s.row.setting

/-- One step, where `settle` finds a run refused in the states that `may` says. -/
inductive Step (operationLifetime : ℕ) (may : State → Prop) (s : State) : State → Prop
  | ticks : s.clock ≤ clock → Step operationLifetime may s { s with clock }
  /-- Someone else finishes the event. -/
  | finishedElsewhere : Step operationLifetime may s { s with finished := true }
  /-- Other calls close the event's sales and reopen them. -/
  | salesElsewhere (closure : Option Closer) : closure ≠ some .byRun →
      Step operationLifetime may s { s with closure }
  -- the organiser
  | schedules (finishAt : ℕ) : s.row.status ≠ .running → s.row.status ≠ .finished →
      Step operationLifetime may s
        (s.setRow ⟨finishAt, .scheduled, false, s.row.setting + 1, s.row.run⟩)
  | cancels : s.row.status = .scheduled →
      Step operationLifetime may s (s.setRow { s.row with status := .cancelled })
  -- `runDue`
  | notices : s.Reads at_ → s.row.status = .scheduled → s.row.finishAt ≤ at_ + FINISH_NOTICE_MS →
      Step operationLifetime may s (s.setRow { s.row with noticed := true })
  | readsClock : s.task p = .idle → s.Reads at_ → Step operationLifetime may s (s.goto p (.due at_))
  | locksDue : s.task p = .due at_ → s.lock = none →
      Step operationLifetime may s ({ s with lock := some p }.goto p (.claiming at_))
  | claims : s.task p = .claiming at_ → s.row.due at_ →
      Step operationLifetime may s
        ((s.setRow { s.row with status := .running, run := s.row.run + 1 }).goto p
          (.finishing ⟨s.row, at_⟩))
  -- `run`
  | releases : s.task p = .finishing claim → s.closure = none →
      Step operationLifetime may s { s with closure := some .byRun }
  /-- Refused before anything is submitted. -/
  | refusedEarly : s.task p = .finishing claim →
      Step operationLifetime may s (s.goto p (.recording .refused))
  | audits : s.task p = .finishing claim → s.audit op = none → s.Reads at_ →
      Step operationLifetime may s
        ((s.put op ⟨.pending, at_, claim, false, none⟩).goto p (.signing op))
  | submits : s.task p = .signing op → s.audit op = some row →
      Step operationLifetime may s ((s.put op { row with submitted := true }).goto p (.awaiting op))
  | accepts : s.audit op = some row → row.CanBeAccepted operationLifetime s.clock →
      s.finished = false →
      Step operationLifetime may s
        ({ s with finished := true }.put op { row with verdict := some true })
  | refuses : s.audit op = some row → row.submitted = true → row.verdict = none →
      Step operationLifetime may s (s.put op { row with verdict := some false })
  /-- The verdict arrives; recording it may fail. -/
  | hearsAccepted : s.task p = .awaiting op → s.audit op = some row → row.verdict = some true →
      outcome = .settled ∨ outcome = row.outcome →
      Step operationLifetime may s
        ((s.put op { row with outcome }).goto p (.recording .finished))
  | hearsRefused : s.task p = .awaiting op → s.audit op = some row → row.verdict = some false →
      outcome = .rejected ∨ outcome = row.outcome →
      Step operationLifetime may s ((s.put op { row with outcome }).goto p .refused)
  /-- The write ends without a verdict. -/
  | loses : s.task p = .signing op ∨ s.task p = .awaiting op → s.audit op = some row →
      Step operationLifetime may s ((s.put op { row with outcome := .failed }).goto p .unlocking)
  /-- A refused run that released the event reopens its sales. -/
  | reopens : s.task p = .refused →
      Step operationLifetime may s ({ s with closure := none }.goto p (.recording .refused))
  | reopensNothing : s.task p = .refused →
      Step operationLifetime may s (s.goto p (.recording .refused))
  | records : s.task p = .recording status →
      Step operationLifetime may s ((s.setRow { s.row with status }).goto p .unlocking)
  -- `reconcile`
  | locksRunning : s.task p = .idle → s.lock = none →
      Step operationLifetime may s ({ s with lock := some p }.goto p .reading)
  | readsRow : s.task p = .reading → s.row.status = .running →
      Step operationLifetime may s (s.goto p .settling)
  | findsFinished : s.task p = .settling → s.finished = true →
      Step operationLifetime may s (s.goto p (.settled .finished))
  | findsUnfinished : s.task p = .settling → s.finished = false →
      Step operationLifetime may s (s.goto p .judging)
  | findsRefused : s.task p = .judging → s.Refused → may s →
      Step operationLifetime may s (s.goto p (.settled .refused))
  | findsExpired : s.task p = .judging → ¬ s.Refused → s.Reads at_ →
      (∀ op row, s.audit op = some row → ¬ row.MayLand operationLifetime at_) →
      Step operationLifetime may s (s.goto p (.settled .scheduled))
  /-- The closure in force is that of a run. -/
  | settleReopens : s.task p = .settled .refused → s.closure = some .byRun →
      Step operationLifetime may s { s with closure := none }
  | settles : s.task p = .settled status →
      Step operationLifetime may s ((s.setRow { s.row with status }).goto p .unlocking)
  /-- Nothing to claim or to settle yet, or a call failed. -/
  | ends : (s.task p).Locked → Step operationLifetime may s (s.goto p .unlocking)
  | unlocks : s.task p = .unlocking → Step operationLifetime may s (s.unlock p)
  /-- The process stops, and its run lock with it. -/
  | stops : Step operationLifetime may s (s.unlock p)

inductive Steps (operationLifetime : ℕ) (may : State → Prop) (s : State) : State → Prop
  | refl : Steps operationLifetime may s s
  | step : Steps operationLifetime may s s' → Step operationLifetime may s' s'' →
      Steps operationLifetime may s s''

structure State.Initial (s : State) : Prop where
  status : s.row.status = .scheduled
  noticed : s.row.noticed = false
  lock : s.lock = none
  task : ∀ p, s.task p = .idle
  audit : ∀ op, s.audit op = none

end Kippu.Finishing
