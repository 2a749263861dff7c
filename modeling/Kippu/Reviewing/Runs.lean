import Kippu.Store
import Mathlib.Logic.Function.Basic

/-!
# Reviewing capacity proofs

The requests for a higher capacity, of any events, and the reviewers who approve and
reject them. An approval submits its write, with a new random proof id, inside the
transaction that then records it; the transaction may end without that record.
-/

namespace Kippu.Reviewing

abbrev Call := ℕ

structure Request where
  event : EventId
  capacity : Option ℕ
  status : ProofStatus
  proof : Option ℕ
  cursor : Option Cursor

/-- A `setEventCapacity` with a proof that awaits the ledger. -/
structure Submission where
  request : ProofRequestId
  capacity : Option ℕ
  proof : ℕ

/-- One that the ledger accepted. The approval and the request it came from are not in the log. -/
structure Write where
  call : Call
  request : ProofRequestId
  capacity : Option ℕ
  proof : ℕ
  cursor : Cursor

inductive Task
  | idle
  /-- Under the event's allocation lock. -/
  | locked (i : ProofRequestId)
  /-- The row is read and locked, and pending. -/
  | read (i : ProofRequestId) (capacity : Option ℕ)
  | submitted (i : ProofRequestId) (proof : ℕ)
  | accepted (i : ProofRequestId) (proof : ℕ) (cursor : Cursor)
  | ended
  deriving DecidableEq

def Task.Open : Task → Prop
  | .idle => False
  | .ended => False
  | _ => True

structure State where
  requests : Conc.Table Request
  /-- The events' allocation locks, and the locks of the rows. -/
  lock : EventId → Option Call
  rowLock : ProofRequestId → Option Call
  task : Call → Task
  flight : Call → Option Submission
  log : List Write

def State.goto (s : State) (c : Call) (t : Task) : State :=
  { s with task := Function.update s.task c t }

def State.setRequests (s : State) (requests : Conc.Table Request) : State := { s with requests }

def State.unlock (s : State) (c : Call) : State :=
  { s with
    lock := fun e => if s.lock e = some c then none else s.lock e
    rowLock := fun i => if s.rowLock i = some c then none else s.rowLock i }.goto c .ended

def State.Accepted (s : State) (c : Call) : Prop := ∃ w ∈ s.log, w.call = c

/-- One step, where the ledger accepts the writes of transactions that ended, and transactions end
without their record though their write was accepted, only if `late` says so. -/
inductive Step (late : Prop) (s : State) : State → Prop
  | requested : s.requests.get i = none →
      (∀ j row, s.requests.get j = some row → row.event = event → row.status ≠ .pending) →
      Step late s (s.setRequests (s.requests.set i ⟨event, capacity, .pending, none, none⟩))
  | rejects : s.requests.get i = some row → row.status = .pending → s.rowLock i = none →
      Step late s
        (s.setRequests (s.requests.update i fun r => { r with status := .rejected }))
  -- `approve`
  | locks : s.task c = .idle → s.requests.get i = some row → s.lock row.event = none →
      Step late s ({ s with lock := Function.update s.lock row.event (some c) }.goto c (.locked i))
  | reads : s.task c = .locked i → s.requests.get i = some row → s.rowLock i = none →
      row.status = .pending →
      Step late s ({ s with rowLock := Function.update s.rowLock i (some c) }.goto c
        (.read i row.capacity))
  | submits (proof : ℕ) : s.task c = .read i capacity →
      Step late s ({ s with flight := Function.update s.flight c (some ⟨i, capacity, proof⟩) }.goto c
        (.submitted i proof))
  | accepts : s.flight c = some x → (∀ w ∈ s.log, w.cursor < cursor) →
      (late ∨ (s.task c).Open) →
      Step late s { s with
        flight := Function.update s.flight c none
        log := s.log ++ [⟨c, x.request, x.capacity, x.proof, cursor⟩] }
  | refuses : s.flight c = some x →
      Step late s { s with flight := Function.update s.flight c none }
  | hears : s.task c = .submitted i proof → w ∈ s.log → w.call = c →
      Step late s (s.goto c (.accepted i proof w.cursor))
  | commits : s.task c = .accepted i proof cursor →
      Step late s ((s.setRequests (s.requests.update i fun r =>
        { r with status := .approved, proof := some proof, cursor := some cursor })).unlock c)
  /-- Refused, without a verdict, not committed, or the process stops. -/
  | ends : (s.task c).Open → (late ∨ ¬ s.Accepted c) → Step late s (s.unlock c)

inductive Steps (late : Prop) (s : State) : State → Prop
  | refl : Steps late s s
  | step : Steps late s s' → Step late s' s'' → Steps late s s''

structure State.Initial (s : State) : Prop where
  rowLock : ∀ i, s.rowLock i = none
  task : ∀ c, s.task c = .idle
  flight : ∀ c, s.flight c = none
  log : s.log = []
  approved : ∀ i row, s.requests.get i = some row → row.status ≠ .approved

end Kippu.Reviewing
