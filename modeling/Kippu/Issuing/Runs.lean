import Kippu.Store
import Mathlib.Logic.Function.Basic

/-!
# Issuing tickets

The three ways Kippu issues a ticket: the sale of a paid hold, a granted issuance,
and the redemption of an invitation, which runs a granted issuance. Each attempt
reserves a place, relays one issuance, waits for its verdict and records it. An
error is told apart only by its class and by where it is thrown; the store may
fail, before or after a statement took effect, and a process may stop, anywhere.
-/

namespace Kippu.Issuing

abbrev Attempt := ℕ
abbrev InvitationId := ℕ

/-- A row of `invitations`; `opened` is the source's `open`. -/
inductive InvitationStatus
  | opened
  | redeeming
  | redeemed
  | failed
  deriving DecidableEq

/-- What an attempt issues a ticket for: a row of `primary_sales` or of `granted_issuances`. -/
inductive Purpose
  | sale (hold : HoldId)
  | grant (invitation : Option InvitationId)
  deriving DecidableEq

/-- What became of an attempt's issuance: not relayed; relayed, so that it may be signed and may
reach the ledger at any time; issued; refused by the ledger. -/
inductive Submission
  | unsubmitted
  | submitted
  | accepted
  | refused
  deriving DecidableEq

inductive Outcome
  | issued
  | rejected
  | failed
  deriving DecidableEq

/-- How a granted issuance ended for a redemption: with a ticket, with a `SpecCodeError` or a
`RefusedRequest`, or with any other error. -/
inductive GrantResult
  | issued
  | refusal
  | error
  deriving DecidableEq

inductive Task
  /-- `issueGranted`, until its row is committed. -/
  | reserve (invitation : Option InvitationId)
  /-- Before `authority.relay`. -/
  | relay (a : Attempt) (purpose : Purpose)
  /-- `authority.relay` threw: before the row of a granted issuance is deleted. -/
  | undo (a : Attempt) (invitation : Option InvitationId) (thrown : GrantResult)
  /-- Before the ticket's id is recorded. -/
  | ticket (a : Attempt) (purpose : Purpose)
  /-- Awaiting the submission. -/
  | await (a : Attempt) (purpose : Purpose)
  /-- Before the outcome is recorded. -/
  | complete (a : Attempt) (purpose : Purpose) (outcome : Outcome)
  /-- `redeem`: before the invitation is given its last status. -/
  | settle (invitation : InvitationId) (result : GrantResult)

structure State where
  ledger : Attempt → Submission
  purpose : Attempt → Option Purpose
  nextAttempt : Attempt
  holds : HoldId → Option HoldStatus
  granted : Attempt → Option GrantedStatus
  /-- Whether a refund for a rejected issuance is recorded for the attempt. -/
  refunded : Attempt → Bool
  invitations : InvitationId → Option InvitationStatus
  tasks : ℕ → Option Task
  nextTask : ℕ

def State.put (s : State) (t : ℕ) (task : Option Task) : State :=
  { s with tasks := Function.update s.tasks t task }

def State.spawn (s : State) (task : Task) : State :=
  { s with tasks := Function.update s.tasks s.nextTask (some task), nextTask := s.nextTask + 1 }

def State.setLedger (s : State) (a : Attempt) (submission : Submission) : State :=
  { s with ledger := Function.update s.ledger a submission }

def State.setHold (s : State) (i : HoldId) (status : HoldStatus) : State :=
  { s with holds := Function.update s.holds i (some status) }

def State.setGranted (s : State) (a : Attempt) (status : Option GrantedStatus) : State :=
  { s with granted := Function.update s.granted a status }

def State.setInvitation (s : State) (i : InvitationId) (status : InvitationStatus) : State :=
  { s with invitations := Function.update s.invitations i (some status) }

def State.attempt (s : State) (purpose : Purpose) : State :=
  { s with
    purpose := Function.update s.purpose s.nextAttempt (some purpose)
    nextAttempt := s.nextAttempt + 1 }

-- ---------------------------------------------------------------------------
-- Functions of the source
-- ---------------------------------------------------------------------------

/-- What follows `issueGranted`: `redeem` goes on, if it called it. -/
def afterGrant (invitation : Option InvitationId) (result : GrantResult) : Option Task :=
  invitation.map fun i => .settle i result

def afterError : Purpose → Option Task
  | .sale _ => none
  | .grant invitation => afterGrant invitation .error

/-- What follows when `authority.relay` throws: nothing was signed. -/
def afterRelayThrew (a : Attempt) (thrown : GrantResult) : Purpose → Task
  | .sale hold => .complete a (.sale hold) .rejected
  | .grant invitation => .undo a invitation thrown

/-- What `complete` records of an attempt. A hold that is not issued is given back only if it is
issuing, and refunded. -/
def recordOutcome (s : State) (a : Attempt) : Purpose → Outcome → State
  | .sale hold, .issued => s.setHold hold .confirmed
  | .sale hold, .rejected =>
    let s := { s with refunded := Function.update s.refunded a true }
    if s.holds hold = some .issuing then s.setHold hold .released else s
  | .sale _, .failed => s
  | .grant _, .issued => s.setGranted a (some .settled)
  | .grant _, .rejected => s.setGranted a (some .rejected)
  | .grant _, .failed => s.setGranted a (some .failed)

/-- What follows `complete`: a rejected granted issuance throws a `SpecCodeError`, one without a
verdict the error of its submission, which is none of Kippu's refusals. -/
def afterComplete : Purpose → Outcome → Option Task
  | .sale _, _ => none
  | .grant invitation, .issued => afterGrant invitation .issued
  | .grant invitation, .rejected => afterGrant invitation .refusal
  | .grant invitation, .failed => afterGrant invitation .error

def redeemed : GrantResult → InvitationStatus
  | .issued => .redeemed
  | .refusal => .opened
  | .error => .failed

-- ---------------------------------------------------------------------------
-- Steps
-- ---------------------------------------------------------------------------

inductive Step (s : State) : State → Prop
  /-- The ledger decides an issuance that was relayed, once. -/
  | lands : s.ledger a = .submitted → Step s (s.setLedger a .accepted)
  | refuses : s.ledger a = .submitted → Step s (s.setLedger a .refused)
  | held : s.holds i = none → Step s (s.setHold i .outstanding)
  /-- An outstanding hold lapses or is released. -/
  | holdEnded (status : HoldStatus) : s.holds i = some .outstanding →
      status = .lapsed ∨ status = .released → Step s (s.setHold i status)
  /-- A verified payment takes the place of a hold that is not another payment's. -/
  | taken : s.holds i = some status →
      status = .outstanding ∨ status = .lapsed ∨ status = .released →
      Step s (((s.setHold i .issuing).attempt (.sale i)).spawn (.relay s.nextAttempt (.sale i)))
  | grantBegun : Step s (s.spawn (.reserve none))
  | invited : s.invitations i = none → Step s (s.setInvitation i .opened)
  /-- An open invitation is claimed. -/
  | claimed : s.invitations i = some .opened →
      Step s ((s.setInvitation i .redeeming).spawn (.reserve (some i)))
  | reserveThrew (thrown : GrantResult) : s.tasks t = some (.reserve invitation) →
      thrown ≠ .issued → Step s (s.put t (afterGrant invitation thrown))
  | reserved : s.tasks t = some (.reserve invitation) →
      Step s (((s.attempt (.grant invitation)).setGranted s.nextAttempt (some .pending)).put t
        (some (.relay s.nextAttempt (.grant invitation))))
  /-- The row is committed, but the answer is lost. -/
  | reserveLost : s.tasks t = some (.reserve invitation) →
      Step s (((s.attempt (.grant invitation)).setGranted s.nextAttempt (some .pending)).put t
        (afterGrant invitation .error))
  /-- `authority.relay`, or what precedes it in its `try`, throws: nothing is submitted. -/
  | relayThrew (thrown : GrantResult) : s.tasks t = some (.relay a purpose) →
      thrown ≠ .issued → Step s (s.put t (some (afterRelayThrew a thrown purpose)))
  | relayed : s.tasks t = some (.relay a purpose) →
      Step s ((s.setLedger a .submitted).put t (some (.ticket a purpose)))
  | undone : s.tasks t = some (.undo a invitation thrown) →
      Step s ((s.setGranted a none).put t (afterGrant invitation thrown))
  | undoLost : s.tasks t = some (.undo a invitation thrown) →
      Step s ((s.setGranted a none).put t (afterGrant invitation .error))
  | undoFailed : s.tasks t = some (.undo a invitation thrown) →
      Step s (s.put t (afterGrant invitation .error))
  | ticketed : s.tasks t = some (.ticket a purpose) →
      Step s (s.put t (some (.await a purpose)))
  | ticketFailed : s.tasks t = some (.ticket a purpose) →
      Step s (s.put t (afterError purpose))
  | settledVerdict : s.tasks t = some (.await a purpose) →
      Step s (s.put t (some (.complete a purpose .issued)))
  /-- A refusal is the ledger's verdict. -/
  | rejectedVerdict : s.tasks t = some (.await a purpose) → s.ledger a = .refused →
      Step s (s.put t (some (.complete a purpose .rejected)))
  /-- The submission ends without one, whatever the ledger does. -/
  | noVerdict : s.tasks t = some (.await a purpose) →
      Step s (s.put t (some (.complete a purpose .failed)))
  | completed : s.tasks t = some (.complete a purpose outcome) →
      Step s ((recordOutcome s a purpose outcome).put t (afterComplete purpose outcome))
  | completeLost : s.tasks t = some (.complete a purpose outcome) →
      Step s ((recordOutcome s a purpose outcome).put t (afterError purpose))
  | completeFailed : s.tasks t = some (.complete a purpose outcome) →
      Step s (s.put t (afterError purpose))
  | settled : s.tasks t = some (.settle i result) →
      Step s ((s.setInvitation i (redeemed result)).put t none)
  /-- The process stops, or its last statement fails. -/
  | stops : s.tasks t = some task → Step s (s.put t none)

inductive Steps (s : State) : State → Prop
  | refl : Steps s s
  | step : Steps s s' → Step s' s'' → Steps s s''

structure State.Initial (s : State) : Prop where
  ledger : ∀ a, s.ledger a = .unsubmitted
  purpose : ∀ a, s.purpose a = none
  granted : ∀ a, s.granted a = none
  refunded : ∀ a, s.refunded a = false
  tasks : ∀ t, s.tasks t = none

end Kippu.Issuing
