import Kippu.Issuing.Runs

/-!
# Redeeming invitations

Any number of redemptions at work on the invitations of Kippu, by any accounts: each
claims an open invitation, runs a granted issuance for it, and settles the invitation
by what became of it. The ledger decides what was relayed at any time, once, and
tickets are issued on it in other ways too.
-/

namespace Kippu.Redeeming


/-- What `redeem` reads and writes of a row of `invitations`, found by its token's hash. -/
structure Invitation where
  status : Issuing.InvitationStatus
  holder : Option AccountId
  ticket : Option TicketId

structure Issuance where
  invitation : Issuing.InvitationId
  holder : AccountId
  ticket : TicketId
  verdict : Issuing.Submission

/-- A ticket on the ledger: the account it was issued to, and the relayed issuance that issued it,
if a redemption did. -/
structure Issue where
  holder : AccountId
  attempt : Option Issuing.Attempt

/-- How a granted issuance ended for a redemption: with its ticket, with a `SpecCodeError` or a
`RefusedRequest`, or with any other error. -/
inductive Result
  | issued (ticket : TicketId)
  | refusal
  | error

inductive Task
  /-- The invitation is claimed; before the issuance's row is committed. -/
  | reserve (i : Issuing.InvitationId) (holder : AccountId)
  /-- Before `authority.relay`. -/
  | relay (i : Issuing.InvitationId) (holder : AccountId)
  /-- `authority.relay` threw: before the issuance's row is deleted. -/
  | undo (i : Issuing.InvitationId) (thrown : Result)
  /-- Before the ticket's id is recorded. -/
  | ticket (i : Issuing.InvitationId) (a : Issuing.Attempt)
  | await (i : Issuing.InvitationId) (a : Issuing.Attempt)
  /-- Before the outcome is recorded. -/
  | complete (i : Issuing.InvitationId) (a : Issuing.Attempt) (outcome : Issuing.Outcome)
  /-- Before the invitation is given its last status. -/
  | settle (i : Issuing.InvitationId) (result : Result)

def Task.invitation : Task → Issuing.InvitationId
  | .reserve i _ | .relay i _ | .undo i _ | .ticket i _ | .await i _ | .complete i _ _
  | .settle i _ => i

structure State where
  invitations : Issuing.InvitationId → Option Invitation
  issuances : Issuing.Attempt → Option Issuance
  issued : TicketId → Option Issue
  tasks : ℕ → Option Task

namespace State

def put (s : State) (t : ℕ) (task : Option Task) : State :=
  { s with tasks := Function.update s.tasks t task }

def setInvitation (s : State) (i : Issuing.InvitationId) (row : Invitation) : State :=
  { s with invitations := Function.update s.invitations i (some row) }

def setIssuance (s : State) (a : Issuing.Attempt) (p : Issuance) : State :=
  { s with issuances := Function.update s.issuances a (some p) }

def issue (s : State) (k : TicketId) (x : Issue) : State :=
  { s with issued := Function.update s.issued k (some x) }

end State

-- ---------------------------------------------------------------------------
-- Functions of the source
-- ---------------------------------------------------------------------------

def created : Invitation := ⟨.opened, none, none⟩

def Invitation.claim (row : Invitation) (holder : AccountId) : Invitation :=
  { row with status := .redeeming, holder := some holder }

def Invitation.settle (row : Invitation) : Result → Invitation
  | .issued k => { row with status := .redeemed, ticket := some k }
  | .refusal => { row with status := .opened, holder := none }
  | .error => { row with status := .failed }

/-- What `issueGranted` returns or throws once its outcome is recorded. -/
def resultOf (k : TicketId) : Issuing.Outcome → Result
  | .issued => .issued k
  | .rejected => .refusal
  | .failed => .error

-- ---------------------------------------------------------------------------
-- Steps
-- ---------------------------------------------------------------------------

inductive Step (s : State) : State → Prop
  | creates : s.invitations i = none → Step s (s.setInvitation i created)
  /-- `redeem` claims an open invitation, for any account. -/
  | claims (x : AccountId) : s.tasks t = none → s.invitations i = some row → row.status = .opened →
      Step s ((s.setInvitation i (row.claim x)).put t (some (.reserve i x)))
  /-- The checks of `issueGranted`, or its reservation, refuse or fail. -/
  | reserveThrew (thrown : Result) : s.tasks t = some (.reserve i x) → (∀ k, thrown ≠ .issued k) →
      Step s (s.put t (some (.settle i thrown)))
  | reserved : s.tasks t = some (.reserve i x) → Step s (s.put t (some (.relay i x)))
  /-- Provisioning, or what precedes the submission, throws: nothing is submitted. -/
  | relayThrew (thrown : Result) : s.tasks t = some (.relay i x) → (∀ k, thrown ≠ .issued k) →
      Step s (s.put t (some (.undo i thrown)))
  | undone : s.tasks t = some (.undo i thrown) → Step s (s.put t (some (.settle i thrown)))
  | undoFailed : s.tasks t = some (.undo i thrown) → Step s (s.put t (some (.settle i .error)))
  /-- The issuance is relayed: it may be signed, and reach the ledger, from now on. -/
  | relayed (k : TicketId) : s.tasks t = some (.relay i x) → s.issuances a = none →
      Step s ((s.setIssuance a ⟨i, x, k, .submitted⟩).put t (some (.ticket i a)))
  | ticketed : s.tasks t = some (.ticket i a) → Step s (s.put t (some (.await i a)))
  | ticketFailed : s.tasks t = some (.ticket i a) → Step s (s.put t (some (.settle i .error)))
  /-- The ledger issues the ticket, if it holds none of its id. -/
  | lands : s.issuances a = some p → p.verdict = .submitted → s.issued p.ticket = none →
      Step s ((s.setIssuance a { p with verdict := .accepted }).issue p.ticket ⟨p.holder, some a⟩)
  | refuses : s.issuances a = some p → p.verdict = .submitted →
      Step s (s.setIssuance a { p with verdict := .refused })
  /-- A sale, or an issuance of no invitation, issues a ticket. -/
  | issuedElsewhere (x : AccountId) : s.issued k = none → Step s (s.issue k ⟨x, none⟩)
  | settledVerdict : s.tasks t = some (.await i a) → s.issuances a = some p →
      p.verdict = .accepted → Step s (s.put t (some (.complete i a .issued)))
  | rejectedVerdict : s.tasks t = some (.await i a) → s.issuances a = some p →
      p.verdict = .refused → Step s (s.put t (some (.complete i a .rejected)))
  /-- The submission ends without a verdict, whatever the ledger does. -/
  | noVerdict : s.tasks t = some (.await i a) → Step s (s.put t (some (.complete i a .failed)))
  | completed : s.tasks t = some (.complete i a outcome) → s.issuances a = some p →
      Step s (s.put t (some (.settle i (resultOf p.ticket outcome))))
  | completeFailed : s.tasks t = some (.complete i a outcome) →
      Step s (s.put t (some (.settle i .error)))
  | settled : s.tasks t = some (.settle i result) → s.invitations i = some row →
      Step s ((s.setInvitation i (row.settle result)).put t none)
  /-- The process stops, or its last statement fails. -/
  | stops : s.tasks t = some k → Step s (s.put t none)

inductive Steps (s : State) : State → Prop
  | refl : Steps s s
  | step : Steps s s' → Step s' s'' → Steps s s''

structure State.Initial (s : State) : Prop where
  invitations : ∀ i, s.invitations i = none
  issuances : ∀ a, s.issuances a = none
  issued : ∀ k x, s.issued k = some x → x.attempt = none
  tasks : ∀ t, s.tasks t = none

end Kippu.Redeeming
