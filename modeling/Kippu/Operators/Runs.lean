import Kippu.Conc.Codes
import Kippu.Store

/-!
# Operator enrolment

An organiser issues one-time enrolment codes for an operator, a device redeems one for a
session, and revoking the operator's sessions voids the codes first and then ends the
sessions, each in its own statement of one transaction. Issuing and revoking lock the
operator's row. A request's `now()` is read at some time before the statement that uses it.
-/

namespace Kippu.Operators

open Conc

abbrev Call := ℕ
abbrev OperatorId := ℕ
/-- Stands for a code's hash. -/
abbrev CodeId := ℕ
/-- A session, or the token that names it. -/
abbrev SessionId := ℕ

def ENROLMENT_CODE_MS : Time := 60 * 60 * 1000
def OPERATOR_SESSION_MS : Time := 24 * 60 * 60 * 1000

/-- A row of `sessions`, with the code whose redemption opened it, which no column keeps. -/
structure Session where
  operator : OperatorId
  code : CodeId
  expiresAt : Time
  revoked : Bool

/-- What a call is doing besides its statements on codes. -/
inductive Task
  | other
  /-- `revokeSessions`, which read the time `at_`. -/
  | revoking (at_ : Time)
  /-- Its second statement has run, on the sessions picked. -/
  | swept (at_ : Time) (picked : SessionId → Bool)

structure State where
  codes : Codes.State OperatorId CodeId
  sessions : SessionId → Option Session
  task : Call → Task
  clock : Time

def State.authenticate (s : State) (i : SessionId) : Option OperatorId :=
  match s.sessions i with
  | some x => if !x.revoked && s.clock < x.expiresAt then some x.operator else none
  | none => none

/-- The sessions `UPDATE sessions SET revoked_at` selects. -/
def State.live (s : State) (o : OperatorId) (at_ : Time) (i : SessionId) : Bool :=
  (s.sessions i).any fun x => x.operator = o && !x.revoked && at_ < x.expiresAt

def State.revoke (s : State) (picked : SessionId → Bool) : State :=
  { s with sessions := fun i => (s.sessions i).map fun x =>
      if picked i then { x with revoked := true } else x }

def State.goto (s : State) (c : Call) (t : Task) : State :=
  { s with task := Function.update s.task c t }

def State.openSession (s : State) (i : SessionId) (x : Session) : State :=
  { s with sessions := Function.update s.sessions i (some x) }

/-- `revokeSessions` of an operator commits. -/
inductive Revokes (s : State) (o : OperatorId) : State → Prop
  | mk (c : Call) : s.task c = .swept at_ picked → s.codes.phase c = .voiding o todo →
      Codes.Step s.codes c .voided codes →
      Revokes s o (({ s with codes }.revoke picked).goto c .other)

inductive Step (s : State) : State → Prop
  | ticks (t : Time) : s.clock ≤ t → Step s { s with clock := t }
  -- `issueEnrolmentCode`
  | issueBegins (c : Call) (o : OperatorId) : s.task c = .other →
      Codes.Step s.codes c (.owns o) codes → Step s { s with codes }
  | issueCommits (c : Call) (k : CodeId) (at_ : Time) : s.task c = .other → at_ ≤ s.clock →
      Codes.Step s.codes c (.issued k (at_ + ENROLMENT_CODE_MS)) codes → Step s { s with codes }
  -- `redeemOperatorEnrolmentCode`
  | redeems (c : Call) (k : CodeId) (at_ : Time) : s.task c = .other → at_ ≤ s.clock →
      s.codes.codes k = some x → at_ < x.expiresAt → Codes.Step s.codes c (.redeems k) codes →
      Step s { s with codes }
  | redeemed (c : Call) (k : CodeId) (i : SessionId) (at_ : Time) : s.task c = .other →
      at_ ≤ s.clock → s.codes.codes k = some x → s.sessions i = none →
      Codes.Step s.codes c (.redeemed k) codes →
      Step s ({ s with codes }.openSession i ⟨x.owner, k, at_ + OPERATOR_SESSION_MS, false⟩)
  -- `revokeSessions`
  | revokeBegins (c : Call) (o : OperatorId) (at_ : Time) : s.task c = .other → at_ ≤ s.clock →
      Codes.Step s.codes c (.owns o) codes → Step s ({ s with codes }.goto c (.revoking at_))
  | selects (c : Call) : s.task c = .revoking at_ → Codes.Step s.codes c .selects codes →
      Step s { s with codes }
  | looks (c : Call) (k : CodeId) : s.task c = .revoking at_ →
      Codes.Step s.codes c (.looks k) codes → Step s { s with codes }
  | skips (c : Call) (k : CodeId) : s.task c = .revoking at_ →
      Codes.Step s.codes c (.skips k) codes → Step s { s with codes }
  | sweeps (c : Call) : s.task c = .revoking at_ → s.codes.phase c = .voiding o todo →
      (∀ k, todo k = false) → Step s (s.goto c (.swept at_ (s.live o at_)))
  | revokes : Revokes s o s' → Step s s'
  /-- `signOut`. -/
  | signsOut (i : SessionId) : Step s (s.revoke fun j => j = i)
  /-- A call is refused or fails, or its process stops. -/
  | stops (c : Call) : Codes.Step s.codes c .stops codes → Step s ({ s with codes }.goto c .other)

inductive Steps (s : State) : State → Prop
  | refl : Steps s s
  | step : Steps s s' → Step s' s'' → Steps s s''

def Steps.last (_ : Steps s s') : State := s'

structure State.Initial (s : State) : Prop where
  codes : ∀ k, s.codes.codes k = none
  phase : ∀ c, s.codes.phase c = .out
  sessions : ∀ i, s.sessions i = none
  task : ∀ c, s.task c = .other

end Kippu.Operators
