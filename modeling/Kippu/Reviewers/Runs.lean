import Kippu.Conc.Codes
import Kippu.Store

/-!
# Reviewer accounts

A reviewer is created with a one-time enrolment code, which a reissue replaces and a
disabling voids, both under the lock on the reviewer's row. The code, with a passkey that
answers a ceremony begun with it, adds the passkey and opens a session; sign-in ceremonies
are answered with a passkey already there. A ceremony is consumed by its first answer, in
a statement of its own, so what follows may come late.
-/

namespace Kippu.Reviewers

open Conc

abbrev Call := ℕ
/-- A reviewer; the email that names it stays the same. -/
abbrev ReviewerId := ℕ
/-- Stands for a code's hash. -/
abbrev CodeId := ℕ
abbrev CeremonyId := ℕ
abbrev PasskeyId := ℕ
/-- A session, or the token that names it. -/
abbrev SessionId := ℕ

def REVIEWER_ENROLMENT_CODE_MS : Time := 72 * 60 * 60 * 1000
def REVIEWER_SESSION_MS : Time := 12 * 60 * 60 * 1000
def CEREMONY_MS : Time := 5 * 60 * 1000

structure Reviewer where
  enrolled : Bool
  disabled : Bool

/-- A row of `reviewer_ceremonies`: an enrolment has a code, a sign-in none. -/
structure Ceremony where
  reviewer : ReviewerId
  code : Option CodeId
  expiresAt : Time

/-- A row of `reviewer_passkeys`, with the code that added it, which no column keeps. -/
structure Passkey where
  reviewer : ReviewerId
  code : CodeId

/-- A row of `sessions`, with the code of the enrolment that opened it, if one did, which no
column keeps. -/
structure Session where
  reviewer : ReviewerId
  code : Option CodeId
  expiresAt : Time
  revoked : Bool

/-- What a call is doing besides its statements on codes. -/
inductive Task
  | other
  /-- `create`: the reviewer's row is inserted. -/
  | creating (r : ReviewerId)
  | reissuing (r : ReviewerId)
  /-- `disable`, which read the time `at_`; and its session statement has run. -/
  | disabling (r : ReviewerId) (at_ : Time)
  | ended (r : ReviewerId) (picked : SessionId → Bool)
  /-- `beginEnrolment` and `beginSignIn` found what they look for. -/
  | beginning (r : ReviewerId) (k : Option CodeId)
  /-- `completeEnrolment` consumed its ceremony, and the passkey verified. -/
  | enrolling (r : ReviewerId) (k : CodeId)
  /-- `completeSignIn` consumed its ceremony; and a passkey of the reviewer's verified. -/
  | answering (r : ReviewerId)
  | signingIn (r : ReviewerId)

structure State where
  reviewers : ReviewerId → Option Reviewer
  codes : Codes.State ReviewerId CodeId
  ceremonies : CeremonyId → Option Ceremony
  passkeys : PasskeyId → Option Passkey
  sessions : SessionId → Option Session
  task : Call → Task
  clock : Time

def State.authenticate (s : State) (i : SessionId) : Option ReviewerId := do
  let x ← s.sessions i
  let reviewer ← s.reviewers x.reviewer
  if !x.revoked && s.clock < x.expiresAt && !reviewer.disabled then some x.reviewer else none

def State.enabled (s : State) (r : ReviewerId) : Bool := (s.reviewers r).any fun x => !x.disabled

/-- The sessions `UPDATE sessions SET revoked_at` selects. -/
def State.live (s : State) (r : ReviewerId) (at_ : Time) (i : SessionId) : Bool :=
  (s.sessions i).any fun x => x.reviewer = r && !x.revoked && at_ < x.expiresAt

def State.goto (s : State) (c : Call) (t : Task) : State :=
  { s with task := Function.update s.task c t }

def State.setReviewer (s : State) (r : ReviewerId) (x : Reviewer) : State :=
  { s with reviewers := Function.update s.reviewers r (some x) }

def State.updateReviewer (s : State) (r : ReviewerId) (f : Reviewer → Reviewer) : State :=
  { s with reviewers := Function.update s.reviewers r ((s.reviewers r).map f) }

def State.disable (s : State) (r : ReviewerId) : State :=
  s.updateReviewer r fun x => { x with disabled := true }

def State.enrol (s : State) (r : ReviewerId) : State :=
  s.updateReviewer r fun x => { x with enrolled := true }

def State.addPasskey (s : State) (p : PasskeyId) (x : Passkey) : State :=
  { s with passkeys := Function.update s.passkeys p (some x) }

def State.openSession (s : State) (i : SessionId) (x : Session) : State :=
  { s with sessions := Function.update s.sessions i (some x) }

def State.revoke (s : State) (picked : SessionId → Bool) : State :=
  { s with sessions := fun i => (s.sessions i).map fun x =>
      if picked i then { x with revoked := true } else x }

def State.addCeremony (s : State) (m : CeremonyId) (x : Ceremony) : State :=
  { s with ceremonies := Function.update s.ceremonies m (some x) }

def State.consume (s : State) (m : CeremonyId) : State :=
  { s with ceremonies := Function.update s.ceremonies m none }

/-- `DELETE FROM reviewer_ceremonies` of a reviewer; it may miss rows inserted meanwhile, which
`kept` are. -/
def State.clear (s : State) (r : ReviewerId) (kept : CeremonyId → Bool) : State :=
  { s with ceremonies := fun m => (s.ceremonies m).filter fun x => x.reviewer ≠ r || kept m }

inductive Disables (s : State) (r : ReviewerId) : State → Prop
  | mk (c : Call) (kept : CeremonyId → Bool) : s.task c = .ended r picked →
      s.codes.phase c = .voiding r todo → s.reviewers r = some x →
      Codes.Step s.codes c .voided codes →
      Disables s r (((({ s with codes }.disable r).revoke picked).clear r kept).goto c .other)

inductive Reissues (s : State) (r : ReviewerId) : State → Prop
  | mk (c : Call) (k : CodeId) (at_ : Time) : s.task c = .reissuing r → at_ ≤ s.clock →
      s.codes.phase c = .voiding r todo →
      Codes.Step s.codes c (.replaced k (at_ + REVIEWER_ENROLMENT_CODE_MS)) codes →
      Reissues s r ({ s with codes }.goto c .other)

inductive Step (s : State) : State → Prop
  | ticks (t : Time) : s.clock ≤ t → Step s { s with clock := t }
  -- `create`
  | creates (c : Call) (r : ReviewerId) : s.task c = .other → s.reviewers r = none →
      Codes.Step s.codes c (.owns r) codes → Step s ({ s with codes }.goto c (.creating r))
  | created (c : Call) (k : CodeId) (at_ : Time) : s.task c = .creating r → at_ ≤ s.clock →
      s.codes.phase c = .owning r → s.reviewers r = none →
      Codes.Step s.codes c (.issued k (at_ + REVIEWER_ENROLMENT_CODE_MS)) codes →
      Step s (({ s with codes }.setReviewer r ⟨false, false⟩).goto c .other)
  -- `reissueCode` and `disable`
  | reissueBegins (c : Call) (r : ReviewerId) : s.task c = .other → s.enabled r = true →
      Codes.Step s.codes c (.owns r) codes → Step s ({ s with codes }.goto c (.reissuing r))
  | disableBegins (c : Call) (r : ReviewerId) (at_ : Time) : s.task c = .other →
      (s.reviewers r).isSome → at_ ≤ s.clock → Codes.Step s.codes c (.owns r) codes →
      Step s ({ s with codes }.goto c (.disabling r at_))
  | selects (c : Call) : s.task c = .reissuing r ∨ s.task c = .disabling r at_ →
      Codes.Step s.codes c .selects codes → Step s { s with codes }
  | looks (c : Call) (k : CodeId) : s.task c = .reissuing r ∨ s.task c = .disabling r at_ →
      Codes.Step s.codes c (.looks k) codes → Step s { s with codes }
  | skips (c : Call) (k : CodeId) : s.task c = .reissuing r ∨ s.task c = .disabling r at_ →
      Codes.Step s.codes c (.skips k) codes → Step s { s with codes }
  | reissues : Reissues s r s' → Step s s'
  | ends (c : Call) : s.task c = .disabling r at_ → s.codes.phase c = .voiding r todo →
      (∀ k, todo k = false) → Step s (s.goto c (.ended r (s.live r at_)))
  | disables : Disables s r s' → Step s s'
  -- `beginEnrolment` and `beginSignIn`
  | finds (c : Call) (k : CodeId) (at_ : Time) : s.task c = .other → at_ ≤ s.clock →
      s.codes.codes k = some x → x.open = true → at_ < x.expiresAt →
      s.enabled x.owner = true → Step s (s.goto c (.beginning x.owner (some k)))
  | signInFinds (c : Call) (r : ReviewerId) : s.task c = .other → s.reviewers r = some y →
      y.disabled = false → y.enrolled = true → Step s (s.goto c (.beginning r none))
  | begins (c : Call) (m : CeremonyId) (at_ : Time) : s.task c = .beginning r k →
      at_ ≤ s.clock → s.ceremonies m = none →
      Step s ((s.addCeremony m ⟨r, k, at_ + CEREMONY_MS⟩).goto c .other)
  -- `completeEnrolment`
  | consumes (c : Call) (m : CeremonyId) (at_ : Time) : s.task c = .other → at_ ≤ s.clock →
      s.ceremonies m = some ⟨r, some k, expiresAt⟩ → at_ < expiresAt → s.enabled r = true →
      Step s ((s.consume m).goto c (.enrolling r k))
  | spends (c : Call) (at_ : Time) : s.task c = .enrolling r k → at_ ≤ s.clock →
      s.codes.codes k = some x → at_ < x.expiresAt → Codes.Step s.codes c (.redeems k) codes →
      Step s { s with codes }
  | enrols (c : Call) (p : PasskeyId) (i : SessionId) (at_ : Time) : s.task c = .enrolling r k →
      at_ ≤ s.clock → s.passkeys p = none → s.sessions i = none →
      Codes.Step s.codes c (.redeemed k) codes →
      Step s (((({ s with codes }.addPasskey p ⟨r, k⟩).enrol r).openSession i
        ⟨r, some k, at_ + REVIEWER_SESSION_MS, false⟩).goto c .other)
  -- `completeSignIn`
  | answers (c : Call) (m : CeremonyId) (at_ : Time) : s.task c = .other → at_ ≤ s.clock →
      s.ceremonies m = some ⟨r, none, expiresAt⟩ → at_ < expiresAt → s.enabled r = true →
      Step s ((s.consume m).goto c (.answering r))
  | verifies (c : Call) (p : PasskeyId) : s.task c = .answering r →
      s.passkeys p = some ⟨r, k⟩ → Step s (s.goto c (.signingIn r))
  | signsIn (c : Call) (i : SessionId) (at_ : Time) : s.task c = .signingIn r →
      at_ ≤ s.clock → s.sessions i = none →
      Step s ((s.openSession i ⟨r, none, at_ + REVIEWER_SESSION_MS, false⟩).goto c .other)
  /-- `consumeCeremony` refuses one that expired, or the answer does not verify. -/
  | wastes (m : CeremonyId) : Step s (s.consume m)
  /-- `signOut`. -/
  | signsOut (i : SessionId) : Step s (s.revoke fun j => j = i)
  /-- A call is refused or fails, or its process stops. -/
  | stops (c : Call) : Codes.Step s.codes c .stops codes → Step s ({ s with codes }.goto c .other)

inductive Steps (s : State) : State → Prop
  | refl : Steps s s
  | step : Steps s s' → Step s' s'' → Steps s s''

def Steps.last (_ : Steps s s') : State := s'

structure State.Initial (s : State) : Prop where
  codes : ∀ k, s.codes.codes k = none
  phase : ∀ c, s.codes.phase c = .out
  ceremonies : ∀ m, s.ceremonies m = none
  passkeys : ∀ p, s.passkeys p = none
  sessions : ∀ i, s.sessions i = none
  reviewers : ∀ r, s.reviewers r = none
  task : ∀ c, s.task c = .other

end Kippu.Reviewers
