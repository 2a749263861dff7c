import Kippu.Conc.Locks
import Kippu.Store

/-!
# Locks of enrolment and revocation

Operators and reviewers own enrolment codes. A redemption locks its code's row by an
`UPDATE` and then, by the foreign keys of what it inserts, the owner's row; who issues or
revokes locks the owner's row first, and voiding the owner's codes then locks theirs, one
by one. Every lock is held to the end of its transaction.
-/

namespace Kippu.Enrolling

open Conc.Locks

/-- A transaction: each runs once. -/
abbrev Call := ℕ
/-- Stands for a code's hash. -/
abbrev CodeId := ℕ

/-- A row of `operators` or of `reviewers`. -/
inductive Owner
  | operator (id : ℕ)
  | reviewer (id : ℕ)
  deriving DecidableEq

inductive Row
  | owner (o : Owner)
  | code (k : CodeId)
  deriving DecidableEq

inductive Work
  /-- `issueEnrolmentCode`. -/
  | issue
  /-- `revokeSessions`. -/
  | revoke
  /-- `reissueCode`. -/
  | reissue
  /-- `disable`. -/
  | disable
  deriving DecidableEq

def Work.voids : Work → Bool
  | .issue => false
  | .revoke | .reissue | .disable => true

def Work.issues : Work → Bool
  | .issue | .reissue => true
  | .revoke | .disable => false

def Work.isFor : Work → Owner → Bool
  | .issue, .operator _ | .revoke, .operator _ => true
  | .reissue, .reviewer _ | .disable, .reviewer _ => true
  | _, _ => false

structure Code where
  owner : Owner
  /-- Redeemed or voided, by a transaction that committed. -/
  spent : Bool

inductive Phase
  | out
  /-- A redemption, at its `UPDATE` of the code, and then at its first `INSERT`. -/
  | redeeming (k : CodeId) (o : Owner)
  | redeemed (k : CodeId) (o : Owner)
  /-- The foreign key has locked the owner's row, or then a reviewer's `UPDATE` has. -/
  | linked (k : CodeId) (o : Owner)
  | enrolled (k : CodeId) (o : Owner)
  /-- At the owner's row, to be locked, and then with it locked. -/
  | owning (w : Work) (o : Owner)
  | owned (w : Work) (o : Owner)
  /-- Voiding codes: those yet to be looked at, the one it is at and those voided. -/
  | voiding (w : Work) (o : Owner) (todo : CodeId → Bool) (at_ : Option CodeId)
      (voided : CodeId → Bool)

def Phase.holds : Phase → Row → Option LockMode
  | .out, _ | .redeeming .., _ | .owning .., _ => none
  | .redeemed k _, r => if r = .code k then some .noKeyUpdate else none
  | .linked k o, r =>
    if r = .code k then some .noKeyUpdate else if r = .owner o then some .keyShare else none
  | .enrolled k o, r =>
    if r = .code k ∨ r = .owner o then some .noKeyUpdate else none
  | .owned _ o, r => if r = .owner o then some .update else none
  | .voiding _ o _ _ _, .owner o' => if o' = o then some .update else none
  | .voiding _ _ _ _ voided, .code k => if voided k then some .noKeyUpdate else none

def Phase.wants : Phase → Option (Row × LockMode)
  | .redeeming k _ => some (.code k, .noKeyUpdate)
  | .redeemed _ o => some (.owner o, .keyShare)
  -- `UPDATE reviewers SET enrolled_at`
  | .linked _ (.reviewer i) => some (.owner (.reviewer i), .noKeyUpdate)
  | .owning _ o => some (.owner o, .update)
  | .voiding _ _ _ (some k) _ => some (.code k, .noKeyUpdate)
  | _ => none

structure State where
  codes : CodeId → Option Code
  phase : Call → Phase

def State.locks (s : State) : Locking Call Row where
  holds c := (s.phase c).holds
  wants c := (s.phase c).wants

def State.goto (s : State) (c : Call) (p : Phase) : State :=
  { s with phase := Function.update s.phase c p }

def State.spend (s : State) (picked : CodeId → Bool) : State :=
  { s with codes := fun k =>
      (s.codes k).map fun x => if picked k then { x with spent := true } else x }

def State.issue (s : State) (k : CodeId) (o : Owner) : State :=
  { s with codes := Function.update s.codes k (some ⟨o, false⟩) }

def State.outstanding (s : State) (o : Owner) (k : CodeId) : Bool :=
  (s.codes k).any fun x => x.owner = o && !x.spent

/-- A revocation has an owner's row locked, before or while it locks the owner's codes. -/
def State.Revoking (s : State) (c : Call) (o : Owner) : Prop :=
  (∃ w, w.voids = true ∧ s.phase c = .owned w o) ∨
    ∃ w todo at_ voided, s.phase c = .voiding w o todo at_ voided

/-- A redemption has one of an owner's codes locked, and not yet the owner's row. -/
def State.Redeeming (s : State) (c : Call) (o : Owner) : Prop := ∃ k, s.phase c = .redeemed k o

/-- One step, where a redemption and a revocation of one owner meet only if `meet` says so. -/
inductive Step (meet : Prop) (s : State) : State → Prop
  -- `redeemOperatorEnrolmentCode`, `completeEnrolment`
  | asks (c : Call) (k : CodeId) : s.phase c = .out → s.codes k = some ⟨o, false⟩ →
      Step meet s (s.goto c (.redeeming k o))
  | redeems (c : Call) : s.phase c = .redeeming k o → s.locks.Grants c (.code k) .noKeyUpdate →
      s.outstanding o k = true → (∀ d, s.Revoking d o → meet) →
      Step meet s (s.goto c (.redeemed k o))
  /-- The code is spent by then, or has expired. -/
  | rejected (c : Call) : s.phase c = .redeeming k o →
      s.locks.Grants c (.code k) .noKeyUpdate → Step meet s (s.goto c .out)
  | links (c : Call) : s.phase c = .redeemed k o → s.locks.Grants c (.owner o) .keyShare →
      Step meet s (s.goto c (.linked k o))
  | enrols (c : Call) (i : ℕ) : s.phase c = .linked k (.reviewer i) →
      s.locks.Grants c (.owner (.reviewer i)) .noKeyUpdate →
      Step meet s (s.goto c (.enrolled k (.reviewer i)))
  | signsIn (c : Call) (i : ℕ) : s.phase c = .linked k (.operator i) →
      Step meet s ((s.spend (· = k)).goto c .out)
  | enrolsIn (c : Call) : s.phase c = .enrolled k o →
      Step meet s ((s.spend (· = k)).goto c .out)
  -- `assertOperator`, `reviewerByEmail`
  | begins (c : Call) (w : Work) (o : Owner) : s.phase c = .out → w.isFor o = true →
      Step meet s (s.goto c (.owning w o))
  | owns (c : Call) : s.phase c = .owning w o → s.locks.Grants c (.owner o) .update →
      (w.voids = true → ∀ d, s.Redeeming d o → meet) → Step meet s (s.goto c (.owned w o))
  | issues (c : Call) (k : CodeId) : s.phase c = .owned .issue o → s.codes k = none →
      Step meet s ((s.issue k o).goto c .out)
  -- `UPDATE … SET voided_at`
  | selects (c : Call) : s.phase c = .owned w o → w.voids = true →
      Step meet s (s.goto c (.voiding w o (s.outstanding o) none fun _ => false))
  | looks (c : Call) (k : CodeId) : s.phase c = .voiding w o todo none voided → todo k = true →
      Step meet s (s.goto c (.voiding w o (Function.update todo k false) (some k) voided))
  | voids (c : Call) : s.phase c = .voiding w o todo (some k) voided →
      s.locks.Grants c (.code k) .noKeyUpdate → s.outstanding o k = true →
      Step meet s (s.goto c (.voiding w o todo none (Function.update voided k true)))
  /-- The code was spent while its row was waited for. -/
  | skips (c : Call) : s.phase c = .voiding w o todo (some k) voided →
      s.locks.Grants c (.code k) .noKeyUpdate → s.outstanding o k = false →
      Step meet s (s.goto c (.voiding w o todo none voided))
  | revokes (c : Call) : s.phase c = .voiding w o todo none voided → (∀ k, todo k = false) →
      w.issues = false → Step meet s ((s.spend voided).goto c .out)
  | reissues (c : Call) (k : CodeId) : s.phase c = .voiding w o todo none voided →
      (∀ k, todo k = false) → w.issues = true → s.codes k = none →
      Step meet s (((s.spend voided).issue k o).goto c .out)
  /-- A statement fails, the process stops, or the transaction is aborted to end a deadlock. -/
  | stops (c : Call) : Step meet s (s.goto c .out)

inductive Steps (meet : Prop) (s : State) : State → Prop
  | refl : Steps meet s s
  | step : Steps meet s s' → Step meet s' s'' → Steps meet s s''

def Steps.last (_ : Steps meet s s') : State := s'

def State.Initial (s : State) : Prop := ∀ c, s.phase c = .out

/-- A revocation waits for a code's row, which a redemption has locked that waits for the row of the
code's owner, which the revocation has locked. -/
def State.Clash (s : State) : Prop :=
  ∃ c d w o k todo voided, s.phase c = .voiding w o todo (some k) voided ∧
    s.phase d = .redeemed k o

end Kippu.Enrolling
