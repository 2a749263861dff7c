import Kippu.Conc.Alone
import Kippu.Sales.Payment

/-!
# A call of `pay`

One call of `pay` run alone, each of its operations succeeding, failing or left without
its answer, up to where the call ends or its process stops. What is noted is how far a
checkout it created at the provider got.
-/

namespace Kippu.Paying

open Conc Conc.Prog

/-- How far the checkout that a call creates has got: none is created, it is created and no
`COMMIT` took effect since, one did. -/
inductive Stage
  | before
  | created (k : ProviderCheckoutId)
  | committed (k : ProviderCheckoutId)
  deriving DecidableEq

def note : Note Db Env Key Call Stage
  | _, .ext (.createCheckout _), .reply c, d, g =>
      if c.reached && (d.env.checkouts.get c.value).isNone then .created c.value else g
  | _, .commit, .ok, _, .created k => .committed k
  | _, .commit, .lost, _, .created k => .committed k
  | _, _, _, _, g => g

abbrev At := Alone Db Env Key Call Err CheckoutPayment Stage

/-- A call of `pay`, through the outcomes of its operations: it ends, or its process stops after
the last of them. -/
def payRun [Profile] (p : Pid) (requestId : RequestId) (token : ℕ) (d : Shared Db Env)
    (outcomes : List Outcome) : Option At :=
  Alone.run note p outcomes ⟨.before, [], d, pay requestId token⟩

def Recorded (db : Db) (k : ProviderCheckoutId) : Prop :=
  ∃ id row, db.hosted.get id = some row ∧ row.providerCheckout = k

/-- Every checkout the provider created meanwhile is recorded, or can no longer be paid. -/
def NothingBehind (d d' : Shared Db Env) : Prop :=
  ∀ k row, d.env.checkouts.get k = none → d'.env.checkouts.get k = some row →
    row.status = .opened → Recorded d'.db k

/-- No stop or failure came between the provider's creating a checkout and a `COMMIT` that took
effect. -/
def Stage.Unbroken : Stage → Prop
  | .created _ => False
  | _ => True

/-- The provider's checkouts that are recorded exist there. -/
def Known (d : Shared Db Env) : Prop :=
  ∀ k, Recorded d.db k → (d.env.checkouts.get k).isSome

end Kippu.Paying
