import Kippu.Store
import Mathlib.Data.Set.Basic
import Mathlib.Logic.Function.Basic

/-!
# The pool's clients

Requests as far as they wait for one another: for a client of the pool, which waits
without limit, and for the locks their transactions take, held to the commit. Each
request is the sequence of what it takes when nothing refuses it.
-/

namespace Kippu.Pooling

abbrev Request := ℕ

inductive Lock
  | seat (seat : ℕ)
  | allocations (event : EventId)
  | hold (i : HoldId)
  | hosted (j : HostedId)
  /-- A row of `capacity_proof_requests`. -/
  | proof (id : ℕ)
  deriving DecidableEq

inductive Act
  /-- `store.connect()`, and `BEGIN`. -/
  | connect
  /-- `store.query`: it takes a client, and gives it back. -/
  | query
  /-- A statement of the transaction takes the lock. -/
  | lock (l : Lock)
  /-- The ledger, the provider or the KMS answers. -/
  | outside
  /-- The transaction ends, and its client is given back. -/
  | commit
  deriving DecidableEq

/-- `authority.relay` of an organiser whose account is registered: the account is read twice, the
audit row recorded, and found by the signer; then the ledger's verdict is awaited, and recorded. -/
def signed : List Act := [.query, .query, .query, .query]

def verdict : List Act := [.outside, .query]

def relay : List Act := signed ++ verdict

def ownedEvent : List Act := [.outside, .query]

def lockAllocation (seat : Option ℕ) (event : EventId) : List Act :=
  (seat.map fun n => Act.lock (.seat n)).toList ++ [Act.lock (.allocations event)]

/-- `allocationCounts` records these expired holds as lapsed. -/
def allocationCounts (expired : List HoldId) : List Act := expired.map fun i => Act.lock (.hold i)

/-- `pay`, with the hold's checkout that is open no longer at the provider, if any; it reads the
class through the store. -/
def pay (i : HoldId) (replaced : Option HostedId) : List Act :=
  [Act.connect, Act.lock (.hold i)] ++
    replaced.elim [] (fun j => [Act.outside, Act.lock (.hosted j)]) ++
    [Act.query, Act.outside, Act.commit]

def place (seat : Option ℕ) (event : EventId) (expired : List HoldId) : List Act :=
  [Act.connect] ++ lockAllocation seat event ++ allocationCounts expired ++
    [Act.outside, Act.commit]

def takePlace (j : HostedId) (i : HoldId) (seat : Option ℕ) (event : EventId)
    (expired : List HoldId) : List Act :=
  [Act.connect] ++ lockAllocation seat event ++ [Act.lock (.hosted j)] ++
    allocationCounts expired ++ [Act.outside, Act.lock (.hold i), Act.commit]

def issue (i : HoldId) : List Act :=
  [Act.query, Act.query] ++ signed ++ [Act.query] ++ verdict ++
    [Act.query, Act.connect, Act.lock (.hold i), Act.commit]

def reconcile (j : HostedId) (i : HoldId) (seat : Option ℕ) (event : EventId)
    (expired : List HoldId) : List Act :=
  [Act.query, Act.outside] ++ takePlace j i seat event expired ++ issue i

/-- `capacity.decrease`: its transaction has a client while the organiser's account and the audit
log are reached through the store. -/
def decrease (event : EventId) (expired : List HoldId) : List Act :=
  [Act.connect, Act.lock (.allocations event)] ++ ownedEvent ++ [Act.outside] ++
    allocationCounts expired ++ relay ++ [Act.commit]

def approve (id : ℕ) (event : EventId) : List Act :=
  [Act.query, Act.connect, Act.lock (.allocations event), Act.lock (.proof id)] ++ relay ++
    [Act.commit]

def issueGranted (seat : Option ℕ) (event : EventId) (expired : List HoldId) : List Act :=
  ownedEvent ++ [Act.query, Act.connect] ++ lockAllocation seat event ++ allocationCounts expired ++
    [Act.outside, Act.commit] ++ signed ++ [Act.query] ++ verdict ++ [Act.query]

/-- `releaseAll` where no payment came first, of these holds and their open checkouts. -/
def releaseAll (event : EventId) (holds : List (HoldId × HostedId)) : List Act :=
  [Act.connect, Act.lock (.allocations event), Act.commit, Act.query, Act.query] ++
    holds.flatMap (fun (i, j) =>
      [Act.connect, Act.lock (.hold i), Act.outside, Act.lock (.hosted j), Act.commit]) ++
    [Act.query, Act.query]

/-- A scheduled finish, with a client of its own for the run lock, for which nothing waits. -/
def finish (event : EventId) (holds : List (HoldId × HostedId)) : List Act :=
  [Act.query, Act.connect] ++ ownedEvent ++ releaseAll event holds ++ relay ++
    [Act.query, Act.commit]

inductive Program : List Act → Prop
  | pay (i : HoldId) (replaced : Option HostedId) : Program (pay i replaced)
  | place (seat : Option ℕ) (event : EventId) (expired : List HoldId) :
      Program (place seat event expired)
  | reconcile (j : HostedId) (i : HoldId) (seat : Option ℕ) (event : EventId)
      (expired : List HoldId) : Program (reconcile j i seat event expired)
  | decrease (event : EventId) (expired : List HoldId) : Program (decrease event expired)
  | approve (id : ℕ) (event : EventId) : Program (approve id event)
  | issueGranted (seat : Option ℕ) (event : EventId) (expired : List HoldId) :
      Program (issueGranted seat event expired)
  | finish (event : EventId) (holds : List (HoldId × HostedId)) : Program (finish event holds)

structure State where
  /-- The pool's clients that no request has. -/
  free : ℕ
  owner : Lock → Option Request
  /-- What each request has yet to do, and its clients. -/
  todo : Request → List Act
  clients : Request → ℕ

def State.goto (s : State) (r : Request) (acts : List Act) : State :=
  { s with todo := Function.update s.todo r acts }

def State.setClients (s : State) (r : Request) (clients free : ℕ) : State :=
  { s with free, clients := Function.update s.clients r clients }

def State.take (s : State) (r : Request) (l : Lock) : State :=
  { s with owner := Function.update s.owner l (some r) }

def State.unlock (s : State) (r : Request) : State :=
  { s with owner := fun l => if s.owner l = some r then none else s.owner l }

inductive Step (s : State) : State → Prop
  | arrives : s.todo r = [] → s.clients r = 0 → Program acts → Step s (s.goto r acts)
  | connects : s.todo r = .connect :: acts → 0 < s.free →
      Step s ((s.setClients r (s.clients r + 1) (s.free - 1)).goto r acts)
  | queries : s.todo r = .query :: acts → 0 < s.free → Step s (s.goto r acts)
  | locks : s.todo r = .lock l :: acts → s.owner l = none ∨ s.owner l = some r →
      Step s ((s.take r l).goto r acts)
  | answers : s.todo r = .outside :: acts → Step s (s.goto r acts)
  | commits : s.todo r = .commit :: acts → 0 < s.clients r →
      Step s (((s.unlock r).setClients r (s.clients r - 1) (s.free + 1)).goto r acts)
  /-- What it asked outside fails, or refuses: its transactions are rolled back. -/
  | fails : s.todo r = .outside :: acts →
      Step s (((s.unlock r).setClients r 0 (s.free + s.clients r)).goto r [])

inductive Steps (s : State) : State → Prop
  | refl : Steps s s
  | step : Steps s s' → Step s' s'' → Steps s s''

def State.start (k : ℕ) : State := ⟨k, fun _ => none, fun _ => [], fun _ => 0⟩

/-- Whether a request waits for what only requests of a set can give back. -/
inductive State.Blocked (s : State) (W : Set Request) (r : Request) : Prop
  | client (act : Act) (acts : List Act) : s.todo r = act :: acts →
      act = .connect ∨ act = .query → s.free = 0 → (∀ q, 0 < s.clients q → q ∈ W) →
      State.Blocked s W r
  | lock (l : Lock) (acts : List Act) (q : Request) : s.todo r = .lock l :: acts →
      s.owner l = some q → q ≠ r → q ∈ W → State.Blocked s W r

/-- Whether each request of a set waits for others of it. -/
def State.Wedged (s : State) (W : Set Request) : Prop := W.Nonempty ∧ ∀ r ∈ W, s.Blocked W r

/-- No requests, however many, wedge a pool of so many clients. -/
def NeverWedged (k : ℕ) : Prop := ∀ s, Steps (.start k) s → ∀ W, ¬ s.Wedged W

end Kippu.Pooling
