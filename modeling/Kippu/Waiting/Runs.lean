import Kippu.Derived.Queries

/-!
# Waiting for a record

A client that wrote waits until the copy reflects its record. One connection listens
for the batches that readers commit, and wakes every waiter; a waiter registers
before it asks the store, and asks again when it is woken or its timer runs out.
The connection may be lost at any time, and with it what it had not delivered.
-/

namespace Kippu.Waiting

open Derived

abbrev Call := ℕ

structure Wait where
  cursor : Cursor
  deadline : Time

inductive Connection
  | none
  | opening (id : ℕ)
  /-- `LISTEN` has run; some notifications are on their way. -/
  | listening (id : ℕ) (pending : ℕ)

/-- What a registered waiter has: whether its promise is resolved, and whether a connection was
listening when it registered and still is, which the code does not keep. -/
structure Registered where
  wait : Wait
  woken : Bool
  heard : Bool

inductive Waiter
  | idle
  /-- `await listen()`, of one opening. -/
  | opens (wait : Wait) (id : ℕ)
  /-- Registered; the store is asked. -/
  | checking (r : Registered)
  | checked (r : Registered) (found : Bool)
  /-- Neither woken nor timed out yet. -/
  | parked (r : Registered)
  /-- `waitFor` has answered, and the copy's position is read. -/
  | waited (wait : Wait) (reached : Bool)
  | answered (wait : Wait) (reached : Bool) (freshness : CopyFreshness)
  | failed

structure State where
  /-- The store, as committed. -/
  db : ReaderDb Copy
  connection : Connection
  /-- How often a connection was opened. -/
  opened : ℕ
  closed : Bool
  waiter : Call → Waiter
  now : Time

-- ---------------------------------------------------------------------------
-- What the calls do
-- ---------------------------------------------------------------------------

/-- `SELECT 1 FROM derived_log WHERE cursor = $1`. -/
def reached (db : ReaderDb Copy) (cursor : Cursor) : Bool := db.log.any (·.cursor = cursor)

def Waiter.change (f : Registered → Registered) : Waiter → Waiter
  | .checking r => .checking (f r)
  | .checked r found => .checked (f r) found
  | .parked r => .parked (f r)
  | w => w

def Registered.wake (r : Registered) : Registered := { r with woken := true }

def Registered.unhear (r : Registered) : Registered := { r with heard := false }

def Connection.isOpening (id : ℕ) : Connection → Bool
  | .opening id' => id = id'
  | _ => false

def Connection.hears : Connection → Bool
  | .listening _ _ => true
  | _ => false

def Connection.pending : Connection → ℕ
  | .listening _ pending => pending
  | _ => 0

/-- `pg_notify`, as the batch that runs it commits. -/
def Connection.notify : Connection → Connection
  | .listening id pending => .listening id (pending + 1)
  | c => c

def State.set (s : State) (p : Call) (w : Waiter) : State :=
  { s with waiter := Function.update s.waiter p w }

/-- The waiter goes round its loop: it registers anew, with a promise of its own. -/
def State.register (s : State) (p : Call) (wait : Wait) : State :=
  s.set p (.checking ⟨wait, false, s.connection.hears⟩)

def State.wakeAll (s : State) : State := { s with waiter := fun p => (s.waiter p).change .wake }

/-- The connection is gone: `listen` will open another. -/
def State.lose (s : State) : State :=
  { s with connection := .none, waiter := fun p => (s.waiter p).change .unhear }

/-- `listen`, as a call begins to wait. -/
def State.listen (s : State) (p : Call) (wait : Wait) : State :=
  match s.connection with
  | .none => { s.set p (.opens wait s.opened) with
      connection := .opening s.opened
      opened := s.opened + 1 }
  | .opening id | .listening id _ => s.set p (.opens wait id)

-- ---------------------------------------------------------------------------
-- Steps
-- ---------------------------------------------------------------------------

variable (log : LogReader) (services : Services)

inductive Step : State → State → Prop
  -- a reader commits a batch, of records that follow
  | commit {s : State} (db : ReaderDb Copy) : ReadTo log [ledgerFacts services] .empty db →
      s.db.nextSequence < db.nextSequence →
      Step s { s with db := db, connection := s.connection.notify }
  | tick {s : State} (now : Time) : s.now ≤ now → Step s { s with now := now }
  -- the connection
  | listened {s : State} {id : ℕ} : s.connection = .opening id →
      Step s { s with connection := .listening id 0 }
  | notified {s : State} {id pending : ℕ} : s.connection = .listening id (pending + 1) →
      Step s { s with connection := .listening id pending }.wakeAll
  | lost {s : State} : Step s s.lose
  -- `waitFor`
  | start {s : State} {p : Call} {cursor : Cursor} : s.waiter p = .idle → s.closed = false →
      cursor = LOG_START → Step s (s.set p (.waited ⟨cursor, s.now⟩ true))
  | waits {s : State} {p : Call} {cursor : Cursor} (timeout : ℕ) : s.waiter p = .idle →
      s.closed = false → cursor ≠ LOG_START → Step s (s.listen p ⟨cursor, s.now + timeout⟩)
  | refused {s : State} {p : Call} : s.waiter p = .idle → s.closed = true →
      Step s (s.set p .failed)
  /-- `listen` has resolved or failed. -/
  | registers {s : State} {p : Call} {wait : Wait} {id : ℕ} : s.waiter p = .opens wait id →
      s.connection.isOpening id = false → Step s (s.register p wait)
  | checks {s : State} {p : Call} {r : Registered} : s.waiter p = .checking r →
      Step s (s.set p (.checked r (reached s.db r.wait.cursor)))
  /-- The store did not answer. -/
  | fails {s : State} {p : Call} {r : Registered} : s.waiter p = .checking r →
      Step s (s.set p .failed)
  | found {s : State} {p : Call} {r : Registered} : s.waiter p = .checked r true →
      Step s (s.set p (.waited r.wait true))
  | gives {s : State} {p : Call} {r : Registered} : s.waiter p = .checked r false →
      s.closed = true ∨ r.wait.deadline ≤ s.now → Step s (s.set p (.waited r.wait false))
  | parks {s : State} {p : Call} {r : Registered} : s.waiter p = .checked r false →
      s.closed = false → s.now < r.wait.deadline → Step s (s.set p (.parked r))
  | wakes {s : State} {p : Call} {r : Registered} : s.waiter p = .parked r → r.woken = true →
      Step s (s.register p r.wait)
  /-- Its timer runs out: the poll interval, or what is left of the timeout. -/
  | polls {s : State} {p : Call} {r : Registered} : s.waiter p = .parked r →
      Step s (s.register p r.wait)
  -- `current`
  | reads {s : State} {p : Call} {wait : Wait} {answer : Bool} :
      s.waiter p = .waited wait answer →
      Step s (s.set p (.answered wait answer (freshnessOf s.db)))
  -- `close`
  | closes {s : State} : Step s { s.wakeAll.lose with closed := true }

inductive Steps : State → State → Prop
  | refl {s : State} : Steps s s
  | step {s s' s'' : State} : Steps s s' → Step log services s' s'' → Steps s s''

structure State.Initial (s : State) : Prop where
  db : ReadTo log [ledgerFacts services] .empty s.db
  connection : s.connection = .none
  closed : s.closed = false
  waiter : ∀ p, s.waiter p = .idle

end Kippu.Waiting
