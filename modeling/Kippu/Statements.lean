import Kippu.Outside

/-!
# Statements

The SQL statements the modelled functions send, at READ COMMITTED. An `UPDATE`
finds its rows in one snapshot, then locks each in turn, looks at it again and
writes it if it still matches. An `INSERT` locks the entries of the unique indexes
it adds to before it looks for another row with the same.
-/

namespace Kippu

open Conc Conc.Prog

abbrev Prog (α : Type) : Type 1 := Conc.Prog Db Key Call Err α

/-- A statement sent to the pool: it takes a connection for itself. -/
def query (m : Prog α) : Prog α := transaction m

def require (c : Bool) (e : Err) : Prog Unit := if c then pure () else raise e

def now : Prog Time := ext .now

def randomUUID : Prog ℕ := ext .random

/-- `UPDATE` of one row, of which `which` is looked at again once it is locked. Answers
whether it was written. -/
def updateRow (key : Key) (row : Db → Option V) (which : V → Bool) (put : Db → Db) : Prog Bool := do
  let seen ← read row
  if seen.any which then
    lock key
    let found ← read row
    if found.any which then
      write put
      pure true
    else pure false
  else pure false

def selectForUpdate (key : Key) (row : Db → Option V) : Prog (Option V) := do
  match ← read row with
  | none => pure none
  | some _ => do
      lock key
      read row

/-- `INSERT … ON CONFLICT DO NOTHING` on the rows that are `taken`; it fails on any other row
with the same key, which `dup` finds. Answers whether it inserted. -/
def insertUnless (entries : List Key) (dup taken : Db → Bool) (put : Db → Db) : Prog Bool := do
  forEach entries lock
  let (clash, conflict) ← read fun db => (dup db, taken db)
  if clash then raise .uniqueViolation
  else if conflict then pure false
  else do
    write put
    pure true

/-- `INSERT`, which fails on a row with the same key. -/
def insert (entries : List Key) (dup : Db → Bool) (put : Db → Db) : Prog Unit := do
  let _ ← insertUnless entries dup (fun _ => false) put
  pure ()

-- ---------------------------------------------------------------------------
-- Statements on `holds`
-- ---------------------------------------------------------------------------

def Db.setHold (db : Db) (id : HoldId) (f : Hold → Hold) : Db :=
  { db with holds := db.holds.update id f }

/-- `UPDATE holds` of one hold: locked, looked at again, written. -/
def updateHold (event : EventId) (id : HoldId) (which : Hold → Bool) (f : Hold → Hold) : Prog Bool :=
  updateRow (.hold event id) (·.holds.get id) which (·.setHold id f)

/-- Whether a hold holds a seat: it is not released or lapsed. -/
def Hold.live (h : Hold) : Bool :=
  h.status = .outstanding ∨ h.status = .issuing ∨ h.status = .confirmed

def Hold.holdsSeat (event : EventId) (zone : ZoneId) (position : Option String) (h : Hold) : Bool :=
  h.event = event ∧ h.zone = zone ∧ position.isSome ∧ h.position = position ∧ h.live

/-- `UPDATE holds` that makes a hold issuing or confirmed. The unique index on allocated seats
refuses it where another hold has the seat. -/
def allocateHold (event : EventId) (id : HoldId) (status : HoldStatus) : Prog Unit := do
  match ← selectForUpdate (.hold event id) (·.holds.get id) with
  | none => pure ()
  | some hold => do
      let others := fun db : Db => { db with holds := db.holds.erase id }
      if ← read fun db => (others db).holds.any (Hold.holdsSeat hold.event hold.zone hold.position)
      then raise .uniqueViolation
      else write (·.setHold id fun h => { h with status := status })

/-- `UPDATE holds` of every hold that matches, in any order. Answers how many were written. -/
def updateHolds (which : Hold → Bool) (f : Hold → Hold) : Prog ℕ := do
  let (db, ids) ← scan (·.holds.select which)
  foldEach ids 0 fun n id =>
    match db.holds.get id with
    | none => pure n
    | some hold => do
        lock (.hold hold.event id)
        let found ← read (·.holds.get id)
        if found.any which then
          write (·.setHold id f)
          pure (n + 1)
        else pure n

def recordCheckoutStep (checkout : CheckoutId) (step : CheckoutStep) : Prog Unit :=
  write fun db => { db with steps := db.steps ++ [(checkout, step)] }

end Kippu
