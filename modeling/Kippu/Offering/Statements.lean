import Kippu.Conc.Serve
import Kippu.Sales.Inventory
import Mathlib.Data.Fintype.EquivFin

/-!
# Statements served

What the statements that placing a hold and counting the inventory are made of answer,
when no other process runs.
-/

namespace Kippu.Offering

open Conc Conc.Prog

-- ---------------------------------------------------------------------------
-- Tables
-- ---------------------------------------------------------------------------

def updated (which : Hold → Bool) (f : Hold → Hold) (db : Db) : Db :=
  { db with holds := db.holds.mapRows fun h => if which h then f h else h }

def lapsed (event : EventId) (at_ : Time) (db : Db) : Db :=
  updated (Hold.expiredOf event at_) Hold.lapse db

variable [Profile]

/-- Services answer, the clock shows one time, and a random identifier is new to the holds. -/
def answering (at_ : Time) : Replies Db Env Call
  | _, .now, c, _ => c.value = at_
  | _, .random, c, d => d.db.holds.get c.value = none
  | _, _, c, _ => c.reached = true ∧ c.answered = true

variable {at_ : Time} {p : Pid} {v : Db} {d₀ : Shared Db Env} {S : Seen Db Env Key}

-- ---------------------------------------------------------------------------
-- Calls outside
-- ---------------------------------------------------------------------------

end Kippu.Offering
