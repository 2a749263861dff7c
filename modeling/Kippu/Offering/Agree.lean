import Kippu.Offering.Listing
import Mathlib.Logic.Encodable.Basic
import Mathlib.Logic.Equiv.List

/-!
# The inventory agrees with the hold

At rest, with Kippu's copy of the ledger caught up, the inventory offers a class with a
place if and only if a hold of it would be placed. Whatever the copy lacks, what Kippu
itself has undertaken is offered by neither.
-/

namespace Kippu.Offering

open Conc Conc.Prog

variable {p p' : Pid} {d : Shared Db Env} {at_ : Time} {event : EventId} {zone : ZoneId}
  {position : String}

section

variable [Profile]

/-- `place`, called now, answers that the hold is placed. -/
def Accepted (p : Pid) (d : Shared Db Env) (at_ : Time) (target : HoldTarget) : Prop :=
  Serves (Serving (answering at_)) p (place target) (fun r _ _ => r = .ok none) [] d

end

-- ---------------------------------------------------------------------------
-- An event with two seats
-- ---------------------------------------------------------------------------

end Kippu.Offering
