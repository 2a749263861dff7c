import Kippu.Outside
import Mathlib.Logic.Function.Basic
import Mathlib.Algebra.GroupWithZero.Nat

/-!
# Zones and their seats

One event's zones, which the ledger has, and the seat positions uploaded for each, which
a table has. Removing a zone is the ledger's decision and then a `DELETE` of its
positions; uploading positions looks for the zone on the ledger and then inserts them. No
lock is held over either, and a call may stop between its steps, or have no verdict.
-/

namespace Kippu.Zoning

/-- A call: each runs once. -/
abbrev Call := ℕ

/-- The longest seat designation accepted, in UTF-16 code units. -/
def MAX_DESIGNATION_LENGTH : ℕ := 100

/-- A row of `seat_positions`, in the order recorded, with how often its zone had been added to the
ledger by then, which no column keeps. -/
structure SeatPosition where
  designation : String
  added : ℕ

inductive Task
  | idle
  /-- `removeZone`, whose removal the ledger accepted. -/
  | removed (zone : ZoneId)
  /-- `addSeatPositions`, which found the zone, and normalised the designations. -/
  | uploading (zone : ZoneId) (designations : List String)
  | ended

structure State where
  /-- The zones on the ledger. -/
  zones : ZoneId → Option ZoneKind
  positions : ZoneId → List SeatPosition
  task : Call → Task
  /-- How often the ledger accepted the addition of a zone under an id. -/
  added : ZoneId → ℕ
  /-- Whether a `DELETE` of a zone's positions ran since the last `INSERT` of any. -/
  deleted : ZoneId → Bool

-- ---------------------------------------------------------------------------
-- Statements of the source
-- ---------------------------------------------------------------------------

def utf16Length (text : String) : ℕ :=
  (text.toList.map fun c => if c.val < 0x10000 then 1 else 2).sum

/-- What an upload normalises its designations to, unless one is empty or too long. -/
def normalisedPositions (nfc : String → String) (designations : List String) :
    Option (List String) :=
  designations.mapM fun designation =>
    let normalised := nfc designation
    if utf16Length normalised = 0 ∨ MAX_DESIGNATION_LENGTH < utf16Length normalised then none
    else some normalised

/-- `INSERT INTO seat_positions … ON CONFLICT DO NOTHING`. -/
def insertPositions (added : ℕ) (rows : List SeatPosition) (designations : List String) :
    List SeatPosition :=
  designations.foldl (fun rows designation =>
    if rows.any (·.designation = designation) then rows else rows ++ [⟨designation, added⟩]) rows

/-- The row that makes a designation one of its zone's canonical positions. -/
def State.canonicalPosition (nfc : String → String) (s : State) (zone : ZoneId)
    (designation : String) : Option SeatPosition :=
  (s.positions zone).find? (·.designation = nfc designation)

def State.goto (s : State) (c : Call) (t : Task) : State :=
  { s with task := Function.update s.task c t }

def State.addZone (s : State) (zone : ZoneId) (kind : ZoneKind) : State :=
  { s with
    zones := Function.update s.zones zone (some kind)
    added := Function.update s.added zone (s.added zone + 1) }

def State.removeZone (s : State) (zone : ZoneId) : State :=
  { s with zones := Function.update s.zones zone none }

def State.deletePositions (s : State) (zone : ZoneId) : State :=
  { s with
    positions := Function.update s.positions zone []
    deleted := Function.update s.deleted zone true }

def State.insertPositions (s : State) (zone : ZoneId) (designations : List String) : State :=
  { s with
    positions := Function.update s.positions zone
      (Zoning.insertPositions (s.added zone) (s.positions zone) designations)
    deleted := Function.update s.deleted zone (s.deleted zone && designations.isEmpty) }

-- ---------------------------------------------------------------------------
-- Steps
-- ---------------------------------------------------------------------------

/-- One step, where the ledger accepts a zone whose id has positions not deleted only if `late` says
so. What the ledger refuses changes nothing. -/
inductive Step (nfc : String → String) (late : Prop) (s : State) : State → Prop
  /-- The ledger accepts an `addZone`, whether or not its call hears of it. -/
  | adds (zone : ZoneId) (kind : ZoneKind) : s.zones zone = none →
      s.deleted zone = true ∨ late → Step nfc late s (s.addZone zone kind)
  -- `removeZone`
  | removes (c : Call) (zone : ZoneId) : s.task c = .idle → s.zones zone = some kind →
      Step nfc late s ((s.removeZone zone).goto c (.removed zone))
  | deletes (c : Call) : s.task c = .removed zone →
      Step nfc late s ((s.deletePositions zone).goto c .ended)
  -- `addSeatPositions`
  | finds (c : Call) (zone : ZoneId) (designations : List String) : s.task c = .idle →
      s.zones zone = some .seated → normalisedPositions nfc designations = some normalised →
      Step nfc late s (s.goto c (.uploading zone normalised))
  | inserts (c : Call) : s.task c = .uploading zone designations →
      Step nfc late s ((s.insertPositions zone designations).goto c .ended)
  /-- A statement fails, a verdict is not heard, or the process stops. -/
  | stops (c : Call) : Step nfc late s (s.goto c .ended)

inductive Steps (nfc : String → String) (late : Prop) (s : State) : State → Prop
  | refl : Steps nfc late s s
  | step : Steps nfc late s s' → Step nfc late s' s'' → Steps nfc late s s''

structure State.Initial (s : State) : Prop where
  zones : ∀ z, s.zones z = none
  positions : ∀ z, s.positions z = []
  task : ∀ c, s.task c = .idle
  deleted : ∀ z, s.deleted z = true

/-- A zone on the ledger has no canonical position that was recorded before it was added. -/
def State.StartedEmpty (nfc : String → String) (s : State) : Prop :=
  ∀ zone kind designation position, s.zones zone = some kind →
    s.canonicalPosition nfc zone designation = some position → position.added = s.added zone

end Kippu.Zoning
