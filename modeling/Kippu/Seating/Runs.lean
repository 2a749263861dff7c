import Kippu.Store
import Mathlib.Logic.Function.Basic

/-!
# Allocating seats

A seat is allocated by a hold or by a granted issuance, and a payment may take back
the seat of a hold that ended. Each takes the seat's lock, reads whether a hold has
the seat and then whether a granted issuance has its ticket, and writes; holds end
without the lock, and so do the sale and the issuance that were made, by whoever made them.
-/

namespace Kippu.Seating

inductive Position
  | seated (designation : String)
  | unseated (discriminator : String)
  deriving DecidableEq

structure Placement where
  event : EventId
  zone : ZoneId
  position : Position
  deriving DecidableEq

/-- A seat: a position, by its designation, of a zone that is seated. -/
def Placement.Seat (seated : EventId → ZoneId → Bool) (x : Placement) : Prop :=
  seated x.event x.zone = true ∧ ∃ designation, x.position = .seated designation

/-- A row of `holds`; it has no seat where the zone is not seated. -/
structure Hold where
  seat : Option Placement
  status : HoldStatus

def Hold.live (h : Hold) : Bool :=
  h.status = .outstanding ∨ h.status = .issuing ∨ h.status = .confirmed

/-- A row of `granted_issuances`, and the placement it issues. -/
structure Granted where
  placement : Placement
  ticket : Option TicketId
  status : GrantedStatus

inductive Kind
  | hold
  | grant
  /-- A payment takes the place of a hold. -/
  | take (i : HoldId)
  deriving DecidableEq

inductive Task
  | start (kind : Kind) (x : Placement)
  /-- Under the seat's lock: before `allocationCounts`, and with its answer. -/
  | locked (kind : Kind) (x : Placement)
  | counted (kind : Kind) (x : Placement) (seatHeld : Bool)
  /-- The seat is free. -/
  | free (kind : Kind) (x : Placement)
  /-- The hold was outstanding. -/
  | outstanding (i : HoldId) (x : Placement)
  /-- The transaction is over: the hold's ticket is being issued, or the granted one. -/
  | issuing (i : HoldId)
  | submitting (g : GrantedId)

structure State where
  holds : Conc.Table Hold
  granted : Conc.Table Granted
  /-- Who has a seat's lock; it is named by the seat's ticket. -/
  lock : TicketId → Option ℕ
  tasks : ℕ → Option Task
  nextTask : ℕ

def State.put (s : State) (t : ℕ) (task : Option Task) : State :=
  { s with tasks := Function.update s.tasks t task }

def State.finish (s : State) (t : ℕ) : State :=
  { s with
    lock := fun e => if s.lock e = some t then none else s.lock e
    tasks := Function.update s.tasks t none }

def State.spawn (s : State) (task : Task) : State :=
  { s with tasks := Function.update s.tasks s.nextTask (some task), nextTask := s.nextTask + 1 }

def State.addHold (s : State) (i : HoldId) (seat : Option Placement) : State :=
  { s with holds := s.holds.set i ⟨seat, .outstanding⟩ }

def State.setHold (s : State) (i : HoldId) (status : HoldStatus) : State :=
  { s with holds := s.holds.update i fun h => { h with status } }

def State.addGranted (s : State) (g : GrantedId) (x : Placement) (ticket : Option TicketId) :
    State :=
  { s with granted := s.granted.set g ⟨x, ticket, .pending⟩ }

def State.seatHeld (s : State) (x : Placement) : Bool :=
  s.holds.any fun h => h.seat = some x ∧ h.live

def State.inFlight (s : State) (ticket : TicketId) : Bool :=
  s.granted.any fun row => row.ticket = some ticket ∧ row.status ≠ .rejected

def State.names (s : State) (kind : Kind) (x : Placement) : Prop :=
  ∀ i, kind = .take i → ∃ h, s.holds.get i = some h ∧ h.seat = some x

section
variable (seated : EventId → ZoneId → Bool) (ticketId : Placement → TicketId)

/-- One step. What the ledger answers, and the event's capacity and quotas, may refuse an
allocation anywhere. -/
inductive Step (s : State) : State → Prop
  | begun : x.Seat seated → s.names kind x → Step s (s.spawn (.start kind x))
  | locked : s.tasks t = some (.start kind x) → s.lock (ticketId x) = none →
      Step s ({ s with lock := Function.update s.lock (ticketId x) (some t) }.put t
        (some (.locked kind x)))
  | counted : s.tasks t = some (.locked kind x) →
      Step s (s.put t (some (.counted kind x (s.seatHeld x))))
  /-- `assertFree` finds no granted issuance, and no ticket. -/
  | free : s.tasks t = some (.counted kind x false) → s.inFlight (ticketId x) = false →
      Step s (s.put t (some (.free kind x)))
  | outstanding {h : Hold} : s.tasks t = some (.counted (.take i) x seatHeld) →
      s.holds.get i = some h → h.status = .outstanding → Step s (s.put t (some (.outstanding i x)))
  | held : s.tasks t = some (.free .hold x) → s.holds.get i = none →
      Step s ((s.addHold i (some x)).finish t)
  | granted : s.tasks t = some (.free .grant x) → s.granted.get g = none →
      Step s (((s.addGranted g x (some (ticketId x))).finish t).put t (some (.submitting g)))
  | taken : s.tasks t = some (.free (.take i) x) ∨ s.tasks t = some (.outstanding i x) →
      Step s (((s.setHold i .issuing).finish t).put t (some (.issuing i)))
  /-- The transaction rolls back, or the process stops. -/
  | stops : s.tasks t = some task → Step s (s.finish t)
  /-- A hold, what becomes of it, and a granted issuance of no seat. -/
  | heldUnseated : s.holds.get i = none → Step s (s.addHold i none)
  | unseated {h : Hold} (status : HoldStatus) : s.holds.get i = some h → h.seat = none →
      Step s (s.setHold i status)
  | grantedElsewhere : ¬ x.Seat seated → s.granted.get g = none →
      Step s ((s.addGranted g x none).spawn (.submitting g))
  /-- A hold lapses or is released. -/
  | holdEnded {h : Hold} (status : HoldStatus) : s.holds.get i = some h →
      h.status = .outstanding → status = .lapsed ∨ status = .released → Step s (s.setHold i status)
  /-- `completeSale`. -/
  | saleCompleted (status : HoldStatus) : s.tasks t = some (.issuing i) →
      status = .confirmed ∨ status = .released → Step s ((s.finish t).setHold i status)
  /-- The ticket of an issuance is recorded; it ends, with a verdict or without. -/
  | ticketed : Step s { s with
      granted := s.granted.update g fun row => { row with ticket := some (ticketId row.placement) } }
  | completed (status : GrantedStatus) : s.tasks t = some (.submitting g) →
      Step s { s.finish t with
        granted := s.granted.update g fun row => { row with status } }
  | deleted : s.tasks t = some (.submitting g) →
      Step s { s.finish t with granted := s.granted.erase g }

inductive Steps (s : State) : State → Prop
  | refl : Steps s s
  | step : Steps s s' → Step seated ticketId s' s'' → Steps s s''

end

structure State.Initial (s : State) : Prop where
  holds : ∀ i, s.holds.get i = none
  granted : ∀ g, s.granted.get g = none
  tasks : ∀ t, s.tasks t = none

end Kippu.Seating
