import Kippu.Store
import Mathlib.Logic.Function.Basic

/-!
# Selling what was created

An event is created by the ledger, and then linked to its organiser by an `INSERT`. What
its organiser does with it is authorised by the ledger's owner of the event; a paid
ticket is issued on behalf of the organiser that the link names. A call may fail, or its
process stop, between any two of its steps.
-/

namespace Kippu.Selling

/-- A call of `createEvent`: each runs once. -/
abbrev Call := ℕ

inductive Task
  | idle
  /-- The ledger accepted the event. -/
  | accepted (o : OrganiserId) (e : EventId)
  /-- Its row in `organiser_events` is inserted. -/
  | recorded (o : OrganiserId) (e : EventId)
  /-- It failed or stopped between the two. -/
  | stopped

structure TicketClass where
  event : EventId
  organiser : OrganiserId
  provenance : Provenance
  price : Option ℕ

inductive Sale
  | unpaid
  /-- A verified payment took its place. -/
  | paid
  /-- Relayed on behalf of an organiser. -/
  | relayed (o : OrganiserId)
  /-- Rejected: the event's organiser or the class is unknown to Kippu. -/
  | unknown

structure Hold where
  event : EventId
  classId : ClassId
  sale : Sale

structure State where
  /-- The owners of the ledger's events. -/
  owner : EventId → Option AccountId
  /-- `organiser_ledger_accounts`. -/
  account : OrganiserId → Option AccountId
  /-- `organiser_events`. -/
  organiser : EventId → Option OrganiserId
  classes : ClassId → Option TicketClass
  /-- `event_sale_assets`. -/
  asset : EventId → Option Asset
  holds : HoldId → Option Hold
  task : Call → Task

-- ---------------------------------------------------------------------------
-- Statements of the source
-- ---------------------------------------------------------------------------

/-- `ownedEvent`: the ledger has the event, and its owner is the organiser's account. -/
def State.Owned (s : State) (o : OrganiserId) (e : EventId) : Prop :=
  ∃ a, s.owner e = some a ∧ s.account o = some a

/-- A hold can be placed, and paid: the event has a sale asset, and a `Purchased` class of it a
price. -/
def State.Sellable (s : State) (e : EventId) : Prop :=
  (∃ asset, s.asset e = some asset) ∧
    ∃ i row, s.classes i = some row ∧ row.event = e ∧ row.provenance = .purchased ∧
      row.price ≠ none

/-- The `createEvent` call of an event has committed its `INSERT`. -/
def State.Recorded (s : State) (e : EventId) : Prop := ∃ c o, s.task c = .recorded o e

def State.goto (s : State) (c : Call) (t : Task) : State :=
  { s with task := Function.update s.task c t }

def State.provision (s : State) (o : OrganiserId) (a : AccountId) : State :=
  { s with account := Function.update s.account o (some a) }

def State.create (s : State) (e : EventId) (a : AccountId) : State :=
  { s with owner := Function.update s.owner e (some a) }

/-- `INSERT INTO organiser_events … ON CONFLICT (event) DO NOTHING`. -/
def State.link (s : State) (e : EventId) (o : OrganiserId) : State :=
  { s with organiser := Function.update s.organiser e (some ((s.organiser e).getD o)) }

def State.setClass (s : State) (i : ClassId) (row : TicketClass) : State :=
  { s with classes := Function.update s.classes i (some row) }

/-- The sale asset is set, and with a change of it the prices of the classes it sees cleared. -/
def State.setAsset (s : State) (e : EventId) (asset : Asset) (cleared : ClassId → Bool) : State :=
  { s with
    asset := Function.update s.asset e (some asset)
    classes := fun i =>
      (s.classes i).map fun row => if cleared i then { row with price := none } else row }

def State.setHold (s : State) (i : HoldId) (h : Hold) : State :=
  { s with holds := Function.update s.holds i (some h) }

/-- What `issue` looks up of a paid hold, and makes of its sale. -/
def State.issue (s : State) (h : Hold) : Sale :=
  match s.organiser h.event, (s.classes h.classId).filter (·.event = h.event) with
  | some o, some _ => .relayed o
  | _, _ => .unknown

-- ---------------------------------------------------------------------------
-- Steps
-- ---------------------------------------------------------------------------

/-- A step of an organiser that makes an event sellable does so only once its `createEvent` call has
committed its `INSERT`, or as `late` says. -/
def Allowed (late : Prop) (s s' : State) : Prop :=
  ∀ e, s'.Sellable e → s.Sellable e ∨ s.Recorded e ∨ late

inductive Step (late : Prop) (s : State) : State → Prop
  /-- An organiser's key is created: no other organiser has its account, nor does any event. -/
  | provisions (o : OrganiserId) (a : AccountId) : s.account o = none →
      (∀ o', s.account o' ≠ some a) → (∀ e, s.owner e ≠ some a) → Step late s (s.provision o a)
  /-- Somebody else's event. -/
  | foreign (e : EventId) (a : AccountId) : s.owner e = none → (∀ o, s.account o ≠ some a) →
      Step late s (s.create e a)
  -- `createEvent`
  | accepts (c : Call) (o : OrganiserId) (e : EventId) : s.task c = .idle →
      s.account o = some a → s.owner e = none →
      Step late s ((s.create e a).goto c (.accepted o e))
  | inserts (c : Call) : s.task c = .accepted o e →
      Step late s ((s.link e o).goto c (.recorded o e))
  | stops (c : Call) : s.task c = .accepted o e → Step late s (s.goto c .stopped)
  -- What the organiser does with the event, by the ledger's owner of it
  | defines (i : ClassId) (o : OrganiserId) (row : TicketClass) : s.classes i = none →
      row.organiser = o → s.Owned o row.event → Allowed late s (s.setClass i row) →
      Step late s (s.setClass i row)
  | setsPrice (i : ClassId) (o : OrganiserId) (price : ℕ) : s.classes i = some row →
      s.Owned o row.event → Allowed late s (s.setClass i { row with price := some price }) →
      Step late s (s.setClass i { row with price := some price })
  | setsAsset (o : OrganiserId) (e : EventId) (asset : Asset) (cleared : ClassId → Bool) :
      s.Owned o e → Allowed late s (s.setAsset e asset cleared) →
      Step late s (s.setAsset e asset cleared)
  -- Sales
  | places (i : HoldId) (k : ClassId) (asset : Asset) : s.holds i = none →
      s.classes k = some row → row.provenance = .purchased → row.price ≠ none →
      s.asset row.event = some asset → Step late s (s.setHold i ⟨row.event, k, .unpaid⟩)
  | pays (i : HoldId) : s.holds i = some h → h.sale = .unpaid →
      Step late s (s.setHold i { h with sale := .paid })
  | issues (i : HoldId) : s.holds i = some h → h.sale = .paid →
      Step late s (s.setHold i { h with sale := s.issue h })

inductive Steps (late : Prop) (s : State) : State → Prop
  | refl : Steps late s s
  | step : Steps late s s' → Step late s' s'' → Steps late s s''

def Steps.last (_ : Steps late s s') : State := s'

structure State.Initial (s : State) : Prop where
  owner : ∀ e, s.owner e = none
  account : ∀ o, s.account o = none
  organiser : ∀ e, s.organiser e = none
  classes : ∀ i, s.classes i = none
  holds : ∀ i, s.holds i = none
  task : ∀ c, s.task c = .idle

/-- Whatever can be sold can be issued: an event that can be sold names its organiser, and no sale
was rejected because the organiser or the class is unknown. -/
structure State.Issuable (s : State) : Prop where
  named : ∀ o e, s.Owned o e → s.Sellable e → s.organiser e = some o
  known : ∀ i h, s.holds i = some h → h.sale ≠ .unknown

end Kippu.Selling
