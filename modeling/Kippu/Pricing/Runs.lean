import Kippu.Store
import Mathlib.Logic.Function.Basic

/-!
# Sale assets and prices

One event's sale asset, its classes' prices and the holds placed on them. A change of
the asset clears the prices of the `Purchased` classes it sees, in a transaction under
the event's allocation lock; a hold records its terms under the same lock. Classes are
defined and priced without the lock, and the asset chosen at the event's creation is
recorded without it.
-/

namespace Kippu.Pricing

/-- A transaction under the event's allocation lock. -/
abbrev Call := ℕ

/-- A price, and how often the event's sale asset had changed, from one to another, when it was
set; that number is not in the source. -/
structure Price where
  amount : ℕ
  setAt : ℕ

structure TicketClass where
  provenance : Provenance
  price : Option Price

structure Hold where
  asset : Asset
  price : Price

inductive Task
  | idle
  /-- `saleAssets.set`: before it reads, with what it read, and with the prices it saw cleared. -/
  | setting (asset : Asset)
  | read (asset : Asset) (current : Option Asset)
  | cleared (asset : Asset) (ids : ClassId → Bool)
  /-- `Holds.place`, with the sale terms it read. -/
  | placing (i : ClassId)
  | terms (hold : Hold)
  | ended

def Task.Open : Task → Prop
  | .idle => False
  | .ended => False
  | _ => True

/-- Whether the transaction is a change of the asset past its reads. -/
def Task.Changes : Task → Prop
  | .read _ _ => True
  | .cleared _ _ => True
  | _ => False

structure State where
  asset : Option Asset
  classes : ClassId → Option TicketClass
  holds : HoldId → Option Hold
  lock : Option Call
  task : Call → Task
  /-- How often the asset changed from one to another. -/
  changes : ℕ

def State.goto (s : State) (c : Call) (t : Task) : State :=
  { s with task := Function.update s.task c t }

def State.unlock (s : State) (c : Call) : State := { s with lock := none }.goto c .ended

def State.setClass (s : State) (i : ClassId) (row : TicketClass) : State :=
  { s with classes := Function.update s.classes i (some row) }

/-- `event_sale_assets` is upserted. -/
def State.upsert (s : State) (asset : Asset) : State :=
  { s with
    asset := some asset
    changes := if s.asset = none ∨ s.asset = some asset then s.changes else s.changes + 1 }

def State.clear (s : State) (ids : ClassId → Bool) : State :=
  { s with classes := fun i => if ids i then
      (s.classes i).map fun row => { row with price := none } else s.classes i }

def TicketClass.unpriced (row : TicketClass) : Prop :=
  row.provenance = .purchased ∧ row.price = none

/-- Whether some change of the asset has cleared prices, and is not committed. -/
def State.Clearing (s : State) : Prop := ∃ c asset ids, s.task c = .cleared asset ids

/-- Whether the asset may be recorded: none is in force, or the same, or nothing is priced or held;
and no change of it is under way. -/
def State.Recordable (s : State) (asset : Asset) : Prop :=
  (∀ c, ¬ (s.task c).Changes) ∧ (s.asset = none ∨ s.asset = some asset ∨
    (∀ i, s.holds i = none) ∧ ∀ i row, s.classes i = some row → row.price = none)

/-- One step, where classes with a price are defined while a change clears prices, and the asset is
recorded at creation when it may not be, only if `late` says so. -/
inductive Step (late : Prop) (s : State) : State → Prop
  -- without the lock
  | recordAtCreation : (late ∨ s.Recordable asset) → Step late s (s.upsert asset)
  /-- A `Purchased` class has a price, and a `Granted` class none. -/
  | defines : s.classes i = none → (provenance = .granted ↔ price = none) →
      (late ∨ price = none ∨ ¬ s.Clearing) →
      Step late s (s.setClass i ⟨provenance, price.map fun amount => ⟨amount, s.changes⟩⟩)
  /-- The row is not locked by a change that cleared it. -/
  | setPrice : s.classes i = some row → row.provenance = .purchased →
      (∀ c asset ids, s.task c = .cleared asset ids → ids i = false) →
      Step late s (s.setClass i { row with price := some ⟨amount, s.changes⟩ })
  -- `saleAssets.set`
  | locks (asset : Asset) : s.task c = .idle → s.lock = none →
      Step late s ({ s with lock := some c }.goto c (.setting asset))
  /-- Another asset is in force, or none; it is not fixed. -/
  | reads : s.task c = .setting asset → s.asset ≠ some asset → (∀ i, s.holds i = none) →
      Step late s (s.goto c (.read asset s.asset))
  | clears : s.task c = .read asset (some current) →
      (∀ i, ids i = true ↔ ∃ row, s.classes i = some row ∧ row.provenance = .purchased) →
      Step late s (s.goto c (.cleared asset ids))
  | commitsFirst : s.task c = .read asset none → Step late s ((s.upsert asset).unlock c)
  | commits : s.task c = .cleared asset ids →
      Step late s (((s.clear ids).upsert asset).unlock c)
  -- `Holds.place`
  | locksPlace (i : ClassId) : s.task c = .idle → s.lock = none →
      Step late s ({ s with lock := some c }.goto c (.placing i))
  | saleTerms : s.task c = .placing i → s.asset = some asset → s.classes i = some row →
      row.price = some price → (∀ j row, s.classes j = some row → ¬ row.unpriced) →
      Step late s (s.goto c (.terms ⟨asset, price⟩))
  | places : s.task c = .terms hold → s.holds i = none →
      Step late s ({ s with holds := Function.update s.holds i (some hold) }.unlock c)
  /-- Nothing to do, refused, rolled back, or its process stops. -/
  | ends : (s.task c).Open → Step late s (s.unlock c)

inductive Steps (late : Prop) (s : State) : State → Prop
  | refl : Steps late s s
  | step : Steps late s s' → Step late s' s'' → Steps late s s''

structure State.Initial (s : State) : Prop where
  asset : s.asset = none
  classes : ∀ i, s.classes i = none
  holds : ∀ i, s.holds i = none
  lock : s.lock = none
  task : ∀ c, s.task c = .idle

end Kippu.Pricing
