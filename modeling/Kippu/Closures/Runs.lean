import Kippu.Store
import Mathlib.Logic.Function.Basic

/-!
# Closing and reopening an event's sales

The calls that seal, cancel or finish one event: an `Active` event has its sales
closed by `releaseAll`, unless they are closed already, before the transition is
submitted; on a ledger refusal they reopen. A call may stop anywhere, or end without
a verdict.

A scheduled finish keeps its request id when the organiser sets it again, so its
closures and its refusals are also of one setting of it; nothing of the source tells
them apart.
-/

namespace Kippu.Closures

/-- A call, by the id of its request. -/
abbrev Call := ℕ

/-- A row of `event_sale_closures`; it is in force until reopened. -/
structure SaleClosure where
  closedRequest : Call
  setting : ℕ
  reopened : Bool
  deriving DecidableEq

def salesClosed (closures : List SaleClosure) : Bool := closures.any fun x => !x.reopened

/-- What `releaseAll` inserts, under the event's allocation lock. -/
def closeSales (closures : List SaleClosure) (c : Call) (n : ℕ) : List SaleClosure :=
  if salesClosed closures then closures else closures ++ [⟨c, n, false⟩]

/-- Every closure in force is reopened. -/
def reopenSales (closures : List SaleClosure) : List SaleClosure :=
  closures.map fun x => { x with reopened := true }

/-- Whether sales are closed by another call, or by another setting of this one. -/
def closedByOther (closures : List SaleClosure) (c : Call) (n : ℕ) : Bool :=
  closures.any fun x => !x.reopened && !(x.closedRequest == c && x.setting == n)

/-- Whether sales are closed under this call's request id, as `settle` reads it. -/
def closedByRun (closures : List SaleClosure) (c : Call) : Bool :=
  closures.any fun x => !x.reopened && x.closedRequest == c

/-- Where a call is. A call that released the event remembers whether it found sales closed by
another; nothing of the source does. -/
inductive Stage
  | idle
  | releasing
  | awaiting (found : Option Bool)
  | accepted (found : Option Bool)
  | refused (found : Option Bool)
  /-- It has no verdict; what it submitted may still land. -/
  | stopped (found : Option Bool)
  /-- It was refused, and has not ended. -/
  | halted
  /-- `settle` found a refusal, of a setting, and a closure in force. -/
  | reopening (n : ℕ)
  | ended
  deriving DecidableEq

structure State where
  closures : List SaleClosure
  stage : Call → Stage
  /-- How often the call's finish was set again. -/
  setting : Call → ℕ
  /-- The settings whose submission `audit_log` has rejected, the latest first. -/
  rejected : Call → List ℕ
  holds : ℕ

def State.goto (s : State) (c : Call) (stage : Stage) : State :=
  { s with stage := Function.update s.stage c stage }

def State.reject (s : State) (c : Call) (recorded : Bool) : State :=
  if recorded then
    { s with rejected := Function.update s.rejected c (s.setting c :: s.rejected c) }
  else s

def State.setAgain (s : State) (c : Call) : State :=
  { s with setting := Function.update s.setting c (s.setting c + 1) }

/-- Whether what the call does next is to reopen sales, for a refusal of that setting. -/
def State.Reopens (s : State) (c : Call) (n : ℕ) : Prop :=
  (∃ found, s.stage c = .refused (some found) ∧ n = s.setting c) ∨ s.stage c = .reopening n

/-- One step. If `careful`, the ledger refuses no call that found sales closed by another, and
`settle` finds closures in force only of the setting whose refusal it found. -/
inductive Step (scheduled : Call → Prop) (careful : Prop) (s : State) : State → Prop
  /-- Of an `Active` event, sales are released first. -/
  | begun (release : Bool) : s.stage c = .idle →
      Step scheduled careful s (s.goto c (if release then .releasing else .awaiting none))
  | closed : s.stage c = .releasing →
      Step scheduled careful s
        ({ s with closures := closeSales s.closures c (s.setting c) }.goto c
          (.awaiting (some (closedByOther s.closures c (s.setting c)))))
  | accepts : s.stage c = .awaiting found → Step scheduled careful s (s.goto c (.accepted found))
  | lands : s.stage c = .stopped found → Step scheduled careful s (s.goto c (.accepted found))
  | refuses (recorded : Bool) : s.stage c = .awaiting found → (careful → found ≠ some true) →
      Step scheduled careful s ((s.reject c recorded).goto c (.refused found))
  | reopened : s.Reopens c n →
      Step scheduled careful s
        ({ s with closures := reopenSales s.closures }.goto c (.refused none))
  | ended : s.stage c = .refused none → Step scheduled careful s (s.goto c .ended)
  /-- A call stops, or its submission has no verdict. -/
  | stopsReleasing : s.stage c = .releasing → Step scheduled careful s (s.goto c (.stopped none))
  | stops : s.stage c = .awaiting found → Step scheduled careful s (s.goto c (.stopped found))
  | stopsRefused : s.stage c = .refused found ∨ s.stage c = .reopening n →
      Step scheduled careful s (s.goto c .halted)
  /-- Nothing of a scheduled finish left running was refused, or can land. -/
  | reruns : scheduled c → s.stage c = .stopped found ∨ s.stage c = .halted →
      s.rejected c = [] → Step scheduled careful s (s.goto c .idle)
  | settles : scheduled c → s.stage c = .stopped found ∨ s.stage c = .halted →
      (s.rejected c).head? = some n → closedByRun s.closures c = true →
      (careful → ∀ x ∈ s.closures, x.reopened = false → x.closedRequest = c → x.setting = n) →
      Step scheduled careful s (s.goto c (.reopening n))
  | settlesClosed : scheduled c → s.stage c = .stopped found ∨ s.stage c = .halted →
      s.rejected c ≠ [] → closedByRun s.closures c = false →
      Step scheduled careful s (s.goto c .ended)
  /-- The organiser sets the finish again, under its request id. -/
  | setAgain : scheduled c → s.stage c = .idle ∨ s.stage c = .ended →
      Step scheduled careful s ((s.setAgain c).goto c .idle)
  /-- A hold is placed, under the event's allocation lock. -/
  | placed : salesClosed s.closures = false →
      Step scheduled careful s { s with holds := s.holds + 1 }

inductive Steps (scheduled : Call → Prop) (careful : Prop) (s : State) : State → Prop
  | refl : Steps scheduled careful s s
  | step : Steps scheduled careful s s' → Step scheduled careful s' s'' →
      Steps scheduled careful s s''

structure State.Initial (s : State) : Prop where
  closures : salesClosed s.closures = false
  stage : ∀ c, s.stage c = .idle
  rejected : ∀ c, s.rejected c = []

end Kippu.Closures
