import Mathlib.Logic.Function.Basic
import Mathlib.Logic.Relation
import Mathlib.Order.Basic

/-!
# Row locks

Transactions hold locks on rows, in modes of which some conflict, and each may want one
lock more. A transaction waits for whoever else holds the row in a mode that conflicts;
they are deadlocked when they wait in a circle.
-/

namespace Conc.Locks

inductive LockMode
  | keyShare
  | share
  | noKeyUpdate
  | update
  deriving DecidableEq

namespace LockMode

def conflicts : LockMode → LockMode → Bool
  | .keyShare, .keyShare | .keyShare, .share | .keyShare, .noKeyUpdate => false
  | .share, .keyShare | .share, .share => false
  | .noKeyUpdate, .keyShare => false
  | _, _ => true

@[simp] theorem update_conflicts (m : LockMode) : conflicts .update m = true := by
  cases m <;> rfl

theorem conflicts_symm (m n : LockMode) : conflicts m n = conflicts n m := by
  cases m <;> cases n <;> rfl

end LockMode

structure Locking (τ ρ : Type) where
  holds : τ → ρ → Option LockMode
  wants : τ → Option (ρ × LockMode)

variable {τ ρ : Type}

namespace Locking

def Blocks (l : Locking τ ρ) (t : τ) (r : ρ) (m : LockMode) : Prop :=
  ∃ n, l.holds t r = some n ∧ m.conflicts n = true

def Grants (l : Locking τ ρ) (t : τ) (r : ρ) (m : LockMode) : Prop :=
  ∀ u, u ≠ t → ¬ l.Blocks u r m

def Compatible (l : Locking τ ρ) : Prop :=
  ∀ t u r m, t ≠ u → l.holds t r = some m → ¬ l.Blocks u r m

def Waits (l : Locking τ ρ) (t u : τ) : Prop :=
  ∃ r m, l.wants t = some (r, m) ∧ u ≠ t ∧ l.Blocks u r m

/-- Some transaction waits, by way of others, for itself. -/
def Deadlocked (l : Locking τ ρ) : Prop := ∃ t, Relation.TransGen l.Waits t t

variable {l l' : Locking τ ρ}

/-- Where whoever waits waits for lower ranks, nobody waits in a circle. -/
theorem not_deadlocked_of_rank (rank : τ → ℕ) (h : ∀ t u, l.Waits t u → rank u < rank t) :
    ¬ l.Deadlocked := by
  rintro ⟨t, ht⟩
  have hlt : ∀ {u}, Relation.TransGen l.Waits t u → rank u < rank t := by
    intro u hu
    induction hu with
    | single hw => exact h _ _ hw
    | tail _ hw ih => exact Nat.lt_trans (h _ _ hw) ih
  exact absurd (hlt ht) (Nat.lt_irrefl _)

theorem deadlocked_of_mutual (htu : l.Waits t u) (hut : l.Waits u t) : l.Deadlocked :=
  ⟨t, .tail (.single htu) hut⟩

/-- One transaction's locks change: each it holds then it held before, or could have. -/
theorem Compatible.change (h : l.Compatible) (hothers : ∀ u, u ≠ t → l'.holds u = l.holds u)
    (hown : ∀ r m, l'.holds t r = some m → l.holds t r = some m ∨ l.Grants t r m) :
    l'.Compatible := by
  have hcase : ∀ u r m, u ≠ t → l'.holds t r = some m → ¬ l.Blocks u r m := by
    intro u r m hu hm
    cases hown r m hm with
    | inl hold => exact h t u r m (Ne.symm hu) hold
    | inr hgrants => exact hgrants u hu
  intro a b r m hab ha
  rintro ⟨n, hb, hconflict⟩
  by_cases hat : a = t
  · subst hat
    rw [hothers b (Ne.symm hab)] at hb
    exact hcase b r m (Ne.symm hab) ha ⟨n, hb, hconflict⟩
  · rw [hothers a hat] at ha
    by_cases hbt : b = t
    · subst hbt
      exact hcase a r n hat hb ⟨m, ha, by rwa [LockMode.conflicts_symm]⟩
    · rw [hothers b hbt] at hb
      exact h a b r m hab ha ⟨n, hb, hconflict⟩

end Locking

end Conc.Locks
