import Mathlib.Logic.Function.Basic

/-!
# One-time keys

Rows that are deleted by the first who takes them, whatever comes of it: a nonce, a challenge. Who
took one may make one thing of it, or drop it. So nothing is made twice of one key, though any
number of processes take them.
-/

namespace Conc.OneTime

variable {Key Call Product : Type}

structure State (Key Call Product : Type) where
  /-- Ever issued. -/
  issued : Key → Prop
  waiting : Key → Prop
  /-- The key a call took, and has made nothing of yet. -/
  taken : Call → Option Key
  /-- The key a product was made of, if of any. -/
  made : Product → Option Key

set_option linter.unusedSectionVars false

variable [DecidableEq Call] [DecidableEq Product]

inductive Step (s : State Key Call Product) : State Key Call Product → Prop
  | same : Step s s
  | issues (k : Key) : ¬ s.issued k →
      Step s { s with
        issued := fun j => j = k ∨ s.issued j
        waiting := fun j => j = k ∨ s.waiting j }
  | takes (c : Call) (k : Key) : s.waiting k → s.taken c = none →
      Step s { s with
        waiting := fun j => j ≠ k ∧ s.waiting j, taken := Function.update s.taken c (some k) }
  /-- Its row is deleted, and nobody has it. -/
  | wastes (k : Key) : Step s { s with waiting := fun j => j ≠ k ∧ s.waiting j }
  | makes (c : Call) (p : Product) : s.taken c = some k → s.made p = none →
      Step s { s with
        taken := Function.update s.taken c none, made := Function.update s.made p (some k) }
  | drops (c : Call) : Step s { s with taken := Function.update s.taken c none }

variable {s s' : State Key Call Product} {c c' : Call} {k : Key} {p q : Product}

/-- A key is waiting, or taken by one call, or made something of once. -/
structure Inv (s : State Key Call Product) : Prop where
  waiting : ∀ k, s.waiting k → s.issued k ∧ (∀ c, s.taken c ≠ some k) ∧ ∀ p, s.made p ≠ some k
  taken : ∀ c k, s.taken c = some k → s.issued k ∧
    (∀ c', s.taken c' = some k → c' = c) ∧ ∀ p, s.made p ≠ some k
  made : ∀ p k, s.made p = some k → s.issued k ∧ ∀ q, s.made q = some k → q = p

theorem update_none {f : Call → Option Key} (h : Function.update f c none c' = some k) :
    f c' = some k := by
  rw [Function.update_apply] at h
  split at h
  · cases h
  · exact h

theorem Inv.issues (hi : Inv s) (hk : ¬ s.issued k) :
    Inv { s with
      issued := fun j => j = k ∨ s.issued j
      waiting := fun j => j = k ∨ s.waiting j } where
  waiting j := by
    rintro (rfl | hj)
    · exact ⟨.inl rfl, fun c hc => hk (hi.taken c _ hc).1, fun p hp => hk (hi.made p _ hp).1⟩
    · obtain ⟨hissued, htaken, hmade⟩ := hi.waiting j hj
      exact ⟨.inr hissued, htaken, hmade⟩
  taken c j hc := by
    obtain ⟨hissued, honly, hmade⟩ := hi.taken c j hc
    exact ⟨.inr hissued, honly, hmade⟩
  made p j hp := ⟨.inr (hi.made p j hp).1, (hi.made p j hp).2⟩

theorem Inv.takes (hi : Inv s) (hk : s.waiting k) :
    Inv { s with
      waiting := fun j => j ≠ k ∧ s.waiting j, taken := Function.update s.taken c (some k) } where
  waiting j := by
    rintro ⟨hne, hj⟩
    obtain ⟨hissued, htaken, hmade⟩ := hi.waiting j hj
    refine ⟨hissued, fun c' hc' => ?_, hmade⟩
    simp only [Function.update_apply] at hc'
    split at hc'
    · exact hne (Option.some.inj hc').symm
    · exact htaken c' hc'
  taken c' j hc' := by
    simp only [Function.update_apply] at hc'
    split at hc'
    next he =>
      obtain rfl := Option.some.inj hc'
      obtain ⟨hissued, htaken, hmade⟩ := hi.waiting k hk
      refine ⟨hissued, fun c'' hc'' => ?_, hmade⟩
      simp only [Function.update_apply] at hc''
      split at hc''
      next he' => exact he'.trans he.symm
      next => exact absurd hc'' (htaken c'')
    next hne =>
      obtain ⟨hissued, honly, hmade⟩ := hi.taken c' j hc'
      refine ⟨hissued, fun c'' hc'' => ?_, hmade⟩
      simp only [Function.update_apply] at hc''
      split at hc''
      next =>
        obtain rfl := Option.some.inj hc''
        exact absurd hc' ((hi.waiting k hk).2.1 c')
      next => exact honly c'' hc''
  made := hi.made

theorem Inv.wastes (hi : Inv s) (k : Key) :
    Inv { s with waiting := fun j => j ≠ k ∧ s.waiting j } where
  waiting j hj := hi.waiting j hj.2
  taken := hi.taken
  made := hi.made

theorem Inv.makes (hi : Inv s) (hc : s.taken c = some k) :
    Inv { s with
      taken := Function.update s.taken c none, made := Function.update s.made p (some k) } where
  waiting j hj := by
    obtain ⟨hissued, htaken, hmade⟩ := hi.waiting j hj
    refine ⟨hissued, fun c' hc' => htaken c' (update_none hc'), fun q hq => ?_⟩
    simp only [Function.update_apply] at hq
    split at hq
    · obtain rfl := Option.some.inj hq
      exact htaken c hc
    · exact hmade q hq
  taken c' j hc' := by
    obtain ⟨hissued, honly, hmade⟩ := hi.taken c' j (update_none hc')
    refine ⟨hissued, fun c'' hc'' => honly c'' (update_none hc''), fun q hq => ?_⟩
    simp only [Function.update_apply] at hq
    split at hq
    · obtain rfl := Option.some.inj hq
      obtain rfl := honly c hc
      simp at hc'
    · exact hmade q hq
  made q j hq := by
    obtain ⟨hissued, -, hnone⟩ := hi.taken c k hc
    simp only [Function.update_apply] at hq
    split at hq
    next he =>
      obtain rfl := Option.some.inj hq
      refine ⟨hissued, fun q' hq' => ?_⟩
      simp only [Function.update_apply] at hq'
      split at hq'
      next he' => exact he'.trans he.symm
      next => exact absurd hq' (hnone q')
    next hne =>
      obtain ⟨hissued', honly⟩ := hi.made q j hq
      refine ⟨hissued', fun q' hq' => ?_⟩
      simp only [Function.update_apply] at hq'
      split at hq'
      next =>
        obtain rfl := Option.some.inj hq'
        exact absurd hq (hnone q)
      next => exact honly q' hq'

theorem Inv.drops (hi : Inv s) (c : Call) :
    Inv { s with taken := Function.update s.taken c none } where
  waiting j hj := by
    obtain ⟨hissued, htaken, hmade⟩ := hi.waiting j hj
    exact ⟨hissued, fun c' hc' => htaken c' (update_none hc'), hmade⟩
  taken c' j hc' := by
    obtain ⟨hissued, honly, hmade⟩ := hi.taken c' j (update_none hc')
    exact ⟨hissued, fun c'' hc'' => honly c'' (update_none hc''), hmade⟩
  made := hi.made

theorem Inv.step (hi : Inv s) (h : Step s s') : Inv s' := by
  cases h with
  | same => exact hi
  | issues k hk => exact hi.issues hk
  | takes c k hk _ => exact hi.takes hk
  | wastes k => exact hi.wastes k
  | makes c p hc _ => exact hi.makes hc
  | drops c => exact hi.drops c

theorem Inv.made_once (hi : Inv s) (hp : s.made p = some k) (hq : s.made q = some k) : p = q :=
  (hi.made q k hq).2 p hp

end Conc.OneTime
