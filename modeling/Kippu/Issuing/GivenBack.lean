import Kippu.Issuing.Moves

/-!
# A place is given back only without a ticket

What is given back never has a ticket, and what an attempt took whose submission
ended without a verdict stays taken (`given_back`).
-/

namespace Kippu.Issuing

variable {s s' s'' s₀ : State} {t t' : ℕ} {a b : Attempt} {p : Purpose} {k k' : Task}
  {new : Option Task}

theorem Inv.step (h : Inv s) (hs : Step s s') : Inv s' := by
  obtain ⟨t, new, ht⟩ := h.turns hs
  exact h.turn (fun a ha => ha.step hs) ht

theorem Inv.steps (h : Inv s) (hs : Steps s s') : Inv s' := by
  induction hs with
  | refl => exact h
  | step _ hs ih => exact ih.step hs

-- ---------------------------------------------------------------------------
-- What stays taken
-- ---------------------------------------------------------------------------

def Resting (s : State) (x : Place) : Prop :=
  Taken s x ∧ ∀ t k, s.tasks t = some k → k.Uses x → k.Harmless

theorem Resting.step (h : Inv s) (hs : Step s s') (hx : Resting s x) : Resting s' x := by
  obtain ⟨hx, hall⟩ := hx
  obtain ⟨t, new, ht⟩ := h.turns hs
  by_cases hu : ∃ k, s.tasks t = some k ∧ k.Uses x
  · obtain ⟨k, hk, hu⟩ := hu
    obtain ⟨htaken, hnew⟩ := ht.rests k x hk (hall t k hk hu) hu
    refine ⟨htaken hx, fun t' k' ht' hk' => ?_⟩
    rcases ht.task ht' with ⟨-, ht'⟩ | ⟨-, ht'⟩
    · exact hnew k' ht' hk'
    · exact hall t' k' ht' hk'
  · have hfree : ¬ Free s t x := fun hf => hf.elim (fun hf => hf hx.kept) hu
    refine ⟨hx.same ht.next ((ht.same x).resolve_right hfree), fun t' k' ht' hk' => ?_⟩
    rcases ht.task ht' with ⟨-, ht'⟩ | ⟨-, ht'⟩
    · exact absurd (ht.uses k' x ht' hk') hfree
    · exact hall t' k' ht' hk'

theorem Resting.steps (h : Inv s) (hs : Steps s s') (hx : Resting s x) : Resting s' x := by
  induction hs with
  | refl => exact hx
  | step hr hs ih => exact ih.step (h.steps hr) hs

theorem Inv.resting (h : Inv s) (ht : s.tasks t = some (.complete a p .failed))
    (hx : Task.Uses (.complete a p .failed) x) (htaken : Taken s x) : Resting s x := by
  refine ⟨htaken, fun t' k hk hu => ?_⟩
  obtain rfl := h.alone t' t k _ x hk ht hu hx
  obtain rfl := Option.some.inj (ht.symm.trans hk)
  rfl

-- ---------------------------------------------------------------------------
-- Main result
-- ---------------------------------------------------------------------------

/-- What the attempt took is given back, or a refund is recorded for it: its hold is released, its
row is deleted or rejected, or its invitation is open. -/
def GivenBack (s : State) (a : Attempt) : Prop :=
  (∃ i, s.purpose a = some (.sale i) ∧ s.holds i = some .released) ∨
  (∃ i, s.purpose a = some (.grant (some i)) ∧ s.invitations i = some .opened) ∨
  NotIssued s a

/-- What the attempt took still counts: its hold is issuing, its row is neither deleted nor
rejected, and its invitation is not open. -/
def StillCounts (s : State) (a : Attempt) : Purpose → Prop
  | .sale hold => s.holds hold = some .issuing
  | .grant invitation => (s.granted a = some .pending ∨ s.granted a = some .failed) ∧
      ∀ i, invitation = some i →
        s.invitations i = some .redeeming ∨ s.invitations i = some .failed

theorem Inv.givenBack (h : Inv s) (ha : GivenBack s a) : NoTicket s a := by
  rcases ha with ⟨i, ha, hi⟩ | ⟨i, ha, hi⟩ | ha
  · refine (h.kept a _ (.hold i) ha rfl).resolve_right ?_
    simp [Kept, hi]
  · refine (h.kept a _ (.invitation i) ha rfl).resolve_right ?_
    simp [Kept, hi]
  · exact h.notIssued a ha

theorem Inv.stillCounts (h : Inv s) (ht : s.tasks t = some (.complete a p .failed))
    (hs : Steps s s') : StillCounts s' a p := by
  have hin := fun x => h.inUse t _ x ht
  cases p with
  | sale hold =>
    have hu : Task.Uses (.complete a (.sale hold) .failed) (.hold hold) := .inr rfl
    exact ((h.resting ht hu (hin _ hu)).steps h hs).1
  | grant invitation =>
    obtain ⟨⟨-, hg⟩, -⟩ := h.ran t _ ht
    have hu : Task.Uses (.complete a (.grant invitation) .failed) (.attempt a) := .inl rfl
    refine ⟨((h.resting ht hu ⟨hin _ hu, .inl (hg _ rfl)⟩).steps h hs).1.2, ?_⟩
    rintro i rfl
    have hu : Task.Uses (.complete a (.grant (some i)) .failed) (.invitation i) := .inr rfl
    exact ((h.resting ht hu (.inl (hin _ hu))).steps h hs).1

/-- In every run, what is given back, or refunded as rejected, has no ticket and never will; and
what an attempt took whose submission ended without a verdict counts ever after. -/
theorem given_back (h₀ : State.Initial s₀) (hs : Steps s₀ s) :
    (∀ a, GivenBack s a → NeverTicket s a) ∧
    ∀ t a p, s.tasks t = some (.complete a p .failed) → ∀ s', Steps s s' → StillCounts s' a p := by
  have h := (Inv.initial h₀).steps hs
  exact ⟨fun a ha => (h.givenBack ha).never, fun t a p ht s' hs' => h.stillCounts ht hs'⟩

def State.start : State where
  ledger _ := .unsubmitted
  purpose _ := none
  nextAttempt := 0
  holds _ := none
  granted _ := none
  refunded _ := false
  invitations _ := none
  tasks _ := none
  nextTask := 0

theorem State.start_initial : State.Initial State.start :=
  ⟨fun _ => rfl, fun _ => rfl, fun _ => rfl, fun _ => rfl, fun _ => rfl⟩

/-- A paid hold is released when its relay throws, and stays issuing when its submission ends
without a verdict. -/
theorem given_back_sale :
    (∃ s, Steps State.start s ∧ s.holds 0 = some .released ∧ s.refunded 0 = true ∧
      NeverTicket s 0) ∧
    ∃ s, Steps State.start s ∧ s.tasks 0 = some (.complete 0 (.sale 0) .failed) ∧
      ∀ s', Steps s s' → s'.holds 0 = some .issuing := by
  have h₁ := Steps.refl.step (Step.held (s := State.start) (i := 0) rfl)
  have h₂ := h₁.step (Step.taken (i := 0) rfl (.inl rfl))
  constructor
  · have h₃ := h₂.step (Step.relayThrew (t := 0) .error rfl (by simp))
    have h₄ := h₃.step (Step.completed (t := 0) rfl)
    exact ⟨_, h₄, rfl, rfl, (given_back State.start_initial h₄).1 0 (.inl ⟨0, rfl, rfl⟩)⟩
  · have h₃ := h₂.step (Step.relayed (t := 0) rfl)
    have h₄ := h₃.step (Step.ticketed (t := 0) rfl)
    have h₅ := h₄.step (Step.noVerdict (t := 0) rfl)
    exact ⟨_, h₅, rfl, (given_back State.start_initial h₅).2 0 0 (.sale 0) rfl⟩

end Kippu.Issuing
