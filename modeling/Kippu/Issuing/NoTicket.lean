import Kippu.Issuing.Runs

/-!
# Attempts without a ticket

An attempt that is refused, or that nothing will relay, has no ticket and never gets
one (`NoTicket.never`).
-/

namespace Kippu.Issuing

variable {s s' s'' s₀ : State} {t t' : ℕ} {a b : Attempt} {p : Purpose} {k k' : Task}
  {new : Option Task}

/-- No ticket of the attempt exists, and nothing is under way that may issue one. -/
def NoTicket (s : State) (a : Attempt) : Prop :=
  a < s.nextAttempt ∧ (s.ledger a = .unsubmitted ∨ s.ledger a = .refused) ∧
    ∀ t p, s.tasks t ≠ some (.relay a p)

theorem NoTicket.of_same (h : NoTicket s a) (hn : s.nextAttempt ≤ s'.nextAttempt)
    (hl : s'.ledger = s.ledger) (ht : s'.tasks = s.tasks) : NoTicket s' a := by
  obtain ⟨h1, h2, h3⟩ := h
  exact ⟨Nat.lt_of_lt_of_le h1 hn, hl ▸ h2, ht ▸ h3⟩

theorem NoTicket.put (h : NoTicket s a) (hk : ∀ p, new ≠ some (.relay a p)) :
    NoTicket (s.put t new) a := by
  obtain ⟨h1, h2, h3⟩ := h
  refine ⟨h1, h2, ?_⟩
  intro t' p
  rcases eq_or_ne t' t with rfl | ht
  · simpa [State.put] using hk p
  · simpa [State.put, Function.update_of_ne ht] using h3 t' p

theorem NoTicket.spawn (h : NoTicket s a) (hk : ∀ p, k ≠ .relay a p) :
    NoTicket (s.spawn k) a := by
  have h' : NoTicket (s.put s.nextTask (some k)) a := h.put fun p hp => hk p (Option.some.inj hp)
  exact h'.of_same (Nat.le_refl _) rfl rfl

theorem NoTicket.setHold (h : NoTicket s a) : NoTicket (s.setHold i v) a :=
  h.of_same (Nat.le_refl _) rfl rfl

theorem NoTicket.setGranted (h : NoTicket s a) : NoTicket (s.setGranted b v) a :=
  h.of_same (Nat.le_refl _) rfl rfl

theorem NoTicket.setInvitation (h : NoTicket s a) : NoTicket (s.setInvitation i v) a :=
  h.of_same (Nat.le_refl _) rfl rfl

theorem NoTicket.attempt (h : NoTicket s a) : NoTicket (s.attempt p) a :=
  h.of_same (Nat.le_succ _) rfl rfl

theorem NoTicket.setLedger (h : NoTicket s a) (ha : a ≠ b) : NoTicket (s.setLedger b v) a := by
  obtain ⟨h1, h2, h3⟩ := h
  refine ⟨h1, ?_, h3⟩
  simpa [State.setLedger, Function.update_of_ne ha] using h2

theorem NoTicket.not_submitted (h : NoTicket s a) : s.ledger a ≠ .submitted := by
  intro hl
  rcases h.2.1 with h' | h' <;> simp [hl] at h'

theorem NoTicket.not_accepted (h : NoTicket s a) : s.ledger a ≠ .accepted := by
  intro hl
  rcases h.2.1 with h' | h' <;> simp [hl] at h'

theorem afterGrant_eq (h : afterGrant invitation result = some k) :
    ∃ i, invitation = some i ∧ k = .settle i result := by
  cases invitation with
  | none => simp [afterGrant] at h
  | some i => exact ⟨i, rfl, by simpa [afterGrant] using h.symm⟩

theorem afterError_eq (h : afterError p = some k) :
    ∃ i, p = .grant (some i) ∧ k = .settle i .error := by
  cases p with
  | sale hold => simp [afterError] at h
  | grant invitation =>
    obtain ⟨i, rfl, rfl⟩ := afterGrant_eq h
    exact ⟨i, rfl, rfl⟩

/-- Only a rejected issuance is a refusal, and one without a verdict is an error. -/
theorem afterComplete_eq (h : afterComplete p outcome = some k) :
    ∃ i result, p = .grant (some i) ∧ k = .settle i result ∧
      (result = .refusal → outcome = .rejected) ∧ (outcome = .failed → result = .error) := by
  cases p with
  | sale hold => simp [afterComplete] at h
  | grant invitation =>
    cases outcome with
    | issued =>
      obtain ⟨i, rfl, rfl⟩ := afterGrant_eq h
      exact ⟨i, .issued, rfl, rfl, by simp, by simp⟩
    | rejected =>
      obtain ⟨i, rfl, rfl⟩ := afterGrant_eq h
      exact ⟨i, .refusal, rfl, rfl, by simp, by simp⟩
    | failed =>
      obtain ⟨i, rfl, rfl⟩ := afterGrant_eq h
      exact ⟨i, .error, rfl, rfl, by simp, by simp⟩

theorem afterGrant_ne_relay : afterGrant invitation result ≠ some (.relay a p) := by
  intro h
  obtain ⟨i, -, h⟩ := afterGrant_eq h
  cases h

theorem afterError_ne_relay : afterError q ≠ some (.relay a p) := by
  intro h
  obtain ⟨i, -, h⟩ := afterError_eq h
  cases h

theorem afterComplete_ne_relay : afterComplete q outcome ≠ some (.relay a p) := by
  intro h
  obtain ⟨i, r, -, h, -⟩ := afterComplete_eq h
  cases h

theorem recordOutcome_frame : (recordOutcome s a p outcome).ledger = s.ledger ∧
    (recordOutcome s a p outcome).tasks = s.tasks ∧
    (recordOutcome s a p outcome).nextAttempt = s.nextAttempt ∧
    (recordOutcome s a p outcome).purpose = s.purpose ∧
    (recordOutcome s a p outcome).invitations = s.invitations := by
  cases p with
  | grant invitation => cases outcome <;> exact ⟨rfl, rfl, rfl, rfl, rfl⟩
  | sale hold =>
    cases outcome with
    | issued | failed => exact ⟨rfl, rfl, rfl, rfl, rfl⟩
    | rejected =>
      unfold recordOutcome
      dsimp only
      split <;> exact ⟨rfl, rfl, rfl, rfl, rfl⟩

@[simp] theorem recordOutcome_ledger : (recordOutcome s a p outcome).ledger = s.ledger :=
  recordOutcome_frame.1

@[simp] theorem recordOutcome_tasks : (recordOutcome s a p outcome).tasks = s.tasks :=
  recordOutcome_frame.2.1

@[simp] theorem recordOutcome_nextAttempt :
    (recordOutcome s a p outcome).nextAttempt = s.nextAttempt :=
  recordOutcome_frame.2.2.1

@[simp] theorem recordOutcome_purpose : (recordOutcome s a p outcome).purpose = s.purpose :=
  recordOutcome_frame.2.2.2.1

@[simp] theorem recordOutcome_invitations :
    (recordOutcome s a p outcome).invitations = s.invitations :=
  recordOutcome_frame.2.2.2.2

theorem NoTicket.recordOutcome (h : NoTicket s a) : NoTicket (recordOutcome s b p outcome) a :=
  h.of_same (by simp) (by simp) (by simp)

theorem NoTicket.step (h : NoTicket s a) (hs : Step s s') : NoTicket s' a := by
  have hlt : a ≠ s.nextAttempt := Nat.ne_of_lt h.1
  cases hs with
  | lands hl => exact h.setLedger (by rintro rfl; exact h.not_submitted hl)
  | refuses hl => exact h.setLedger (by rintro rfl; exact h.not_submitted hl)
  | held | holdEnded => exact h.setHold
  | invited => exact h.setInvitation
  | taken =>
    refine h.setHold.attempt.spawn ?_
    rintro p ⟨⟩
    exact hlt rfl
  | grantBegun => exact h.spawn (by simp)
  | claimed => exact h.setInvitation.spawn (by simp)
  | reserveThrew => exact h.put fun _ => afterGrant_ne_relay
  | reserved =>
    refine h.attempt.setGranted.put ?_
    rintro p ⟨⟩
    exact hlt rfl
  | reserveLost => exact h.attempt.setGranted.put fun _ => afterGrant_ne_relay
  | @relayThrew _ _ q =>
    refine h.put fun p => ?_
    cases q <;> simp [afterRelayThrew]
  | relayed ht =>
    refine (h.setLedger ?_).put (by simp)
    rintro rfl
    exact h.2.2 _ _ ht
  | undone | undoLost => exact h.setGranted.put fun _ => afterGrant_ne_relay
  | undoFailed => exact h.put fun _ => afterGrant_ne_relay
  | ticketed => exact h.put (by simp)
  | ticketFailed => exact h.put fun _ => afterError_ne_relay
  | settledVerdict | rejectedVerdict | noVerdict => exact h.put (by simp)
  | completed => exact h.recordOutcome.put fun _ => afterComplete_ne_relay
  | completeLost => exact h.recordOutcome.put fun _ => afterError_ne_relay
  | completeFailed => exact h.put fun _ => afterError_ne_relay
  | settled => exact h.setInvitation.put (by simp)
  | stops => exact h.put (by simp)

theorem NoTicket.steps (h : NoTicket s a) (hs : Steps s s') : NoTicket s' a := by
  induction hs with
  | refl => exact h
  | step _ hs ih => exact ih.step hs

/-- The ledger holds no ticket of the attempt and never will. -/
def NeverTicket (s : State) (a : Attempt) : Prop := ∀ s', Steps s s' → s'.ledger a ≠ .accepted

theorem NoTicket.never (h : NoTicket s a) : NeverTicket s a :=
  fun _ hs => (h.steps hs).not_accepted

end Kippu.Issuing
