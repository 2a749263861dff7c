import Kippu.Issuing.NoTicket

/-!
# What an issuing task holds

A hold, an invitation or an attempt is one task's at a time (`Inv.alone`), and a task
gives its places back only when its attempt has no ticket (`Task.Local`). A step
touches what its own task uses, and what is not kept (`Turn`); so it keeps the
invariant (`Inv.turn`).
-/

namespace Kippu.Issuing

variable {s s' s'' s₀ : State} {t t' : ℕ} {a b : Attempt} {p : Purpose} {k k' : Task}
  {new : Option Task}

-- ---------------------------------------------------------------------------
-- What a task holds
-- ---------------------------------------------------------------------------

inductive Place
  | hold (i : HoldId)
  | invitation (i : InvitationId)
  | attempt (a : Attempt)

def Purpose.place : Purpose → Option Place
  | .sale hold => some (.hold hold)
  | .grant invitation => invitation.map .invitation

/-- What no other task touches. -/
def Task.Uses : Task → Place → Prop
  | .reserve invitation, x => (Purpose.grant invitation).place = some x
  | .relay a p, x => x = .attempt a ∨ p.place = some x
  | .undo a invitation _, x => x = .attempt a ∨ (Purpose.grant invitation).place = some x
  | .ticket a p, x => x = .attempt a ∨ p.place = some x
  | .await a p, x => x = .attempt a ∨ p.place = some x
  | .complete a p _, x => x = .attempt a ∨ p.place = some x
  | .settle i _, x => x = .invitation i

def InUse (s : State) : Place → Prop
  | .hold i => s.holds i = some .issuing
  | .invitation i => s.invitations i = some .redeeming
  | .attempt a => a < s.nextAttempt

/-- Not given back. -/
def Kept (s : State) : Place → Prop
  | .hold i => s.holds i = some .issuing ∨ s.holds i = some .confirmed
  | .invitation i => s.invitations i = some .redeeming ∨ s.invitations i = some .redeemed ∨
      s.invitations i = some .failed
  | .attempt a => a < s.nextAttempt

/-- Counted against the capacity of the event and the quota of the class, or spent. -/
def Taken (s : State) : Place → Prop
  | .hold i => s.holds i = some .issuing
  | .invitation i => s.invitations i = some .redeeming ∨ s.invitations i = some .failed
  | .attempt a => a < s.nextAttempt ∧ (s.granted a = some .pending ∨ s.granted a = some .failed)

theorem Taken.kept (h : Taken s x) : Kept s x := by
  cases x with
  | hold i => exact .inl h
  | invitation i => exact h.imp id .inr
  | attempt a => exact h.1

theorem InUse.kept (h : InUse s x) : Kept s x := by
  cases x with
  | hold i => exact .inl h
  | invitation i => exact .inl h
  | attempt a => exact h

/-- The attempt has begun and is not recorded as over. -/
def Begun (s : State) (a : Attempt) (p : Purpose) : Prop :=
  s.purpose a = some p ∧ ∀ invitation, p = .grant invitation → s.granted a = some .pending

def Task.Local (s : State) : Task → Prop
  | .reserve _ => True
  | .relay a p => Begun s a p ∧ s.ledger a = .unsubmitted
  | .undo a invitation _ => Begun s a (.grant invitation) ∧ NoTicket s a
  | .ticket a p => Begun s a p
  | .await a p => Begun s a p
  | .complete a p outcome => Begun s a p ∧ (outcome = .rejected → NoTicket s a)
  | .settle _ _ => True

/-- A task that gives nothing back while the attempt may have a ticket. -/
def Task.For (k : Task) (a : Attempt) : Prop :=
  k.Uses (.attempt a) ∨ ∃ i result, k = .settle i result ∧ result ≠ .refusal

def Task.Harmless : Task → Prop
  | .complete _ _ outcome => outcome = .failed
  | .settle _ result => result = .error
  | _ => False

def NotIssued (s : State) (a : Attempt) : Prop :=
  (∃ invitation, s.purpose a = some (.grant invitation) ∧
    (s.granted a = none ∨ s.granted a = some .rejected)) ∨ s.refunded a = true

def Unknown (s : State) (a : Attempt) : Prop :=
  s.purpose a = none ∧ s.ledger a = .unsubmitted ∧ s.refunded a = false

structure Inv (s : State) : Prop where
  unknown : ∀ a, s.nextAttempt ≤ a → Unknown s a
  inUse : ∀ t k x, s.tasks t = some k → k.Uses x → InUse s x
  ran : ∀ t k, s.tasks t = some k → k.Local s
  alone : ∀ t t' k k' x, s.tasks t = some k → s.tasks t' = some k' → k.Uses x → k'.Uses x → t = t'
  kept : ∀ a p x, s.purpose a = some p → p.place = some x →
    NoTicket s a ∨ Kept s x ∧ ∀ t k, s.tasks t = some k → k.Uses x → k.For a
  notIssued : ∀ a, NotIssued s a → NoTicket s a

theorem Inv.initial (h : State.Initial s) : Inv s where
  unknown a _ := ⟨h.purpose a, h.ledger a, h.refunded a⟩
  inUse t k x ht := by simp [h.tasks] at ht
  ran t k ht := by simp [h.tasks] at ht
  alone t t' k k' x ht := by simp [h.tasks] at ht
  kept a p x ha := by simp [h.purpose] at ha
  notIssued a ha := by
    rcases ha with ⟨i, ha, -⟩ | ha
    · simp [h.purpose] at ha
    · simp [h.refunded] at ha

-- ---------------------------------------------------------------------------
-- What a step may change
-- ---------------------------------------------------------------------------

def Same (s s' : State) : Place → Prop
  | .hold i => s'.holds i = s.holds i
  | .invitation i => s'.invitations i = s.invitations i
  | .attempt a => s'.purpose a = s.purpose a ∧ s'.granted a = s.granted a ∧
      (s.ledger a = .unsubmitted → s'.ledger a = .unsubmitted)

theorem Same.refl : Same s s x := by
  cases x <;> simp [Same]

theorem InUse.same (hn : s.nextAttempt ≤ s'.nextAttempt) (hx : Same s s' x) (h : InUse s x) :
    InUse s' x := by
  cases x with
  | hold i => exact hx.trans h
  | invitation i => exact hx.trans h
  | attempt a => exact Nat.lt_of_lt_of_le h hn

theorem Kept.same (hn : s.nextAttempt ≤ s'.nextAttempt) (hx : Same s s' x) (h : Kept s x) :
    Kept s' x := by
  cases x with
  | hold i => simpa [Kept, show s'.holds i = s.holds i from hx] using h
  | invitation i => simpa [Kept, show s'.invitations i = s.invitations i from hx] using h
  | attempt a => exact Nat.lt_of_lt_of_le h hn

theorem Taken.same (hn : s.nextAttempt ≤ s'.nextAttempt) (hx : Same s s' x) (h : Taken s x) :
    Taken s' x := by
  cases x with
  | hold i => exact hx.trans h
  | invitation i => simpa [Taken, show s'.invitations i = s.invitations i from hx] using h
  | attempt a => exact ⟨Nat.lt_of_lt_of_le h.1 hn, by rw [hx.2.1]; exact h.2⟩

theorem Begun.same (hx : Same s s' (.attempt a)) (h : Begun s a p) : Begun s' a p :=
  ⟨hx.1.trans h.1, fun i hi => hx.2.1.trans (h.2 i hi)⟩

theorem Task.Local.same (hx : ∀ x, k.Uses x → Same s s' x)
    (hn : ∀ a, NoTicket s a → NoTicket s' a) (h : k.Local s) : k.Local s' := by
  cases k with
  | reserve | settle => trivial
  | relay a p =>
    have ha := hx (.attempt a) (.inl rfl)
    exact ⟨h.1.same ha, ha.2.2 h.2⟩
  | undo a i r => exact ⟨h.1.same (hx (.attempt a) (.inl rfl)), hn a h.2⟩
  | ticket a p | await a p => exact Begun.same (hx (.attempt a) (.inl rfl)) h
  | complete a p o => exact ⟨h.1.same (hx (.attempt a) (.inl rfl)), fun ho => hn a (h.2 ho)⟩

def Free (s : State) (t : ℕ) (x : Place) : Prop :=
  ¬ Kept s x ∨ ∃ k, s.tasks t = some k ∧ k.Uses x

/-- A step in which the task `t` goes on as `new`. -/
structure Turn (s s' : State) (t : ℕ) (new : Option Task) : Prop where
  tasks : s'.tasks = Function.update s.tasks t new
  next : s.nextAttempt ≤ s'.nextAttempt
  unknown : ∀ a, s'.nextAttempt ≤ a → Unknown s a → Unknown s' a
  same : ∀ x, Same s s' x ∨ Free s t x
  uses : ∀ k x, new = some k → k.Uses x → Free s t x
  inUse : ∀ k x, new = some k → k.Uses x → InUse s' x
  ran : ∀ k, new = some k → k.Local s'
  purpose : ∀ a p, s'.purpose a = some p → s.purpose a = some p ∨
    ∀ x, p.place = some x → Free s t x ∧ Kept s' x ∧ ∀ k, new = some k → k.Uses x → k.For a
  kept : ∀ k a p x, s.tasks t = some k → s.purpose a = some p → p.place = some x → k.Uses x →
    k.For a → NoTicket s' a ∨ Kept s' x ∧ ∀ k', new = some k' → k'.Uses x → k'.For a
  notIssued : ∀ a, NotIssued s' a → NotIssued s a ∨ NoTicket s' a
  rests : ∀ k x, s.tasks t = some k → k.Harmless → k.Uses x →
    (Taken s x → Taken s' x) ∧ ∀ k', new = some k' → k'.Uses x → k'.Harmless

theorem Inv.free (h : Inv s) (hx : Free s t x) (ht : s.tasks t' = some k) (hk : k.Uses x) :
    t' = t := by
  rcases hx with hx | ⟨k', hk', hu⟩
  · exact absurd (h.inUse t' k x ht hk).kept hx
  · exact h.alone t' t k k' x ht hk' hk hu

theorem Turn.task (hs : Turn s s' t new) (ht : s'.tasks t' = some k) :
    t' = t ∧ new = some k ∨ t' ≠ t ∧ s.tasks t' = some k := by
  rcases eq_or_ne t' t with rfl | hne
  · exact .inl ⟨rfl, by simpa [hs.tasks] using ht⟩
  · exact .inr ⟨hne, by simpa [hs.tasks, Function.update_of_ne hne] using ht⟩

theorem Turn.others (hs : Turn s s' t new) (h : Inv s) (ht : s.tasks t' = some k) (hne : t' ≠ t)
    (hk : k.Uses x) : Same s s' x :=
  (hs.same x).resolve_right fun hx => hne (h.free hx ht hk)

theorem Inv.turn (h : Inv s) (hn : ∀ a, NoTicket s a → NoTicket s' a) (hs : Turn s s' t new) :
    Inv s' where
  unknown a ha := hs.unknown a ha (h.unknown a (Nat.le_trans hs.next ha))
  inUse t' k x ht hk := by
    rcases hs.task ht with ⟨-, ht⟩ | ⟨hne, ht⟩
    · exact hs.inUse k x ht hk
    · exact (h.inUse t' k x ht hk).same hs.next (hs.others h ht hne hk)
  ran t' k ht := by
    rcases hs.task ht with ⟨-, ht⟩ | ⟨hne, ht⟩
    · exact hs.ran k ht
    · exact (h.ran t' k ht).same (fun x hk => hs.others h ht hne hk) hn
  alone t₁ t₂ k₁ k₂ x h₁ h₂ hk₁ hk₂ := by
    rcases hs.task h₁ with ⟨rfl, h₁⟩ | ⟨hne₁, h₁⟩ <;> rcases hs.task h₂ with ⟨rfl, h₂⟩ | ⟨hne₂, h₂⟩
    · rfl
    · exact absurd (h.free (hs.uses k₁ x h₁ hk₁) h₂ hk₂) hne₂
    · exact absurd (h.free (hs.uses k₂ x h₂ hk₂) h₁ hk₁) hne₁
    · exact h.alone t₁ t₂ k₁ k₂ x h₁ h₂ hk₁ hk₂
  kept a p x ha hx := by
    rcases hs.purpose a p ha with ha | ha
    · -- an attempt of before
      rcases h.kept a p x ha hx with hno | ⟨hkept, hfor⟩
      · exact .inl (hn a hno)
      by_cases hu : ∃ k, s.tasks t = some k ∧ k.Uses x
      · obtain ⟨k, ht, hu⟩ := hu
        rcases hs.kept k a p x ht ha hx hu (hfor t k ht hu) with hno | ⟨hkept', hnew⟩
        · exact .inl hno
        · refine .inr ⟨hkept', fun t' k' ht' hk' => ?_⟩
          rcases hs.task ht' with ⟨-, ht'⟩ | ⟨-, ht'⟩
          · exact hnew k' ht' hk'
          · exact hfor t' k' ht' hk'
      · have hfree : ¬ Free s t x := fun hx => hx.elim (fun hx => hx hkept) hu
        refine .inr ⟨hkept.same hs.next ((hs.same x).resolve_right hfree), fun t' k' ht' hk' => ?_⟩
        rcases hs.task ht' with ⟨-, ht'⟩ | ⟨-, ht'⟩
        · exact absurd (hs.uses k' x ht' hk') hfree
        · exact hfor t' k' ht' hk'
    · -- a new one
      obtain ⟨hfree, hkept, hnew⟩ := ha x hx
      refine .inr ⟨hkept, fun t' k' ht' hk' => ?_⟩
      rcases hs.task ht' with ⟨-, ht'⟩ | ⟨hne, ht'⟩
      · exact hnew k' ht' hk'
      · exact absurd (h.free hfree ht' hk') hne
  notIssued a ha := by
    rcases hs.notIssued a ha with ha | ha
    · exact hn a (h.notIssued a ha)
    · exact ha

end Kippu.Issuing
