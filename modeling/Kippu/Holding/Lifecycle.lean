import Kippu.Holding.Coherent

/-!
# The statuses and the expiry of a hold

Whatever step changes a hold moves its status along the paths of its life, extends it
once while it is outstanding and unexpired, or lapses it once it has expired
(`hold_lifecycle`).
-/

namespace Kippu.Holding

open Conc (Table)

variable {s s' s₀ : State} {i i' : HoldId} {h h' h'' : Hold} {at_ : Time} {f : Hold → Hold}

inductive Moves : HoldStatus → HoldStatus → Prop
  | stays (status : HoldStatus) : Moves status status
  | taken : Moves .outstanding .issuing
  | lapses : Moves .outstanding .lapsed
  | released : Moves .outstanding .released
  | takenLapsed : Moves .lapsed .issuing
  | takenReleased : Moves .released .issuing
  | confirmed : Moves .issuing .confirmed
  | givenBack : Moves .issuing .released

/-- How a step by a process that goes by the clock reading may change a hold. -/
structure Turns (at_ : Time) (h h' : Hold) : Prop where
  checkout : h'.checkout = h.checkout
  created : h'.createdAt = h.createdAt
  status : Moves h.status h'.status
  expiry : h'.expiresAt = h.expiresAt ∧ h'.extendedAt = h.extendedAt ∨
    h.status = .outstanding ∧ at_ < h.expiresAt ∧ h.extendedAt = none ∧
      h'.extendedAt = some at_ ∧ h'.expiresAt = h.expiresAt + HOLD_EXTENSION_MS
  lapse : h.status ≠ .lapsed → h'.status = .lapsed → h.expiresAt ≤ at_

theorem Turns.refl (at_ : Time) (h : Hold) : Turns at_ h h :=
  ⟨rfl, rfl, .stays _, .inl ⟨rfl, rfl⟩, fun hno hl => absurd hl hno⟩

theorem Turns.moves {status : HoldStatus} (hm : Moves h.status status)
    (hl : status = .lapsed → h.expiresAt ≤ at_) : Turns at_ h { h with status } :=
  ⟨rfl, rfl, hm, .inl ⟨rfl, rfl⟩, fun _ => hl⟩

theorem Turns.extend (hst : h.status = .outstanding) (hat : at_ < h.expiresAt)
    (hn : h.extendedAt = none) : Turns at_ h (h.extend at_) where
  checkout := rfl
  created := rfl
  status := .stays _
  expiry := .inr ⟨hst, hat, hn, rfl, rfl⟩
  lapse hno hl := absurd hl hno

theorem turns_of_get (hget : ∀ i', s'.holds.get i' = if i' = i then some h' else s.holds.get i')
    (hh : s.holds.get i = some h) (ht : Turns at_ h h') (hi : s.holds.get i' = some h'') :
    ∃ g, s'.holds.get i' = some g ∧ Turns at_ h'' g := by
  rcases eq_or_ne i' i with rfl | hne
  · obtain rfl := Option.some.inj (hh.symm.trans hi)
    exact ⟨h', by simp [hget], ht⟩
  · exact ⟨h'', by simp [hget, hne, hi], Turns.refl at_ h''⟩

theorem Inv.turns (hs : Inv s) (hstep : Step at_ s s') (hi : s.holds.get i = some h) :
    ∃ h', s'.holds.get i = some h' ∧ Turns at_ h h' := by
  cases hstep with
  | extended hw hst hn hat => exact turns_of_get (get_setHold hw.1) hw.1 (.extend hst hat hn) hi
  | givesUp hw hst =>
    refine turns_of_get (get_setHold hw.1) hw.1 (.moves ?_ ?_) hi
    · rw [hst]
      split
      · exact .lapses
      · exact .released
    · split
      · exact fun _ => ‹_›
      · simp
  | releases hw hst =>
    exact turns_of_get (get_setHold hw.1) hw.1 (.moves (by rw [hst]; exact .released) (by simp)) hi
  | lapses hw hst hat =>
    exact turns_of_get (get_setHold hw.1) hw.1
      (.moves (by rw [hst]; exact .lapses) fun _ => hat) hi
  | @places c event k _ _ _ _ hc hk _ _ =>
    have hne : i ≠ k := by
      rintro rfl
      simp [hk] at hi
    exact ⟨h, (Table.get_set_ne _ hne).trans hi, .refl at_ h⟩
  | @takes c k hosted j hc _ _ _ _ =>
    obtain ⟨g, hg, -, hno⟩ := hs.taking c k hosted hc
    refine turns_of_get (get_setHold hg) hg (.moves ?_ (by simp)) hi
    -- nobody else has taken it since it was read
    cases hst : g.status with
    | outstanding => exact .taken
    | lapsed => exact .takenLapsed
    | released => exact .takenReleased
    | issuing => exact absurd (.inl hst) hno
    | confirmed => exact absurd (.inr hst) hno
  | @pays c k g hc hg =>
    obtain ⟨-, g', hg', hst, hat⟩ := hs.paying c k at_ hc
    obtain rfl := Option.some.inj (hg.symm.trans hg')
    split
    · exact turns_of_get (get_setHold hg) hg (.extend hst hat ‹_›) hi
    · exact ⟨h, hi, .refl at_ h⟩
  | @issues j t x g _ hj hx hw _ =>
    obtain ⟨x', hx', hst⟩ := hs.stage _ (.inr ⟨_, hj⟩)
    obtain rfl := Option.some.inj (hx.symm.trans hx')
    obtain ⟨g', hg', hgst⟩ := hs.completes hx hst
    obtain rfl := Option.some.inj (hw.1.symm.trans hg')
    exact turns_of_get (Table.get_update_of_some _ hw.1) hw.1
      (.moves (by rw [hgst]; exact .confirmed) (by simp)) hi
  | @rejects j t x g hj hx hw =>
    obtain ⟨x', hx', hst⟩ := hs.stage _ (hj.imp_right fun hj => ⟨_, hj⟩)
    obtain rfl := Option.some.inj (hx.symm.trans hx')
    obtain ⟨g', hg', hgst⟩ := hs.completes hx hst
    obtain rfl := Option.some.inj (hw.1.symm.trans hg')
    refine turns_of_get (Table.get_update_of_some _ hw.1) hw.1 (.moves ?_ ?_) hi
    · simp only [hgst, ↓reduceIte]
      exact .givenBack
    · simp [hgst]
  | repriced | locks | finds | paysFor | ends | names | fails | stops =>
    exact ⟨h, hi, .refl at_ h⟩

theorem Inv.extended_once (hs : Inv s) (hsteps : Steps s s') (hi : s.holds.get i = some h)
    (hext : h.extendedAt ≠ none) :
    ∃ h', s'.holds.get i = some h' ∧ h'.extendedAt ≠ none ∧ h'.expiresAt = h.expiresAt := by
  induction hsteps with
  | refl => exact ⟨h, hi, hext, rfl⟩
  | step hsteps hstep ih =>
    obtain ⟨g, hg, hgext, hgat⟩ := ih
    obtain ⟨g', hg', ht⟩ := (hs.steps hsteps).turns hstep hg
    rcases ht.expiry with ⟨hat, hext'⟩ | ⟨-, -, hn, -⟩
    · exact ⟨g', hg', by rw [hext']; exact hgext, hat.trans hgat⟩
    · exact absurd hn hgext

theorem Inv.expires (hs : Inv s) (hi : s.holds.get i = some h) :
    h.expiresAt ≤ h.createdAt + 15 * 60 * 1000 := by
  rw [hs.expiry i h hi, Nat.add_assoc]
  apply Nat.add_le_add_left
  split <;> decide

/-- In every run: each step turns every hold along its life; each checkout has one hold at most; no
hold expires later than fifteen minutes after it was placed; and a hold once extended keeps its
expiry. -/
theorem hold_lifecycle (h₀ : State.Initial s₀) (hs : Steps s₀ s) :
    (∀ at_ s' i h, Step at_ s s' → s.holds.get i = some h →
      ∃ h', s'.holds.get i = some h' ∧ Turns at_ h h') ∧
    (∀ i i' h h', s.holds.get i = some h → s.holds.get i' = some h' →
      h.checkout = h'.checkout → i = i') ∧
    (∀ i h, s.holds.get i = some h → h.expiresAt ≤ h.createdAt + 15 * 60 * 1000) ∧
    ∀ s' i h, Steps s s' → s.holds.get i = some h → h.extendedAt ≠ none →
      ∃ h', s'.holds.get i = some h' ∧ h'.expiresAt = h.expiresAt := by
  have h := (Inv.initial h₀).steps hs
  refine ⟨fun at_ s' i g hstep hg => h.turns hstep hg, h.checkout, fun i g hg => h.expires hg, ?_⟩
  intro s' i g hs' hg hext
  obtain ⟨g', hg', -, hat⟩ := h.extended_once hs' hg hext
  exact ⟨g', hg', hat⟩

/-- A hold that is placed, extended. -/
theorem hold_lifecycle_one : ∃ s h, Steps State.start s ∧ s.holds.get 1 = some h ∧
    h.extendedAt = some 60000 ∧ h.expiresAt ≤ h.createdAt + 15 * 60 * 1000 := by
  have h₁ : Steps State.start _ :=
    Steps.refl.step (show Step 0 _ _ from Step.locks (c := 1) 0 rfl rfl)
  have h₂ := h₁.step (show Step 0 _ _ from Step.places (c := 1) (i := 1) rfl rfl
    (show State.terms _ 0 = some (25, 3) from rfl)
    (show ∀ j h, State.start.holds.get j = some h → h.checkout ≠ 7 by simp [State.start]))
  have h₃ := h₂.step (show Step 60000 _ _ from
    Step.extended (i := 1) ⟨rfl, rfl⟩ rfl rfl (by decide))
  exact ⟨_, _, h₃, rfl, rfl, (hold_lifecycle State.start_initial h₃).2.2.1 1 _ rfl⟩

end Kippu.Holding
