import Kippu.Releasing.Runs

/-!
# What the tables agree on

A checkout that has a sale or a refund has no outstanding hold, in any state. What one
statement changes is put as `Later`: a hold of an event whose sales are closed is never
outstanding again, a checkout keeps its hold, and the provider's answer is settled once
the checkout is not open.
-/

namespace Kippu.Releasing

variable {d d' d'' : Store} {s s' s'' : State} {c c' : Call} {o : Option Call} {t : Task}
  {e : EventId} {i i' : HoldId} {k k' : HostedId} {j : SaleId} {r : Release}

-- ---------------------------------------------------------------------------
-- What the tables agree on
-- ---------------------------------------------------------------------------

structure Facts (d : Store) : Prop where
  held : ∀ k h, d.hosted k = some h → (d.holds h.hold).isSome = true
  remote : ∀ k h, d.hosted k = some h → ∃ x, d.remote k = some x ∧ x.hold = h.hold
  sold : ∀ j x, d.sales j = some x → ∃ h, d.hosted x.hosted = some h ∧ h.hold = x.hold
  entitled : ∀ k, (d.refunds k).isSome = true → (d.hosted k).isSome = true
  /-- What is handled has no outstanding hold. -/
  spent : ∀ k h hd, d.Handled k → d.hosted k = some h → d.holds h.hold = some hd →
    hd.status ≠ .outstanding

theorem Facts.of_handled (hf : Facts d) (h : d.Handled k) : ∃ h, d.hosted k = some h := by
  obtain ⟨j, x, hx, rfl⟩ | hk := h
  · obtain ⟨h, hh, -⟩ := hf.sold j x hx
    exact ⟨h, hh⟩
  · exact Option.isSome_iff_exists.mp (hf.entitled k hk)

/-- A write to a hold's row that makes no hold outstanding, and keeps its event. -/
structure Tame (f : Hold → Hold) : Prop where
  event : ∀ h, (f h).event = h.event
  status : ∀ h, (f h).status = .outstanding → h.status = .outstanding

theorem tame_setStatus {status : HoldStatus} (h : status ≠ .outstanding) :
    Tame fun hd => { hd with status } := ⟨fun _ => rfl, fun _ he => absurd he h⟩

theorem tame_setStatusOf {old status : HoldStatus} (h : status ≠ .outstanding) :
    Tame fun hd => if hd.status = old then { hd with status } else hd where
  event hd := by split <;> rfl
  status hd he := by
    split at he
    · exact absurd he h
    · exact he

theorem tame_extend : Tame fun h => if h.extended then h
    else { h with expiresAt := h.expiresAt + HOLD_EXTENSION_MS, extended := true } where
  event h := by split <;> rfl
  status h he := by
    split at he <;> exact he

theorem over_ne (h : Hold) (at_ : Time) : h.over at_ ≠ .outstanding := by
  unfold Hold.over
  split <;> exact fun he => by cases he

theorem setHold_some {f : Hold → Hold} {h' : Hold} (h : (d.setHold i f).holds i' = some h') :
    ∃ h, d.holds i' = some h ∧ (i' ≠ i ∧ h' = h ∨ i' = i ∧ h' = f h) := by
  simp only [Store.setHold, Function.update_apply] at h
  split at h
  next hi =>
    obtain ⟨x, hx, rfl⟩ := Option.map_eq_some_iff.mp h
    exact ⟨x, hi ▸ hx, .inr ⟨hi, rfl⟩⟩
  next hi => exact ⟨h', h, .inl ⟨hi, rfl⟩⟩

theorem setHold_isSome {f : Hold → Hold} :
    ((d.setHold i f).holds i').isSome = (d.holds i').isSome := by
  simp only [Store.setHold, Function.update_apply]
  split
  next hi => rw [hi, Option.isSome_map]
  next => rfl

theorem setHold_self {f : Hold → Hold} {h : Hold} (hd : d.holds i = some h) :
    (d.setHold i f).holds i = some (f h) := by
  simp [Store.setHold, hd]

theorem setHold_ne {f : Hold → Hold} (h : i' ≠ i) : (d.setHold i f).holds i' = d.holds i' := by
  simp [Store.setHold, Function.update_of_ne h]

theorem giveUp_spent {status : HoldStatus} {h : Hold} (hs : status ≠ .outstanding)
    (hi : (d.giveUp i status).holds i = some h) : h.status ≠ .outstanding := by
  obtain ⟨x, -, ⟨hne, -⟩ | ⟨-, rfl⟩⟩ := setHold_some hi
  · exact absurd rfl hne
  · split
    · exact hs
    · assumption

theorem record_some {status : HostedCheckoutStatus} {h' : Hosted}
    (h : (d.record k status).hosted k' = some h') :
    ∃ h, d.hosted k' = some h ∧ h'.hold = h.hold := by
  simp only [Store.record, Function.update_apply] at h
  split at h
  next hk =>
    obtain ⟨x, hx, rfl⟩ := Option.map_eq_some_iff.mp h
    exact ⟨x, hk ▸ hx, rfl⟩
  next => exact ⟨h', h, rfl⟩

theorem record_of {h : Hosted} (hh : d.hosted k' = some h) (k : HostedId)
    (status : HostedCheckoutStatus) :
    ∃ h', (d.record k status).hosted k' = some h' ∧ h'.hold = h.hold := by
  simp only [Store.record, Function.update_apply]
  split
  next hk =>
    subst hk
    rw [hh]
    exact ⟨_, rfl, rfl⟩
  next => exact ⟨h, hh, rfl⟩

theorem handled_entitle {reason : RefundReason} :
    (d.entitle k reason).Handled k' ↔ d.Handled k' ∨ k' = k := by
  simp only [Store.Handled, Store.entitle, Function.update_apply, or_assoc]
  refine or_congr_right ?_
  split
  next hk => simp [hk]
  next hk => simp [hk]

theorem handled_sell {x : Sale} (h : (d.sell j x).Handled k) : d.Handled k ∨ k = x.hosted := by
  obtain ⟨j', y, hy, rfl⟩ | hk := h
  · simp only [Store.sell, Function.update_apply] at hy
    split at hy
    · obtain rfl := Option.some.inj hy
      exact .inr rfl
    · exact .inl (.inl ⟨j', y, hy, rfl⟩)
  · exact .inl (.inr hk)

-- ---------------------------------------------------------------------------
-- Each statement keeps them
-- ---------------------------------------------------------------------------

theorem Facts.setHold (hf : Facts d) {f : Hold → Hold} (ht : Tame f) : Facts (d.setHold i f) where
  held k h hk := by
    rw [setHold_isSome]
    exact hf.held k h hk
  remote := hf.remote
  sold := hf.sold
  entitled := hf.entitled
  spent k h hd hk hh hhd he := by
    obtain ⟨x, hx, ⟨-, rfl⟩ | ⟨-, rfl⟩⟩ := setHold_some hhd
    · exact hf.spent k h _ hk hh hx he
    · exact hf.spent k h x hk hh hx (ht.status x he)

theorem Facts.place (hf : Facts d) {h : Hold} (hi : d.holds i = none) : Facts (d.place i h) := by
  have hne : ∀ {k x}, d.hosted k = some x → x.hold ≠ i := by
    rintro k x hx rfl
    simpa [hi] using hf.held k x hx
  refine ⟨fun k x hx => ?_, hf.remote, hf.sold, hf.entitled, fun k x hd hk hx hhd => ?_⟩
  · simpa [Store.place, Function.update_of_ne (hne hx)] using hf.held k x hx
  · refine hf.spent k x hd hk hx ?_
    simpa [Store.place, Function.update_of_ne (hne hx)] using hhd

theorem Facts.create (hf : Facts d) {h : Hosted} {x : Remote} (hk : d.hosted k = none)
    (hi : (d.holds h.hold).isSome = true) (hx : d.remote k = some x) (hxh : x.hold = h.hold) :
    Facts (d.create k h) := by
  have hnew : ∀ k' h', (d.create k h).hosted k' = some h' → k' = k ∧ h' = h ∨
      k' ≠ k ∧ d.hosted k' = some h' := by
    intro k' h' hh
    simp only [Store.create, Function.update_apply] at hh
    split at hh
    next he => exact .inl ⟨he, (Option.some.inj hh).symm⟩
    next he => exact .inr ⟨he, hh⟩
  have hkeep : ∀ {k' h'}, d.hosted k' = some h' → (d.create k h).hosted k' = some h' := by
    intro k' h' hh
    have hne : k' ≠ k := fun he => by rw [he, hk] at hh; cases hh
    simpa [Store.create, Function.update_of_ne hne] using hh
  refine ⟨fun k' h' hh => ?_, fun k' h' hh => ?_, fun j y hy => ?_, fun k' hr => ?_,
    fun k' h' hd hk' hh => ?_⟩
  · rcases hnew k' h' hh with ⟨-, rfl⟩ | ⟨-, hh⟩
    · exact hi
    · exact hf.held k' h' hh
  · rcases hnew k' h' hh with ⟨rfl, rfl⟩ | ⟨-, hh⟩
    · exact ⟨x, hx, hxh⟩
    · exact hf.remote k' h' hh
  · obtain ⟨h', hh, he⟩ := hf.sold j y hy
    exact ⟨h', hkeep hh, he⟩
  · obtain ⟨h', hh⟩ := Option.isSome_iff_exists.mp (hf.entitled k' hr)
    rw [hkeep hh]
    rfl
  · rcases hnew k' h' hh with ⟨rfl, -⟩ | ⟨-, hh⟩
    · obtain ⟨y, hy⟩ := hf.of_handled (d := d) hk'
      rw [hk] at hy
      cases hy
    · exact hf.spent k' h' hd hk' hh

theorem Facts.record (hf : Facts d) (status : HostedCheckoutStatus) :
    Facts (d.record k status) where
  held k' h' hh := by
    obtain ⟨h, hh, he⟩ := record_some hh
    exact he ▸ hf.held k' h hh
  remote k' h' hh := by
    obtain ⟨h, hh, he⟩ := record_some hh
    exact he ▸ hf.remote k' h hh
  sold j x hx := by
    obtain ⟨h, hh, he⟩ := hf.sold j x hx
    obtain ⟨h', hh', he'⟩ := record_of hh k status
    exact ⟨h', hh', he'.trans he⟩
  entitled k' hr := by
    obtain ⟨h, hh⟩ := Option.isSome_iff_exists.mp (hf.entitled k' hr)
    obtain ⟨h', hh', -⟩ := record_of hh k status
    rw [hh']
    rfl
  spent k' h' hd hk' hh hhd := by
    obtain ⟨h, hh, he⟩ := record_some hh
    exact hf.spent k' h hd hk' hh (he ▸ hhd)

theorem Facts.entitle (hf : Facts d) (reason : RefundReason) {h : Hosted}
    (hk : d.hosted k = some h) (hs : ∀ hd, d.holds h.hold = some hd → hd.status ≠ .outstanding) :
    Facts (d.entitle k reason) where
  held := hf.held
  remote := hf.remote
  sold := hf.sold
  entitled k' hr := by
    rcases handled_entitle.mp (.inr hr) with hh | rfl
    · exact Option.isSome_iff_exists.mpr (hf.of_handled hh)
    · exact Option.isSome_iff_exists.mpr ⟨h, hk⟩
  spent k' h' hd hk' hh hhd := by
    rcases handled_entitle.mp hk' with hk' | rfl
    · exact hf.spent k' h' hd hk' hh hhd
    · obtain rfl := Option.some.inj (hk.symm.trans hh)
      exact hs hd hhd

theorem Facts.sell (hf : Facts d) {x : Sale} {h : Hosted} (hk : d.hosted x.hosted = some h)
    (hx : h.hold = x.hold) (hs : ∀ hd, d.holds h.hold = some hd → hd.status ≠ .outstanding) :
    Facts (d.sell j x) where
  held := hf.held
  remote := hf.remote
  sold j' y hy := by
    simp only [Store.sell, Function.update_apply] at hy
    split at hy
    · obtain rfl := Option.some.inj hy
      exact ⟨h, hk, hx⟩
    · exact hf.sold j' y hy
  entitled := hf.entitled
  spent k' h' hd hk' hh hhd := by
    rcases handled_sell hk' with hk' | rfl
    · exact hf.spent k' h' hd hk' hh hhd
    · obtain rfl := Option.some.inj (hk.symm.trans hh)
      exact hs hd hhd

theorem Facts.setRemote (hf : Facts d) {x : Remote}
    (hx : ∀ h, d.hosted k = some h → x.hold = h.hold) : Facts (d.setRemote k x) where
  held := hf.held
  remote k' h hh := by
    simp only [Store.setRemote, Function.update_apply]
    split
    next hk => exact ⟨x, rfl, hx h (hk ▸ hh)⟩
    next => exact hf.remote k' h hh
  sold := hf.sold
  entitled := hf.entitled
  spent := hf.spent

theorem Facts.close (hf : Facts d) : Facts (d.close e) :=
  ⟨hf.held, hf.remote, hf.sold, hf.entitled, hf.spent⟩

theorem Facts.reopen (hf : Facts d) : Facts (d.reopen e) :=
  ⟨hf.held, hf.remote, hf.sold, hf.entitled, hf.spent⟩

-- ---------------------------------------------------------------------------
-- What stays as it is
-- ---------------------------------------------------------------------------

structure Later (d d' : Store) : Prop where
  reopened : ∀ e, d.reopened e ≤ d'.reopened e
  closed : ∀ e, d'.reopened e = d.reopened e → d.closed e = true → d'.closed e = true
  /-- Of an event whose sales are closed, no other hold is outstanding. -/
  outstanding : ∀ i h', d'.holds i = some h' → h'.status = .outstanding →
    d'.reopened h'.event = d.reopened h'.event → d.closed h'.event = true →
    ∃ h, d.holds i = some h ∧ h.event = h'.event ∧ h.status = .outstanding
  event : ∀ i h, d.holds i = some h → ∃ h', d'.holds i = some h' ∧ h'.event = h.event
  hosted : ∀ k h, d.hosted k = some h → ∃ h', d'.hosted k = some h' ∧ h'.hold = h.hold
  sale : ∀ j x, d.sales j = some x → ∃ x', d'.sales j = some x' ∧ x'.hold = x.hold
  remote : ∀ k x, d.remote k = some x → x.status ≠ .opened → d'.remote k = some x
  known : ∀ k x, d.remote k = some x → ∃ x', d'.remote k = some x' ∧ x'.hold = x.hold
  handled : ∀ k, d.Handled k → d'.Handled k

theorem Later.refl (d : Store) : Later d d where
  reopened _ := le_rfl
  closed _ _ h := h
  outstanding _ h hi ho _ _ := ⟨h, hi, rfl, ho⟩
  event _ h hi := ⟨h, hi, rfl⟩
  hosted _ h hk := ⟨h, hk, rfl⟩
  sale _ x hx := ⟨x, hx, rfl⟩
  remote _ _ h _ := h
  known _ x hx := ⟨x, hx, rfl⟩
  handled _ h := h

theorem Later.trans (h : Later d d') (h' : Later d' d'') : Later d d'' where
  reopened e := (h.reopened e).trans (h'.reopened e)
  closed e he hc := by
    have h₁ := h.reopened e
    have h₂ := h'.reopened e
    exact h'.closed e (by omega) (h.closed e (by omega) hc)
  outstanding i hd hi ho he hc := by
    have h₁ := h.reopened hd.event
    have h₂ := h'.reopened hd.event
    obtain ⟨x, hx, hxe, hxo⟩ := h'.outstanding i hd hi ho (by omega)
      (h.closed _ (by omega) hc)
    obtain ⟨y, hy, hye, hyo⟩ := h.outstanding i x hx hxo (by rw [hxe]; omega) (hxe ▸ hc)
    exact ⟨y, hy, hye.trans hxe, hyo⟩
  event i hd hi := by
    obtain ⟨x, hx, hxe⟩ := h.event i hd hi
    obtain ⟨y, hy, hye⟩ := h'.event i x hx
    exact ⟨y, hy, hye.trans hxe⟩
  hosted k x hx := by
    obtain ⟨y, hy, hye⟩ := h.hosted k x hx
    obtain ⟨z, hz, hze⟩ := h'.hosted k y hy
    exact ⟨z, hz, hze.trans hye⟩
  sale j x hx := by
    obtain ⟨y, hy, hye⟩ := h.sale j x hx
    obtain ⟨z, hz, hze⟩ := h'.sale j y hy
    exact ⟨z, hz, hze.trans hye⟩
  remote k x hx hs := h'.remote k x (h.remote k x hx hs) hs
  known k x hx := by
    obtain ⟨y, hy, hye⟩ := h.known k x hx
    obtain ⟨z, hz, hze⟩ := h'.known k y hy
    exact ⟨z, hz, hze.trans hye⟩
  handled k hk := h'.handled k (h.handled k hk)

theorem later_setHold (d : Store) (i : HoldId) {f : Hold → Hold} (ht : Tame f) :
    Later d (d.setHold i f) :=
  { Later.refl d with
    outstanding := fun i' h' hi ho _ _ => by
      obtain ⟨x, hx, ⟨-, rfl⟩ | ⟨-, rfl⟩⟩ := setHold_some hi
      · exact ⟨_, hx, rfl, ho⟩
      · exact ⟨x, hx, (ht.event x).symm, ht.status x ho⟩
    event := fun i' h hi => by
      by_cases he : i' = i
      · subst he
        exact ⟨f h, setHold_self hi, ht.event h⟩
      · exact ⟨h, by simpa [Store.setHold, Function.update_of_ne he] using hi, rfl⟩ }

theorem later_place (d : Store) {h : Hold} (hi : d.holds i = none)
    (hc : d.closed h.event = false) : Later d (d.place i h) :=
  { Later.refl d with
    outstanding := fun i' h' hi' ho _ hc' => by
      simp only [Store.place, Function.update_apply] at hi'
      split at hi'
      · obtain rfl := Option.some.inj hi'
        rw [hc] at hc'
        cases hc'
      · exact ⟨h', hi', rfl, ho⟩
    event := fun i' h' hi' => by
      have hne : i' ≠ i := fun he => by rw [he, hi] at hi'; cases hi'
      exact ⟨h', by simpa [Store.place, Function.update_of_ne hne] using hi', rfl⟩ }

theorem later_create (d : Store) {h : Hosted} (hk : d.hosted k = none) :
    Later d (d.create k h) :=
  { Later.refl d with
    hosted := fun k' h' hk' => by
      have hne : k' ≠ k := fun he => by rw [he, hk] at hk'; cases hk'
      exact ⟨h', by simpa [Store.create, Function.update_of_ne hne] using hk', rfl⟩ }

theorem later_record (d : Store) (k : HostedId) (status : HostedCheckoutStatus) :
    Later d (d.record k status) :=
  { Later.refl d with hosted := fun _ _ hk => record_of hk _ _ }

theorem later_entitle (d : Store) (k : HostedId) (reason : RefundReason) :
    Later d (d.entitle k reason) :=
  { Later.refl d with handled := fun _ hk => handled_entitle.mpr (.inl hk) }

theorem later_sell (d : Store) (j : SaleId) {x : Sale}
    (hj : ∀ y, d.sales j = some y → y.hosted = x.hosted ∧ y.hold = x.hold) :
    Later d (d.sell j x) :=
  { Later.refl d with
    sale := fun j' y hy => by
      by_cases he : j' = j
      · subst he
        exact ⟨x, by simp [Store.sell], (hj y hy).2.symm⟩
      · exact ⟨y, by simpa [Store.sell, Function.update_of_ne he] using hy, rfl⟩
    handled := by
      rintro k (⟨j', y, hy, rfl⟩ | hk)
      · by_cases he : j' = j
        · subst he
          exact .inl ⟨j', x, by simp [Store.sell], (hj y hy).1.symm⟩
        · exact .inl ⟨j', y, by simpa [Store.sell, Function.update_of_ne he] using hy, rfl⟩
      · exact .inr hk }

theorem later_setRemote (d : Store) (k : HostedId) {x : Remote}
    (hk : ∀ y, d.remote k = some y → y.hold = x.hold ∧ (y.status ≠ .opened → x = y)) :
    Later d (d.setRemote k x) :=
  { Later.refl d with
    remote := fun k' y hy hs => by
      by_cases he : k' = k
      · subst he
        simp [Store.setRemote, (hk y hy).2 hs]
      · simpa [Store.setRemote, Function.update_of_ne he] using hy
    known := fun k' y hy => by
      by_cases he : k' = k
      · subst he
        exact ⟨x, by simp [Store.setRemote], ((hk y hy).1).symm⟩
      · exact ⟨y, by simpa [Store.setRemote, Function.update_of_ne he] using hy, rfl⟩ }

theorem later_close (d : Store) (e : EventId) : Later d (d.close e) :=
  { Later.refl d with
    closed := fun e' _ hc => by
      by_cases he : e' = e
      · simp [Store.close, he]
      · simpa [Store.close, Function.update_of_ne he] using hc }

theorem later_reopen (d : Store) (e : EventId) : Later d (d.reopen e) :=
  { Later.refl d with
    reopened := fun e' => by
      simp only [Store.reopen, Function.update_apply]
      split
      next he => exact he ▸ Nat.le_succ _
      next => exact le_rfl
    closed := fun e' hr hc => by
      have hne : e' ≠ e := fun he => by simp [Store.reopen, he] at hr
      simpa [Store.reopen, Function.update_of_ne hne] using hc
    outstanding := fun i h hi ho _ _ => ⟨h, hi, rfl, ho⟩ }

-- ---------------------------------------------------------------------------
-- What makes no row
-- ---------------------------------------------------------------------------

structure NoNew (d d' : Store) : Prop where
  holds : ∀ i, d.holds i = none → d'.holds i = none
  hosted : ∀ k, d.hosted k = none → d'.hosted k = none
  sales : ∀ j, d.sales j = none → d'.sales j = none

theorem NoNew.refl (d : Store) : NoNew d d := ⟨fun _ => id, fun _ => id, fun _ => id⟩

theorem NoNew.trans (h : NoNew d d') (h' : NoNew d' d'') : NoNew d d'' :=
  ⟨fun i hi => h'.holds i (h.holds i hi), fun k hk => h'.hosted k (h.hosted k hk),
    fun j hj => h'.sales j (h.sales j hj)⟩

theorem noNew_setHold (d : Store) (i : HoldId) (f : Hold → Hold) : NoNew d (d.setHold i f) :=
  { NoNew.refl d with
    holds := fun i' hi => by
      simp only [Store.setHold, Function.update_apply]
      split
      next he => rw [← he, hi]; rfl
      next => exact hi }

theorem noNew_giveUp (d : Store) (i : HoldId) (status : HoldStatus) : NoNew d (d.giveUp i status) :=
  noNew_setHold d i _

theorem noNew_extend (d : Store) (i : HoldId) : NoNew d (d.extend i) := noNew_setHold d i _

theorem noNew_record (d : Store) (k : HostedId) (status : HostedCheckoutStatus) :
    NoNew d (d.record k status) :=
  { NoNew.refl d with
    hosted := fun k' hk => by
      simp only [Store.record, Function.update_apply]
      split
      next he => rw [← he, hk]; rfl
      next => exact hk }

theorem noNew_sell (d : Store) {x y : Sale} (hj : d.sales j = some y) : NoNew d (d.sell j x) :=
  { NoNew.refl d with
    sales := fun j' hj' => by
      have hne : j' ≠ j := fun he => by rw [he, hj] at hj'; cases hj'
      simpa [Store.sell, Function.update_of_ne hne] using hj' }

theorem Remote.cancel_hold (x : Remote) : x.cancel.hold = x.hold := by
  unfold Remote.cancel
  split <;> rfl

theorem Remote.cancel_ne (x : Remote) : x.cancel.status ≠ .opened := by
  unfold Remote.cancel
  split
  · exact fun he => by cases he
  · assumption

theorem Remote.cancel_of_ne {x : Remote} (h : x.status ≠ .opened) : x.cancel = x := if_neg h

end Kippu.Releasing
