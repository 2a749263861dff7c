import Kippu.Money.Safe

/-!
# Reconciling again

A sale whose process stopped is left as it was: whatever is reconciled again finds its
checkout handled (`restart_iff`).
-/

namespace Kippu.Money

variable {event : HoldId → EventId} {s s' s₀ : State} {t : ℕ} {i : HoldId} {j : HostedId}
  {id : SaleId} {r : ℕ} {sale : Sale} {refund : Refund} {outcome : Outcome}

namespace State

def AtRest (s : State) (id : SaleId) : Prop := ∀ t j i, s.tasks t ≠ some (.issue id j i)

/-- The sale has a result: it is issued, rejected with a refund, or failed. -/
def Settled (s : State) (id : SaleId) : Prop :=
  ∃ sale, s.sales.get id = some sale ∧ (sale.status = .issued ∨ sale.status = .failed ∨
    sale.status = .rejected ∧
      ∃ r refund, s.refunds.get r = some refund ∧ refund.hosted = sale.hosted)

end State

/-- The last step of a reconciliation of the checkout that fails nowhere. -/
inductive Ends (event : HoldId → EventId) (s : State) (t : ℕ) (j : HostedId) : State → Prop
  | handled {i : HoldId} : s.tasks t = some (.locked j i) → s.handled j = true →
      Ends event s t j (s.finish t none)
  | refused {i : HoldId} {r : ℕ} (reason : RefundReason) (status : HoldStatus) :
      s.tasks t = some (.unhandled j i) → reason = .amountMismatch ∨ reason = .eventClosed →
      status = .lapsed ∨ status = .released → s.refunds.get r = none →
      Ends event s t j (((s.entitle r j reason).releaseHold i status).finish t none)
  | placeGone {i : HoldId} {r : ℕ} {status : HoldStatus} :
      s.tasks t = some (.found j i status) → status ≠ .outstanding → s.refunds.get r = none →
      Ends event s t j ((s.entitle r j .placeGone).finish t none)
  | completed {id : SaleId} {i : HoldId} {r : ℕ} (outcome : Outcome) :
      s.tasks t = some (.issue id j i) → s.refunds.get r = none →
      Ends event s t j ((s.complete id j i r outcome).put t none)

theorem Ends.step (h : Ends event s t j s') : Step event s s' := by
  cases h with
  | handled ht hh => exact .handled ht hh
  | refused reason status ht hreason hst hr => exact .refused reason status ht hreason hst hr
  | placeGone ht hst hr => exact .placeGone ht hst hr
  | completed outcome ht hr => exact .completed outcome ht hr

/-- From `s` to `s'` a reconciliation of the checkout begins and ends without failing, beside
whatever else. -/
def Reconciled (event : HoldId → EventId) (s : State) (j : HostedId) (s' : State) : Prop :=
  ∃ s₁ s₂ t, s.tasks t = none ∧ Steps event s s₁ ∧ Ends event s₁ t j s₂ ∧ Steps event s₂ s'

theorem Steps.trans (h : Steps event s₀ s) (h' : Steps event s s') : Steps event s₀ s' := by
  induction h' with
  | refl => exact h
  | step _ hs ih => exact ih.step hs

theorem Reconciled.steps (h : Reconciled event s j s') : Steps event s s' := by
  obtain ⟨s₁, s₂, t, -, h₁, hend, h₂⟩ := h
  exact (h₁.step hend.step).trans h₂

/-! ### Refunds stay -/

theorem entitle_get (hx : s.refunds.get r = some refund) {r' : ℕ} (hr : s.refunds.get r' = none)
    (j : HostedId) (reason : RefundReason) :
    (s.entitle r' j reason).refunds.get r = some refund := by
  unfold State.entitle
  split
  · exact hx
  · have hne : r ≠ r' := by
      rintro rfl
      cases hr.symm.trans hx
    simpa [Conc.Table.get_set_ne _ hne] using hx

theorem entitle_refunded (s : State) (r : ℕ) (j : HostedId) (reason : RefundReason) :
    ∃ r' refund, (s.entitle r j reason).refunds.get r' = some refund ∧ refund.hosted = j := by
  unfold State.entitle
  split
  next hany =>
    obtain ⟨r', refund, hx, hj⟩ := (Conc.Table.any_iff _).mp hany
    exact ⟨r', refund, hx, by simpa using hj⟩
  next => exact ⟨r, ⟨j, reason⟩, by simp, rfl⟩

theorem releaseHold_refunds (s : State) (i : HoldId) (status : HoldStatus) :
    (s.releaseHold i status).refunds = s.refunds := by
  unfold State.releaseHold
  split <;> rfl

theorem complete_rejected_refunds (s : State) (id : SaleId) (j : HostedId) (i : HoldId) (r : ℕ) :
    (s.complete id j i r .rejected).refunds =
      ((s.setSale id .rejected).entitle r j .issuanceRejected).refunds := by
  unfold State.complete
  dsimp only
  split <;> rfl

theorem Step.refunds (hs : Step event s s') (hx : s.refunds.get r = some refund) :
    s'.refunds.get r = some refund := by
  cases hs with
  | refused reason status ht _ _ hr =>
    show ((s.entitle _ _ reason).releaseHold _ status).refunds.get r = some refund
    rw [releaseHold_refunds]
    exact entitle_get hx hr _ _
  | placeGone _ _ hr => exact entitle_get hx hr _ _
  | cancelled _ hr => exact entitle_get hx hr _ _
  | @completed t j i r' id outcome ht hr =>
    cases outcome with
    | issued | failed => exact hx
    | rejected =>
      show (s.complete id j i r' .rejected).refunds.get r = some refund
      rw [complete_rejected_refunds]
      exact entitle_get (s := s.setSale id .rejected) hx hr j .issuanceRejected
  | _ => exact hx

/-! ### A sale at rest -/

theorem complete_sales (s : State) (id : SaleId) (j : HostedId) (i : HoldId) (r : ℕ)
    (outcome : Outcome) : ∃ status, (s.complete id j i r outcome).sales =
      s.sales.update id fun sale => { sale with status } := by
  cases outcome with
  | issued => exact ⟨.issued, rfl⟩
  | failed => exact ⟨.failed, rfl⟩
  | rejected =>
    refine ⟨.rejected, ?_⟩
    unfold State.complete
    dsimp only
    split <;> exact entitle_sales

theorem entitle_tasks (s : State) (r : ℕ) (j : HostedId) (reason : RefundReason) :
    (s.entitle r j reason).tasks = s.tasks := by
  unfold State.entitle
  split <;> rfl

theorem releaseHold_tasks (s : State) (i : HoldId) (status : HoldStatus) :
    (s.releaseHold i status).tasks = s.tasks := by
  unfold State.releaseHold
  split <;> rfl

theorem complete_tasks (s : State) (id : SaleId) (j : HostedId) (i : HoldId) (r : ℕ)
    (outcome : Outcome) : (s.complete id j i r outcome).tasks = s.tasks := by
  cases outcome with
  | issued | failed => rfl
  | rejected =>
    unfold State.complete
    dsimp only
    split <;> exact entitle_tasks (s.setSale id .rejected) r j .issuanceRejected

/-- Only the process that issues a sale changes it. -/
theorem Step.sale_same (hs : Step event s s') (hsale : s.sales.get id = some sale)
    (hrest : s.AtRest id) : s'.sales.get id = some sale := by
  cases hs with
  | refused | placeGone | cancelled =>
    simpa [State.releaseHold, State.setHold, State.finish, State.put, apply_ite State.sales]
      using hsale
  | @taken _ j i status id' ht _ _ hid =>
    have hne : id ≠ id' := by
      rintro rfl
      cases hid.symm.trans hsale
    exact (Conc.Table.get_set_ne _ hne).trans hsale
  | @completed t j i r id' outcome ht hr =>
    have hne : id ≠ id' := by
      rintro rfl
      exact hrest _ _ _ ht
    obtain ⟨status, hc⟩ := complete_sales s id' j i r outcome
    show (s.complete id' j i r outcome).sales.get id = some sale
    rw [hc, Conc.Table.get_update_ne _ hne]
    exact hsale
  | _ => exact hsale

theorem Step.atRest (hs : Step event s s') (hsale : s.sales.get id = some sale)
    (hrest : s.AtRest id) : s'.AtRest id := by
  have hput : ∀ {s₁ : State} {t : ℕ} {new : Option Task}, s₁.tasks = s.tasks →
      (∀ j i, new ≠ some (.issue id j i)) → State.AtRest (s₁.put t new) id := by
    intro s₁ t new h₁ hnew t' j i ht
    rcases put_tasks ht with ⟨-, h⟩ | ⟨-, h⟩
    · exact hnew j i h
    · exact hrest t' j i (h₁ ▸ h)
  have hfinish : ∀ {s₁ : State} {t : ℕ} {new : Option Task}, s₁.tasks = s.tasks →
      (∀ j i, new ≠ some (.issue id j i)) → State.AtRest (s₁.finish t new) id :=
    fun h₁ hnew => hput h₁ hnew
  cases hs with
  | held | holdEnded | checkoutCreated => exact hrest
  | prompted | selected => exact hput (show s.tasks = s.tasks from rfl) (by simp)
  | locked | unhandled | found => exact hput rfl (by simp)
  | handled | stops => exact hfinish rfl (by simp)
  | refused =>
    exact hfinish ((releaseHold_tasks _ _ _).trans (entitle_tasks s _ _ _)) (by simp)
  | placeGone => exact hfinish (entitle_tasks s _ _ _) (by simp)
  | cancelled => exact hput (entitle_tasks s _ _ _) (by simp)
  | completed => exact hput (complete_tasks s _ _ _ _ _) (by simp)
  | @taken _ j i status id' ht _ _ hid =>
    refine hfinish rfl ?_
    rintro j i ⟨⟩
    cases hid.symm.trans hsale

theorem Steps.at_rest (hs : Steps event s s') (hsale : s.sales.get id = some sale)
    (hrest : s.AtRest id) : s'.sales.get id = some sale ∧ s'.AtRest id := by
  induction hs with
  | refl => exact ⟨hsale, hrest⟩
  | step _ hstep ih => exact ⟨hstep.sale_same ih.1 ih.2, hstep.atRest ih.1 ih.2⟩

/-! ### A rejected sale is refunded -/

def Refunded (s : State) : Prop :=
  ∀ id sale, s.sales.get id = some sale → sale.status = .rejected →
    ∃ r refund, s.refunds.get r = some refund ∧ refund.hosted = sale.hosted

theorem Refunded.step (hi : Inv event s) (h : Refunded s) (hs : Step event s s') :
    Refunded s' := by
  intro id sale hsale hst
  by_cases hrest : s.AtRest id
  · cases hold : s.sales.get id with
    | some old =>
      obtain rfl := Option.some.inj ((hs.sale_same hold hrest).symm.trans hsale)
      obtain ⟨r, refund, hx, hj⟩ := h id old hold hst
      exact ⟨r, refund, hs.refunds hx, hj⟩
    | none =>
      have hnone : ∀ {s₁ : State}, s₁.sales = s.sales → s₁.sales.get id ≠ some sale := by
        intro s₁ h₁ h
        rw [h₁, hold] at h
        cases h
      cases hs with
      | refused | placeGone | cancelled =>
        exact absurd hsale (hnone (by simp [State.releaseHold, State.setHold, State.finish,
          State.put, apply_ite State.sales]))
      | @taken _ j i status id' ht _ _ hid =>
        rcases eq_or_ne id id' with rfl | hne
        · obtain rfl : Sale.mk j i .issuing = sale := by
            simpa [State.addSale, State.finish] using hsale
          cases hst
        · simp [State.addSale, State.finish, State.setHold, Conc.Table.get_set_ne _ hne, hold]
            at hsale
      | @completed t j i r id' outcome ht hr =>
        obtain ⟨status, hc⟩ := complete_sales s id' j i r outcome
        have hne : id ≠ id' := by
          rintro rfl
          exact hrest _ _ _ ht
        have hget : (s.complete id' j i r outcome).sales.get id = some sale := hsale
        rw [hc, Conc.Table.get_update_ne _ hne, hold] at hget
        cases hget
      | _ => exact absurd hsale (hnone rfl)
  · obtain ⟨t, j, i, ht⟩ : ∃ t j i, s.tasks t = some (.issue id j i) := by
      simpa [State.AtRest] using hrest
    have hold : s.sales.get id = some ⟨j, i, .issuing⟩ := hi.tasks t _ ht
    have hsame : ∀ {s₁ : State}, s₁.sales = s.sales → s₁.sales.get id ≠ some sale := by
      intro s₁ h₁ h
      rw [h₁, hold] at h
      obtain rfl := Option.some.inj h
      cases hst
    cases hs with
    | refused | placeGone | cancelled =>
      exact absurd hsale (hsame (by simp [State.releaseHold, State.setHold, State.finish,
        State.put, apply_ite State.sales]))
    | @taken _ j' i' status id' ht' _ _ hid =>
      have hne : id ≠ id' := by
        rintro rfl
        cases hid.symm.trans hold
      have hget : (s.sales.set id' ⟨j', i', .issuing⟩).get id = some sale := hsale
      rw [Conc.Table.get_set_ne _ hne, hold] at hget
      obtain rfl := Option.some.inj hget
      cases hst
    | @completed t' j' i' r id' outcome ht' hr =>
      obtain ⟨status, hc⟩ := complete_sales s id' j' i' r outcome
      have hget : (s.complete id' j' i' r outcome).sales.get id = some sale := hsale
      rcases eq_or_ne id id' with rfl | hne
      · cases outcome with
        | issued | failed =>
          simp [State.complete, State.setSale, State.setHold, hold] at hget
          simp [← hget] at hst
        | rejected =>
          rw [hc, Conc.Table.get_update_self, hold] at hget
          obtain rfl : Sale.mk j i status = sale := by simpa using hget
          obtain ⟨r', refund, hx, hj⟩ :=
            entitle_refunded (s.setSale id .rejected) r j' .issuanceRejected
          have hissue : Sale.mk j' i' .issuing = ⟨j, i, .issuing⟩ :=
            Option.some.inj ((hi.tasks t' _ ht').symm.trans hold)
          refine ⟨r', refund, ?_, hj.trans (congrArg Sale.hosted hissue)⟩
          show (s.complete id j' i' r .rejected).refunds.get r' = some refund
          rw [complete_rejected_refunds]
          exact hx
      · rw [hc, Conc.Table.get_update_ne _ hne, hold] at hget
        obtain rfl := Option.some.inj hget
        cases hst
    | _ => exact absurd hsale (hsame rfl)

theorem Refunded.steps (h₀ : State.Initial s₀) (hs : Steps event s₀ s) : Refunded s := by
  have h : Inv event s ∧ Refunded s := by
    induction hs with
    | refl =>
      refine ⟨Inv.initial h₀, fun id sale hsale => ?_⟩
      simp [h₀.sales id] at hsale
    | step _ hstep ih => exact ⟨ih.1.step hstep, ih.2.step ih.1 hstep⟩
  exact h.2

/-- In every run: once no process works on a sale, reconciling its checkout again leaves it with a
result just when it was no longer being issued. -/
theorem restart_iff (h₀ : State.Initial s₀) (hs : Steps event s₀ s)
    (hsale : s.sales.get id = some sale) (hrest : s.AtRest id)
    (hr : Reconciled event s sale.hosted s') : s'.Settled id ↔ sale.status ≠ .issuing := by
  have hsale' := (hr.steps.at_rest hsale hrest).1
  have hrefunded := Refunded.steps h₀ (hs.trans hr.steps)
  constructor
  · rintro ⟨sale', hget, hst⟩ hissuing
    obtain rfl := Option.some.inj (hsale'.symm.trans hget)
    simp [hissuing] at hst
  · intro hst
    refine ⟨sale, hsale', ?_⟩
    cases hstatus : sale.status with
    | issuing => exact absurd hstatus hst
    | issued => exact .inl rfl
    | failed => exact .inr (.inl rfl)
    | rejected => exact .inr (.inr ⟨rfl, hrefunded id sale hsale' hstatus⟩)

/-- A paid checkout's place is taken, and its sale being issued. -/
theorem taken_run : ∃ s, Steps (fun _ => 0) State.start s ∧
    s.sales.get 0 = some ⟨0, 0, .issuing⟩ ∧ s.hosted 0 = some 0 ∧ s.lock 0 = none ∧
    s.nextTask = 1 ∧ s.refunds.get 0 = none ∧
    s.tasks = Function.update (fun _ => none) 0 (some (.issue 0 0 0)) := by
  have h₁ : Steps (fun _ => 0) State.start _ := Steps.refl.step (Step.held (i := 0) rfl)
  have h₂ := h₁.step (Step.checkoutCreated (j := 0) (i := 0) rfl)
  have h₃ := h₂.step (Step.prompted (j := 0) rfl)
  have h₄ := h₃.step (Step.locked (t := 0) rfl rfl)
  have h₅ := h₄.step (Step.unhandled (t := 0) rfl (by decide))
  have h₆ := h₅.step (Step.found (t := 0) rfl rfl)
  have h₇ := h₆.step (Step.taken (t := 0) rfl (by simp) (by simp)
    (show Conc.Table.get _ 0 = none from rfl))
  refine ⟨_, h₇, rfl, rfl, rfl, rfl, rfl, ?_⟩
  funext t
  rcases eq_or_ne t 0 with rfl | ht
  · rfl
  · simp [State.finish, State.addSale, State.setHold, State.put, State.spawn, State.start,
      Function.update_of_ne ht]

theorem reconciled_again (hsale : s.sales.get 0 = some sale) (hj : sale.hosted = 0)
    (hhosted : s.hosted 0 = some 0) (hl : s.lock 0 = none) (hn : s.nextTask = 1)
    (ht : s.tasks 1 = none) : ∃ s', Reconciled (fun _ => 0) s 0 s' := by
  have h₀ : Steps (fun _ => 0) s s := .refl
  have h₁ := h₀.step (Step.prompted hhosted)
  have h₂ := h₁.step (Step.locked (t := 1) (j := 0) (i := 0) (by simp [State.spawn, hn]) hl)
  have hany : ∀ s₁ : State, s₁.sales = s.sales → s₁.handled 0 = true := by
    intro s₁ h
    have hs : s₁.sales.any (fun x => x.hosted = 0) = true :=
      (Conc.Table.any_iff _).mpr ⟨0, sale, h ▸ hsale, by simp [hj]⟩
    simp [State.handled, hs]
  exact ⟨_, _, _, 1, ht, h₂, Ends.handled (i := 0) (by simp [State.put]) (hany _ rfl), .refl⟩

/-- A sale that was issued stays so. -/
theorem restart_iff_issued : ∃ s s', Steps (fun _ => 0) State.start s ∧
    Reconciled (fun _ => 0) s 0 s' ∧ s'.Settled 0 := by
  obtain ⟨s, hs, hsale, hhosted, hl, hn, hr, ht⟩ := taken_run
  have ht₀ : s.tasks 0 = some (.issue 0 0 0) := by simp [ht]
  have h := hs.step (Step.completed (t := 0) .issued ht₀ hr)
  have hissued : ((s.complete 0 0 0 0 .issued).put 0 none).sales.get 0 = some ⟨0, 0, .issued⟩ := by
    simp [State.complete, State.setSale, State.setHold, State.put, hsale]
  have hnone : ∀ t, ((s.complete 0 0 0 0 .issued).put 0 none).tasks t = none := by
    intro t
    rcases eq_or_ne t 0 with rfl | hne
    · simp [State.put]
    · simp [State.put, State.complete, State.setSale, State.setHold, ht]
  obtain ⟨s', hs'⟩ := reconciled_again hissued rfl hhosted hl hn (hnone 1)
  have hrest : State.AtRest ((s.complete 0 0 0 0 .issued).put 0 none) 0 := by
    intro t j i h
    cases (hnone t).symm.trans h
  exact ⟨_, s', h, hs', (restart_iff State.start_initial h hissued hrest hs').mpr (by simp)⟩

/-- The process stops once the place is taken: however the checkout is reconciled again, its sale
stays issuing. -/
theorem stays_issuing : ¬ ∀ s s' sale, Steps (fun _ => 0) State.start s →
    s.sales.get 0 = some sale → s.AtRest 0 → Reconciled (fun _ => 0) s sale.hosted s' →
    s'.Settled 0 := by
  intro hall
  obtain ⟨s, hs, hsale, hhosted, hl, hn, -, ht⟩ := taken_run
  have ht₀ : s.tasks 0 = some (.issue 0 0 0) := by simp [ht]
  have h := hs.step (Step.stops (t := 0) ht₀)
  have hnone : ∀ t, (s.finish 0 none).tasks t = none := by
    intro t
    rcases eq_or_ne t 0 with rfl | hne
    · simp [State.finish]
    · simp [State.finish, ht]
  have hrest : State.AtRest (s.finish 0 none) 0 := by
    intro t j i h
    cases (hnone t).symm.trans h
  have hl' : (s.finish 0 none).lock 0 = none := by simp [State.finish, hl]
  obtain ⟨s', hs'⟩ := reconciled_again (s := s.finish 0 none) hsale rfl hhosted hl' hn (hnone 1)
  obtain ⟨sale', hget, hst⟩ := hall _ s' _ h hsale hrest hs'
  obtain rfl := Option.some.inj ((hs'.steps.at_rest hsale hrest).1.symm.trans hget)
  simp at hst

end Kippu.Money
