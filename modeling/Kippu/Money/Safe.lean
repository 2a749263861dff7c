import Kippu.Money.Runs

/-!
# At most one ticket and one refund for a payment

A payment has one sale or one refund, both only if the sale was rejected or the event
cancelled, and a hold has one sale that is not rejected (`money_safe`). Who takes a
place has the event's lock, has found no sale and no refund of the payment, and no
sale of the hold that is not rejected (`Task.Ok`).
-/

namespace Kippu.Money

variable {event : HoldId → EventId} {s s' s₀ : State} {t t' : ℕ} {i i' : HoldId} {j j' : HostedId}
  {id id' : SaleId} {r : ℕ} {k : Task} {sale sale' : Sale} {refund : Refund} {status : HoldStatus}
  {reason : RefundReason}

-- ---------------------------------------------------------------------------
-- The invariant
-- ---------------------------------------------------------------------------

/-- The task has the lock of the checkout's event. -/
def Placing (event : HoldId → EventId) (s : State) (t : ℕ) (j : HostedId) (i : HoldId) : Prop :=
  s.hosted j = some i ∧ s.lock (event i) = some t

def Untouched (s : State) (j : HostedId) : Prop :=
  (∀ id sale, s.sales.get id = some sale → sale.hosted ≠ j) ∧
    ∀ r refund, s.refunds.get r = some refund → refund.hosted ≠ j

/-- Every sale of the hold is rejected. -/
def NoLive (s : State) (i : HoldId) : Prop :=
  ∀ id sale, s.sales.get id = some sale → sale.status ≠ .rejected → sale.hold ≠ i

def Task.Ok (event : HoldId → EventId) (s : State) (t : ℕ) : Task → Prop
  | .place j i => s.hosted j = some i
  | .locked j i => Placing event s t j i
  | .unhandled j i => Placing event s t j i ∧ Untouched s j
  | .found j i status => Placing event s t j i ∧ Untouched s j ∧
      (status ≠ .issuing → status ≠ .confirmed → NoLive s i)
  | .issue id j i => s.sales.get id = some ⟨j, i, .issuing⟩
  | .refund j => ∃ id sale, s.sales.get id = some sale ∧ sale.hosted = j

/-- The task relies on the checkout having no sale and no refund. -/
def Task.Unhandled (k : Task) (j : HostedId) : Prop :=
  (∃ i, k = .unhandled j i) ∨ ∃ i status, k = .found j i status

structure Inv (event : HoldId → EventId) (s : State) : Prop where
  sale_hold : ∀ id sale, s.sales.get id = some sale → s.hosted sale.hosted = some sale.hold
  sale_single : ∀ id id' sale sale', s.sales.get id = some sale → s.sales.get id' = some sale' →
    sale.hosted = sale'.hosted → id = id'
  refund_single : ∀ r r' refund refund', s.refunds.get r = some refund →
    s.refunds.get r' = some refund' → refund.hosted = refund'.hosted → r = r'
  both : ∀ id r sale refund, s.sales.get id = some sale → s.refunds.get r = some refund →
    sale.hosted = refund.hosted →
    sale.status = .rejected ∧ refund.reason = .issuanceRejected ∨ refund.reason = .eventCancelled
  live : ∀ id sale, s.sales.get id = some sale → sale.status ≠ .rejected →
    s.holds sale.hold = some .issuing ∨ s.holds sale.hold = some .confirmed
  live_single : ∀ id id' sale sale', s.sales.get id = some sale → s.sales.get id' = some sale' →
    sale.status ≠ .rejected → sale'.status ≠ .rejected → sale.hold = sale'.hold → id = id'
  tasks : ∀ t k, s.tasks t = some k → k.Ok event s t
  issue_single : ∀ t t' id j j' i i', s.tasks t = some (.issue id j i) →
    s.tasks t' = some (.issue id j' i') → t = t'

theorem Inv.initial (h : State.Initial s) : Inv event s := by
  constructor <;> simp [h.sales, h.refunds, h.tasks]

theorem Inv.unhandled (h : Inv event s) (ht : s.tasks t = some k) (hk : k.Unhandled j) :
    ∃ i, Placing event s t j i ∧ Untouched s j := by
  have hok := h.tasks t k ht
  rcases hk with ⟨i, rfl⟩ | ⟨i, status, rfl⟩
  · exact ⟨i, hok⟩
  · exact ⟨i, hok.1, hok.2.1⟩

theorem Inv.not_unhandled (h : Inv event s) (hj : s.hosted j = some i)
    (hl : s.lock (event i) = none) (ht : s.tasks t = some k) : ¬ k.Unhandled j := by
  intro hk
  obtain ⟨i', ⟨hj', hlock⟩, -⟩ := h.unhandled ht hk
  obtain rfl := Option.some.inj (hj.symm.trans hj')
  rw [hl] at hlock
  cases hlock

-- ---------------------------------------------------------------------------
-- Tasks
-- ---------------------------------------------------------------------------

theorem put_tasks (h : (s.put t new).tasks t' = some k) :
    t' = t ∧ new = some k ∨ t' ≠ t ∧ s.tasks t' = some k := by
  rcases eq_or_ne t' t with rfl | hne
  · exact .inl ⟨rfl, by simpa [State.put] using h⟩
  · exact .inr ⟨hne, by simpa [State.put, Function.update_of_ne hne] using h⟩

theorem Inv.put (h : Inv event s) (hok : ∀ k, new = some k → k.Ok event s t)
    (hne : ∀ k id j i, new = some k → k ≠ .issue id j i) : Inv event (s.put t new) := by
  refine { h with tasks := ?_, issue_single := ?_ }
  · intro t' k ht
    rcases put_tasks ht with ⟨rfl, hk⟩ | ⟨-, ht⟩
    · cases k <;> exact hok _ hk
    · cases k <;> exact h.tasks t' _ ht
  · intro t₁ t₂ id j j' i i' h₁ h₂
    rcases put_tasks h₁ with ⟨-, h₁⟩ | ⟨-, h₁⟩
    · exact absurd rfl (hne _ id j i h₁)
    rcases put_tasks h₂ with ⟨-, h₂⟩ | ⟨-, h₂⟩
    · exact absurd rfl (hne _ id j' i' h₂)
    exact h.issue_single t₁ t₂ id j j' i i' h₁ h₂

theorem Inv.put_issue (h : Inv event s) (hid : s.sales.get id = some ⟨j, i, .issuing⟩)
    (hno : ∀ t' j' i', s.tasks t' ≠ some (.issue id j' i')) :
    Inv event (s.put t (some (.issue id j i))) := by
  refine { h with tasks := ?_, issue_single := ?_ }
  · intro t' k ht
    rcases put_tasks ht with ⟨rfl, hk⟩ | ⟨-, ht⟩
    · obtain rfl := Option.some.inj hk
      exact hid
    · cases k <;> exact h.tasks t' _ ht
  · intro t₁ t₂ id₁ j₁ j₂ i₁ i₂ h₁ h₂
    rcases put_tasks h₁ with ⟨e₁, k₁⟩ | ⟨-, k₁⟩ <;> rcases put_tasks h₂ with ⟨e₂, k₂⟩ | ⟨-, k₂⟩
    · exact e₁.trans e₂.symm
    · cases k₁
      exact absurd k₂ (hno _ _ _)
    · cases k₂
      exact absurd k₁ (hno _ _ _)
    · exact h.issue_single t₁ t₂ id₁ j₁ j₂ i₁ i₂ k₁ k₂

theorem Inv.finish (h : Inv event s) : Inv event (s.finish t none) := by
  have htasks : ∀ t' k, (s.finish t none).tasks t' = some k → t' ≠ t ∧ s.tasks t' = some k := by
    intro t' k ht
    rcases eq_or_ne t' t with rfl | hne
    · simp [State.finish] at ht
    · exact ⟨hne, by simpa [State.finish, Function.update_of_ne hne] using ht⟩
  have hplacing : ∀ t' j i, t' ≠ t → Placing event s t' j i →
      Placing event (s.finish t none) t' j i := by
    rintro t' j i hne ⟨hj, hl⟩
    refine ⟨hj, ?_⟩
    have hne' : s.lock (event i) ≠ some t := by simpa [hl] using hne
    simpa [State.finish, hne'] using hl
  refine { h with tasks := ?_, issue_single := ?_ }
  · intro t' k ht
    obtain ⟨hne, ht⟩ := htasks t' k ht
    have hok := h.tasks t' k ht
    cases k with
    | place | issue | refund => exact hok
    | locked => exact hplacing _ _ _ hne hok
    | unhandled => exact ⟨hplacing _ _ _ hne hok.1, hok.2⟩
    | found => exact ⟨hplacing _ _ _ hne hok.1, hok.2⟩
  · intro t₁ t₂ id j j' i i' h₁ h₂
    exact h.issue_single t₁ t₂ id j j' i i' (htasks _ _ h₁).2 (htasks _ _ h₂).2

theorem finish_lock (hl : s.lock e = some t) : (s.finish t none).lock e = none := by
  simp [State.finish, hl]

-- ---------------------------------------------------------------------------
-- Rows
-- ---------------------------------------------------------------------------

theorem Inv.setHold (h : Inv event s) (hi : status ≠ .issuing → status ≠ .confirmed → NoLive s i) :
    Inv event (s.setHold i status) := by
  refine { h with live := ?_, tasks := ?_ }
  · intro id sale hsale hlive
    rcases eq_or_ne sale.hold i with hh | hne
    · have hst : status = .issuing ∨ status = .confirmed := by
        by_contra hst
        rw [not_or] at hst
        exact hi hst.1 hst.2 id sale hsale hlive hh
      simpa [State.setHold, hh] using hst
    · simpa [State.setHold, Function.update_of_ne hne] using h.live id sale hsale hlive
  · intro t k ht
    cases k <;> exact h.tasks t _ ht

/-- A hold that is neither issuing nor confirmed has no sale that is not rejected. -/
theorem Inv.noLive (h : Inv event s) (hi : s.holds i = some status) (h₁ : status ≠ .issuing)
    (h₂ : status ≠ .confirmed) : NoLive s i := by
  rintro id sale hsale hlive rfl
  rcases h.live id sale hsale hlive with hl | hl
  · exact h₁ (Option.some.inj (hi.symm.trans hl))
  · exact h₂ (Option.some.inj (hi.symm.trans hl))

theorem Inv.releaseHold (h : Inv event s) : Inv event (s.releaseHold i status) := by
  unfold State.releaseHold
  split
  next hout => exact h.setHold fun _ _ => h.noLive hout (by simp) (by simp)
  next => exact h

theorem Inv.entitle (h : Inv event s)
    (hno : ∀ t k, s.tasks t = some k → ¬ k.Unhandled j)
    (hsale : ∀ id sale, s.sales.get id = some sale → sale.hosted = j →
      sale.status = .rejected ∧ reason = .issuanceRejected ∨ reason = .eventCancelled) :
    Inv event (s.entitle r j reason) := by
  unfold State.entitle
  split
  · exact h
  next hany =>
    have hnone : ∀ r refund, s.refunds.get r = some refund → refund.hosted ≠ j := by
      simpa [Conc.Table.any_eq_false] using hany
    refine { h with refund_single := ?_, both := ?_, tasks := ?_ }
    · intro r₁ r₂ x₁ x₂ h₁ h₂ heq
      rw [Conc.Table.get_set] at h₁ h₂
      split at h₁ <;> split at h₂
      next e₁ e₂ => exact e₁.trans e₂.symm
      next => cases h₁; exact absurd heq.symm (hnone _ _ h₂)
      next => cases h₂; exact absurd heq (hnone _ _ h₁)
      next => exact h.refund_single r₁ r₂ x₁ x₂ h₁ h₂ heq
    · intro id r' sale x hs hx heq
      rw [Conc.Table.get_set] at hx
      split at hx
      · cases hx
        exact hsale id sale hs heq
      · exact h.both id r' sale x hs hx heq
    · intro t k ht
      have hok := h.tasks t k ht
      have huntouched : ∀ j', k.Unhandled j' → Untouched s j' →
          Untouched { s with refunds := s.refunds.set r ⟨j, reason⟩ } j' := by
        rintro j' hk ⟨hs, hrs⟩
        refine ⟨hs, fun r' x hx => ?_⟩
        rw [Conc.Table.get_set] at hx
        split at hx
        · cases hx
          rintro rfl
          exact hno t k ht hk
        · exact hrs r' x hx
      cases k with
      | place | locked | issue | refund => exact hok
      | unhandled j' i => exact ⟨hok.1, huntouched j' (.inl ⟨i, rfl⟩) hok.2⟩
      | found j' i status => exact ⟨hok.1, huntouched j' (.inr ⟨i, status, rfl⟩) hok.2.1, hok.2.2⟩

theorem Inv.addSale (h : Inv event s) (hid : s.sales.get id = none) (hj : s.hosted j = some i)
    (hl : s.lock (event i) = none) (hu : Untouched s j) (hlive : NoLive s i)
    (hi : s.holds i = some .issuing) : Inv event (s.addSale id j i) := by
  have hget : ∀ id' sale, (s.addSale id j i).sales.get id' = some sale →
      id' = id ∧ sale = ⟨j, i, .issuing⟩ ∨ s.sales.get id' = some sale := by
    intro id' sale hs
    simp only [State.addSale, Conc.Table.get_set] at hs
    split at hs
    next e => exact .inl ⟨e, (Option.some.inj hs).symm⟩
    next => exact .inr hs
  have hold : ∀ id' sale, s.sales.get id' = some sale →
      (s.addSale id j i).sales.get id' = some sale := by
    intro id' sale hs
    have hne : id' ≠ id := by
      rintro rfl
      simp [hid] at hs
    simpa [State.addSale, Conc.Table.get_set_ne _ hne] using hs
  have huntouched : ∀ t k j', s.tasks t = some k → k.Unhandled j' → Untouched s j' →
      Untouched (s.addSale id j i) j' := by
    rintro t k j' ht hk ⟨hs, hrs⟩
    refine ⟨fun id' sale hx => ?_, hrs⟩
    rcases hget id' sale hx with ⟨-, rfl⟩ | hx
    · rintro rfl
      exact h.not_unhandled hj hl ht hk
    · exact hs id' sale hx
  constructor
  case sale_hold =>
    intro id' sale hs
    rcases hget id' sale hs with ⟨-, rfl⟩ | hs
    · exact hj
    · exact h.sale_hold id' sale hs
  case sale_single =>
    intro id₁ id₂ x₁ x₂ h₁ h₂ heq
    rcases hget _ _ h₁ with ⟨e₁, rfl⟩ | h₁ <;> rcases hget _ _ h₂ with ⟨e₂, rfl⟩ | h₂
    · exact e₁.trans e₂.symm
    · exact absurd heq.symm (hu.1 _ _ h₂)
    · exact absurd heq (hu.1 _ _ h₁)
    · exact h.sale_single id₁ id₂ x₁ x₂ h₁ h₂ heq
  case refund_single => exact h.refund_single
  case both =>
    intro id' r' sale x hs hx heq
    rcases hget _ _ hs with ⟨-, rfl⟩ | hs
    · exact absurd heq.symm (hu.2 _ _ hx)
    · exact h.both id' r' sale x hs hx heq
  case live =>
    intro id' sale hs hne
    rcases hget _ _ hs with ⟨-, rfl⟩ | hs
    · exact .inl hi
    · exact h.live id' sale hs hne
  case live_single =>
    intro id₁ id₂ x₁ x₂ h₁ h₂ l₁ l₂ heq
    rcases hget _ _ h₁ with ⟨e₁, rfl⟩ | h₁ <;> rcases hget _ _ h₂ with ⟨e₂, rfl⟩ | h₂
    · exact e₁.trans e₂.symm
    · exact absurd heq.symm (hlive _ _ h₂ l₂)
    · exact absurd heq (hlive _ _ h₁ l₁)
    · exact h.live_single id₁ id₂ x₁ x₂ h₁ h₂ l₁ l₂ heq
  case tasks =>
    intro t k ht
    have hok := h.tasks t k ht
    cases k with
    | place | locked => exact hok
    | unhandled j' i' => exact ⟨hok.1, huntouched t _ j' ht (.inl ⟨i', rfl⟩) hok.2⟩
    | found j' i' status =>
      refine ⟨hok.1, huntouched t _ j' ht (.inr ⟨i', status, rfl⟩) hok.2.1, fun h₁ h₂ => ?_⟩
      intro id' sale hs hne
      rcases hget _ _ hs with ⟨-, rfl⟩ | hs
      · -- the lock of the hold's event is this task's
        rintro rfl
        have hlock := hok.1.2
        rw [hl] at hlock
        cases hlock
      · exact hok.2.2 h₁ h₂ id' sale hs hne
    | issue id' j' i' => exact hold _ _ hok
    | refund j' =>
      obtain ⟨id', sale, hs, hj'⟩ := hok
      exact ⟨id', sale, hold _ _ hs, hj'⟩
  case issue_single => exact h.issue_single

theorem Inv.setSale (h : Inv event s) (hid : s.sales.get id = some ⟨j, i, .issuing⟩)
    (hno : ∀ t j' i', s.tasks t ≠ some (.issue id j' i')) {ended : SaleStatus} :
    Inv event (s.setSale id ended) := by
  have hget : ∀ id' sale, (s.setSale id ended).sales.get id' = some sale →
      id' = id ∧ sale = ⟨j, i, ended⟩ ∨ id' ≠ id ∧ s.sales.get id' = some sale := by
    intro id' sale hs
    simp only [State.setSale, Conc.Table.get_update_of_some _ hid] at hs
    split at hs
    next e => exact .inl ⟨e, (Option.some.inj hs).symm⟩
    next e => exact .inr ⟨e, hs⟩
  -- what a sale has become, but for its status, it was
  have hwas : ∀ id' sale, (s.setSale id ended).sales.get id' = some sale →
      ∃ was, s.sales.get id' = some was ∧ was.hosted = sale.hosted ∧ was.hold = sale.hold ∧
        (was.status = .rejected → sale.status = was.status) := by
    intro id' sale hs
    rcases hget _ _ hs with ⟨rfl, rfl⟩ | ⟨-, hs⟩
    · exact ⟨_, hid, rfl, rfl, by simp⟩
    · exact ⟨_, hs, rfl, rfl, fun _ => rfl⟩
  have huntouched : ∀ j', Untouched s j' → Untouched (s.setSale id ended) j' := by
    rintro j' ⟨hs, hrs⟩
    refine ⟨fun id' sale hx => ?_, hrs⟩
    obtain ⟨was, hw, hh, -⟩ := hwas _ _ hx
    exact hh ▸ hs id' was hw
  have hlive : ∀ i', NoLive s i' → NoLive (s.setSale id ended) i' := by
    intro i' hn id' sale hs hne
    obtain ⟨was, hw, -, hh, hst⟩ := hwas _ _ hs
    refine hh ▸ hn id' was hw fun hr => hne ?_
    rw [hst hr, hr]
  constructor
  case sale_hold =>
    intro id' sale hs
    obtain ⟨was, hw, hh, hi, -⟩ := hwas _ _ hs
    rw [← hh, ← hi]
    exact h.sale_hold id' was hw
  case sale_single =>
    intro id₁ id₂ x₁ x₂ h₁ h₂ heq
    obtain ⟨w₁, h₁, e₁, -⟩ := hwas _ _ h₁
    obtain ⟨w₂, h₂, e₂, -⟩ := hwas _ _ h₂
    exact h.sale_single id₁ id₂ w₁ w₂ h₁ h₂ (by rw [e₁, e₂, heq])
  case refund_single => exact h.refund_single
  case both =>
    intro id' r' sale x hs hx heq
    rcases hget _ _ hs with ⟨rfl, rfl⟩ | ⟨-, hs⟩
    · exact .inr ((h.both _ _ _ _ hid hx heq).resolve_left (by simp))
    · exact h.both id' r' sale x hs hx heq
  case live =>
    intro id' sale hs hne
    obtain ⟨was, hw, -, hh, hst⟩ := hwas _ _ hs
    rw [← hh]
    exact h.live id' was hw fun hr => hne (by rw [hst hr, hr])
  case live_single =>
    intro id₁ id₂ x₁ x₂ h₁ h₂ l₁ l₂ heq
    obtain ⟨w₁, h₁, -, e₁, s₁⟩ := hwas _ _ h₁
    obtain ⟨w₂, h₂, -, e₂, s₂⟩ := hwas _ _ h₂
    exact h.live_single id₁ id₂ w₁ w₂ h₁ h₂ (fun hr => l₁ (by rw [s₁ hr, hr]))
      (fun hr => l₂ (by rw [s₂ hr, hr])) (by rw [e₁, e₂, heq])
  case tasks =>
    intro t k ht
    have hok := h.tasks t k ht
    cases k with
    | place | locked => exact hok
    | unhandled j' i' => exact ⟨hok.1, huntouched _ hok.2⟩
    | found j' i' status =>
      exact ⟨hok.1, huntouched _ hok.2.1, fun h₁ h₂ => hlive _ (hok.2.2 h₁ h₂)⟩
    | issue id' j' i' =>
      have hne : id' ≠ id := by
        rintro rfl
        exact hno t j' i' ht
      exact (Conc.Table.get_update_ne _ hne).trans hok
    | refund j' =>
      obtain ⟨id', sale, hs, rfl⟩ := hok
      rcases eq_or_ne id' id with rfl | hne
      · obtain rfl := Option.some.inj (hs.symm.trans hid)
        exact ⟨id', ⟨j, i, ended⟩, by simp [State.setSale, hid], rfl⟩
      · exact ⟨id', sale, (Conc.Table.get_update_ne _ hne).trans hs, rfl⟩
  case issue_single => exact h.issue_single

-- ---------------------------------------------------------------------------
-- Steps
-- ---------------------------------------------------------------------------

@[simp] theorem entitle_sales : (s.entitle r j reason).sales = s.sales := by
  unfold State.entitle
  split <;> rfl

theorem entitle_finish :
    (s.entitle r j reason).finish t new = (s.finish t new).entitle r j reason := by
  unfold State.entitle
  split
  next h => exact (if_pos h).symm
  next h => exact (if_neg h).symm

theorem entitle_put : (s.entitle r j reason).put t new = (s.put t new).entitle r j reason := by
  unfold State.entitle
  split
  next h => exact (if_pos h).symm
  next h => exact (if_neg h).symm

theorem releaseHold_finish :
    (s.releaseHold i status).finish t new = (s.finish t new).releaseHold i status := by
  unfold State.releaseHold
  split
  next h => exact (if_pos h).symm
  next h => exact (if_neg h).symm

theorem complete_put : (s.complete id j i r outcome).put t new =
    (s.put t new).complete id j i r outcome := by
  cases outcome with
  | issued | failed => rfl
  | rejected =>
    have hrefunded : ((s.setSale id .rejected).entitle r j .issuanceRejected).put t new =
        ((s.put t new).setSale id .rejected).entitle r j .issuanceRejected := entitle_put
    simp only [State.complete]
    rw [← hrefunded]
    split
    next h => exact (if_pos h).symm
    next h => exact (if_neg h).symm

theorem Inv.refused (h : Inv event s) (ht : s.tasks t = some k) (hk : k.Unhandled j) :
    Inv event ((s.entitle r j reason).finish t none) := by
  obtain ⟨i, ⟨hj, hl⟩, hu⟩ := h.unhandled ht hk
  rw [entitle_finish]
  have h' : Inv event (s.finish t none) := h.finish
  refine h'.entitle (fun t' k' ht' => h'.not_unhandled hj (finish_lock hl) ht') ?_
  exact fun id sale hs hh => absurd hh (hu.1 id sale hs)

theorem Inv.taken (h : Inv event s) (ht : s.tasks t = some (.found j i status))
    (h₁ : status ≠ .issuing) (h₂ : status ≠ .confirmed) (hid : s.sales.get id = none) :
    Inv event (((s.setHold i .issuing).addSale id j i).finish t (some (.issue id j i))) := by
  obtain ⟨⟨hj, hl⟩, hu, hlive⟩ := h.tasks t _ ht
  have hf : Inv event (s.finish t none) := h.finish
  have hheld : Inv event ((s.finish t none).setHold i .issuing) := hf.setHold (by simp)
  have hsale : Inv event (((s.finish t none).setHold i .issuing).addSale id j i) :=
    hheld.addSale hid hj (finish_lock hl) hu (hlive h₁ h₂) (Function.update_self _ _ _)
  have hput : Inv event ((((s.finish t none).setHold i .issuing).addSale id j i).put t
      (some (.issue id j i))) := by
    refine hsale.put_issue (Conc.Table.get_set_self _) fun t' j' i' ht' => ?_
    have ht' : (s.put t none).tasks t' = some (.issue id j' i') := ht'
    rcases put_tasks ht' with ⟨-, ht'⟩ | ⟨-, ht'⟩
    · cases ht'
    · have hsome : s.sales.get id = some ⟨j', i', .issuing⟩ := h.tasks _ _ ht'
      simp [hid] at hsome
  have heq : (((s.finish t none).setHold i .issuing).addSale id j i).put t
      (some (.issue id j i)) =
        ((s.setHold i .issuing).addSale id j i).finish t (some (.issue id j i)) := by
    simp only [State.finish, State.put, State.setHold, State.addSale, Function.update_idem]
    rfl
  exact heq ▸ hput

theorem Inv.completed (h : Inv event s) (ht : s.tasks t = some (.issue id j i)) :
    Inv event ((s.complete id j i r outcome).put t none) := by
  rw [complete_put]
  have hid : (s.put t none).sales.get id = some ⟨j, i, .issuing⟩ := h.tasks t _ ht
  have h' : Inv event (s.put t none) := h.put (by simp) (by simp)
  have hno : ∀ t' j' i', (s.put t none).tasks t' ≠ some (.issue id j' i') := by
    intro t' j' i' ht'
    rcases put_tasks ht' with ⟨-, ht'⟩ | ⟨hne, ht'⟩
    · cases ht'
    · exact hne (h.issue_single t' t _ _ _ _ _ ht' ht)
  cases outcome with
  | issued => exact (h'.setSale hid hno).setHold (by simp)
  | failed => exact h'.setSale hid hno
  | rejected =>
    have hset : Inv event ((s.put t none).setSale id .rejected) := h'.setSale hid hno
    have hj := h'.sale_hold id _ hid
    have hget : ∀ id' sale, ((s.put t none).setSale id .rejected).sales.get id' = some sale →
        id' = id ∧ sale.status = .rejected ∨ id' ≠ id ∧ (s.put t none).sales.get id' = some sale := by
      intro id' sale hs
      simp only [State.setSale, Conc.Table.get_update_of_some _ hid] at hs
      split at hs
      next e => exact .inl ⟨e, by rw [← Option.some.inj hs]⟩
      next e => exact .inr ⟨e, hs⟩
    have hrefunded : Inv event
        (((s.put t none).setSale id .rejected).entitle r j .issuanceRejected) := by
      refine hset.entitle (fun t' k' ht' hk' => ?_) fun id' sale hs hh => ?_
      · obtain ⟨i', -, hu⟩ := h'.unhandled ht' hk'
        exact hu.1 id _ hid rfl
      · rcases hget id' sale hs with ⟨-, hst⟩ | ⟨hne, hs⟩
        · exact .inl ⟨hst, rfl⟩
        · exact absurd (h'.sale_single id' id sale _ hs hid hh) hne
    simp only [State.complete]
    split
    · refine hrefunded.setHold fun _ _ id' sale hs hne hh => ?_
      rw [entitle_sales] at hs
      rcases hget id' sale hs with ⟨-, hst⟩ | ⟨hne', hs⟩
      · exact hne hst
      · exact hne' (h'.live_single id' id sale _ hs hid hne (by simp) hh)
    · exact hrefunded

theorem Untouched.of_handled (h : s.handled j = false) : Untouched s j := by
  simp only [State.handled, Bool.or_eq_false_iff, Conc.Table.any_eq_false] at h
  exact ⟨fun id sale hs => by simpa using h.1 id sale hs,
    fun r refund hr => by simpa using h.2 r refund hr⟩

theorem Inv.checkoutCreated (h : Inv event s) (hj : s.hosted j = none) :
    Inv event { s with hosted := Function.update s.hosted j (some i) } := by
  have hold : ∀ j' i', s.hosted j' = some i' → Function.update s.hosted j (some i) j' = some i' := by
    intro j' i' hi
    have hne : j' ≠ j := by
      rintro rfl
      simp [hj] at hi
    simpa [Function.update_of_ne hne] using hi
  refine { h with sale_hold := ?_, tasks := ?_ }
  · exact fun id sale hs => hold _ _ (h.sale_hold id sale hs)
  · intro t k ht
    have hok := h.tasks t k ht
    cases k with
    | place => exact hold _ _ hok
    | locked => exact ⟨hold _ _ hok.1, hok.2⟩
    | unhandled => exact ⟨⟨hold _ _ hok.1.1, hok.1.2⟩, hok.2⟩
    | found => exact ⟨⟨hold _ _ hok.1.1, hok.1.2⟩, hok.2⟩
    | issue | refund => exact hok

theorem Inv.spawn (h : Inv event s) (hok : k.Ok event s s.nextTask)
    (hne : ∀ id j i, k ≠ .issue id j i) : Inv event (s.spawn k) := by
  have h' : Inv event (s.put s.nextTask (some k)) :=
    h.put (fun k' hk => Option.some.inj hk ▸ hok) fun k' id j i hk => Option.some.inj hk ▸ hne id j i
  refine { h' with tasks := fun t k ht => ?_ }
  cases k <;> exact h'.tasks t _ ht

theorem Inv.lock (h : Inv event s) (hl : s.lock e = none) :
    Inv event { s with lock := Function.update s.lock e (some t) } := by
  have hold : ∀ e' t', s.lock e' = some t' → Function.update s.lock e (some t) e' = some t' := by
    intro e' t' ht
    have hne : e' ≠ e := by
      rintro rfl
      simp [hl] at ht
    simpa [Function.update_of_ne hne] using ht
  refine { h with tasks := fun t k ht => ?_ }
  have hok := h.tasks t k ht
  cases k with
  | place | issue | refund => exact hok
  | locked => exact ⟨hok.1, hold _ _ hok.2⟩
  | unhandled => exact ⟨⟨hok.1.1, hold _ _ hok.1.2⟩, hok.2⟩
  | found => exact ⟨⟨hok.1.1, hold _ _ hok.1.2⟩, hok.2⟩

theorem Inv.step (h : Inv event s) (hs : Step event s s') : Inv event s' := by
  cases hs with
  | held hi =>
    refine h.setHold fun _ _ id sale hs hne hh => ?_
    rcases h.live id sale hs hne with hl | hl <;> simp [hh, hi] at hl
  | holdEnded status hi => exact h.setHold fun _ _ => h.noLive hi (by simp) (by simp)
  | checkoutCreated hj => exact h.checkoutCreated hj
  | prompted hj => exact h.spawn hj (by simp)
  | locked ht hl =>
    refine (h.lock hl).put ?_ (by rintro k id j i ⟨⟩ ⟨⟩)
    rintro k ⟨⟩
    exact ⟨h.tasks _ _ ht, Function.update_self _ _ _⟩
  | handled ht hh => exact h.finish
  | unhandled ht hh =>
    refine h.put ?_ (by rintro k id j i ⟨⟩ ⟨⟩)
    rintro k ⟨⟩
    exact ⟨h.tasks _ _ ht, Untouched.of_handled hh⟩
  | refused reason status ht hreason hst hr =>
    rw [releaseHold_finish]
    exact (h.refused ht (.inl ⟨_, rfl⟩)).releaseHold
  | found ht hi =>
    refine h.put ?_ (by rintro k id j i ⟨⟩ ⟨⟩)
    rintro k ⟨⟩
    obtain ⟨hplacing, hu⟩ := h.tasks _ _ ht
    exact ⟨hplacing, hu, fun h₁ h₂ => h.noLive hi h₁ h₂⟩
  | placeGone ht hst hr => exact h.refused ht (.inr ⟨_, _, rfl⟩)
  | taken ht h₁ h₂ hid => exact h.taken ht h₁ h₂ hid
  | completed outcome ht hr => exact h.completed ht
  | selected hs hst => exact h.spawn ⟨_, _, hs, rfl⟩ (by simp)
  | cancelled ht hr =>
    rw [entitle_put]
    obtain ⟨id, sale, hs, rfl⟩ := h.tasks _ _ ht
    refine (h.put (by simp) (by simp)).entitle (fun t' k' ht' hk' => ?_) fun _ _ _ _ => .inr rfl
    obtain ⟨i, -, hu⟩ := (h.put (by simp) (by simp)).unhandled ht' hk'
    exact hu.1 id sale hs rfl
  | stops ht => exact h.finish

theorem Inv.steps (h : Inv event s) (hs : Steps event s s') : Inv event s' := by
  induction hs with
  | refl => exact h
  | step _ hs ih => exact ih.step hs

/-- In every run: a hosted checkout has at most one sale and at most one refund; it has both only
if the sale is rejected and refunded as that, or the event was cancelled; and a hold has at most
one sale that is not rejected. -/
theorem money_safe (h₀ : State.Initial s₀) (hs : Steps event s₀ s) :
    (∀ id id' sale sale', s.sales.get id = some sale → s.sales.get id' = some sale' →
      sale.hosted = sale'.hosted → id = id') ∧
    (∀ r r' refund refund', s.refunds.get r = some refund → s.refunds.get r' = some refund' →
      refund.hosted = refund'.hosted → r = r') ∧
    (∀ id r sale refund, s.sales.get id = some sale → s.refunds.get r = some refund →
      sale.hosted = refund.hosted →
      sale.status = .rejected ∧ refund.reason = .issuanceRejected ∨
        refund.reason = .eventCancelled) ∧
    ∀ id id' sale sale', s.sales.get id = some sale → s.sales.get id' = some sale' →
      sale.status ≠ .rejected → sale'.status ≠ .rejected → sale.hold = sale'.hold → id = id' := by
  have h : Inv event s := (Inv.initial h₀).steps hs
  exact ⟨h.sale_single, h.refund_single, h.both, h.live_single⟩

def State.start : State where
  hosted _ := none
  holds _ := none
  sales := .empty
  refunds := .empty
  lock _ := none
  tasks _ := none
  nextTask := 0

theorem State.start_initial : State.Initial State.start := ⟨fun _ => rfl, fun _ => rfl, fun _ => rfl⟩

/-- A paid hold is being issued: its payment has no other sale. -/
theorem money_safe_taken : ∃ s, Steps (fun _ => 0) State.start s ∧
    s.sales.get 0 = some ⟨0, 0, .issuing⟩ ∧
    ∀ id sale, s.sales.get id = some sale → sale.hosted = 0 → id = 0 := by
  have h₁ : Steps (fun _ => 0) State.start _ := Steps.refl.step (Step.held (i := 0) rfl)
  have h₂ := h₁.step (Step.checkoutCreated (j := 0) (i := 0) rfl)
  have h₃ := h₂.step (Step.prompted (j := 0) rfl)
  have h₄ := h₃.step (Step.locked (t := 0) rfl rfl)
  have h₅ := h₄.step (Step.unhandled (t := 0) rfl (by decide))
  have h₆ := h₅.step (Step.found (t := 0) rfl rfl)
  have h₇ := h₆.step (Step.taken (t := 0) rfl (by simp) (by simp)
    (show Conc.Table.get _ 0 = none from rfl))
  exact ⟨_, h₇, rfl, fun id sale hs hh =>
    (money_safe State.start_initial h₇).1 id 0 sale _ hs rfl hh⟩

end Kippu.Money
