import Kippu.Holding.Runs

/-!
# Sales and their records

A sale that was not refused has its hold to itself: the hold is `issuing` until the
sale is completed, and `confirmed`, with the ticket's face value and the sale's
receipt, from then on. One transaction writes them all, and nothing else writes any of
them again (`sales_coherent`).
-/

namespace Kippu.Holding

open Conc (Table)

variable {s s' s₀ : State} {c d : Call} {i : HoldId} {j k : SaleId} {h h' : Hold} {x y : Sale}
  {t : TicketId} {f : Hold → Hold} {at_ : Time} {hosted : HostedId} {cursor : Cursor}

def Hold.Taken (h : Hold) : Prop := h.status = .issuing ∨ h.status = .confirmed

def Sale.holdStatus (x : Sale) : HoldStatus :=
  if x.status = .issued then .confirmed else .issuing

structure Inv (s : State) : Prop where
  locked : ∀ c event, s.task c = .locked event → s.lock event = some c
  taking : ∀ c i hosted, s.task c = .taking i hosted →
    ∃ h, s.holds.get i = some h ∧ s.lock h.event = some c ∧ ¬ h.Taken
  paying : ∀ c i at_, s.task c = .paying i at_ → s.rowLock i = some c ∧
    ∃ h, s.holds.get i = some h ∧ h.status = .outstanding ∧ at_ < h.expiresAt
  expiry : ∀ i h, s.holds.get i = some h →
    h.expiresAt = h.createdAt + HOLD_LIFETIME_MS +
      if h.extendedAt = none then 0 else HOLD_EXTENSION_MS
  checkout : ∀ i i' h h', s.holds.get i = some h → s.holds.get i' = some h' →
    h.checkout = h'.checkout → i = i'
  stage : ∀ j, s.stage j = .issuing ∨ (∃ t, s.stage j = .submitted t) →
    ∃ x, s.sales.get j = some x ∧ x.status = .issuing
  held : ∀ j x, s.sales.get j = some x → x.status ≠ .rejected →
    ∃ h, s.holds.get x.hold = some h ∧ h.status = x.holdStatus
  only : ∀ j k x y, s.sales.get j = some x → s.sales.get k = some y → x.status ≠ .rejected →
    y.status ≠ .rejected → x.hold = y.hold → j = k
  owner : ∀ i h, s.holds.get i = some h → h.Taken →
    ∃ j x, s.sales.get j = some x ∧ x.hold = i ∧ x.status ≠ .rejected
  face : ∀ t v, s.faces t = some v → ∃ x h, s.sales.get v.sale = some x ∧ x.status = .issued ∧
    x.ticket = some t ∧ s.holds.get x.hold = some h ∧ v.amount = h.price ∧ v.asset = h.asset
  issued : ∀ j x, s.sales.get j = some x → x.status = .issued →
    ∃ t v, x.ticket = some t ∧ s.faces t = some v ∧ v.sale = j
  cursor : ∀ j x, s.sales.get j = some x → (x.cursor ≠ none ↔ x.status = .issued)

theorem Inv.initial (h : s.Initial) : Inv s where
  locked c e hc := by simp [h.task] at hc
  taking c i k hc := by simp [h.task] at hc
  paying c i k hc := by simp [h.task] at hc
  expiry i x hx := by simp [h.holds] at hx
  checkout i i' x y hx := by simp [h.holds] at hx
  stage j hj := by simp [h.stage] at hj
  held j x hx := by simp [h.sales] at hx
  only j k x y hx := by simp [h.sales] at hx
  owner i x hx := by simp [h.holds] at hx
  face t v hv := by simp [h.faces] at hv
  issued j x hx := by simp [h.sales] at hx
  cursor j x hx := by simp [h.sales] at hx

theorem Inv.taken (hs : Inv s) (hx : s.sales.get j = some x) (hst : x.status ≠ .rejected)
    (hh : s.holds.get x.hold = some h) : h.Taken := by
  obtain ⟨h', hh', hst'⟩ := hs.held j x hx hst
  obtain rfl := Option.some.inj (hh.symm.trans hh')
  simp only [Sale.holdStatus] at hst'
  split at hst'
  · exact .inr hst'
  · exact .inl hst'

-- ---------------------------------------------------------------------------
-- Transactions and their locks
-- ---------------------------------------------------------------------------

theorem Inv.goto (hs : Inv s) (c : Call) {task : Task}
    (hlocked : ∀ event, task = .locked event → s.lock event = some c)
    (htaking : ∀ i hosted, task = .taking i hosted →
      ∃ h, s.holds.get i = some h ∧ s.lock h.event = some c ∧ ¬ h.Taken)
    (hpaying : ∀ i at_, task = .paying i at_ → s.rowLock i = some c ∧
      ∃ h, s.holds.get i = some h ∧ h.status = .outstanding ∧ at_ < h.expiresAt) :
    Inv (s.goto c task) := by
  have hself : (s.goto c task).task c = task := by simp [State.goto]
  have hother : ∀ d, d ≠ c → (s.goto c task).task d = s.task d := fun d hne => by
    simp [State.goto, Function.update_of_ne hne]
  refine { hs with locked := fun d e hd => ?_, taking := fun d i k hd => ?_,
                   paying := fun d i k hd => ?_ }
  all_goals rcases eq_or_ne d c with rfl | hne
  · exact hlocked e (hself ▸ hd)
  · exact hs.locked d e (hother d hne ▸ hd)
  · exact htaking i k (hself ▸ hd)
  · exact hs.taking d i k (hother d hne ▸ hd)
  · exact hpaying i k (hself ▸ hd)
  · exact hs.paying d i k (hother d hne ▸ hd)

theorem Inv.unlock (hs : Inv s) (c : Call) : Inv (s.unlock c) := by
  have hended : Inv (s.goto c .ended) := hs.goto c (by simp) (by simp) (by simp)
  have hne : ∀ d, (s.goto c .ended).task d ≠ .ended → d ≠ c := by
    rintro d hd rfl
    simp [State.goto] at hd
  refine { hended with locked := fun d e hd => ?_, taking := fun d i k hd => ?_,
                       paying := fun d i k hd => ?_ }
  · have hdc := hne d (by simp [show (s.goto c .ended).task d = _ from hd])
    have hl : s.lock e = some d := hended.locked d e hd
    simp [State.unlock, State.goto, hl, hdc]
  · have hdc := hne d (by simp [show (s.goto c .ended).task d = _ from hd])
    obtain ⟨h, hh, hl, hst⟩ := hended.taking d i k hd
    have hl : s.lock h.event = some d := hl
    exact ⟨h, hh, by simp [State.unlock, State.goto, hl, hdc], hst⟩
  · have hdc := hne d (by simp [show (s.goto c .ended).task d = _ from hd])
    obtain ⟨hl, hrest⟩ := hended.paying d i k hd
    have hl : s.rowLock i = some d := hl
    exact ⟨by simp [State.unlock, State.goto, hl, hdc], hrest⟩

theorem Inv.locks (hs : Inv s) {event : EventId} (hl : s.lock event = none) (c : Call) :
    Inv ({ s with lock := Function.update s.lock event (some c) }.goto c (.locked event)) := by
  have hkept : ∀ e d, s.lock e = some d → Function.update s.lock event (some c) e = some d := by
    intro e d he
    have hne : e ≠ event := by
      rintro rfl
      simp [hl] at he
    simpa [Function.update_of_ne hne] using he
  have hlocked : Inv { s with lock := Function.update s.lock event (some c) } := by
    refine { hs with locked := fun d e hd => hkept e d (hs.locked d e hd),
                     taking := fun d i k hd => ?_ }
    obtain ⟨h, hh, hle, hst⟩ := hs.taking d i k hd
    exact ⟨h, hh, hkept h.event d hle, hst⟩
  refine hlocked.goto c (fun e he => ?_) (by simp) (by simp)
  obtain rfl : event = e := by simpa using he
  simp

theorem Inv.paysFor (hs : Inv s) (hw : s.Writes i h) (hst : h.status = .outstanding)
    (hat : at_ < h.expiresAt) (c : Call) :
    Inv ({ s with rowLock := Function.update s.rowLock i (some c) }.goto c (.paying i at_)) := by
  have hlocked : Inv { s with rowLock := Function.update s.rowLock i (some c) } := by
    refine { hs with paying := fun d i' k hd => ?_ }
    obtain ⟨hl, hrest⟩ := hs.paying d i' k hd
    have hne : i' ≠ i := by
      rintro rfl
      simp [hw.2] at hl
    exact ⟨by simpa [Function.update_of_ne hne] using hl, hrest⟩
  refine hlocked.goto c (by simp) (by simp) (fun i' k hd => ?_)
  obtain ⟨rfl, rfl⟩ : i = i' ∧ at_ = k := by simpa using hd
  exact ⟨by simp, h, hw.1, hst, hat⟩

theorem Inv.finds (hs : Inv s) {event : EventId} (hc : s.task c = .locked event)
    (hh : s.holds.get i = some h) (he : h.event = event) (hst : ¬ h.Taken) (hosted : HostedId) :
    Inv (s.goto c (.taking i hosted)) := by
  refine hs.goto c (by simp) (fun i' k hd => ?_) (by simp)
  obtain ⟨rfl, rfl⟩ : i = i' ∧ hosted = k := by simpa using hd
  exact ⟨h, hh, he ▸ hs.locked c event hc, hst⟩

-- ---------------------------------------------------------------------------
-- Holds
-- ---------------------------------------------------------------------------

structure Keeps (h h' : Hold) : Prop where
  checkout : h'.checkout = h.checkout
  event : h'.event = h.event
  price : h'.price = h.price
  asset : h'.asset = h.asset
  expiry : h.expiresAt = h.createdAt + HOLD_LIFETIME_MS +
      (if h.extendedAt = none then 0 else HOLD_EXTENSION_MS) →
    h'.expiresAt = h'.createdAt + HOLD_LIFETIME_MS +
      if h'.extendedAt = none then 0 else HOLD_EXTENSION_MS

theorem Keeps.status (h : Hold) (status : HoldStatus) : Keeps h { h with status } :=
  ⟨rfl, rfl, rfl, rfl, id⟩

theorem Keeps.extend (hn : h.extendedAt = none) (at_ : Time) : Keeps h (h.extend at_) where
  checkout := rfl
  event := rfl
  price := rfl
  asset := rfl
  expiry he := by
    simp only [hn, ↓reduceIte, Nat.add_zero] at he
    simp [Hold.extend, he]

theorem get_setHold (hh : s.holds.get i = some h) (i' : HoldId) :
    (s.setHold i f).holds.get i' = if i' = i then some (f h) else s.holds.get i' :=
  Table.get_update_of_some f hh i'

theorem Inv.setHold (hs : Inv s) (hw : s.Writes i h) (hst : ¬ h.Taken) (hst' : ¬ (f h).Taken)
    (hk : Keeps h (f h)) : Inv (s.setHold i f) := by
  have hget := get_setHold (f := f) hw.1
  have hsale : ∀ j x, s.sales.get j = some x → x.status ≠ .rejected → x.hold ≠ i := by
    rintro j x hx hx' rfl
    exact hst (hs.taken hx hx' hw.1)
  refine { hs with taking := fun c i' k hc => ?_, paying := fun c i' k hc => ?_,
                   expiry := fun i' g hg => ?_, checkout := fun i' i'' g g' hg hg' he => ?_,
                   held := fun j x hx hx' => ?_, owner := fun i' g hg hg' => ?_,
                   face := fun t v hv => ?_ }
  · obtain ⟨g, hg, hl, hg'⟩ := hs.taking c i' k hc
    rcases eq_or_ne i' i with rfl | hne
    · obtain rfl := Option.some.inj (hw.1.symm.trans hg)
      exact ⟨f h, by simp [hget], by rw [hk.event]; exact hl, hst'⟩
    · exact ⟨g, by simp [hget, hne, hg], hl, hg'⟩
  · obtain ⟨hl, g, hg, hrest⟩ := hs.paying c i' k hc
    have hne : i' ≠ i := by
      rintro rfl
      simp [hw.2] at hl
    exact ⟨hl, g, by simp [hget, hne, hg], hrest⟩
  · rw [hget] at hg
    split at hg
    · obtain rfl := Option.some.inj hg
      exact hk.expiry (hs.expiry i h hw.1)
    · exact hs.expiry i' g hg
  · have hback : ∀ i' g, (s.setHold i f).holds.get i' = some g →
        ∃ g', s.holds.get i' = some g' ∧ g'.checkout = g.checkout := by
      intro i' g hg
      rw [hget] at hg
      split at hg
      · rename_i heq
        obtain rfl := Option.some.inj hg
        exact ⟨h, heq ▸ hw.1, hk.checkout.symm⟩
      · exact ⟨g, hg, rfl⟩
    obtain ⟨a, ha, hae⟩ := hback i' g hg
    obtain ⟨b, hb, hbe⟩ := hback i'' g' hg'
    exact hs.checkout i' i'' a b ha hb (by rw [hae, hbe, he])
  · obtain ⟨g, hg, hst⟩ := hs.held j x hx hx'
    exact ⟨g, by simp [hget, hsale j x hx hx', hg], hst⟩
  · rw [hget] at hg
    split at hg
    · obtain rfl := Option.some.inj hg
      exact absurd hg' hst'
    · exact hs.owner i' g hg hg'
  · obtain ⟨x, g, hx, hx', hticket, hg, hrest⟩ := hs.face t v hv
    exact ⟨x, g, hx, hx', hticket, by simp [hget, hsale _ x hx (by simp [hx']), hg], hrest⟩

theorem Inv.places (hs : Inv s) (hi : s.holds.get i = none) {checkout : ℕ} {event : EventId}
    {classId : ClassId} {price : ℕ} {asset : Asset}
    (hfresh : ∀ i' g, s.holds.get i' = some g → g.checkout ≠ checkout) :
    Inv (s.place i (.placed checkout event classId at_ price asset)) := by
  have hkept : ∀ i' g, s.holds.get i' = some g →
      (s.place i (.placed checkout event classId at_ price asset)).holds.get i' = some g := by
    intro i' g hg
    have hne : i' ≠ i := by
      rintro rfl
      simp [hi] at hg
    simpa [State.place, Table.get_set_ne _ hne] using hg
  have hback : ∀ i' g, (s.place i (.placed checkout event classId at_ price asset)).holds.get i' =
      some g → i' = i ∧ g = .placed checkout event classId at_ price asset ∨
        s.holds.get i' = some g := by
    intro i' g hg
    rcases eq_or_ne i' i with rfl | hne
    · exact .inl ⟨rfl, by simpa [State.place, eq_comm] using hg⟩
    · exact .inr (by simpa [State.place, Table.get_set_ne _ hne] using hg)
  refine { hs with taking := fun c i' k hc => ?_, paying := fun c i' k hc => ?_,
                   expiry := fun i' g hg => ?_, checkout := fun i' i'' g g' hg hg' he => ?_,
                   held := fun j x hx hx' => ?_, owner := fun i' g hg hg' => ?_,
                   face := fun t v hv => ?_ }
  · obtain ⟨g, hg, hrest⟩ := hs.taking c i' k hc
    exact ⟨g, hkept i' g hg, hrest⟩
  · obtain ⟨hl, g, hg, hrest⟩ := hs.paying c i' k hc
    exact ⟨hl, g, hkept i' g hg, hrest⟩
  · rcases hback i' g hg with ⟨-, rfl⟩ | hg
    · simp [Hold.placed]
    · exact hs.expiry i' g hg
  · rcases hback i' g hg with ⟨rfl, rfl⟩ | hold <;> rcases hback i'' g' hg' with ⟨rfl, rfl⟩ | hold'
    · rfl
    · exact absurd he.symm (hfresh i'' g' hold')
    · exact absurd he (hfresh i' g hold)
    · exact hs.checkout i' i'' g g' hold hold' he
  · obtain ⟨g, hg, hst⟩ := hs.held j x hx hx'
    exact ⟨g, hkept x.hold g hg, hst⟩
  · rcases hback i' g hg with ⟨-, rfl⟩ | hg
    · simp [Hold.Taken, Hold.placed] at hg'
    · exact hs.owner i' g hg hg'
  · obtain ⟨x, g, hx, hx', hticket, hg, hrest⟩ := hs.face t v hv
    exact ⟨x, g, hx, hx', hticket, hkept x.hold g hg, hrest⟩

-- ---------------------------------------------------------------------------
-- Sales
-- ---------------------------------------------------------------------------

def State.Untaken (s : State) (i : HoldId) : Prop := ∀ c hosted, s.task c ≠ .taking i hosted

/-- The holder of the event's lock was the only one to take the hold. -/
theorem Inv.untaken (hs : Inv s) (hc : s.task c = .taking i hosted) : (s.unlock c).Untaken i := by
  intro d k hd
  have hne : d ≠ c := by
    rintro rfl
    simp [State.unlock, State.goto] at hd
  have hd : s.task d = .taking i k := by
    simpa [State.unlock, State.goto, Function.update_of_ne hne] using hd
  obtain ⟨h, hh, hl, -⟩ := hs.taking c i hosted hc
  obtain ⟨h', hh', hl', -⟩ := hs.taking d i k hd
  obtain rfl := Option.some.inj (hh.symm.trans hh')
  exact hne (Option.some.inj (hl'.symm.trans hl))

theorem Inv.untaken_of_taken (hs : Inv s) (hh : s.holds.get i = some h) (ht : h.Taken) :
    s.Untaken i := by
  intro c k hc
  obtain ⟨h', hh', -, hno⟩ := hs.taking c i k hc
  obtain rfl := Option.some.inj (hh.symm.trans hh')
  exact hno ht

theorem Inv.unpaid_of_taken (hs : Inv s) (hh : s.holds.get i = some h) (ht : h.Taken) (c : Call)
    (at_ : Time) : s.task c ≠ .paying i at_ := by
  intro hc
  obtain ⟨-, h', hh', hst, -⟩ := hs.paying c i at_ hc
  obtain rfl := Option.some.inj (hh.symm.trans hh')
  simp [Hold.Taken, hst] at ht

theorem Inv.unpaid (hs : Inv s) (hl : s.rowLock i = none) (c : Call) (at_ : Time) :
    s.task c ≠ .paying i at_ := by
  intro hc
  simpa [hl] using (hs.paying c i at_ hc).1

structure Writing (s s' : State) (j : SaleId) (x : Sale) (i : HoldId) (h : Hold) : Prop where
  lock : s'.lock = s.lock
  rowLock : s'.rowLock = s.rowLock
  task : s'.task = s.task
  sales : ∀ k, s'.sales.get k = if k = j then some x else s.sales.get k
  holds : ∀ i', s'.holds.get i' = if i' = i then some h else s.holds.get i'
  hold : x.hold = i

theorem Inv.writes (hs : Inv s) (hw : Writing s s' j x i h') (hh : s.holds.get i = some h)
    (hk : Keeps h h') (hfree : s.Untaken i) (hpay : ∀ c at_, s.task c ≠ .paying i at_)
    (hsame : ∀ y, s.sales.get j = some y → y.hold = i)
    (hstage : ∀ k, s'.stage k = .issuing ∨ (∃ t, s'.stage k = .submitted t) →
      k = j ∧ x.status = .issuing ∨ k ≠ j ∧ s'.stage k = s.stage k)
    (hheld : x.status ≠ .rejected → h'.status = x.holdStatus)
    (htaken : h'.Taken → x.status ≠ .rejected)
    (halone : ∀ k y, k ≠ j → s.sales.get k = some y → y.status ≠ .rejected → y.hold ≠ i)
    (hface : ∀ t v, s'.faces t = some v → v.sale = j ∧ x.status = .issued ∧ x.ticket = some t ∧
      v.amount = h'.price ∧ v.asset = h'.asset ∨ v.sale ≠ j ∧ s.faces t = some v)
    (hfaces : ∀ t v, s.faces t = some v → v.sale ≠ j → s'.faces t = some v)
    (hissued : x.status = .issued → ∃ t v, x.ticket = some t ∧ s'.faces t = some v ∧ v.sale = j)
    (hcursor : x.cursor ≠ none ↔ x.status = .issued) : Inv s' := by
  have hsale : ∀ k y, s'.sales.get k = some y → k = j ∧ y = x ∨ k ≠ j ∧ s.sales.get k = some y := by
    intro k y hy
    rw [hw.sales] at hy
    split at hy
    · exact .inl ⟨‹_›, (Option.some.inj hy).symm⟩
    · exact .inr ⟨‹_›, hy⟩
  have hhold : ∀ i' g, s'.holds.get i' = some g →
      i' = i ∧ g = h' ∨ i' ≠ i ∧ s.holds.get i' = some g := by
    intro i' g hg
    rw [hw.holds] at hg
    split at hg
    · exact .inl ⟨‹_›, (Option.some.inj hg).symm⟩
    · exact .inr ⟨‹_›, hg⟩
  constructor
  · intro c e hc
    rw [hw.task] at hc
    rw [hw.lock]
    exact hs.locked c e hc
  · intro c i' k hc
    rw [hw.task] at hc
    obtain ⟨g, hg, hl, hst⟩ := hs.taking c i' k hc
    have hne : i' ≠ i := by
      rintro rfl
      exact hfree c k hc
    exact ⟨g, by simp [hw.holds, hne, hg], by rw [hw.lock]; exact hl, hst⟩
  · intro c i' k hc
    rw [hw.task] at hc
    obtain ⟨hl, g, hg, hrest⟩ := hs.paying c i' k hc
    have hne : i' ≠ i := by
      rintro rfl
      exact hpay c k hc
    exact ⟨by rw [hw.rowLock]; exact hl, g, by simp [hw.holds, hne, hg], hrest⟩
  · intro i' g hg
    rcases hhold i' g hg with ⟨rfl, rfl⟩ | ⟨-, hg⟩
    · exact hk.expiry (hs.expiry i' h hh)
    · exact hs.expiry i' g hg
  · intro i' i'' g g' hg hg' he
    rcases hhold i' g hg with ⟨rfl, rfl⟩ | ⟨-, hg⟩ <;>
      rcases hhold i'' g' hg' with ⟨rfl, rfl⟩ | ⟨-, hg'⟩
    · rfl
    · exact hs.checkout _ _ h g' hh hg' (hk.checkout.symm.trans he)
    · exact hs.checkout _ _ g h hg hh (he.trans hk.checkout)
    · exact hs.checkout i' i'' g g' hg hg' he
  · intro k hst
    rcases hstage k hst with ⟨rfl, hx⟩ | ⟨hne, heq⟩
    · exact ⟨x, by simp [hw.sales], hx⟩
    · obtain ⟨y, hy, hst⟩ := hs.stage k (heq ▸ hst)
      exact ⟨y, by simp [hw.sales, hne, hy], hst⟩
  · intro k y hy hst
    rcases hsale k y hy with ⟨rfl, rfl⟩ | ⟨hne, hy⟩
    · exact ⟨h', by simp [hw.holds, hw.hold], hheld hst⟩
    · obtain ⟨g, hg, hgst⟩ := hs.held k y hy hst
      exact ⟨g, by simp [hw.holds, halone k y hne hy hst, hg], hgst⟩
  · intro k k' y y' hy hy' hst hst' heq
    rcases hsale k y hy with ⟨rfl, rfl⟩ | ⟨hne, hy⟩ <;>
      rcases hsale k' y' hy' with ⟨rfl, rfl⟩ | ⟨hne', hy'⟩
    · rfl
    · exact absurd (heq.symm.trans hw.hold) (halone k' y' hne' hy' hst')
    · exact absurd (heq.trans hw.hold) (halone k y hne hy hst)
    · exact hs.only k k' y y' hy hy' hst hst' heq
  · intro i' g hg hg'
    rcases hhold i' g hg with ⟨rfl, rfl⟩ | ⟨hne, hg⟩
    · exact ⟨j, x, by simp [hw.sales], hw.hold, htaken hg'⟩
    · obtain ⟨k, y, hy, rfl, hst⟩ := hs.owner i' g hg hg'
      rcases eq_or_ne k j with rfl | hkj
      · exact absurd (hsame y hy) hne
      · exact ⟨k, y, by simp [hw.sales, hkj, hy], rfl, hst⟩
  · intro t v hv
    rcases hface t v hv with ⟨rfl, hst, ht, hrest⟩ | ⟨hne, hv⟩
    · exact ⟨x, h', by simp [hw.sales], hst, ht, by simp [hw.holds, hw.hold], hrest⟩
    · obtain ⟨y, g, hy, hst, ht, hg, hrest⟩ := hs.face t v hv
      have hyi := halone v.sale y hne hy (by simp [hst])
      exact ⟨y, g, by simp [hw.sales, hne, hy], hst, ht, by simp [hw.holds, hyi, hg], hrest⟩
  · intro k y hy hst
    rcases hsale k y hy with ⟨rfl, rfl⟩ | ⟨hne, hy⟩
    · exact hissued hst
    · obtain ⟨t, v, ht, hv, rfl⟩ := hs.issued k y hy hst
      exact ⟨t, v, ht, hfaces t v hv hne, rfl⟩
  · intro k y hy
    rcases hsale k y hy with ⟨rfl, rfl⟩ | ⟨-, hy⟩
    · exact hcursor
    · exact hs.cursor k y hy

theorem Inv.takes (hs : Inv s) (hh : s.Writes i h) (hfree : s.Untaken i) (hno : ¬ h.Taken)
    (hj : s.sales.get j = none) :
    Inv ((s.take j ⟨hosted, i, .issuing, none, none⟩).setStage j .issuing) := by
  refine hs.writes (x := ⟨hosted, i, .issuing, none, none⟩) (i := i) (j := j)
    ⟨rfl, rfl, rfl, fun k => Table.get_set _, get_setHold hh.1, rfl⟩ hh.1
    (Keeps.status h .issuing) hfree (hs.unpaid hh.2) (by simp [hj]) (fun k hk => ?_) (fun _ => rfl)
    (by simp) (fun k y _ hy hst => ?_)
    (fun t v hv => .inr ⟨?_, hv⟩) (fun t v hv _ => hv) (by simp) (by simp)
  · rcases eq_or_ne k j with rfl | hne
    · exact .inl ⟨rfl, rfl⟩
    · exact .inr ⟨hne, by simp [State.setStage, State.take, State.setStatus, State.setHold,
        Function.update_of_ne hne]⟩
  · rintro rfl
    exact hno (hs.taken hy hst hh.1)
  · rintro rfl
    obtain ⟨y, -, hy, -⟩ := hs.face t v hv
    simp [hj] at hy

theorem Inv.completes (hs : Inv s) (hx : s.sales.get j = some x) (hst : x.status = .issuing) :
    ∃ h, s.holds.get x.hold = some h ∧ h.status = .issuing := by
  obtain ⟨h, hh, hst'⟩ := hs.held j x hx (by simp [hst])
  exact ⟨h, hh, by simpa [Sale.holdStatus, hst] using hst'⟩

theorem Inv.alone (hs : Inv s) (hx : s.sales.get j = some x) (hst : x.status = .issuing)
    (hne : k ≠ j) (hy : s.sales.get k = some y) (hst' : y.status ≠ .rejected) : y.hold ≠ x.hold :=
  fun heq => hne (hs.only k j y x hy hx hst' (by simp [hst]) heq)

theorem Inv.not_faced (hs : Inv s) (hx : s.sales.get j = some x) (hst : x.status = .issuing)
    {v : FaceValue} (hv : s.faces t = some v) : v.sale ≠ j := by
  rintro rfl
  obtain ⟨y, -, hy, hst', -⟩ := hs.face t v hv
  obtain rfl := Option.some.inj (hx.symm.trans hy)
  simp [hst] at hst'

theorem stage_done (s : State) (j k : SaleId) (P : Prop)
    (hk : (s.setStage j .done).stage k = .issuing ∨
      ∃ t, (s.setStage j .done).stage k = .submitted t) :
    k = j ∧ P ∨ k ≠ j ∧ (s.setStage j .done).stage k = s.stage k := by
  rcases eq_or_ne k j with rfl | hne
  · simp [State.setStage] at hk
  · exact .inr ⟨hne, by simp [State.setStage, Function.update_of_ne hne]⟩

theorem Inv.issues (hs : Inv s) (hx : s.sales.get j = some x) (hst : x.status = .issuing)
    (hh : s.holds.get x.hold = some h) (hfresh : s.faces t = none) :
    Inv (((s.face t ⟨j, h.price, h.asset⟩).complete j x.hold (Sale.issue t cursor)
      .confirmed).setStage j .done) := by
  obtain ⟨g, hg, hgst⟩ := hs.completes hx hst
  obtain rfl := Option.some.inj (hh.symm.trans hg)
  refine hs.writes (x := x.issue t cursor) (i := x.hold) (j := j)
    ⟨rfl, rfl, rfl, Table.get_update_of_some _ hx, Table.get_update_of_some _ hh, rfl⟩ hh
    (Keeps.status h .confirmed) (hs.untaken_of_taken hh (.inl hgst))
    (hs.unpaid_of_taken hh (.inl hgst)) (fun y hy => ?_)
    (fun k hk => stage_done _ j k _ hk) (fun _ => rfl) (fun _ => by simp [Sale.issue])
    (fun k y hne hy hst' => hs.alone hx hst hne hy hst') (fun t' v hv => ?_) (fun t' v hv _ => ?_)
    (fun _ => ⟨t, ⟨j, h.price, h.asset⟩, rfl, ?_, rfl⟩) (by simp [Sale.issue])
  · obtain rfl := Option.some.inj (hx.symm.trans hy)
    rfl
  · rcases eq_or_ne t' t with rfl | hne
    · obtain rfl : _ = v := by
        simpa [State.complete, State.face, State.setStage, State.setStatus, State.setHold,
          State.setSale] using hv
      exact .inl ⟨rfl, rfl, rfl, rfl, rfl⟩
    · have hv : s.faces t' = some v := by
        simpa [State.complete, State.face, State.setStage, State.setStatus, State.setHold,
          State.setSale, Function.update_of_ne hne] using hv
      exact .inr ⟨hs.not_faced hx hst hv, hv⟩
  · have hne : t' ≠ t := by
      rintro rfl
      simp [hfresh] at hv
    simpa [State.complete, State.face, State.setStage, State.setStatus, State.setHold,
      State.setSale, Function.update_of_ne hne] using hv
  · simp [State.complete, State.face, State.setStage, State.setStatus, State.setHold, State.setSale]

theorem Inv.rejects (hs : Inv s) (hx : s.sales.get j = some x) (hst : x.status = .issuing)
    (hh : s.holds.get x.hold = some h) :
    Inv ((s.complete j x.hold (Sale.fail .rejected)
      (if h.status = .issuing then .released else h.status)).setStage j .done) := by
  obtain ⟨g, hg, hgst⟩ := hs.completes hx hst
  obtain rfl := Option.some.inj (hh.symm.trans hg)
  refine hs.writes (x := x.fail .rejected) (i := x.hold) (j := j)
    ⟨rfl, rfl, rfl, Table.get_update_of_some _ hx, Table.get_update_of_some _ hh, rfl⟩ hh
    (Keeps.status h _) (hs.untaken_of_taken hh (.inl hgst))
    (hs.unpaid_of_taken hh (.inl hgst)) (fun y hy => ?_)
    (fun k hk => stage_done _ j k _ hk) (by simp [Sale.fail]) (by simp [Hold.Taken, hgst])
    (fun k y hne hy hst' => hs.alone hx hst hne hy hst')
    (fun t' v hv => .inr ⟨hs.not_faced hx hst hv, hv⟩) (fun t' v hv _ => hv) (by simp [Sale.fail])
    (by simp [Sale.fail])
  obtain rfl := Option.some.inj (hx.symm.trans hy)
  rfl

theorem Inv.setSale (hs : Inv s) (hx : s.sales.get j = some x) (hst : x.status = .issuing)
    {g : Sale → Sale} (hhold : (g x).hold = x.hold) (hkept : (g x).holdStatus = .issuing)
    (hnot : (g x).status ≠ .rejected) (hissued : (g x).status ≠ .issued)
    (hcursor : (g x).cursor = none)
    (stage : Stage) (hstage : stage = .issuing ∨ (∃ t, stage = .submitted t) →
      (g x).status = .issuing) : Inv ((s.setSale j g).setStage j stage) := by
  obtain ⟨h, hh, hgst⟩ := hs.completes hx hst
  have hw : Writing s ((s.setSale j g).setStage j stage) j (g x) x.hold h := by
    refine ⟨rfl, rfl, rfl, Table.get_update_of_some _ hx, fun i' => ?_, hhold⟩
    by_cases hi : i' = x.hold
    · simpa [State.setStage, State.setSale, hi] using hh
    · simp [State.setStage, State.setSale, hi]
  refine hs.writes hw hh
    ⟨rfl, rfl, rfl, rfl, id⟩ (hs.untaken_of_taken hh (.inl hgst))
    (hs.unpaid_of_taken hh (.inl hgst)) (fun y hy => ?_) (fun k hk => ?_)
    (fun _ => hgst.trans hkept.symm) (fun _ => hnot)
    (fun k y hne hy hst' => hs.alone hx hst hne hy hst')
    (fun t' v hv => .inr ⟨hs.not_faced hx hst hv, hv⟩) (fun t' v hv _ => hv)
    (fun hi => absurd hi hissued) (by simp [hcursor, hissued])
  · obtain rfl := Option.some.inj (hx.symm.trans hy)
    rfl
  · rcases eq_or_ne k j with rfl | hne
    · exact .inl ⟨rfl, hstage (by simpa [State.setStage] using hk)⟩
    · exact .inr ⟨hne, by simp [State.setStage, State.setSale, Function.update_of_ne hne]⟩

theorem Inv.stops (hs : Inv s) (j : SaleId) : Inv (s.setStage j .done) := by
  refine { hs with stage := fun k hk => ?_ }
  rcases eq_or_ne k j with rfl | hne
  · simp [State.setStage] at hk
  · exact hs.stage k (by simpa [State.setStage, Function.update_of_ne hne] using hk)

-- ---------------------------------------------------------------------------
-- Runs
-- ---------------------------------------------------------------------------

theorem Hold.not_taken_of_outstanding (hst : h.status = .outstanding) : ¬ h.Taken := by
  simp [Hold.Taken, hst]

theorem Inv.step (hs : Inv s) (hstep : Step at_ s s') : Inv s' := by
  cases hstep with
  | repriced => exact { hs with }
  | extended hw hst hn hat =>
    exact hs.setHold hw (Hold.not_taken_of_outstanding hst) (Hold.not_taken_of_outstanding hst)
      (Keeps.extend hn at_)
  | givesUp hw hst =>
    refine hs.setHold hw (Hold.not_taken_of_outstanding hst) ?_ (Keeps.status _ _)
    split <;> simp [Hold.Taken]
  | releases hw hst | lapses hw hst =>
    exact hs.setHold hw (Hold.not_taken_of_outstanding hst) (by simp [Hold.Taken])
      (Keeps.status _ _)
  | locks event hc hl => exact hs.locks hl _
  | places hc hi hterms hfresh => exact (hs.places hi hfresh).unlock _
  | finds hosted hc hh he hst =>
    refine hs.finds hc hh he ?_ hosted
    rintro (ht | ht) <;> simp [ht] at hst
  | @takes c i hosted j hc hl hj _ _ =>
    obtain ⟨h, hh, -, hno⟩ := hs.taking c i hosted hc
    refine (hs.unlock c).takes ⟨hh, ?_⟩ (hs.untaken hc) hno hj
    simp [State.unlock, State.goto, hl]
  | paysFor hc hw hst hat => exact hs.paysFor hw hst hat _
  | @pays c i h hc hh =>
    obtain ⟨hl, h', hh', hst, -⟩ := hs.paying c i at_ hc
    obtain rfl := Option.some.inj (hh.symm.trans hh')
    have hfree : (s.unlock c).Writes i h := ⟨hh, by simp [State.unlock, State.goto, hl]⟩
    split
    · rename_i hn
      exact (hs.unlock c).setHold hfree (Hold.not_taken_of_outstanding hst)
        (Hold.not_taken_of_outstanding hst) (Keeps.extend hn at_)
    · exact hs.unlock c
  | ends hc => exact hs.unlock _
  | names ticket hj =>
    obtain ⟨x, hx, hst⟩ := hs.stage _ (.inl hj)
    exact hs.setSale hx hst rfl (by simp [Sale.holdStatus, hst]) (by simp [hst]) (by simp [hst])
      (by
        have := hs.cursor _ x hx
        by_contra hne
        simp [this.mp hne] at hst) _ fun _ => hst
  | issues hj hx hw hfresh =>
    obtain ⟨x', hx', hst⟩ := hs.stage _ (.inr ⟨_, hj⟩)
    obtain rfl := Option.some.inj (hx.symm.trans hx')
    exact hs.issues hx hst hw.1 hfresh
  | rejects hj hx hw =>
    obtain ⟨x', hx', hst⟩ := hs.stage _ (hj.imp_right fun hj => ⟨_, hj⟩)
    obtain rfl := Option.some.inj (hx.symm.trans hx')
    exact hs.rejects hx hst hw.1
  | fails hj =>
    obtain ⟨x, hx, hst⟩ := hs.stage _ (.inr ⟨_, hj⟩)
    exact hs.setSale hx hst rfl (by simp [Sale.holdStatus, Sale.fail]) (by simp [Sale.fail])
      (by simp [Sale.fail]) rfl _ (by simp)
  | stops hj => exact hs.stops _

theorem Inv.steps (h : Inv s) (hs : Steps s s') : Inv s' := by
  induction hs with
  | refl => exact h
  | step _ hs ih => exact ih.step hs

-- ---------------------------------------------------------------------------
-- Issued sales stay as they are
-- ---------------------------------------------------------------------------

structure Same (s s' : State) (j : SaleId) (x : Sale) : Prop where
  sale : s'.sales.get j = some x
  hold : s'.holds.get x.hold = s.holds.get x.hold
  faces : ∀ t v, s.faces t = some v → s'.faces t = some v

theorem Same.refl (hx : s.sales.get j = some x) : Same s s j x := ⟨hx, rfl, fun _ _ => id⟩

theorem Same.setHold (hx : s.sales.get j = some x) (hne : x.hold ≠ i) :
    Same s (s.setHold i f) j x :=
  ⟨hx, Table.get_update_ne _ hne, fun _ _ => id⟩

theorem Same.setSale (hx : s.sales.get j = some x) {g : Sale → Sale} (hne : j ≠ k) :
    Same s (s.setSale k g) j x :=
  ⟨(Table.get_update_ne _ hne).trans hx, rfl, fun _ _ => id⟩

theorem Inv.hold_ne (hs : Inv s) (hx : s.sales.get j = some x) (hst : x.status = .issued)
    (hh : s.holds.get i = some h) (hno : ¬ h.Taken) : x.hold ≠ i := by
  rintro rfl
  exact hno (hs.taken hx (by simp [hst]) hh)

theorem Inv.sale_ne (hs : Inv s) (hx : s.sales.get j = some x) (hst : x.status = .issued)
    (hy : s.sales.get k = some y) (hst' : y.status = .issuing) : j ≠ k ∧ x.hold ≠ y.hold := by
  have hne : j ≠ k := by
    rintro rfl
    obtain rfl := Option.some.inj (hx.symm.trans hy)
    simp [hst] at hst'
  exact ⟨hne, fun heq => hne (hs.only j k x y hx hy (by simp [hst]) (by simp [hst']) heq)⟩

theorem Inv.same (hs : Inv s) (hstep : Step at_ s s') (hx : s.sales.get j = some x)
    (hst : x.status = .issued) : Same s s' j x := by
  have hfree : ∀ {i h}, s.Writes i h → h.status = .outstanding → x.hold ≠ i := fun hw ho =>
    hs.hold_ne hx hst hw.1 (Hold.not_taken_of_outstanding ho)
  cases hstep with
  | extended hw ho _ _ | givesUp hw ho | releases hw ho | lapses hw ho _ =>
    exact Same.setHold hx (hfree hw ho)
  | @places c event i _ _ _ _ hc hi _ _ =>
    obtain ⟨g, hg, -⟩ := hs.held j x hx (by simp [hst])
    have hne : x.hold ≠ i := by
      intro heq
      simp [heq, hi] at hg
    exact ⟨hx, Table.get_set_ne _ hne, fun _ _ => id⟩
  | @takes c i hosted k hc _ hk _ _ =>
    obtain ⟨g, hg, -, hno⟩ := hs.taking c i hosted hc
    have hne : j ≠ k := by
      rintro rfl
      simp [hk] at hx
    exact ⟨(Table.get_set_ne _ hne).trans hx, Table.get_update_ne _ (hs.hold_ne hx hst hg hno),
      fun _ _ => id⟩
  | @pays c i h hc hh =>
    obtain ⟨-, g, hg, ho, -⟩ := hs.paying c i at_ hc
    have hne : x.hold ≠ i := hs.hold_ne hx hst hg (Hold.not_taken_of_outstanding ho)
    split
    · exact { Same.setHold (s := s) (f := Hold.extend at_) hx hne with }
    · exact { Same.refl hx with }
  | names ticket hk =>
    obtain ⟨y, hy, hst'⟩ := hs.stage _ (.inl hk)
    have h := Same.setSale (g := fun x => { x with ticket := some ticket }) hx
      (hs.sale_ne hx hst hy hst').1
    exact { h with }
  | @issues k t y h cursor hk hy hw hfresh =>
    obtain ⟨y', hy', hst'⟩ := hs.stage _ (.inr ⟨_, hk⟩)
    obtain rfl := Option.some.inj (hy.symm.trans hy')
    obtain ⟨hne, hhold⟩ := hs.sale_ne hx hst hy hst'
    refine ⟨(Table.get_update_ne _ hne).trans hx, Table.get_update_ne _ hhold, fun t' v hv => ?_⟩
    have ht : t' ≠ t := by
      rintro rfl
      simp [hfresh] at hv
    simpa [State.complete, State.face, State.setStage, State.setStatus, State.setHold,
      State.setSale, Function.update_of_ne ht] using hv
  | @rejects k t y h hk hy hw =>
    obtain ⟨y', hy', hst'⟩ := hs.stage _ (hk.imp_right fun hk => ⟨_, hk⟩)
    obtain rfl := Option.some.inj (hy.symm.trans hy')
    obtain ⟨hne, hhold⟩ := hs.sale_ne hx hst hy hst'
    exact ⟨(Table.get_update_ne _ hne).trans hx, Table.get_update_ne _ hhold, fun _ _ => id⟩
  | fails hk =>
    obtain ⟨y, hy, hst'⟩ := hs.stage _ (.inr ⟨_, hk⟩)
    have h := Same.setSale (g := Sale.fail .failed) hx (hs.sale_ne hx hst hy hst').1
    exact { h with }
  | repriced | locks | finds | paysFor | ends | stops => exact ⟨hx, rfl, fun _ _ => id⟩

theorem Inv.sames (hs : Inv s) (hsteps : Steps s s') (hx : s.sales.get j = some x)
    (hst : x.status = .issued) : Same s s' j x := by
  induction hsteps with
  | refl => exact Same.refl hx
  | step hsteps hstep ih =>
    have h := (hs.steps hsteps).same hstep ih.sale hst
    exact ⟨h.sale, h.hold.trans ih.hold, fun t v hv => h.faces t v (ih.faces t v hv)⟩

/-- How a sale, its hold and its face value agree: it is issued just when its hold is confirmed, with
this sale as the only one of it that was not refused; just when it has one face value, at the price
and in the asset that the hold recorded, of its ticket; and just when it has a receipt. -/
structure State.Coherent (s : State) (j : SaleId) (x : Sale) : Prop where
  confirmed : x.status = .issued ↔ x.status ≠ .rejected ∧
    (∃ h, s.holds.get x.hold = some h ∧ h.status = .confirmed) ∧
    ∀ k y, s.sales.get k = some y → y.hold = x.hold → y.status ≠ .rejected → k = j
  faced : x.status = .issued ↔ ∃! t, ∃ v, s.faces t = some v ∧ v.sale = j
  face : ∀ t v, s.faces t = some v → v.sale = j → x.ticket = some t ∧
    ∃ h, s.holds.get x.hold = some h ∧ v.amount = h.price ∧ v.asset = h.asset
  receipt : x.cursor ≠ none ↔ x.status = .issued

theorem Inv.coherent (hs : Inv s) (hx : s.sales.get j = some x) : s.Coherent j x where
  confirmed := by
    constructor
    · intro hst
      have hno : x.status ≠ .rejected := by simp [hst]
      obtain ⟨h, hh, hst'⟩ := hs.held j x hx hno
      exact ⟨hno, ⟨h, hh, by simpa [Sale.holdStatus, hst] using hst'⟩,
        fun k y hy heq hst'' => hs.only k j y x hy hx hst'' hno heq⟩
    · rintro ⟨hno, ⟨h, hh, hst⟩, -⟩
      obtain ⟨h', hh', hst'⟩ := hs.held j x hx hno
      obtain rfl := Option.some.inj (hh.symm.trans hh')
      by_contra hissued
      simp [Sale.holdStatus, hissued, hst] at hst'
  faced := by
    constructor
    · intro hst
      obtain ⟨t, v, ht, hv, rfl⟩ := hs.issued j x hx hst
      refine ⟨t, ⟨v, hv, rfl⟩, ?_⟩
      rintro t' ⟨v', hv', heq⟩
      obtain ⟨y, -, hy, -, ht', -⟩ := hs.face t' v' hv'
      obtain rfl := Option.some.inj (hx.symm.trans (heq ▸ hy))
      exact Option.some.inj (ht'.symm.trans ht)
    · rintro ⟨t, ⟨v, hv, rfl⟩, -⟩
      obtain ⟨y, -, hy, hst, -⟩ := hs.face t v hv
      obtain rfl := Option.some.inj (hx.symm.trans hy)
      exact hst
  face t v hv heq := by
    subst heq
    obtain ⟨y, h, hy, -, ht, hh, hrest⟩ := hs.face t v hv
    obtain rfl := Option.some.inj (hx.symm.trans hy)
    exact ⟨ht, h, hh, hrest⟩
  receipt := hs.cursor j x hx

/-- In every run every sale agrees with its records, and the records of an issued sale are never
altered again. -/
theorem sales_coherent (h₀ : State.Initial s₀) (hs : Steps s₀ s) (hx : s.sales.get j = some x) :
    s.Coherent j x ∧ (x.status = .issued → ∀ s', Steps s s' → Same s s' j x) := by
  have h := (Inv.initial h₀).steps hs
  exact ⟨h.coherent hx, fun hst s' hs' => h.sames hs' hx hst⟩

def State.start : State :=
  ⟨.empty, .empty, fun _ => none, fun _ => some (25, 3), fun _ => none, fun _ => none, fun _ => .idle,
    fun _ => .idle⟩

theorem State.start_initial : State.Initial State.start :=
  ⟨fun _ => rfl, fun _ => rfl, fun _ => rfl, fun _ => rfl, fun _ => rfl, fun _ => rfl, fun _ => rfl⟩

/-- A hold is placed, paid and issued. -/
theorem sales_coherent_one : ∃ s x, Steps State.start s ∧ s.sales.get 1 = some x ∧
    x.status = .issued ∧ s.Coherent 1 x := by
  have h₁ : Steps State.start _ :=
    Steps.refl.step (show Step 0 _ _ from Step.locks (c := 1) 0 rfl rfl)
  have h₂ := h₁.step (show Step 0 _ _ from Step.places (c := 1) (i := 1) rfl rfl
    (show State.terms _ 0 = some (25, 3) from rfl)
    (show ∀ j h, State.start.holds.get j = some h → h.checkout ≠ 7 by simp [State.start]))
  have h₃ := h₂.step (show Step 0 _ _ from Step.locks (c := 2) 0 rfl rfl)
  have h₄ := h₃.step (show Step 0 _ _ from Step.finds (c := 2) (i := 1) 5 rfl rfl rfl (.inl rfl))
  have h₅ := h₄.step (show Step 0 _ _ from Step.takes (c := 2) (j := 1) rfl rfl rfl
    (show ∀ k x, State.start.sales.get k = some x → x.hosted ≠ 5 by simp [State.start]) rfl)
  have h₆ := h₅.step (show Step 0 _ _ from Step.names (j := 1) 9 rfl)
  have h₇ := h₆.step (show Step 0 _ (State.setStage (State.complete _ 1 _ (Sale.issue 9 4) _) 1 _)
    from Step.issues (j := 1) rfl rfl ⟨rfl, rfl⟩ rfl)
  exact ⟨_, _, h₇, rfl, rfl, (sales_coherent State.start_initial h₇ rfl).1⟩

end Kippu.Holding
