import Kippu.Seating.Runs
import Mathlib.Data.Nat.Pairing
import Mathlib.Logic.Equiv.List

/-!
# A seat is allocated once

At most one hold has a seat, or one granted issuance its ticket, never both
(`seat_exclusive`). Who allocates a seat has its lock, and has found that nobody has
the seat (`Task.Ok`); without the lock, allocations only end. A hold that is issuing, or an
issuance that is pending, is completed by the one task that made it so.
-/

namespace Kippu.Seating

variable {seated : EventId → ZoneId → Bool} {ticketId : Placement → TicketId} {s s' s₀ : State}
  {t t' : ℕ} {x y : Placement} {i i' : HoldId} {g : GrantedId} {h h' : Hold} {row row' : Granted}
  {k : Task} {new : Option Task} {kind : Kind} {status : HoldStatus}

-- ---------------------------------------------------------------------------
-- The invariant
-- ---------------------------------------------------------------------------

/-- No hold has the seat but one. -/
def Only (s : State) (x : Placement) (p : HoldId → Prop) : Prop :=
  ∀ i h, s.holds.get i = some h → h.seat = some x → h.live = true → p i

def NoHold (s : State) (x : Placement) : Prop := Only s x fun _ => False

def NoGranted (s : State) (x : Placement) : Prop :=
  ∀ g row, s.granted.get g = some row → row.placement = x → row.status = .rejected

/-- The hold is not being issued. -/
def Idle (s : State) (i : HoldId) : Prop := ∀ h, s.holds.get i = some h → h.status ≠ .issuing

def Issuing (s : State) (i : HoldId) : Prop :=
  ∃ h x, s.holds.get i = some h ∧ h.seat = some x ∧ h.status = .issuing

def Pending (s : State) (g : GrantedId) : Prop :=
  ∃ row, s.granted.get g = some row ∧ row.status = .pending

/-- Whether the task completes what it made. -/
def Task.Works : Task → Prop
  | .issuing _ | .submitting _ => True
  | _ => False

section
variable (seated : EventId → ZoneId → Bool) (ticketId : Placement → TicketId)

structure Locked (s : State) (t : ℕ) (kind : Kind) (x : Placement) : Prop where
  seat : x.Seat seated
  names : s.names kind x
  lock : s.lock (ticketId x) = some t

def Task.Ok (s : State) (t : ℕ) : Task → Prop
  | .start kind x => x.Seat seated ∧ s.names kind x
  | .locked kind x => Locked seated ticketId s t kind x
  | .counted kind x seatHeld => Locked seated ticketId s t kind x ∧ (seatHeld = false → NoHold s x)
  | .free kind x => Locked seated ticketId s t kind x ∧ NoHold s x ∧ NoGranted s x
  | .outstanding i x =>
    Locked seated ticketId s t (.take i) x ∧ Only s x (· = i) ∧ NoGranted s x ∧ Idle s i
  | .issuing i => Issuing s i
  | .submitting g => Pending s g

structure Inv (s : State) : Prop where
  hold_single : ∀ i i' h h' x, s.holds.get i = some h → s.holds.get i' = some h' →
    h.seat = some x → h'.seat = some x → h.live = true → h'.live = true → i = i'
  granted_single : ∀ g g' row row', s.granted.get g = some row → s.granted.get g' = some row' →
    row.placement.Seat seated → row'.placement = row.placement →
    row.status ≠ .rejected → row'.status ≠ .rejected → g = g'
  apart : ∀ i h g row, s.holds.get i = some h → s.granted.get g = some row →
    h.seat = some row.placement → h.live = true → row.status = .rejected
  seat : ∀ i h x, s.holds.get i = some h → h.seat = some x → x.Seat seated
  placed : ∀ g row, s.granted.get g = some row → row.placement.Seat seated →
    row.ticket = some (ticketId row.placement)
  ticketed : ∀ g row e, s.granted.get g = some row → row.ticket = some e →
    e = ticketId row.placement
  tasks : ∀ t k, s.tasks t = some k → k.Ok seated ticketId s t
  single : ∀ t t' k, s.tasks t = some k → s.tasks t' = some k → k.Works → t = t'

end

theorem Inv.initial (h : State.Initial s) : Inv seated ticketId s := by
  constructor <;> simp [h.holds, h.granted, h.tasks]

/-- What every task knows stays true, if what it says of its seat does. -/
theorem Task.Ok.keep (hok : k.Ok seated ticketId s t)
    (hn : ∀ kind x, s.names kind x → s'.names kind x)
    (hl : ∀ x, s.lock (ticketId x) = some t → s'.lock (ticketId x) = some t)
    (ho : ∀ x p, s.lock (ticketId x) = some t → Only s x p → Only s' x p)
    (hg : ∀ x, s.lock (ticketId x) = some t → x.Seat seated → NoGranted s x → NoGranted s' x)
    (hidle : ∀ i x, k = .outstanding i x → Idle s i → Idle s' i)
    (hissuing : ∀ i, k = .issuing i → Issuing s i → Issuing s' i)
    (hpending : ∀ g, k = .submitting g → Pending s g → Pending s' g) :
    k.Ok seated ticketId s' t := by
  have hlocked : ∀ kind x, Locked seated ticketId s t kind x → Locked seated ticketId s' t kind x :=
    fun kind x h => ⟨h.seat, hn kind x h.names, hl x h.lock⟩
  cases k with
  | start kind x => exact ⟨hok.1, hn kind x hok.2⟩
  | locked kind x => exact hlocked kind x hok
  | counted kind x seatHeld =>
    exact ⟨hlocked kind x hok.1, fun hf => ho x _ hok.1.lock (hok.2 hf)⟩
  | free kind x =>
    exact ⟨hlocked kind x hok.1, ho x _ hok.1.lock hok.2.1, hg x hok.1.lock hok.1.seat hok.2.2⟩
  | outstanding i x =>
    exact ⟨hlocked _ x hok.1, ho x _ hok.1.lock hok.2.1, hg x hok.1.lock hok.1.seat hok.2.2.1,
      hidle i x rfl hok.2.2.2⟩
  | issuing i => exact hissuing i rfl hok
  | submitting g => exact hpending g rfl hok

-- ---------------------------------------------------------------------------
-- Tasks
-- ---------------------------------------------------------------------------

theorem Inv.put (h : Inv seated ticketId s) (hok : ∀ k, new = some k → k.Ok seated ticketId s t)
    (hone : ∀ k, new = some k → k.Works → ∀ t', s.tasks t' = some k → t' = t := by
      rintro k ⟨⟩ ⟨⟩) :
    Inv seated ticketId (s.put t new) := by
  refine { h with tasks := fun t' k ht => ?_, single := fun t₁ t₂ k h₁ h₂ hw => ?_ }
  · have hok' : k.Ok seated ticketId s t' := by
      rcases eq_or_ne t' t with rfl | hne
      · exact hok k (by simpa [State.put] using ht)
      · exact h.tasks t' k (by simpa [State.put, Function.update_of_ne hne] using ht)
    exact hok'.keep (fun _ _ => id) (fun _ => id) (fun _ _ _ => id) (fun _ _ _ => id)
      (fun _ _ _ => id) (fun _ _ => id) (fun _ _ => id)
  · have hold : ∀ {t'}, t' ≠ t → (s.put t new).tasks t' = some k → s.tasks t' = some k :=
      fun hne ht => by simpa [State.put, Function.update_of_ne hne] using ht
    have hnew : (s.put t new).tasks t = some k → new = some k :=
      fun ht => by simpa [State.put] using ht
    by_cases he₁ : t₁ = t <;> by_cases he₂ : t₂ = t
    · exact he₁.trans he₂.symm
    · exact he₁.trans (hone k (hnew (he₁ ▸ h₁)) hw t₂ (hold he₂ h₂)).symm
    · exact (hone k (hnew (he₂ ▸ h₂)) hw t₁ (hold he₁ h₁)).trans he₂.symm
    · exact h.single t₁ t₂ k (hold he₁ h₁) (hold he₂ h₂) hw

theorem Inv.spawn (h : Inv seated ticketId s) (hok : k.Ok seated ticketId s s.nextTask)
    (hone : k.Works → ∀ t', s.tasks t' ≠ some k := by rintro ⟨⟩) :
    Inv seated ticketId (s.spawn k) := by
  have h' : Inv seated ticketId (s.put s.nextTask (some k)) := by
    refine h.put (fun k' hk => Option.some.inj hk ▸ hok) fun k' hk hw t' ht => ?_
    obtain rfl := Option.some.inj hk
    exact absurd ht (hone hw t')
  refine { h' with tasks := fun t k ht => ?_ }
  exact (h'.tasks t k ht).keep (fun _ _ => id) (fun _ => id) (fun _ _ _ => id) (fun _ _ _ => id)
    (fun _ _ _ => id) (fun _ _ => id) (fun _ _ => id)

theorem Inv.lock (h : Inv seated ticketId s) (hl : s.lock e = none) :
    Inv seated ticketId { s with lock := Function.update s.lock e (some t) } := by
  refine { h with tasks := fun t' k ht => ?_ }
  refine (h.tasks t' k ht).keep (fun _ _ => id) ?_ (fun _ _ _ => id) (fun _ _ _ => id)
    (fun _ _ _ => id) (fun _ _ => id) (fun _ _ => id)
  intro x hx
  have hne : ticketId x ≠ e := by
    rintro rfl
    simp [hl] at hx
  simpa [Function.update_of_ne hne] using hx

theorem finish_tasks (ht : (s.finish t).tasks t' = some k) : t' ≠ t ∧ s.tasks t' = some k := by
  have hne : t' ≠ t := by
    rintro rfl
    simp [State.finish] at ht
  exact ⟨hne, by simpa [State.finish, Function.update_of_ne hne] using ht⟩

theorem Inv.finish (h : Inv seated ticketId s) : Inv seated ticketId (s.finish t) := by
  refine { h with
    tasks := fun t' k ht => ?_
    single := fun t₁ t₂ k h₁ h₂ => h.single t₁ t₂ k (finish_tasks h₁).2 (finish_tasks h₂).2 }
  obtain ⟨hne, ht⟩ := finish_tasks ht
  refine (h.tasks t' k ht).keep (fun _ _ => id) ?_ (fun _ _ _ => id) (fun _ _ _ => id)
    (fun _ _ _ => id) (fun _ _ => id) (fun _ _ => id)
  intro x hx
  have hne' : s.lock (ticketId x) ≠ some t := by simpa [hx] using hne
  simpa [State.finish, hne'] using hx

theorem finish_lock (hl : s.lock e = some t) : (s.finish t).lock e = none := by
  simp [State.finish, hl]

-- ---------------------------------------------------------------------------
-- Rows
-- ---------------------------------------------------------------------------

/-- A seat that nobody has, or only the hold, with its lock free. -/
structure Clear (ticketId : Placement → TicketId) (s : State) (x : Placement) (p : HoldId → Prop) :
    Prop where
  lock : s.lock (ticketId x) = none
  hold : Only s x p
  granted : NoGranted s x

/-- A hold that counts for its seat afterwards did before, or its seat is clear. None issues it, and
none takes its place if it is issuing afterwards. -/
theorem Inv.setHold (h : Inv seated ticketId s) (hfree : ∀ t, s.tasks t ≠ some (.issuing i))
    (hidle : status = .issuing → ∀ t x, s.tasks t ≠ some (.outstanding i x))
    (hi : ∀ was x, s.holds.get i = some was → was.seat = some x →
      Hold.live { was with status } = true → was.live = true ∨ Clear ticketId s x (· = i)) :
    Inv seated ticketId (s.setHold i status) := by
  -- a hold counting for a seat afterwards: it did before, or it is `i`, of a clear seat
  have hlive : ∀ i' h', (s.setHold i status).holds.get i' = some h' → h'.live = true →
      ∃ was, s.holds.get i' = some was ∧ was.seat = h'.seat ∧ (was.live = true ∨
        ∀ x, h'.seat = some x → i' = i ∧ Clear ticketId s x (· = i)) := by
    intro i' h' hget hl
    obtain ⟨was, hwas, ⟨rfl, rfl⟩ | ⟨-, rfl⟩⟩ := Conc.Table.get_update_some _ hget
    · refine ⟨was, hwas, rfl, ?_⟩
      by_cases hw : was.live = true
      · exact .inl hw
      · exact .inr fun x hx => ⟨rfl, (hi was x hwas hx hl).resolve_left hw⟩
    · exact ⟨_, hwas, rfl, .inl hl⟩
  have hseat : ∀ i' h', (s.setHold i status).holds.get i' = some h' →
      ∃ was, s.holds.get i' = some was ∧ was.seat = h'.seat := by
    intro i' h' hget
    obtain ⟨was, hwas, ⟨-, rfl⟩ | ⟨-, rfl⟩⟩ := Conc.Table.get_update_some _ hget
    · exact ⟨was, hwas, rfl⟩
    · exact ⟨_, hwas, rfl⟩
  refine { h with hold_single := ?_, apart := ?_, seat := ?_, tasks := ?_ }
  · intro i₁ i₂ h₁ h₂ x g₁ g₂ x₁ x₂ l₁ l₂
    obtain ⟨w₁, hw₁, e₁, d₁⟩ := hlive _ _ g₁ l₁
    obtain ⟨w₂, hw₂, e₂, d₂⟩ := hlive _ _ g₂ l₂
    rcases d₁ with d₁ | d₁ <;> rcases d₂ with d₂ | d₂
    · exact h.hold_single i₁ i₂ w₁ w₂ x hw₁ hw₂ (e₁.trans x₁) (e₂.trans x₂) d₁ d₂
    · obtain ⟨rfl, hc⟩ := d₂ x x₂
      exact hc.hold i₁ w₁ hw₁ (e₁.trans x₁) d₁
    · obtain ⟨rfl, hc⟩ := d₁ x x₁
      exact (hc.hold i₂ w₂ hw₂ (e₂.trans x₂) d₂).symm
    · exact (d₁ x x₁).1.trans (d₂ x x₂).1.symm
  · intro i' h' g row hget hrow hx hl
    obtain ⟨was, hwas, he, hd | hd⟩ := hlive _ _ hget hl
    · exact h.apart i' was g row hwas hrow (he.trans hx) hd
    · exact (hd _ hx).2.granted g row hrow rfl
  · intro i' h' x hget hx
    obtain ⟨was, hwas, he⟩ := hseat _ _ hget
    exact h.seat i' was x hwas (he.trans hx)
  · intro t k ht
    refine (h.tasks t k ht).keep ?_ (fun _ => id) ?_ (fun _ _ _ => id) ?_ ?_ (fun _ _ => id)
    · intro kind x hn j hj
      obtain ⟨was, hwas, hx⟩ := hn j hj
      rcases eq_or_ne j i with rfl | hne
      · exact ⟨{ was with status }, by simp [State.setHold, hwas], hx⟩
      · exact ⟨was, (Conc.Table.get_update_ne _ hne).trans hwas, hx⟩
    · intro x p hlock ho i' h' hget hx hl
      obtain ⟨was, hwas, he, hd | hd⟩ := hlive _ _ hget hl
      · exact ho i' was hwas (he.trans hx) hd
      · have hnone := (hd x hx).2.lock
        rw [hlock] at hnone
        cases hnone
    · rintro j x rfl hj h' hget
      obtain ⟨was, hwas, ⟨rfl, rfl⟩ | ⟨-, rfl⟩⟩ := Conc.Table.get_update_some _ hget
      · exact fun hst => hidle hst t x ht
      · exact hj _ hwas
    · rintro j rfl ⟨h', x, hget, hx, hst⟩
      have hne : j ≠ i := fun he => hfree t (he ▸ ht)
      exact ⟨h', x, (Conc.Table.get_update_ne _ hne).trans hget, hx, hst⟩

theorem Inv.addHold {seat : Option Placement} (h : Inv seated ticketId s)
    (hi : s.holds.get i = none)
    (hx : ∀ x, seat = some x → x.Seat seated ∧ Clear ticketId s x fun _ => False) :
    Inv seated ticketId (s.addHold i seat) := by
  have hget : ∀ i' h', (s.addHold i seat).holds.get i' = some h' →
      i' = i ∧ h'.seat = seat ∨ s.holds.get i' = some h' := by
    intro i' h' hg
    simp only [State.addHold, Conc.Table.get_set] at hg
    split at hg
    next e => cases hg; exact .inl ⟨e, rfl⟩
    next => exact .inr hg
  refine { h with hold_single := ?_, apart := ?_, seat := ?_, tasks := ?_ }
  · intro i₁ i₂ h₁ h₂ x g₁ g₂ x₁ x₂ l₁ l₂
    rcases hget _ _ g₁ with ⟨e₁, s₁⟩ | g₁ <;> rcases hget _ _ g₂ with ⟨e₂, s₂⟩ | g₂
    · exact e₁.trans e₂.symm
    · exact ((hx x (s₁.symm.trans x₁)).2.hold i₂ h₂ g₂ x₂ l₂).elim
    · exact ((hx x (s₂.symm.trans x₂)).2.hold i₁ h₁ g₁ x₁ l₁).elim
    · exact h.hold_single i₁ i₂ h₁ h₂ x g₁ g₂ x₁ x₂ l₁ l₂
  · intro i' h' g row hg hrow hs hl
    rcases hget _ _ hg with ⟨-, e⟩ | hg
    · exact (hx _ (e.symm.trans hs)).2.granted g row hrow rfl
    · exact h.apart i' h' g row hg hrow hs hl
  · intro i' h' x hg hs
    rcases hget _ _ hg with ⟨-, e⟩ | hg
    · exact (hx x (e.symm.trans hs)).1
    · exact h.seat i' h' x hg hs
  · intro t k ht
    refine (h.tasks t k ht).keep ?_ (fun _ => id) ?_ (fun _ _ _ => id) ?_ ?_ (fun _ _ => id)
    · intro kind x hn j hj
      obtain ⟨was, hwas, hs⟩ := hn j hj
      have hne : j ≠ i := by
        rintro rfl
        simp [hi] at hwas
      exact ⟨was, (Conc.Table.get_set_ne _ hne).trans hwas, hs⟩
    · intro x p hlock ho i' h' hg hs hl
      rcases hget _ _ hg with ⟨-, e⟩ | hg
      · have hnone := (hx x (e.symm.trans hs)).2.lock
        rw [hlock] at hnone
        cases hnone
      · exact ho i' h' hg hs hl
    · intro j x _ hj h' hg
      simp only [State.addHold, Conc.Table.get_set] at hg
      split at hg
      · cases hg
        simp
      · exact hj h' hg
    · rintro j - ⟨h', x, hg, hs, hst⟩
      have hne : j ≠ i := by
        rintro rfl
        simp [hi] at hg
      exact ⟨h', x, (Conc.Table.get_set_ne _ hne).trans hg, hs, hst⟩

theorem Inv.addGranted {ticket : Option TicketId} (h : Inv seated ticketId s)
    (hg : s.granted.get g = none)
    (hx : x.Seat seated → ticket = some (ticketId x) ∧ Clear ticketId s x fun _ => False)
    (he : ∀ e, ticket = some e → e = ticketId x) :
    Inv seated ticketId (s.addGranted g x ticket) := by
  have hget : ∀ g' row, (s.addGranted g x ticket).granted.get g' = some row →
      g' = g ∧ row.placement = x ∧ row.ticket = ticket ∨ s.granted.get g' = some row := by
    intro g' row hr
    simp only [State.addGranted, Conc.Table.get_set] at hr
    split at hr
    next e => cases hr; exact .inl ⟨e, rfl, rfl⟩
    next => exact .inr hr
  refine { h with granted_single := ?_, apart := ?_, placed := ?_, ticketed := ?_, tasks := ?_ }
  · intro g₁ g₂ r₁ r₂ h₁ h₂ hs hp l₁ l₂
    rcases hget _ _ h₁ with ⟨e₁, p₁, -⟩ | h₁ <;> rcases hget _ _ h₂ with ⟨e₂, p₂, -⟩ | h₂
    · exact e₁.trans e₂.symm
    · rw [p₁] at hs hp
      exact absurd ((hx hs).2.granted g₂ r₂ h₂ hp) l₂
    · rw [p₂] at hp
      rw [← hp] at hs
      exact absurd ((hx hs).2.granted g₁ r₁ h₁ hp.symm) l₁
    · exact h.granted_single g₁ g₂ r₁ r₂ h₁ h₂ hs hp l₁ l₂
  · intro i h' g' row hi hr hs hl
    rcases hget _ _ hr with ⟨-, p, -⟩ | hr
    · rw [p] at hs
      exact ((hx (h.seat i h' x hi hs)).2.hold i h' hi hs hl).elim
    · exact h.apart i h' g' row hi hr hs hl
  · intro g' row hr hs
    rcases hget _ _ hr with ⟨-, p, e⟩ | hr
    · rw [p] at hs ⊢
      rw [e]
      exact (hx hs).1
    · exact h.placed g' row hr hs
  · intro g' row e hr ht
    rcases hget _ _ hr with ⟨-, p, e'⟩ | hr
    · rw [p]
      exact he e (e' ▸ ht)
    · exact h.ticketed g' row e hr ht
  · intro t k ht
    refine (h.tasks t k ht).keep (fun _ _ => id) (fun _ => id) (fun _ _ _ => id) ?_
      (fun _ _ _ => id) (fun _ _ => id) ?_
    · intro y hlock hs hn g' row hr hp
      rcases hget _ _ hr with ⟨-, p, -⟩ | hr
      · obtain rfl : x = y := p.symm.trans hp
        have hnone := (hx hs).2.lock
        rw [hlock] at hnone
        cases hnone
      · exact hn g' row hr hp
    · rintro g' - ⟨row, hr, hst⟩
      have hne : g' ≠ g := by
        rintro rfl
        simp [hg] at hr
      exact ⟨row, (Conc.Table.get_set_ne _ hne).trans hr, hst⟩

/-- Issuances change no placement, and no rejected one counts again. -/
theorem Inv.setGranted (h : Inv seated ticketId s) {granted : Conc.Table Granted}
    (hr : ∀ g row, granted.get g = some row → ∃ was, s.granted.get g = some was ∧
      was.placement = row.placement ∧ (was.status = .rejected → row.status = .rejected))
    (hp : ∀ g row, granted.get g = some row → row.placement.Seat seated →
      row.ticket = some (ticketId row.placement))
    (he : ∀ g row e, granted.get g = some row → row.ticket = some e → e = ticketId row.placement)
    (hpending : ∀ t g, s.tasks t = some (.submitting g) → Pending s g →
      ∃ row, granted.get g = some row ∧ row.status = .pending) :
    Inv seated ticketId { s with granted } := by
  refine { h with granted_single := ?_, apart := ?_, placed := hp, ticketed := he, tasks := ?_ }
  · intro g₁ g₂ r₁ r₂ h₁ h₂ hs hp l₁ l₂
    obtain ⟨w₁, hw₁, e₁, d₁⟩ := hr _ _ h₁
    obtain ⟨w₂, hw₂, e₂, d₂⟩ := hr _ _ h₂
    exact h.granted_single g₁ g₂ w₁ w₂ hw₁ hw₂ (e₁ ▸ hs) (by rw [e₁, e₂, hp])
      (fun hd => l₁ (d₁ hd)) (fun hd => l₂ (d₂ hd))
  · intro i h' g row hi hg hs hl
    obtain ⟨was, hw, e, hd⟩ := hr _ _ hg
    exact hd (h.apart i h' g was hi hw (hs.trans (congrArg some e.symm)) hl)
  · intro t k ht
    refine (h.tasks t k ht).keep (fun _ _ => id) (fun _ => id) (fun _ _ _ => id) ?_
      (fun _ _ _ => id) (fun _ _ => id) ?_
    · intro x _ _ hn g row hg hp
      obtain ⟨was, hw, e, hd⟩ := hr _ _ hg
      exact hd (hn g was hw (e.trans hp))
    · rintro g rfl hg
      exact hpending t g ht hg

-- ---------------------------------------------------------------------------
-- Steps
-- ---------------------------------------------------------------------------

theorem noHold_of_seatHeld (h : s.seatHeld x = false) : NoHold s x := by
  intro i h' hi hs hl
  have hf := (Conc.Table.any_eq_false _).mp h i h' hi
  simp [hs, hl] at hf

theorem Inv.noGranted (h : Inv seated ticketId s) (hx : x.Seat seated)
    (hf : s.inFlight (ticketId x) = false) : NoGranted s x := by
  rintro g row hrow rfl
  have ht := h.placed g row hrow hx
  have hr := (Conc.Table.any_eq_false _).mp hf g row hrow
  simpa [ht] using hr

theorem Inv.not_submitting (h : Inv seated ticketId s) (hg : s.granted.get g = none) (t : ℕ) :
    s.tasks t ≠ some (.submitting g) := by
  intro ht
  obtain ⟨row, hget, -⟩ := h.tasks t _ ht
  rw [hg] at hget
  cases hget

/-- What the lock's holder knows of a seat, once it lets the lock go. -/
theorem Clear.of_finish (hl : s.lock (ticketId x) = some t) (ho : Only s x p) (hg : NoGranted s x) :
    Clear ticketId (s.finish t) x p :=
  ⟨finish_lock hl, ho, hg⟩

theorem Inv.takes_idle (h : Inv seated ticketId s)
    (ht : s.tasks t = some (.free (.take i) x) ∨ s.tasks t = some (.outstanding i x)) :
    Idle s i := by
  rcases ht with ht | ht
  · obtain ⟨hlocked, hno, -⟩ := h.tasks t _ ht
    intro h' hget hst
    obtain ⟨h'', hget', hs⟩ := hlocked.names i rfl
    obtain rfl := Option.some.inj (hget.symm.trans hget')
    exact hno i h' hget hs (by simp [Hold.live, hst])
  · exact (h.tasks t _ ht).2.2.2

theorem Inv.taken (h : Inv seated ticketId s)
    (ht : s.tasks t = some (.free (.take i) x) ∨ s.tasks t = some (.outstanding i x)) :
    Inv seated ticketId (((s.setHold i .issuing).finish t).put t (some (.issuing i))) := by
  have hclear : s.names (.take i) x ∧ Clear ticketId (s.finish t) x (· = i) := by
    rcases ht with ht | ht
    · obtain ⟨hlocked, hno, hg⟩ := h.tasks t _ ht
      exact ⟨hlocked.names, .of_finish hlocked.lock (fun j h' hj hs hl => (hno j h' hj hs hl).elim) hg⟩
    · obtain ⟨hlocked, ho, hg, -⟩ := h.tasks t _ ht
      exact ⟨hlocked.names, .of_finish hlocked.lock ho hg⟩
  obtain ⟨h', hh', hs⟩ := hclear.1 i rfl
  have hidle := h.takes_idle ht
  have hfree : ∀ t', s.tasks t' ≠ some (.issuing i) := by
    intro t' ht'
    obtain ⟨h'', -, hget, -, hst⟩ := h.tasks t' _ ht'
    exact hidle h'' hget hst
  have hf : Inv seated ticketId (s.finish t) := h.finish
  have hset : Inv seated ticketId ((s.setHold i .issuing).finish t) := by
    refine hf.setHold (fun t' ht' => hfree t' (finish_tasks ht').2) (fun _ t' y ht' => ?_) ?_
    · -- it would have the lock of the same seat
      obtain ⟨hlocked, -⟩ := hf.tasks t' _ ht'
      obtain ⟨h'', hh'', hs''⟩ := hlocked.names i rfl
      obtain rfl := Option.some.inj (hh'.symm.trans hh'')
      obtain rfl : x = y := Option.some.inj (hs.symm.trans hs'')
      exact absurd (hclear.2.lock.symm.trans hlocked.lock) (by simp)
    · intro was y hwas hy _
      obtain rfl : h' = was := Option.some.inj (hh'.symm.trans hwas)
      obtain rfl : x = y := Option.some.inj (hs.symm.trans hy)
      exact .inr hclear.2
  refine hset.put ?_ ?_
  · rintro k ⟨⟩
    exact ⟨{ h' with status := .issuing }, x, by simp [State.setHold, State.finish, hh'], hs, rfl⟩
  · rintro k ⟨⟩ - t' ht'
    exact absurd (finish_tasks ht').2 (hfree t')

theorem Inv.step (h : Inv seated ticketId s) (hs : Step seated ticketId s s') :
    Inv seated ticketId s' := by
  cases hs with
  | begun hx hn => exact h.spawn ⟨hx, hn⟩
  | locked ht hl =>
    refine (h.lock hl).put ?_
    rintro k ⟨⟩
    obtain ⟨hx, hn⟩ := h.tasks _ _ ht
    exact ⟨hx, hn, Function.update_self _ _ _⟩
  | counted ht =>
    refine h.put ?_
    rintro k ⟨⟩
    obtain ⟨hx, hn, hl⟩ := h.tasks _ _ ht
    exact ⟨⟨hx, hn, hl⟩, noHold_of_seatHeld⟩
  | free ht hf =>
    refine h.put ?_
    rintro k ⟨⟩
    obtain ⟨hlocked, hno⟩ := h.tasks _ _ ht
    exact ⟨⟨hlocked.seat, hlocked.names, hlocked.lock⟩, hno rfl, h.noGranted hlocked.seat hf⟩
  | outstanding ht hi hst =>
    refine h.put ?_
    rintro k ⟨⟩
    obtain ⟨hlocked, -⟩ := h.tasks _ _ ht
    obtain ⟨h', hh', hs⟩ := hlocked.names _ rfl
    obtain rfl := Option.some.inj (hi.symm.trans hh')
    refine ⟨⟨hlocked.seat, hlocked.names, hlocked.lock⟩, ?_, ?_, ?_⟩
    · intro j h' hj hs' hl'
      exact h.hold_single _ _ _ _ _ hj hi hs' hs hl' (by simp [Hold.live, hst])
    · rintro g row hrow rfl
      exact h.apart _ _ g row hi hrow hs (by simp [Hold.live, hst])
    · intro h' hget
      obtain rfl := Option.some.inj (hi.symm.trans hget)
      simp [hst]
  | held ht hi =>
    obtain ⟨hlocked, hno, hg⟩ := h.tasks _ _ ht
    refine h.finish.addHold hi fun y hy => ?_
    obtain rfl := Option.some.inj hy
    exact ⟨hlocked.seat, .of_finish hlocked.lock hno hg⟩
  | granted ht hg =>
    obtain ⟨hlocked, hno, hng⟩ := h.tasks _ _ ht
    have hadd := h.finish.addGranted hg (fun _ => ⟨rfl, .of_finish hlocked.lock hno hng⟩)
      (by rintro e ⟨⟩; rfl)
    refine hadd.put ?_ ?_
    · rintro k ⟨⟩
      exact ⟨_, Conc.Table.get_set_self _, rfl⟩
    · rintro k ⟨⟩ - t' ht'
      exact absurd (finish_tasks ht').2 (h.not_submitting hg t')
  | taken ht => exact h.taken ht
  | stops ht => exact h.finish
  | heldUnseated hi => exact h.addHold hi (by simp)
  | unseated status hi hs =>
    refine h.setHold (fun t' ht' => ?_) (fun _ t' x ht' => ?_) fun was x hwas hx _ => ?_
    · obtain ⟨h', x, hget, hx, -⟩ := h.tasks _ _ ht'
      obtain rfl := Option.some.inj (hi.symm.trans hget)
      rw [hs] at hx
      cases hx
    · obtain ⟨h', hget, hx⟩ := (h.tasks _ _ ht').1.names _ rfl
      obtain rfl := Option.some.inj (hi.symm.trans hget)
      rw [hs] at hx
      cases hx
    · obtain rfl := Option.some.inj (hi.symm.trans hwas)
      rw [hs] at hx
      cases hx
  | grantedElsewhere hx hg =>
    refine (h.addGranted hg (fun hs => absurd hs hx) (by simp)).spawn ?_ fun _ t' =>
      h.not_submitting hg t'
    exact ⟨_, Conc.Table.get_set_self _, rfl⟩
  | holdEnded status hi hst hended =>
    refine h.setHold (fun t' ht' => ?_) (fun he => ?_) fun was x _ _ hl => ?_
    · obtain ⟨h', -, hget, -, hst'⟩ := h.tasks _ _ ht'
      obtain rfl := Option.some.inj (hi.symm.trans hget)
      rw [hst] at hst'
      cases hst'
    · rcases hended with rfl | rfl <;> cases he
    · rcases hended with rfl | rfl <;> simp [Hold.live] at hl
  | saleCompleted status ht hended =>
    obtain ⟨h', -, hget, -, hst⟩ := h.tasks _ _ ht
    refine h.finish.setHold (fun t' ht' => ?_) (fun he => ?_) fun was x hwas _ _ => .inl ?_
    · exact (finish_tasks ht').1 (h.single _ _ _ (finish_tasks ht').2 ht trivial)
    · rcases hended with rfl | rfl <;> cases he
    · obtain rfl := Option.some.inj (hget.symm.trans hwas)
      simp [Hold.live, hst]
  | @ticketed g' =>
    refine h.setGranted ?_ ?_ ?_ ?_
    · intro g row hg
      obtain ⟨was, hw, ⟨-, rfl⟩ | ⟨-, rfl⟩⟩ := Conc.Table.get_update_some _ hg <;>
        exact ⟨_, hw, rfl, id⟩
    · intro g row hg hs
      obtain ⟨was, hw, ⟨-, rfl⟩ | ⟨-, rfl⟩⟩ := Conc.Table.get_update_some _ hg
      · rfl
      · exact h.placed g _ hw hs
    · intro g row e hg he
      obtain ⟨was, hw, ⟨-, rfl⟩ | ⟨-, rfl⟩⟩ := Conc.Table.get_update_some _ hg
      · exact (Option.some.inj he).symm
      · exact h.ticketed g _ e hw he
    · rintro t g - ⟨row, hg, hst⟩
      rcases eq_or_ne g g' with rfl | hne
      · exact ⟨{ row with ticket := some (ticketId row.placement) }, by simp [hg], hst⟩
      · exact ⟨row, (Conc.Table.get_update_ne _ hne).trans hg, hst⟩
  | completed status ht =>
    obtain ⟨row, hg, hst⟩ := h.tasks _ _ ht
    refine h.finish.setGranted ?_ ?_ ?_ ?_
    · intro g row hr
      obtain ⟨was, hw, ⟨rfl, rfl⟩ | ⟨-, rfl⟩⟩ := Conc.Table.get_update_some _ hr
      · obtain rfl := Option.some.inj (hg.symm.trans hw)
        exact ⟨_, hw, rfl, by simp [hst]⟩
      · exact ⟨_, hw, rfl, id⟩
    · intro g row hr hs
      obtain ⟨was, hw, ⟨-, rfl⟩ | ⟨-, rfl⟩⟩ := Conc.Table.get_update_some _ hr
      · exact h.placed g was hw hs
      · exact h.placed g _ hw hs
    · intro g row e hr he
      obtain ⟨was, hw, ⟨-, rfl⟩ | ⟨-, rfl⟩⟩ := Conc.Table.get_update_some _ hr
      · exact h.ticketed g was e hw he
      · exact h.ticketed g _ e hw he
    · rintro t' g' ht' ⟨row', hg', hst'⟩
      obtain ⟨hne, ht'⟩ := finish_tasks ht'
      refine ⟨row', (Conc.Table.get_update_ne _ ?_).trans hg', hst'⟩
      rintro rfl
      exact hne (h.single _ _ _ ht' ht trivial)
  | deleted ht =>
    have hget : ∀ {g₀ g' row'}, (s.granted.erase g₀).get g' = some row' →
        s.granted.get g' = some row' := by
      intro g₀ g' row' hr
      rw [Conc.Table.get_erase] at hr
      split at hr
      · cases hr
      · exact hr
    refine h.finish.setGranted (fun g row hr => ⟨row, hget hr, rfl, id⟩)
      (fun g row hr => h.placed g row (hget hr)) (fun g row e hr => h.ticketed g row e (hget hr)) ?_
    rintro t' g' ht' ⟨row', hg', hst'⟩
    obtain ⟨hne, ht'⟩ := finish_tasks ht'
    refine ⟨row', ?_, hst'⟩
    rw [Conc.Table.get_erase, if_neg]
    · exact hg'
    · rintro rfl
      exact hne (h.single _ _ _ ht' ht trivial)

theorem Inv.steps (h : Inv seated ticketId s) (hs : Steps seated ticketId s s') :
    Inv seated ticketId s' := by
  induction hs with
  | refl => exact h
  | step _ hs ih => exact ih.step hs

/-- In every run, a seat is one hold's that is outstanding, issuing or confirmed, or one granted
issuance's that is not rejected, never two's of these. -/
theorem seat_exclusive (hinj : Function.Injective ticketId) (h₀ : State.Initial s₀)
    (hs : Steps seated ticketId s₀ s) (hx : x.Seat seated) :
    (∀ i i' h h', s.holds.get i = some h → s.holds.get i' = some h' → h.seat = some x →
      h'.seat = some x → h.live = true → h'.live = true → i = i') ∧
    (∀ g g' row row', s.granted.get g = some row → s.granted.get g' = some row' →
      row.ticket = some (ticketId x) → row'.ticket = some (ticketId x) →
      row.status ≠ .rejected → row'.status ≠ .rejected → g = g') ∧
    ∀ i h g row, s.holds.get i = some h → s.granted.get g = some row → h.seat = some x →
      h.live = true → row.ticket = some (ticketId x) → row.status = .rejected := by
  have h : Inv seated ticketId s := (Inv.initial h₀).steps hs
  have hplacement : ∀ g row, s.granted.get g = some row → row.ticket = some (ticketId x) →
      row.placement = x := fun g row hg ht => hinj (h.ticketed g row _ hg ht).symm
  refine ⟨fun i i' h₁ h₂ => h.hold_single i i' h₁ h₂ x, ?_, ?_⟩
  · intro g g' row row' hg hg' ht ht' hr hr'
    have hp := hplacement g row hg ht
    have hp' := hplacement g' row' hg' ht'
    exact h.granted_single g g' row row' hg hg' (by rwa [hp]) (hp'.trans hp.symm) hr hr'
  · intro i h₁ g row hi hg hs hl ht
    have hp := hplacement g row hg ht
    exact h.apart i h₁ g row hi hg (by rw [hs, hp]) hl

def State.start : State := ⟨.empty, .empty, fun _ => none, fun _ => none, 0⟩

theorem State.start_initial : State.Initial State.start := ⟨fun _ => rfl, fun _ => rfl, fun _ => rfl⟩

def exampleTicketId (x : Placement) : TicketId :=
  Nat.pair x.event (Nat.pair x.zone (match x.position with
    | .seated designation => 2 * Encodable.encode (designation.toList.map Char.toNat)
    | .unseated discriminator => 2 * Encodable.encode (discriminator.toList.map Char.toNat) + 1))

theorem code_injective {a b : String}
    (h : Encodable.encode (a.toList.map Char.toNat) = Encodable.encode (b.toList.map Char.toNat)) :
    a = b := by
  have hmap := Encodable.encode_injective h
  have hinj : Function.Injective Char.toNat := fun c d hcd => Char.toNat_inj.mp hcd
  exact String.toList_inj.mp (List.map_injective_iff.mpr hinj hmap)

theorem exampleTicketId_injective : Function.Injective exampleTicketId := by
  rintro ⟨e, z, p⟩ ⟨e', z', p'⟩ h
  obtain ⟨rfl, h⟩ := Nat.pair_eq_pair.mp h
  obtain ⟨rfl, h⟩ := Nat.pair_eq_pair.mp h
  cases p with
  | seated a =>
    cases p' with
    | seated b => rw [code_injective (a := a) (b := b) (by simp only at h; omega)]
    | unseated b => simp only at h; omega
  | unseated a =>
    cases p' with
    | seated b => simp only at h; omega
    | unseated b => rw [code_injective (a := a) (b := b) (by simp only at h; omega)]

/-- A held seat is not granted. -/
theorem seat_exclusive_held : ∃ s, Steps (fun _ _ => true) exampleTicketId State.start s ∧
    s.holds.get 1 = some ⟨some ⟨1, 1, .seated "A1"⟩, .outstanding⟩ ∧
    ∀ g row, s.granted.get g = some row →
      row.ticket = some (exampleTicketId ⟨1, 1, .seated "A1"⟩) → row.status = .rejected := by
  have hseat : Placement.Seat (fun _ _ => true) ⟨1, 1, .seated "A1"⟩ := ⟨rfl, "A1", rfl⟩
  have h₁ : Step (fun _ _ => true) exampleTicketId State.start
      (State.start.spawn (.start .hold ⟨1, 1, .seated "A1"⟩)) :=
    .begun hseat (by rintro i ⟨⟩)
  have h₂ := (Steps.refl.step h₁).step (Step.locked (t := 0) rfl rfl)
  have h₃ := h₂.step (Step.counted (t := 0) rfl)
  have h₄ := h₃.step (Step.free (t := 0) rfl rfl)
  have h₅ := h₄.step (Step.held (t := 0) (i := 1) rfl rfl)
  exact ⟨_, h₅, rfl, fun g row hg =>
    (seat_exclusive exampleTicketId_injective State.start_initial h₅ hseat).2.2 1 _ g row rfl hg
      rfl rfl⟩

end Kippu.Seating
