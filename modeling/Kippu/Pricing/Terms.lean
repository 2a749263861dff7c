import Kippu.Pricing.Runs

/-!
# Prices keep to their asset

A price is in the sale asset's minor units. A class defined while a change of the asset
has cleared the prices it saw, and before it commits, keeps a price of the asset before
(`price_survives_change`). Otherwise every price, and every price a hold recorded, was
set since the last change, and the asset stays as it is once a hold exists
(`prices_keep_asset`).
-/

namespace Kippu.Pricing

variable {s s' s₀ : State} {c d : Call} {t : Task} {i j : ℕ} {row : TicketClass} {asset : Asset}
  {current : Option Asset} {ids : ClassId → Bool} {hold : Hold}

def State.Ok (s : State) : Task → Prop
  | .read asset current => s.asset = current ∧ current ≠ some asset ∧ ∀ i, s.holds i = none
  | .cleared asset ids => (∃ current, s.asset = some current ∧ current ≠ asset) ∧
      (∀ i, s.holds i = none) ∧
      ∀ i row, s.classes i = some row → row.provenance = .purchased → ids i = true
  | .terms hold => s.asset = some hold.asset ∧ hold.price.setAt = s.changes ∧
      ∃ i row, s.classes i = some row ∧ row.price ≠ none
  | _ => True

structure Inv (s : State) : Prop where
  lock : ∀ c, (s.task c).Open → s.lock = some c
  priced : ∀ i row price, s.classes i = some row → row.price = some price →
    row.provenance = .purchased ∧ price.setAt = s.changes
  holds : ∀ i hold, s.holds i = some hold →
    s.asset = some hold.asset ∧ hold.price.setAt = s.changes
  tasks : ∀ c, s.Ok (s.task c)

theorem Inv.initial (h : s.Initial) : Inv s where
  lock c hc := by simp [h.task, Task.Open] at hc
  priced i row p hrow := by simp [h.classes] at hrow
  holds i x hx := by simp [h.holds] at hx
  tasks c := by simp [h.task, State.Ok]

-- ---------------------------------------------------------------------------
-- Under the lock
-- ---------------------------------------------------------------------------

theorem State.Ok.closed (ht : ¬ t.Open) : s.Ok t := by
  cases t <;> simp [Task.Open] at ht <;> trivial

theorem Inv.others (h : Inv s) (hc : (s.task c).Open) (hne : d ≠ c) : ¬ (s.task d).Open :=
  fun hd => hne (Option.some.inj ((h.lock d hd).symm.trans (h.lock c hc)))

theorem Inv.goto (h : Inv s) (hl : s.lock = some c) (ht : s.Ok t) : Inv (s.goto c t) where
  lock d hd := by
    rcases eq_or_ne d c with rfl | hne
    · exact hl
    · exact h.lock d (by simpa [State.goto, Function.update_of_ne hne] using hd)
  priced := h.priced
  holds := h.holds
  tasks d := by
    show s.Ok _
    rcases eq_or_ne d c with rfl | hne
    · simpa [State.goto] using ht
    · simpa [State.goto, Function.update_of_ne hne] using h.tasks d

theorem Inv.takesLock (h : Inv s) (hl : s.lock = none) (ht : s.Ok t) :
    Inv ({ s with lock := some c }.goto c t) := by
  have hnone : ∀ d, ¬ (s.task d).Open := fun d hd => by simp [h.lock d hd] at hl
  exact Inv.goto ⟨fun d hd => absurd hd (hnone d), h.priced, h.holds, h.tasks⟩ rfl ht

theorem Inv.unlock (h : Inv s) (hc : (s.task c).Open) (htask : s'.task = s.task)
    (hpriced : ∀ i row price, s'.classes i = some row → row.price = some price →
      row.provenance = .purchased ∧ price.setAt = s'.changes)
    (hholds : ∀ i hold, s'.holds i = some hold →
      s'.asset = some hold.asset ∧ hold.price.setAt = s'.changes) : Inv (s'.unlock c) := by
  have hclosed : ∀ d, ¬ ((s'.unlock c).task d).Open := by
    intro d hd
    rcases eq_or_ne d c with rfl | hne
    · simp [State.unlock, State.goto, Task.Open] at hd
    · exact h.others hc hne
        (by simpa [State.unlock, State.goto, Function.update_of_ne hne, htask] using hd)
  exact ⟨fun d hd => absurd hd (hclosed d), hpriced, hholds, fun d => State.Ok.closed (hclosed d)⟩

theorem State.upsert_changes (h : s.asset = none ∨ s.asset = some asset) :
    (s.upsert asset).changes = s.changes := by
  simp [State.upsert, h]

theorem Inv.commitsFirst (h : Inv s) (hc : s.task c = .read asset none) :
    Inv ((s.upsert asset).unlock c) := by
  obtain ⟨hasset, -, hnone⟩ : s.Ok (.read asset none) := hc ▸ h.tasks c
  have hch : (s.upsert asset).changes = s.changes := State.upsert_changes (.inl hasset)
  refine h.unlock (by simp [hc, Task.Open]) rfl (fun i row p hrow hp => ?_) (fun i x hx => ?_)
  · rw [hch]
    exact h.priced i row p hrow hp
  · have hx : s.holds i = some x := hx
    simp [hnone i] at hx

/-- A change leaves no price behind: it saw every `Purchased` class. -/
theorem Inv.commits (h : Inv s) (hc : s.task c = .cleared asset ids) :
    Inv (((s.clear ids).upsert asset).unlock c) := by
  obtain ⟨-, hnone, hids⟩ : s.Ok (.cleared asset ids) := hc ▸ h.tasks c
  refine h.unlock (by simp [hc, Task.Open]) rfl (fun i row p hrow hp => ?_) (fun i x hx => ?_)
  · simp only [State.upsert, State.clear] at hrow
    split at hrow
    · obtain ⟨row', -, rfl⟩ := Option.map_eq_some_iff.mp hrow
      simp at hp
    · rename_i hno
      exact absurd (hids i row hrow (h.priced i row p hrow hp).1) hno
  · have hx : s.holds i = some x := hx
    simp [hnone i] at hx

theorem Inv.places (h : Inv s) (hc : s.task c = .terms hold) (i : HoldId) :
    Inv ({ s with holds := Function.update s.holds i (some hold) }.unlock c) := by
  obtain ⟨hasset, hset, -⟩ : s.Ok (.terms hold) := hc ▸ h.tasks c
  refine h.unlock (by simp [hc, Task.Open]) rfl h.priced (fun j x hx => ?_)
  rcases eq_or_ne j i with rfl | hne
  · obtain rfl : hold = x := by simpa using hx
    exact ⟨hasset, hset⟩
  · exact h.holds j x (by simpa [Function.update_of_ne hne] using hx)

-- ---------------------------------------------------------------------------
-- Without the lock
-- ---------------------------------------------------------------------------

theorem Inv.setClass (h : Inv s) (i : ClassId)
    (hnew : ∀ price, row.price = some price → row.provenance = .purchased ∧ price.setAt = s.changes)
    (hkept : ∀ old, s.classes i = some old → old.price ≠ none → row.price ≠ none)
    (hseen : ∀ c asset ids, s.task c = .cleared asset ids → row.provenance = .purchased →
      ids i = true) : Inv (s.setClass i row) where
  lock := h.lock
  priced j r p hr hp := by
    rcases eq_or_ne j i with rfl | hne
    · obtain rfl : row = r := by simpa [State.setClass] using hr
      exact hnew p hp
    · exact h.priced j r p (by simpa [State.setClass, Function.update_of_ne hne] using hr) hp
  holds := h.holds
  tasks c := by
    have hc := h.tasks c
    show State.Ok _ (s.task c)
    cases ht : s.task c with
    | cleared asset ids =>
      rw [ht] at hc
      refine ⟨hc.1, hc.2.1, fun j r hr hprov => ?_⟩
      rcases eq_or_ne j i with rfl | hne
      · obtain rfl : row = r := by simpa [State.setClass] using hr
        exact hseen c asset ids ht hprov
      · exact hc.2.2 j r (by simpa [State.setClass, Function.update_of_ne hne] using hr) hprov
    | terms hold =>
      rw [ht] at hc
      obtain ⟨hasset, hset, j, r, hr, hp⟩ := hc
      rcases eq_or_ne j i with rfl | hne
      · exact ⟨hasset, hset, j, row, by simp [State.setClass], hkept r hr hp⟩
      · refine ⟨hasset, hset, j, r, ?_, hp⟩
        simpa [State.setClass, Function.update_of_ne hne] using hr
    | read asset current =>
      rw [ht] at hc
      exact hc
    | _ => trivial

theorem Inv.recorded (h : Inv s) (hr : s.Recordable asset) : Inv (s.upsert asset) := by
  obtain ⟨hidle, hasset⟩ := hr
  by_cases hsame : s.asset = some asset
  · have hs : s.upsert asset = s := by
      obtain ⟨a, _, _, _, _, _⟩ := s
      obtain rfl : a = some asset := hsame
      simp [State.upsert]
    rwa [hs]
  constructor
  · exact h.lock
  · intro i row p hrow hp
    rcases hasset with hn | hs | ⟨-, hnone⟩
    · rw [State.upsert_changes (.inl hn)]
      exact h.priced i row p hrow hp
    · exact absurd hs hsame
    · simp [hnone i row hrow] at hp
  · intro i x hx
    have hx : s.holds i = some x := hx
    rcases hasset with hn | hs | ⟨hnone, -⟩
    · simpa [hn] using (h.holds i x hx).1
    · exact absurd hs hsame
    · simp [hnone i] at hx
  · intro c
    show State.Ok _ (s.task c)
    have hc := h.tasks c
    have hno := hidle c
    cases ht : s.task c with
    | read | cleared => simp [ht, Task.Changes] at hno
    | terms hold =>
      -- its asset is in force, and priced
      rw [ht] at hc
      obtain ⟨hin, -, j, r, hr, hp⟩ := hc
      rcases hasset with hn | hs | ⟨-, hnone⟩
      · simp [hn] at hin
      · exact absurd hs hsame
      · exact absurd (hnone j r hr) hp
    | _ => trivial

-- ---------------------------------------------------------------------------
-- Runs
-- ---------------------------------------------------------------------------

theorem Inv.step (h : Inv s) (hs : Step False s s') : Inv s' := by
  cases hs with
  | recordAtCreation hr => exact h.recorded (hr.resolve_left id)
  | @defines i provenance price hn hprov hmay =>
    refine h.setClass i (fun p hp => ?_) (by simp [hn]) (fun c asset ids hc hpur => ?_)
    · obtain ⟨amount, hamount, rfl⟩ := Option.map_eq_some_iff.mp hp
      refine ⟨?_, rfl⟩
      cases provenance with
      | purchased => rfl
      | granted => simp [hprov.mp rfl] at hamount
    · rcases hmay.resolve_left id with hnone | hclearing
      · have hpur : provenance = .purchased := hpur
        simp [hprov.mpr hnone] at hpur
      · exact absurd ⟨c, asset, ids, hc⟩ hclearing
  | @setPrice i row amount hrow hpur hlocked =>
    refine h.setClass i (fun p hp => ⟨hpur, ?_⟩) (by simp) (fun c asset ids hc _ => ?_)
    · obtain rfl := Option.some.inj hp
      rfl
    · obtain ⟨-, -, hids⟩ : s.Ok (.cleared asset ids) := hc ▸ h.tasks c
      exact hids i row hrow hpur
  | locks asset hc hl => exact h.takesLock hl trivial
  | reads hc hne hnone =>
    exact h.goto (h.lock _ (by simp [hc, Task.Open])) ⟨rfl, hne, hnone⟩
  | @clears c asset current ids hc hids =>
    obtain ⟨hin, hne, hnone⟩ : s.Ok (.read asset (some current)) := hc ▸ h.tasks c
    exact h.goto (h.lock _ (by simp [hc, Task.Open]))
      ⟨⟨current, hin, by simpa using hne⟩, hnone, fun i row hr hp => (hids i).mpr ⟨row, hr, hp⟩⟩
  | commitsFirst hc => exact h.commitsFirst hc
  | commits hc => exact h.commits hc
  | locksPlace i hc hl => exact h.takesLock hl trivial
  | saleTerms hc ha hrow hp _ =>
    exact h.goto (h.lock _ (by simp [hc, Task.Open]))
      ⟨ha, (h.priced _ _ _ hrow hp).2, _, _, hrow, by simp [hp]⟩
  | places hc _ => exact h.places hc _
  | ends hc => exact h.unlock hc rfl h.priced h.holds

theorem Inv.steps (h : Inv s) (hs : Steps False s s') : Inv s' := by
  induction hs with
  | refl => exact h
  | step _ hs ih => exact ih.step hs

theorem Step.keeps_hold {late : Prop} (hs : Step late s s') (hh : s.holds i = some hold) :
    s'.holds i = some hold := by
  cases hs with
  | @places c x j hc hn =>
    have hne : i ≠ j := by
      rintro rfl
      simp [hn] at hh
    simpa [State.unlock, State.goto, Function.update_of_ne hne] using hh
  | _ => exact hh

theorem Steps.keeps_hold {late : Prop} (hs : Steps late s s') (hh : s.holds i = some hold) :
    s'.holds i = some hold := by
  induction hs with
  | refl => exact hh
  | step _ hs ih => exact hs.keeps_hold ih

/-- What is promised of prices: those of classes, and those that holds recorded with the asset in
force, were set since the asset last changed from one to another; and the asset does not change any
more once there is a hold. -/
structure State.PricesKeep (late : Prop) (s : State) : Prop where
  classes : ∀ i row price, s.classes i = some row → row.price = some price →
    price.setAt = s.changes
  holds : ∀ i hold, s.holds i = some hold →
    s.asset = some hold.asset ∧ hold.price.setAt = s.changes
  fixed : ∀ s', Steps late s s' → (∃ i hold, s.holds i = some hold) → s'.asset = s.asset

/-- In every run in which no class is defined with a price while a change of the asset has cleared
prices, and the asset is recorded at creation only where it may be. -/
theorem prices_keep_asset (h₀ : State.Initial s₀) (hs : Steps False s₀ s) : s.PricesKeep False := by
  have h := (Inv.initial h₀).steps hs
  refine ⟨fun i row p hrow hp => (h.priced i row p hrow hp).2, h.holds, ?_⟩
  rintro s' hs' ⟨i, hold, hh⟩
  exact (((h.steps hs').holds i hold (hs'.keeps_hold hh)).1).trans (h.holds i hold hh).1.symm

def State.start : State := ⟨none, fun _ => none, fun _ => none, none, fun _ => .idle, 0⟩

theorem State.start_initial : State.Initial State.start :=
  ⟨rfl, fun _ => rfl, fun _ => rfl, rfl, fun _ => rfl⟩

/-- A class is priced, and a hold placed. -/
theorem prices_keep_asset_one : ∃ s, Steps False State.start s ∧
    s.holds 1 = some ⟨3, ⟨25, 0⟩⟩ ∧ s.PricesKeep False := by
  have h₁ : Steps False State.start (State.start.upsert 3) :=
    Steps.refl.step (Step.recordAtCreation (.inr ⟨fun _ => id, .inl rfl⟩))
  have h₂ : Steps False State.start
      ((State.start.upsert 3).setClass 1 ⟨.purchased, some ⟨25, 0⟩⟩) :=
    h₁.step (Step.defines (i := 1) rfl
      (show Provenance.purchased = .granted ↔ some 25 = none by simp)
      (.inr (.inr fun ⟨_, _, _, hc⟩ => nomatch hc)))
  have h₃ := h₂.step (Step.locksPlace (c := 1) 1 rfl rfl)
  have h₄ := h₃.step (Step.saleTerms (c := 1) rfl rfl rfl rfl (by
    rintro j row hrow ⟨-, hn⟩
    rcases eq_or_ne j 1 with rfl | hne
    · obtain rfl := Option.some.inj hrow
      cases hn
    · simp [State.goto, State.setClass, State.upsert, State.start, Function.update_of_ne hne]
        at hrow))
  have h₅ := h₄.step (Step.places (c := 1) (i := 1) rfl rfl)
  exact ⟨_, h₅, rfl, prices_keep_asset State.start_initial h₅⟩

/-- A change from one asset to another clears the prices it sees; a class is defined with a price
before the change commits. -/
theorem price_survives_change :
    ¬ ∀ s₀ s : State, State.Initial s₀ → Steps True s₀ s → s.PricesKeep True := by
  intro h
  have h₁ : Steps True State.start (State.start.upsert 3) :=
    Steps.refl.step (Step.recordAtCreation (.inl trivial))
  have h₂ := h₁.step (Step.locks (c := 1) 4 rfl rfl)
  have h₃ := h₂.step (Step.reads (c := 1) rfl (by decide) fun _ => rfl)
  have h₄ := h₃.step (Step.clears (c := 1) (show _ = Task.read 4 (some 3) from rfl)
    (show ∀ i, false = true ↔ _ from fun i => ⟨nofun, fun ⟨_, hrow, _⟩ => nomatch hrow⟩))
  have h₅ := h₄.step (Step.defines (i := 1) rfl
    (show Provenance.purchased = .granted ↔ some 25 = none by simp) (.inl trivial))
  have h₆ := h₅.step (Step.commits (c := 1) rfl)
  have := (h _ _ State.start_initial h₆).classes 1 _ ⟨25, 0⟩ rfl rfl
  cases this

end Kippu.Pricing
