import Mathlib.Logic.Function.Basic
import Mathlib.Data.Nat.Notation

/-!
# One-time codes

Rows that are redeemed once, each under an owner. A redemption is an update of the row
under its condition: it locks the row, and no other statement changes it until the
transaction ends. Who voids an owner's codes has the owner's row locked, as who issues
one has; the statement selects the codes that are neither redeemed nor voided, and
takes each in turn, looking at it again once its lock is free.
-/

namespace Conc.Codes

abbrev Tx := ℕ

set_option linter.unusedSectionVars false

variable {Owner Key : Type}

structure Code (Owner : Type) where
  owner : Owner
  expiresAt : ℕ
  redeemed : Bool
  voided : Bool

def Code.open (x : Code Owner) : Bool := !x.redeemed && !x.voided

inductive Phase (Owner Key : Type)
  | out
  /-- It has the owner's row. -/
  | owning (o : Owner)
  /-- It has it and voids the owner's codes: those selected and not yet looked at. -/
  | voiding (o : Owner) (todo : Key → Bool)
  /-- It redeemed a code, and has not committed. -/
  | redeeming (k : Key)

structure State (Owner Key : Type) where
  codes : Key → Option (Code Owner)
  codeLock : Key → Option Tx
  ownerLock : Owner → Option Tx
  phase : Tx → Phase Owner Key

variable [DecidableEq Owner] [DecidableEq Key]

def State.goto (s : State Owner Key) (c : Tx) (p : Phase Owner Key) : State Owner Key :=
  { s with phase := Function.update s.phase c p }

def State.lockCode (s : State Owner Key) (c : Tx) (k : Key) : State Owner Key :=
  { s with codeLock := Function.update s.codeLock k (some c) }

def State.leave (s : State Owner Key) (c : Tx) : State Owner Key :=
  { s with
    codeLock := fun k => if s.codeLock k = some c then none else s.codeLock k
    ownerLock := fun o => if s.ownerLock o = some c then none else s.ownerLock o
    phase := Function.update s.phase c .out }

def State.put (s : State Owner Key) (k : Key) (x : Code Owner) : State Owner Key :=
  { s with codes := Function.update s.codes k (some x) }

def State.void (s : State Owner Key) (c : Tx) : State Owner Key :=
  { s with codes := fun k => (s.codes k).map fun x =>
      if s.codeLock k = some c then { x with voided := true } else x }

/-- The codes `UPDATE … SET voided_at` selects. -/
def State.outstanding (s : State Owner Key) (o : Owner) (k : Key) : Bool :=
  (s.codes k).any fun x => x.owner = o && x.open

def State.Closed (s : State Owner Key) (o : Owner) (k : Key) : Prop :=
  ∃ x, s.codes k = some x ∧ x.owner = o ∧ x.open = false

inductive Act (Owner Key : Type)
  | owns (o : Owner)
  | selects
  | looks (k : Key)
  | skips (k : Key)
  | redeems (k : Key)
  | issued (k : Key) (expiresAt : ℕ)
  | voided
  | replaced (k : Key) (expiresAt : ℕ)
  | redeemed (k : Key)
  | stops

/-- A step of one transaction. Those that end in `ed` commit it. -/
inductive Step (s : State Owner Key) (c : Tx) : Act Owner Key → State Owner Key → Prop
  | owns (o : Owner) : s.phase c = .out → s.ownerLock o = none →
      Step s c (.owns o)
        ({ s with ownerLock := Function.update s.ownerLock o (some c) }.goto c (.owning o))
  | selects : s.phase c = .owning o → Step s c .selects (s.goto c (.voiding o (s.outstanding o)))
  | looks (k : Key) : s.phase c = .voiding o todo → todo k = true → s.codeLock k = none →
      s.codes k = some x → x.open = true →
      Step s c (.looks k)
        ((s.lockCode c k).goto c (.voiding o (Function.update todo k false)))
  | skips (k : Key) : s.phase c = .voiding o todo → s.codes k = some x → x.open = false →
      Step s c (.skips k) (s.goto c (.voiding o (Function.update todo k false)))
  | redeems (k : Key) : s.phase c = .out → s.codeLock k = none → s.codes k = some x →
      x.open = true → Step s c (.redeems k) ((s.lockCode c k).goto c (.redeeming k))
  | issued (k : Key) (expiresAt : ℕ) : s.phase c = .owning o → s.codes k = none →
      Step s c (.issued k expiresAt) ((s.put k ⟨o, expiresAt, false, false⟩).leave c)
  | voided : s.phase c = .voiding o todo → (∀ k, todo k = false) →
      Step s c .voided ((s.void c).leave c)
  | replaced (k : Key) (expiresAt : ℕ) : s.phase c = .voiding o todo → (∀ k, todo k = false) →
      s.codes k = none →
      Step s c (.replaced k expiresAt)
        (((s.void c).put k ⟨o, expiresAt, false, false⟩).leave c)
  | redeemed (k : Key) : s.phase c = .redeeming k → s.codes k = some x →
      Step s c (.redeemed k) ((s.put k { x with redeemed := true }).leave c)
  | stops : Step s c .stops (s.leave c)

-- ---------------------------------------------------------------------------
-- What the locks are for
-- ---------------------------------------------------------------------------

variable {s s' s'' : State Owner Key} {c d : Tx} {o : Owner} {k : Key} {x : Code Owner}
  {a : Act Owner Key}

def State.Knows (s : State Owner Key) (c : Tx) : Phase Owner Key → Prop
  | .out => True
  | .owning o => s.ownerLock o = some c
  | .voiding o todo => s.ownerLock o = some c ∧
      ∀ k x, s.codes k = some x → x.owner = o → todo k = true ∨ x.open = false ∨
        s.codeLock k = some c
  | .redeeming k => s.codeLock k = some c ∧ ∃ x, s.codes k = some x ∧ x.open = true

def Inv (s : State Owner Key) : Prop := ∀ c, s.Knows c (s.phase c)

/-- Nothing but the lock on an owner's row, or on a code, changes what it guards. -/
structure Others (c : Tx) (s s' : State Owner Key) : Prop where
  owner : ∀ o, s.ownerLock o = some c → s'.ownerLock o = some c
  code : ∀ k x, s.codeLock k = some c → s.codes k = some x →
    s'.codeLock k = some c ∧ s'.codes k = some x
  closed : ∀ o k, s.Closed o k → s'.Closed o k
  issued : ∀ o k x, s.ownerLock o = some c → s'.codes k = some x → x.owner = o →
    ∃ y, s.codes k = some y ∧ y.owner = o

theorem Others.knows (h : Others c s s') {p : Phase Owner Key} (hk : s.Knows c p) :
    s'.Knows c p := by
  cases p with
  | out => trivial
  | owning o => exact h.owner o hk
  | voiding o todo =>
    refine ⟨h.owner o hk.1, fun k x hx ho => ?_⟩
    obtain ⟨y, hy, hyo⟩ := h.issued o k x hk.1 hx ho
    obtain htodo | hclosed | hlock := hk.2 k y hy hyo
    · exact .inl htodo
    · obtain ⟨z, hz, _, hzclosed⟩ := h.closed o k ⟨y, hy, hyo, hclosed⟩
      rw [hx, Option.some.injEq] at hz
      exact .inr (.inl (hz ▸ hzclosed))
    · exact .inr (.inr (h.code k y hlock hy).1)
  | redeeming k =>
    obtain ⟨hlock, x, hx, hopen⟩ := hk
    exact ⟨(h.code k x hlock hx).1, x, (h.code k x hlock hx).2, hopen⟩

theorem Others.trans (h : Others c s s') (h' : Others c s' s'') : Others c s s'' where
  owner o hl := h'.owner o (h.owner o hl)
  code k x hl hx := h'.code k x (h.code k x hl hx).1 (h.code k x hl hx).2
  closed o k hk := h'.closed o k (h.closed o k hk)
  issued o k x hl hx ho := by
    obtain ⟨y, hy, hyo⟩ := h'.issued o k x (h.owner o hl) hx ho
    exact h.issued o k y hl hy hyo

theorem others_goto (s : State Owner Key) (c d : Tx) (p : Phase Owner Key) :
    Others d s (s.goto c p) :=
  ⟨fun _ h => h, fun _ _ hl hx => ⟨hl, hx⟩, fun _ _ h => h,
    fun _ _ x _ hx ho => ⟨x, hx, ho⟩⟩

theorem others_leave (s : State Owner Key) (hd : d ≠ c) : Others d s (s.leave c) where
  owner o hl := by simp [State.leave, hl, hd]
  code k x hl hx := ⟨by simp [State.leave, hl, hd], hx⟩
  closed _ _ h := h
  issued _ _ x _ hx ho := ⟨x, hx, ho⟩

theorem others_lockCode (hfree : s.codeLock k = none) : Others d s (s.lockCode c k) where
  owner _ hl := hl
  code k' x hl hx := by
    have hne : k' ≠ k := by
      rintro rfl
      rw [hfree] at hl
      cases hl
    exact ⟨by simpa [State.lockCode, hne] using hl, hx⟩
  closed _ _ h := h
  issued _ _ x _ hx ho := ⟨x, hx, ho⟩

theorem others_lockOwner (hfree : s.ownerLock o = none) :
    Others d s { s with ownerLock := Function.update s.ownerLock o (some c) } where
  owner o' hl := by
    have hne : o' ≠ o := by
      rintro rfl
      rw [hfree] at hl
      cases hl
    simpa [hne] using hl
  code _ _ hl hx := ⟨hl, hx⟩
  closed _ _ h := h
  issued _ _ x _ hx ho := ⟨x, hx, ho⟩

theorem others_issue (hd : d ≠ c) (hlock : s.ownerLock o = some c) (hk : s.codes k = none) :
    Others d s (s.put k ⟨o, n, false, false⟩) where
  owner _ hl := hl
  code k' x hl hx := by
    have hne : k' ≠ k := by
      rintro rfl
      rw [hk] at hx
      cases hx
    exact ⟨hl, by simpa [State.put, hne] using hx⟩
  closed o' k' h := by
    obtain ⟨x, hx, hclosed⟩ := h
    have hne : k' ≠ k := by
      rintro rfl
      rw [hk] at hx
      cases hx
    exact ⟨x, by simpa [State.put, hne] using hx, hclosed⟩
  issued o' k' x hl hx ho := by
    by_cases hne : k' = k
    · subst hne
      simp only [State.put, Function.update_self, Option.some.injEq] at hx
      subst hx
      simp only at ho
      rw [ho, hl, Option.some.injEq] at hlock
      exact absurd hlock hd
    · exact ⟨x, by simpa [State.put, hne] using hx, ho⟩

theorem void_codes (hx : s.codes k = some x) :
    (s.void c).codes k = some (if s.codeLock k = some c then { x with voided := true } else x) := by
  simp [State.void, hx]

theorem others_void (s : State Owner Key) (hd : d ≠ c) : Others d s (s.void c) where
  owner _ hl := hl
  code k x hl hx := ⟨hl, by simp [State.void, hx, hl, hd]⟩
  closed o k h := by
    obtain ⟨x, hx, ho, hclosed⟩ := h
    refine ⟨_, void_codes hx, ?_⟩
    split
    · exact ⟨ho, by simp [Code.open]⟩
    · exact ⟨ho, hclosed⟩
  issued o k x _ hx ho := by
    obtain ⟨y, hy, rfl⟩ := Option.map_eq_some_iff.mp hx
    refine ⟨y, hy, ?_⟩
    split at ho <;> exact ho

theorem others_redeem (hd : d ≠ c) (hlock : s.codeLock k = some c) (hk : s.codes k = some x) :
    Others d s (s.put k { x with redeemed := true }) where
  owner _ hl := hl
  code k' y hl hy := by
    have hne : k' ≠ k := by
      rintro rfl
      rw [hl, Option.some.injEq] at hlock
      exact hd hlock
    exact ⟨hl, by simpa [State.put, hne] using hy⟩
  closed o' k' h := by
    obtain ⟨y, hy, ho, hclosed⟩ := h
    by_cases hne : k' = k
    · subst hne
      rw [hk, Option.some.injEq] at hy
      exact ⟨{ x with redeemed := true }, by simp [State.put], hy ▸ ho, by simp [Code.open]⟩
    · exact ⟨y, by simpa [State.put, hne] using hy, ho, hclosed⟩
  issued o k' y _ hy ho := by
    by_cases hne : k' = k
    · subst hne
      simp only [State.put, Function.update_self, Option.some.injEq] at hy
      subst hy
      exact ⟨x, hk, ho⟩
    · exact ⟨y, by simpa [State.put, hne] using hy, ho⟩

theorem Step.others (hi : Inv s) (h : Step s c a s') (hd : d ≠ c) : Others d s s' := by
  have hknows := hi c
  cases h with
  | owns o _ hfree => exact (others_lockOwner hfree).trans (others_goto ..)
  | selects => exact others_goto ..
  | looks k _ _ hfree => exact (others_lockCode hfree).trans (others_goto ..)
  | skips => exact others_goto ..
  | redeems k _ hfree => exact (others_lockCode hfree).trans (others_goto ..)
  | issued k expiresAt hphase hk =>
    rw [hphase] at hknows
    exact (others_issue hd hknows hk).trans (others_leave _ hd)
  | voided => exact (others_void s hd).trans (others_leave _ hd)
  | replaced k expiresAt hphase _ hk =>
    rw [hphase] at hknows
    have hnone : (s.void c).codes k = none := by simp [State.void, hk]
    exact ((others_void s hd).trans (others_issue hd hknows.1 hnone)).trans (others_leave _ hd)
  | redeemed k hphase hx =>
    rw [hphase] at hknows
    exact (others_redeem hd hknows.1 hx).trans (others_leave _ hd)
  | stops => exact others_leave s hd

theorem Step.phase_ne (h : Step s c a s') (hd : d ≠ c) : s'.phase d = s.phase d := by
  cases h <;> exact Function.update_of_ne hd ..

theorem Step.knows (hi : Inv s) (h : Step s c a s') : s'.Knows c (s'.phase c) := by
  have hknows := hi c
  cases h with
  | owns o _ _ => simp [State.goto, State.Knows]
  | selects hphase =>
    rw [hphase] at hknows
    simp only [State.goto, Function.update_self]
    refine ⟨hknows, fun k x hx ho => ?_⟩
    cases hopen : x.open with
    | false => exact .inr (.inl rfl)
    | true =>
      change s.codes k = some x at hx
      exact .inl (by simp [State.outstanding, hx, ho, hopen])
  | looks k hphase _ _ hx _ =>
    rw [hphase] at hknows
    simp only [State.goto, Function.update_self]
    refine ⟨hknows.1, fun k' y hy ho => ?_⟩
    by_cases hk : k' = k
    · exact .inr (.inr (by simp [hk, State.lockCode]))
    · simpa [State.lockCode, hk] using hknows.2 k' y hy ho
  | @skips o todo x k hphase hx hclosed =>
    rw [hphase] at hknows
    simp only [State.goto, Function.update_self]
    refine ⟨hknows.1, fun k' y hy ho => ?_⟩
    by_cases hk : k' = k
    · subst hk
      change s.codes k' = some y at hy
      rw [hx, Option.some.injEq] at hy
      exact .inr (.inl (hy ▸ hclosed))
    · simpa [hk] using hknows.2 k' y hy ho
  | @redeems x k _ _ hx hopen =>
    simp only [State.goto, Function.update_self]
    exact ⟨by simp [State.lockCode], x, hx, hopen⟩
  | issued | voided | replaced | redeemed | stops => simp [State.leave, State.Knows]

theorem Inv.step (hi : Inv s) (h : Step s c a s') : Inv s' := by
  intro d
  by_cases hd : d = c
  · exact hd ▸ h.knows hi
  · rw [h.phase_ne hd]
    exact (h.others hi hd).knows (hi d)

-- ---------------------------------------------------------------------------
-- Redeemed once, and void for good
-- ---------------------------------------------------------------------------

theorem Step.closed (hi : Inv s) (h : Step s c a s') (hk : s.Closed o k) : s'.Closed o k :=
  (h.others hi (Nat.succ_ne_self c)).closed o k hk

theorem Step.redeemed_open (hi : Inv s) (h : Step s c (.redeemed k) s') :
    s.codeLock k = some c ∧ ∃ x, s.codes k = some x ∧ x.open = true ∧ s'.Closed x.owner k := by
  have hknows := hi c
  cases h with
  | @redeemed x k hphase hx =>
    rw [hphase] at hknows
    obtain ⟨hlock, y, hy, hopen⟩ := hknows
    rw [hx, Option.some.injEq] at hy
    exact ⟨hlock, x, hx, hy ▸ hopen, { x with redeemed := true }, by simp [State.leave, State.put],
      rfl, by simp [Code.open]⟩

theorem not_closed_of_open (hx : s.codes k = some x) (hopen : x.open = true) :
    ¬ s.Closed o k := by
  rintro ⟨y, hy, _, hclosed⟩
  rw [hx, Option.some.injEq] at hy
  rw [hy, hclosed] at hopen
  cases hopen

/-- Once no selected code is left to look at, no code of the owner's is in the hands of another. -/
theorem Inv.voiding (hi : Inv s) (hphase : s.phase c = .voiding o todo)
    (htodo : ∀ k, todo k = false) (hx : s.codes k = some x) (ho : x.owner = o) :
    x.open = false ∨ s.codeLock k = some c := by
  have hknows := hi c
  rw [hphase] at hknows
  obtain h | h := hknows.2 k x hx ho
  · rw [htodo k] at h
    cases h
  · exact h

theorem void_closed (hx : s.codes k = some x) (ho : x.owner = o)
    (h : x.open = false ∨ s.codeLock k = some c) : (s.void c).Closed o k := by
  refine ⟨_, void_codes hx, ?_⟩
  split
  · exact ⟨ho, by simp [Code.open]⟩
  · rename_i hlock
    exact ⟨ho, h.resolve_right hlock⟩

/-- The voiding committed, every code the owner had is redeemed or voided. -/
theorem Step.voided_closed (hi : Inv s) (hphase : s.phase c = .voiding o todo)
    (h : Step s c .voided s' ∨ ∃ k n, Step s c (.replaced k n) s') (hx : s.codes k = some x)
    (ho : x.owner = o) : s'.Closed o k := by
  have hclosed : ∀ todo', s.phase c = .voiding o todo' → (∀ k, todo' k = false) →
      (s.void c).Closed o k := fun todo' hphase' htodo =>
    void_closed hx ho (hi.voiding hphase' htodo hx ho)
  cases h with
  | inl h =>
    cases h with
    | @voided o' todo' hphase' htodo =>
      rw [hphase, Phase.voiding.injEq] at hphase'
      exact hclosed todo hphase (hphase'.2 ▸ htodo)
  | inr h =>
    obtain ⟨k', n, h⟩ := h
    cases h with
    | @replaced o' todo' _ _ hphase' htodo hk' =>
      rw [hphase, Phase.voiding.injEq] at hphase'
      obtain ⟨z, hz, hzclosed⟩ := hclosed todo hphase (hphase'.2 ▸ htodo)
      have hne : k ≠ k' := by
        rintro rfl
        rw [hk'] at hx
        cases hx
      exact ⟨z, by simpa [State.leave, State.put, hne] using hz, hzclosed⟩

end Conc.Codes
