import Kippu.Counting.Runs

/-!
# Places counted twice

A hold's recorded status follows its ticket, but for a sale that ended without its
verdict: its hold stays issuing, and counts beside its ticket on the ledger. The
larger of what the ledger counts and what Kippu undertook hides it only behind as
many granted issuances that have no ticket.
-/

namespace Kippu.Counting

open Conc (Table)

variable {s s' s₀ : State} {counts : AllocationCounts} {k : ClassId}

-- ---------------------------------------------------------------------------
-- What a row's status says of its ticket
-- ---------------------------------------------------------------------------

structure Hold.Ok (h : Hold) : Prop where
  landed : h.landed = true → h.status = .issuing ∨ h.status = .confirmed
  confirmed : h.status = .confirmed → h.landed = true
  write : h.write = true → h.status = .issuing ∧ h.landed = false
  issue : h.issue.isSome → h.status = .issuing
  unsigned : h.issue = some .unsigned → h.write = false ∧ h.landed = false

structure Granted.Ok (g : Granted) : Prop where
  landed : g.landed = true → g.undertaken = true
  write : g.write = true → g.undertaken = true ∧ g.landed = false
  issue : g.issue.isSome → g.status = .pending
  unsigned : g.issue = some .unsigned → g.write = false ∧ g.landed = false

theorem Hold.Ok.step {h h' : Hold} (hok : h.Ok) (hs : h.Step h') : h'.Ok := by
  obtain ⟨hlanded, hconfirmed, hwrite, hissue, hunsigned⟩ := hok
  cases hs with
  | ends status hst hout =>
    have hnot : h.landed = false := by
      cases hl : h.landed with
      | false => rfl
      | true => simpa [hout] using hlanded hl
    have hwritten : h.write = false := by
      cases hw : h.write with
      | false => rfl
      | true => simpa [hout] using (hwrite hw).1
    have hnone : h.issue = none := by
      cases hi : h.issue with
      | none => rfl
      | some issue => simp [hout, hi] at hissue
    cases hst <;> constructor <;> simp_all
  | paid hst =>
    have hnot : h.landed = false := by
      cases hl : h.landed with
      | false => rfl
      | true =>
        have hstatus := hlanded hl
        grind
    have hwritten : h.write = false := by
      cases hw : h.write with
      | false => rfl
      | true =>
        have hstatus := (hwrite hw).1
        grind
    constructor <;> simp [hnot, hwritten]
  | signs hi =>
    obtain ⟨hw, hl⟩ := hunsigned hi
    have hstatus := hissue (by simp [hi])
    constructor <;> simp [hl, hstatus]
  | unsigned hi =>
    obtain ⟨hw, hl⟩ := hunsigned hi
    constructor <;> simp [hw, hl]
  | lands hw =>
    obtain ⟨hstatus, hl⟩ := hwrite hw
    constructor <;> simp_all
  | refused hw =>
    obtain ⟨hstatus, hl⟩ := hwrite hw
    constructor <;> simp_all
  | issued hi hl =>
    have hw : h.write = false := by
      cases hw : h.write with
      | false => rfl
      | true => simpa [hl] using (hwrite hw).2
    constructor <;> simp [hl, hw]
  | rejected hi hw hl => constructor <;> simp [hw, hl]
  | failed hi => exact ⟨hlanded, hconfirmed, hwrite, nofun, nofun⟩
  | stops => exact ⟨hlanded, hconfirmed, hwrite, nofun, nofun⟩

theorem Granted.Ok.step {g g' : Granted} (hok : g.Ok) (hs : g.Step g') : g'.Ok := by
  obtain ⟨hlanded, hwrite, hissue, hunsigned⟩ := hok
  simp only [Granted.undertaken] at hlanded hwrite
  cases hs with
  | signs hi => constructor <;> simp only [Granted.undertaken] <;> grind
  | lands hw => constructor <;> simp only [Granted.undertaken] <;> grind
  | refused hw => constructor <;> simp only [Granted.undertaken] <;> grind
  | settled hi hl => constructor <;> simp only [Granted.undertaken] <;> grind
  | rejected hi hw hl => constructor <;> simp only [Granted.undertaken] <;> grind
  | failed hi => constructor <;> simp only [Granted.undertaken] <;> grind
  | stops => constructor <;> simp only [Granted.undertaken] <;> grind

structure Inv (s : State) : Prop where
  holds : ∀ i h, s.holds.get i = some h → h.Ok
  grants : ∀ i g, s.grants.get i = some g → g.Ok

theorem Inv.initial (h : s.Initial) : Inv s where
  holds i x hx := by simp [h.holds] at hx
  grants i x hx := by simp [h.grants] at hx

theorem Inv.setHold (h : Inv s) {x : Hold} (hx : x.Ok) (i : ℕ) :
    Inv { s with holds := s.holds.set i x } where
  holds j y hy := by
    rw [Table.get_set] at hy
    split at hy
    · cases hy
      exact hx
    · exact h.holds j y hy
  grants := h.grants

theorem Inv.setGrant (h : Inv s) {x : Granted} (hx : x.Ok) (i : ℕ) :
    Inv { s with grants := s.grants.set i x } where
  holds := h.holds
  grants j y hy := by
    rw [Table.get_set] at hy
    split at hy
    · cases hy
      exact hx
    · exact h.grants j y hy

theorem Inv.step (h : Inv s) (hs : Step s s') : Inv s' := by
  cases hs with
  | placed i classId hnone => exact h.setHold (by constructor <;> simp) i
  | hold i x x' hx hstep => exact h.setHold ((h.holds i x hx).step hstep) i
  | reserved i classId hnone =>
    exact h.setGrant (by constructor <;> simp [Granted.undertaken]) i
  | granted i g g' hg hstep => exact h.setGrant ((h.grants i g hg).step hstep) i
  | deleted i g hg hi =>
    refine ⟨h.holds, fun j y hy => ?_⟩
    rw [Table.get_erase] at hy
    split at hy
    · cases hy
    · exact h.grants j y hy
  | changed ledger quota => exact ⟨h.holds, h.grants⟩

theorem Inv.steps (h : Inv s) (hs : Steps s s') : Inv s' := by
  induction hs with
  | refl => exact h
  | step _ hs ih => exact ih.step hs

-- ---------------------------------------------------------------------------
-- Counting rows
-- ---------------------------------------------------------------------------

def State.start : State := ⟨.empty, .empty, ⟨7, .active, some 2, 0, []⟩, fun _ => none⟩

theorem State.start_initial : State.start.Initial := ⟨rfl, rfl⟩

end Kippu.Counting
