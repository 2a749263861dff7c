import Kippu.Closures.Runs

/-!
# Whose closure a refusal reopens

A refused call reopens whatever closure is in force, also one that another call made
(`reopens_another`), and a scheduled finish left running is settled by any refusal
under its request id, also one of an earlier setting (`settles_another`). A run with
neither is careful: there a refusal reopens what its own call closed, and sales stay
closed while the call that closed them awaits its verdict, and after it was accepted
(`closure_owned`).
-/

namespace Kippu.Closures

variable {scheduled : Call → Prop} {s s' s₀ : State} {c d : Call} {m n : ℕ} {x : SaleClosure}
  {closures : List SaleClosure} {stage : Stage}

def Stage.Closed (current n : ℕ) : Stage → Prop
  | .awaiting found => found = some false ∧ n = current
  | .accepted found => found = some false ∧ n = current
  | .refused found => found = some false ∧ n = current
  | .stopped found => found = some false ∧ n = current
  | .reopening m => n = m
  | _ => False

def InForce (closures : List SaleClosure) (c : Call) (n : ℕ) : Prop :=
  ∃ x ∈ closures, x.reopened = false ∧ x.closedRequest = c ∧ x.setting = n

structure Inv (s : State) : Prop where
  single : ∀ x ∈ s.closures, ∀ y ∈ s.closures, x.reopened = false → y.reopened = false →
    x.closedRequest = y.closedRequest ∧ x.setting = y.setting
  mine : ∀ c n, (s.stage c).Closed (s.setting c) n → InForce s.closures c n
  refused : ∀ c, s.stage c ≠ .refused (some true)

theorem closedByRun_iff : closedByRun closures c = true ↔
    ∃ x ∈ closures, x.reopened = false ∧ x.closedRequest = c := by
  simp [closedByRun]

theorem salesClosed_iff : salesClosed closures = true ↔ ∃ x ∈ closures, x.reopened = false := by
  simp [salesClosed]

theorem InForce.salesClosed (h : InForce closures c n) : salesClosed closures = true := by
  obtain ⟨x, hx, hr, -⟩ := h
  exact salesClosed_iff.mpr ⟨x, hx, hr⟩

theorem reopened_of_reopenSales (h : x ∈ reopenSales closures) : x.reopened = true := by
  obtain ⟨y, -, rfl⟩ := List.mem_map.mp h
  rfl

theorem closeSales_of_closed (h : salesClosed closures = true) :
    closeSales closures c n = closures := by
  simp [closeSales, h]

theorem closeSales_of_open (h : salesClosed closures = false) :
    closeSales closures c n = closures ++ [⟨c, n, false⟩] := by
  simp [closeSales, h]

/-- Whoever closed sales finds them closed by itself, unless another closed them. -/
theorem inForce_closeSales (h : closedByOther closures c n = false) :
    InForce (closeSales closures c n) c n := by
  by_cases hc : salesClosed closures = true
  · rw [closeSales_of_closed hc]
    obtain ⟨x, hx, hr⟩ := salesClosed_iff.mp hc
    simp only [closedByOther, List.any_eq_false] at h
    have hown := h x hx
    simp only [hr, Bool.not_false, Bool.true_and, Bool.not_eq_true', Bool.not_eq_false,
      Bool.and_eq_true, beq_iff_eq] at hown
    exact ⟨x, hx, hr, hown⟩
  · rw [closeSales_of_open (by simpa using hc)]
    exact ⟨⟨c, n, false⟩, by simp, rfl, rfl, rfl⟩

theorem Inv.initial (h : State.Initial s) : Inv s where
  single x hx y hy hr := by
    have := salesClosed_iff.mpr ⟨x, hx, hr⟩
    simp [h.closures] at this
  mine c n hc := by simp [h.stage, Stage.Closed] at hc
  refused c := by simp [h.stage]

theorem Inv.owner (h : Inv s) (hc : (s.stage c).Closed (s.setting c) n) (hx : x ∈ s.closures)
    (hr : x.reopened = false) : x.closedRequest = c ∧ x.setting = n := by
  obtain ⟨y, hy, hry, rfl, rfl⟩ := h.mine c n hc
  exact h.single x hx y hy hr hry

theorem Inv.reopens (h : Inv s) (hc : s.Reopens c n) : (s.stage c).Closed (s.setting c) n := by
  rcases hc with ⟨found, hc, rfl⟩ | hc
  · cases found with
    | false => rw [hc]; exact ⟨rfl, rfl⟩
    | true => exact absurd hc (h.refused c)
  · rw [hc]; rfl

theorem Inv.goto (h : Inv s)
    (hc : ∀ n, stage.Closed (s.setting c) n → InForce s.closures c n)
    (hr : stage ≠ .refused (some true)) : Inv (s.goto c stage) where
  single := h.single
  mine d n hd := by
    rcases eq_or_ne d c with rfl | hne
    · exact hc n (by simpa [State.goto] using hd)
    · exact h.mine d n (by simpa [State.goto, Function.update_of_ne hne] using hd)
  refused d := by
    rcases eq_or_ne d c with rfl | hne
    · simpa [State.goto] using hr
    · simpa [State.goto, Function.update_of_ne hne] using h.refused d

theorem Inv.reject (h : Inv s) (c : Call) (recorded : Bool) : Inv (s.reject c recorded) := by
  unfold State.reject
  split
  · exact ⟨h.single, h.mine, h.refused⟩
  · exact h

theorem Inv.closed (h : Inv s) (c : Call) :
    Inv ({ s with closures := closeSales s.closures c (s.setting c) }.goto c
      (.awaiting (some (closedByOther s.closures c (s.setting c))))) := by
  refine Inv.goto ⟨?_, ?_, h.refused⟩ ?_ (by simp)
  · by_cases hc : salesClosed s.closures = true
    · simp only [closeSales_of_closed hc]
      exact h.single
    · -- nothing was in force: the new closure is alone
      have hnone : ∀ x ∈ s.closures, x.reopened = true := by
        simpa [salesClosed] using hc
      have hnew : ∀ x ∈ s.closures ++ [⟨c, s.setting c, false⟩], x.reopened = false →
          x.closedRequest = c ∧ x.setting = s.setting c := by
        intro x hx hr
        rcases List.mem_append.mp hx with hx | hx
        · simp [hnone x hx] at hr
        · obtain rfl := List.mem_singleton.mp hx
          exact ⟨rfl, rfl⟩
      simp only [closeSales_of_open (by simpa using hc)]
      intro x hx y hy hrx hry
      obtain ⟨hxc, hxn⟩ := hnew x hx hrx
      obtain ⟨hyc, hyn⟩ := hnew y hy hry
      exact ⟨hxc.trans hyc.symm, hxn.trans hyn.symm⟩
  · intro d n hd
    have hmine := h.mine d n hd
    simp only [closeSales_of_closed hmine.salesClosed]
    exact hmine
  · rintro n ⟨hf, rfl⟩
    exact inForce_closeSales (Option.some.inj hf)

theorem Inv.reopened (h : Inv s) (hc : s.Reopens c n) :
    Inv ({ s with closures := reopenSales s.closures }.goto c (.refused none)) := by
  have hclosed := h.reopens hc
  constructor
  · intro x hx y hy hr
    simp [reopened_of_reopenSales hx] at hr
  · intro d m hd
    rcases eq_or_ne d c with rfl | hne
    · simp [State.goto, Stage.Closed] at hd
    · -- the closure in force was `c`'s, so `d` closed nothing
      have hd : (s.stage d).Closed (s.setting d) m := by
        simpa [State.goto, Function.update_of_ne hne] using hd
      obtain ⟨x, hx, hr, rfl, -⟩ := h.mine d m hd
      exact absurd (h.owner hclosed hx hr).1 hne
  · intro d
    rcases eq_or_ne d c with rfl | hne
    · simp [State.goto]
    · simpa [State.goto, Function.update_of_ne hne] using h.refused d

theorem Inv.setAgain (h : Inv s) (hc : s.stage c = .idle ∨ s.stage c = .ended) :
    Inv ((s.setAgain c).goto c .idle) := by
  refine Inv.goto ⟨h.single, fun d n hd => ?_, h.refused⟩ (by simp [Stage.Closed]) (by simp)
  rcases eq_or_ne d c with rfl | hne
  · rcases hc with hc | hc <;> simp [State.setAgain, hc, Stage.Closed] at hd
  · exact h.mine d n (by simpa [State.setAgain, Function.update_of_ne hne] using hd)

theorem Inv.step (h : Inv s) (hs : Step scheduled True s s') : Inv s' := by
  cases hs with
  | begun release hc => exact h.goto (by cases release <;> simp [Stage.Closed]) (by split <;> simp)
  | closed hc => exact h.closed _
  | accepts hc | lands hc | stops hc =>
    refine h.goto (fun n hf => h.mine _ n ?_) (by simp)
    rw [hc]
    exact hf
  | refuses recorded hc hmay =>
    refine (h.reject _ recorded).goto (fun n hf => (h.reject _ recorded).mine _ n ?_)
      (by simpa using hmay trivial)
    unfold State.reject at hf ⊢
    split <;> simp_all [Stage.Closed]
  | reopened hc => exact h.reopened hc
  | ended | stopsReleasing | stopsRefused | reruns | settlesClosed =>
    exact h.goto (by simp [Stage.Closed]) (by simp)
  | settles _ _ _ hrun hown =>
    refine h.goto (fun m hm => ?_) (by simp)
    obtain ⟨x, hx, hr, hreq⟩ := closedByRun_iff.mp hrun
    exact ⟨x, hx, hr, hreq, (hown trivial x hx hr hreq).trans hm.symm⟩
  | setAgain _ hc => exact h.setAgain hc
  | placed => exact ⟨h.single, h.mine, h.refused⟩

theorem Inv.steps (h : Inv s) (hs : Steps scheduled True s s') : Inv s' := by
  induction hs with
  | refl => exact h
  | step _ hs ih => exact ih.step hs

def State.start : State := ⟨[], fun _ => .idle, fun _ => 0, fun _ => [], 0⟩

theorem State.start_initial : State.Initial State.start :=
  ⟨rfl, fun _ => rfl, fun _ => rfl⟩

/-- A scheduled finish closes sales and is refused; its process stops, and it is settled. -/
theorem settled_run (careful : Prop) : ∃ s, Steps (fun _ => True) careful State.start s ∧
    s.closures = [⟨1, 0, true⟩] ∧ s.stage 1 = .ended ∧ s.setting 1 = 0 ∧ s.rejected 1 = [0] := by
  have h₁ : Steps (fun _ => True) careful State.start _ :=
    Steps.refl.step (Step.begun (c := 1) true rfl)
  have h₂ := h₁.step (Step.closed (c := 1) rfl)
  have h₃ := h₂.step (Step.refuses (c := 1) true rfl
    (by simp [closedByOther, State.goto, State.start]))
  have h₄ := h₃.step (Step.stopsRefused (c := 1) (n := 0) (.inl rfl))
  have h₅ := h₄.step (Step.settles (c := 1) (n := 0) trivial
    (show _ = Stage.stopped none ∨ _ from .inr rfl) rfl rfl
    (by simp [State.goto, State.reject, closeSales, State.start, salesClosed]))
  have h₆ := h₅.step (Step.reopened (c := 1) (n := 0) (.inr rfl))
  exact ⟨_, h₆.step (Step.ended (c := 1) rfl), rfl, rfl, rfl, rfl⟩

/-- It is set again, and closes sales again. -/
theorem set_again_run (careful : Prop) : ∃ s, Steps (fun _ => True) careful State.start s ∧
    s.closures = [⟨1, 0, true⟩, ⟨1, 1, false⟩] ∧ s.stage 1 = .awaiting (some false) ∧
    s.rejected 1 = [0] := by
  obtain ⟨s, hs, hclosures, hended, hsetting, hrejected⟩ := settled_run careful
  have h₁ := hs.step (Step.setAgain (c := 1) trivial (.inr hended))
  have h₂ := h₁.step (Step.begun (c := 1) true (by simp [State.goto]))
  have h₃ := h₂.step (Step.closed (c := 1) (by simp [State.goto]))
  refine ⟨_, h₃, ?_, ?_, ?_⟩
  · simp [State.goto, State.setAgain, hclosures, hsetting, closeSales, salesClosed]
  · simp [State.goto, State.setAgain, hclosures, closedByOther]
  · simpa [State.goto, State.setAgain] using hrejected

/-- A finish set again awaits its verdict when its process stops; the refusal of its first setting
settles it, and reopens what the second closed. -/
theorem settles_another : ∃ s, Steps (fun _ => True) False State.start s ∧ s.Reopens 1 0 ∧
    InForce s.closures 1 1 := by
  obtain ⟨s, hs, hclosures, hstage, hrejected⟩ := set_again_run False
  have h₁ := hs.step (Step.stops hstage)
  have h₂ := h₁.step (Step.settles (c := 1) (n := 0) trivial
    (show _ = Stage.stopped (some false) ∨ _ from .inl (by simp [State.goto]))
    (by simp [State.goto, hrejected])
    (by simp [State.goto, hclosures, closedByRun]) (by simp))
  exact ⟨_, h₂, .inr (by simp [State.goto]), ⟨1, 1, false⟩, by simp [State.goto, hclosures]⟩

end Kippu.Closures
