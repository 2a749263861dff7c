import Kippu.Pooling.Runs

/-!
# A pool wedged

As many payments at once as the pool has clients each have one and wait for another, to
read the class.
-/

namespace Kippu.Pooling

variable {s s' : State} {r q : Request} {W : Set Request} {k n : ℕ} {act : Act} {acts : List Act}

theorem goto_todo (s : State) (r : Request) (acts : List Act) : (s.goto r acts).todo r = acts :=
  Function.update_self _ _ _

/-- So many payments have a client and their hold, and are about to read the class. -/
structure Paying (k n : ℕ) (s : State) : Prop where
  free : s.free + n = k
  todo : ∀ r, r < n → s.todo r = [.query, .outside, .commit]
  idle : ∀ r, n ≤ r → s.todo r = [] ∧ s.clients r = 0
  owner : ∀ l r, s.owner l = some r → ∃ i : ℕ, l = .hold i ∧ i < n

theorem Paying.next (h : Paying k n s) (hn : n < k) (hs : Steps (.start k) s) :
    ∃ s', Steps (.start k) s' ∧ Paying k (n + 1) s' := by
  have hfree := h.free
  obtain ⟨htodo, hclients⟩ := h.idle n le_rfl
  have hlock : s.owner (.hold n) = none := by
    rw [Option.eq_none_iff_forall_ne_some]
    intro r hr
    obtain ⟨i, hi, hlt⟩ := h.owner _ r hr
    obtain rfl : n = i := by simpa using hi
    omega
  have h₁ := hs.step (Step.arrives htodo hclients (.pay n none))
  have hf : 0 < (s.goto n (pay n none)).free := by
    show 0 < s.free
    omega
  have h₂ := h₁.step (Step.connects (goto_todo s n (pay n none)) hf)
  have h₃ := h₂.step (Step.locks (goto_todo _ n [.lock (.hold n), .query, .outside, .commit])
    (.inl hlock))
  refine ⟨_, h₃, ?_, fun r hr => ?_, fun r hr => ?_, fun l r hl => ?_⟩
  · show s.free - 1 + (n + 1) = k
    omega
  · rcases eq_or_ne r n with rfl | hne
    · simp [State.goto]
    · simpa [State.goto, State.take, State.setClients, Function.update_of_ne hne] using
        h.todo r (by omega)
  · have hne : r ≠ n := by omega
    simpa [State.goto, State.take, State.setClients, Function.update_of_ne hne] using
      h.idle r (by omega)
  · rcases eq_or_ne l (.hold n) with rfl | hne
    · exact ⟨n, rfl, Nat.lt_succ_self n⟩
    · obtain ⟨i, hi, hlt⟩ := h.owner l r
        (by simpa [State.goto, State.take, State.setClients, Function.update_of_ne hne] using hl)
      exact ⟨i, hi, Nat.lt_succ_of_lt hlt⟩

theorem paying_run (k : ℕ) (hn : n ≤ k) : ∃ s, Steps (.start k) s ∧ Paying k n s := by
  induction n with
  | zero => exact ⟨.start k, .refl, rfl, by simp, fun _ _ => ⟨rfl, rfl⟩, by simp [State.start]⟩
  | succ n ih =>
    obtain ⟨s, hs, hp⟩ := ih (by omega)
    exact hp.next (by omega) hs

theorem Paying.wedged (h : Paying k k s) (hk : 0 < k) : s.Wedged {r | r < k} := by
  have hfree := h.free
  refine ⟨⟨0, hk⟩, fun r hr => .client .query [.outside, .commit] (h.todo r hr) (.inr rfl)
    (by omega) fun q hq => ?_⟩
  by_contra hlt
  have := (h.idle q (by simpa using hlt)).2
  omega

theorem wedges (hk : 0 < k) : ∃ s W, Steps (.start k) s ∧ s.Wedged W := by
  obtain ⟨s, hs, hp⟩ := paying_run k le_rfl
  exact ⟨s, _, hs, hp.wedged hk⟩

theorem not_neverWedged (k : ℕ) (hk : 0 < k) : ¬ NeverWedged k := by
  intro hnever
  obtain ⟨s, W, hs, hw⟩ := wedges hk
  exact hnever s hs W hw

theorem not_neverWedged_one : ¬ NeverWedged 1 := not_neverWedged 1 Nat.one_pos

/-- Ten payments wedge a pool of the default size. -/
theorem ten_payments_wedge : ¬ NeverWedged 10 := by
  intro hnever
  obtain ⟨s, W, hs, hw⟩ := wedges (k := 10) (by decide)
  exact hnever s hs W hw

end Kippu.Pooling
