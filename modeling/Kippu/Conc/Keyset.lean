import Mathlib.Order.Lattice
import Mathlib.Data.List.Pairwise
import Mathlib.Data.List.Nodup
import Mathlib.Data.List.Infix

/-!
# Keyset paging

A set is read page by page in descending order, each page starting below the last
key of the page before. The set may be another at each page: nothing is assumed
of what it contains from one page to the next.
-/

namespace Conc.Keyset

variable {κ : Type} [LinearOrder κ]

/-- A page of a set, read below an anchor: what it shows, and whether more follows. -/
structure Page (S : κ → Prop) (after : Option κ) (shown : List κ) (more : Bool) : Prop where
  descending : shown.Pairwise (· > ·)
  mem : ∀ k ∈ shown, S k
  below : ∀ k ∈ shown, ∀ a ∈ after, k < a
  nonempty : more = true → shown ≠ []
  /-- What is not shown is below the last key, and then more follows. -/
  complete : ∀ k, S k → (∀ a ∈ after, k < a) →
    k ∈ shown ∨ more = true ∧ ∀ l ∈ shown.getLast?, k < l

theorem lt_of_mem_drop {rows : List κ} (h : rows.Pairwise (· > ·)) (hk : k ∈ rows.drop n)
    (hl : l ∈ rows.take n) : k < l := by
  rw [← List.take_append_drop n rows] at h
  exact (List.pairwise_append.mp h).2.2 l hl k hk

/-- One row more than shown is read, to know whether more follows. -/
theorem page_take {S : κ → Prop} {after : Option κ} {rows : List κ} {limit : ℕ}
    (hrows : rows.Pairwise (· > ·)) (hmem : ∀ k, k ∈ rows ↔ S k ∧ ∀ a ∈ after, k < a)
    (hlimit : 0 < limit) :
    Page S after ((rows.take (limit + 1)).take limit)
      (decide (limit < (rows.take (limit + 1)).length)) := by
  have htake : (rows.take (limit + 1)).take limit = rows.take limit := by
    rw [List.take_take, Nat.min_eq_left (Nat.le_succ limit)]
  rw [htake]
  have hsub : ∀ k ∈ rows.take limit, k ∈ rows := fun k hk => List.mem_of_mem_take hk
  exact {
    descending := hrows.sublist (List.take_sublist limit rows)
    mem := fun k hk => ((hmem k).mp (hsub k hk)).1
    below := fun k hk => ((hmem k).mp (hsub k hk)).2
    nonempty := by
      intro hmore hempty
      have hlen := congrArg List.length hempty
      simp only [List.length_take, decide_eq_true_eq, List.length_nil] at hmore hlen
      omega
    complete := by
      intro k hk hbelow
      have hrow := (hmem k).mpr ⟨hk, hbelow⟩
      rw [← List.take_append_drop limit rows, List.mem_append] at hrow
      cases hrow with
      | inl hshown => exact .inl hshown
      | inr hrest =>
        right
        have hlen := List.length_pos_of_mem hrest
        refine ⟨?_, fun l hl => lt_of_mem_drop hrows hrest (List.mem_of_getLast? hl)⟩
        simp only [List.length_drop, List.length_take, decide_eq_true_eq] at hlen ⊢
        omega }

-- ---------------------------------------------------------------------------
-- Walks
-- ---------------------------------------------------------------------------

def anchor (shown : ℕ → List κ) : ℕ → Option κ
  | 0 => none
  | i + 1 => (shown i).getLast?

/-- `n` pages, each of the set as it is when the page is read, and none after a last one. -/
structure Walk (S : ℕ → κ → Prop) (shown : ℕ → List κ) (more : ℕ → Bool) (n : ℕ) : Prop where
  page : ∀ i < n, Page (S i) (anchor shown i) (shown i) (more i)
  goesOn : ∀ i, i + 1 < n → more i = true

def visited (shown : ℕ → List κ) : ℕ → List κ
  | 0 => []
  | n + 1 => visited shown n ++ shown n

variable {S : ℕ → κ → Prop} {shown : ℕ → List κ} {more : ℕ → Bool}

theorem Walk.take (h : Walk S shown more n) (hm : m ≤ n) : Walk S shown more m :=
  ⟨fun i hi => h.page i (hi.trans_le hm), fun i hi => h.goesOn i (hi.trans_le hm)⟩

theorem le_of_mem_of_last {keys : List κ} (h : keys.Pairwise (· > ·)) (hl : l ∈ keys.getLast?)
    (hk : k ∈ keys) : l ≤ k := by
  obtain ⟨front, rfl⟩ := List.getLast?_eq_some_iff.mp hl
  cases List.mem_append.mp hk with
  | inl hfront => exact le_of_lt ((List.pairwise_append.mp h).2.2 k hfront l (by simp))
  | inr hlast => exact le_of_eq (List.mem_singleton.mp hlast).symm

/-- The keys of the pages so far descend, down to where the next page is read from. -/
theorem Walk.descends (h : Walk S shown more n) :
    (visited shown n).Pairwise (· > ·) ∧
      (0 < n → more (n - 1) = true → ∃ a ∈ anchor shown n, ∀ k ∈ visited shown n, a ≤ k) := by
  induction n with
  | zero => exact ⟨.nil, fun h => absurd h (Nat.lt_irrefl 0)⟩
  | succ n ih =>
    obtain ⟨hsorted, hanchor⟩ := ih (h.take (Nat.le_succ n))
    have hpage := h.page n (Nat.lt_succ_self n)
    have habove : ∀ k ∈ visited shown n, ∀ l ∈ shown n, l < k := by
      intro k hk l hl
      cases n with
      | zero => exact absurd hk List.not_mem_nil
      | succ m =>
        obtain ⟨a, ha, hle⟩ := hanchor (Nat.succ_pos m) (h.goesOn m (Nat.lt_succ_self _))
        exact (hpage.below l hl a ha).trans_le (hle k hk)
    refine ⟨List.pairwise_append.mpr ⟨hsorted, hpage.descending, habove⟩, fun _ hmore => ?_⟩
    obtain ⟨l, hl⟩ := Option.ne_none_iff_exists'.mp
      (mt List.getLast?_eq_none_iff.mp (hpage.nonempty hmore))
    refine ⟨l, hl, fun k hk => ?_⟩
    cases List.mem_append.mp hk with
    | inl hearlier => exact le_of_lt (habove k hearlier l (List.mem_of_getLast? hl))
    | inr hshown => exact le_of_mem_of_last hpage.descending hl hshown

/-- A key that was there at every page is shown, or below where the next page is read from. -/
theorem Walk.covers (h : Walk S shown more n) (hk : ∀ i < n, S i k) :
    k ∈ visited shown n ∨ (0 < n → more (n - 1) = true) ∧ ∀ a ∈ anchor shown n, k < a := by
  induction n with
  | zero => exact .inr ⟨fun h => absurd h (Nat.lt_irrefl 0), fun a ha => nomatch ha⟩
  | succ n ih =>
    cases ih (h.take (Nat.le_succ n)) fun i hi => hk i (Nat.lt_succ_of_lt hi) with
    | inl hearlier => exact .inl (List.mem_append_left _ hearlier)
    | inr hbelow =>
      cases (h.page n (Nat.lt_succ_self n)).complete k (hk n (Nat.lt_succ_self n)) hbelow.2 with
      | inl hshown => exact .inl (List.mem_append_right _ hshown)
      | inr hrest => exact .inr ⟨fun _ => hrest.1, hrest.2⟩

/-- A walk to the end shows every key that was there at every page. -/
theorem Walk.complete (h : Walk S shown more n) (hn : 0 < n) (hend : more (n - 1) = false)
    (hk : ∀ i < n, S i k) : k ∈ visited shown n := by
  cases h.covers hk with
  | inl hvisited => exact hvisited
  | inr hrest =>
    have hmore := hrest.1 hn
    rw [hend] at hmore
    cases hmore

theorem Walk.length_le_of_goesOn (h : Walk S shown more n) (hmore : ∀ i < n, more i = true) :
    n ≤ (visited shown n).length := by
  induction n with
  | zero => exact Nat.zero_le _
  | succ n ih =>
    have hn := ih (h.take (Nat.le_succ n)) fun i hi => hmore i (Nat.lt_succ_of_lt hi)
    have hpos := List.length_pos_of_ne_nil
      ((h.page n (Nat.lt_succ_self n)).nonempty (hmore n (Nat.lt_succ_self n)))
    rw [visited, List.length_append]
    omega

theorem Walk.le_length (h : Walk S shown more n) : n ≤ (visited shown n).length + 1 := by
  cases n with
  | zero => exact Nat.zero_le _
  | succ n =>
    have hn := (h.take (Nat.le_succ n)).length_le_of_goesOn fun i hi =>
      h.goesOn i (Nat.succ_lt_succ hi)
    rw [visited, List.length_append]
    omega

end Conc.Keyset
