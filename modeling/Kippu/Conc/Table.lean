import Mathlib.Data.Finset.Card
import Mathlib.Data.Finset.Filter

/-!
# Tables

A table of a store: rows by key, of which finitely many are there. Statements
select rows by a decidable condition; what they count is a number of keys, so
that two states of a table compare by inclusion of the keys selected.
-/

namespace Conc

structure Table (V : Type) where
  get : ℕ → Option V
  ids : Finset ℕ
  mem_ids : ∀ k, k ∈ ids ↔ (get k).isSome

namespace Table

variable {V : Type}

def empty : Table V := ⟨fun _ => none, ∅, by simp⟩

def set (t : Table V) (k : ℕ) (v : V) : Table V :=
  ⟨fun j => if j = k then some v else t.get j, insert k t.ids, fun j => by
    by_cases h : j = k <;> simp [h, t.mem_ids]⟩

def update (t : Table V) (k : ℕ) (f : V → V) : Table V :=
  match t.get k with
  | none => t
  | some v => t.set k (f v)

def erase (t : Table V) (k : ℕ) : Table V :=
  ⟨fun j => if j = k then none else t.get j, t.ids.erase k, fun j => by
    by_cases h : j = k <;> simp [h, t.mem_ids]⟩

def eraseAll (t : Table V) (c : V → Bool) : Table V :=
  ⟨fun j => (t.get j).filter (!c ·), t.ids.filter fun j => ((t.get j).filter (!c ·)).isSome,
    fun j => by
      simp only [Finset.mem_filter, t.mem_ids]
      cases t.get j <;> simp⟩

def mapRows (t : Table V) (f : V → V) : Table V :=
  ⟨fun j => (t.get j).map f, t.ids, fun j => by simp [t.mem_ids]⟩

def select (t : Table V) (c : V → Bool) : Finset ℕ := t.ids.filter fun k => (t.get k).any c

def count (t : Table V) (c : V → Bool) : ℕ := (t.select c).card

def any (t : Table V) (c : V → Bool) : Bool := decide (t.select c).Nonempty

-- ---------------------------------------------------------------------------
-- Rows after a write
-- ---------------------------------------------------------------------------

@[simp] theorem get_empty : (empty : Table V).get k = none := rfl

theorem get_set (t : Table V) : (t.set k v).get j = if j = k then some v else t.get j := rfl

@[simp] theorem get_set_self (t : Table V) : (t.set k v).get k = some v := by simp [get_set]

theorem get_set_ne (t : Table V) (h : j ≠ k) : (t.set k v).get j = t.get j := by
  simp [get_set, h]

theorem get_update (t : Table V) :
    (t.update k f).get j = if j = k then (t.get k).map f else t.get j := by
  unfold update
  cases h : t.get k with
  | none => by_cases hj : j = k <;> simp [hj, h]
  | some v => by_cases hj : j = k <;> simp [get_set, hj]

@[simp] theorem get_update_self (t : Table V) : (t.update k f).get k = (t.get k).map f := by
  simp [get_update]

theorem get_update_ne (t : Table V) (h : j ≠ k) : (t.update k f).get j = t.get j := by
  simp [get_update, h]

theorem get_update_some (t : Table V) (h : (t.update k f).get j = some v) :
    ∃ v', t.get j = some v' ∧ (j = k ∧ v = f v' ∨ j ≠ k ∧ v = v') := by
  rw [get_update] at h
  by_cases hj : j = k
  · subst hj
    simp only [↓reduceIte, Option.map_eq_some_iff] at h
    obtain ⟨v', hv', rfl⟩ := h
    exact ⟨v', hv', .inl ⟨rfl, rfl⟩⟩
  · simp only [hj, ↓reduceIte] at h
    exact ⟨v, h, .inr ⟨hj, rfl⟩⟩

theorem get_erase (t : Table V) : (t.erase k).get j = if j = k then none else t.get j := rfl

@[simp] theorem get_eraseAll (t : Table V) {c : V → Bool} :
    (t.eraseAll c).get j = (t.get j).filter (!c ·) := rfl

theorem get_update_of_some {t : Table V} (f : V → V) (h : t.get i = some x) (j : ℕ) :
    (t.update i f).get j = if j = i then some (f x) else t.get j := by
  rw [get_update, h]
  rfl

-- ---------------------------------------------------------------------------
-- Selections
-- ---------------------------------------------------------------------------

@[simp] theorem mem_select (t : Table V) {c : V → Bool} :
    k ∈ t.select c ↔ ∃ v, t.get k = some v ∧ c v = true := by
  simp only [select, Finset.mem_filter, t.mem_ids]
  cases t.get k <;> simp

theorem any_iff (t : Table V) {c : V → Bool} :
    t.any c = true ↔ ∃ k v, t.get k = some v ∧ c v = true := by
  rw [any, decide_eq_true_iff, Finset.Nonempty]
  exact exists_congr fun k => t.mem_select

theorem any_eq_false (t : Table V) {c : V → Bool} :
    t.any c = false ↔ ∀ k v, t.get k = some v → c v = false := by
  rw [← Bool.not_eq_true, any_iff]
  simp

theorem count_le {t t' : Table V} {c : V → Bool} (h : t'.select c ⊆ t.select c) :
    t'.count c ≤ t.count c := Finset.card_le_card h

theorem select_set_subset (t : Table V) {c : V → Bool} :
    (t.set k v).select c ⊆ insert k (t.select c) := by
  intro j hj
  by_cases h : j = k
  · simp [h]
  · simp only [mem_select, get_set_ne _ h] at hj
    simp [hj]

theorem count_set_le (t : Table V) {c : V → Bool} : (t.set k v).count c ≤ t.count c + 1 :=
  (Finset.card_le_card t.select_set_subset).trans (Finset.card_insert_le _ _)

theorem select_set_of_not (t : Table V) {c : V → Bool} (h : c v = false) :
    (t.set k v).select c ⊆ t.select c := by
  intro j hj
  by_cases hjk : j = k
  · simp [hjk, h] at hj
  · simpa [get_set_ne _ hjk] using hj

/-- Changing a row adds nothing when the condition held of it before wherever it holds after. -/
theorem select_update_subset (t : Table V) {c : V → Bool}
    (h : ∀ v, t.get k = some v → c (f v) = true → c v = true) :
    (t.update k f).select c ⊆ t.select c := by
  intro j hj
  obtain ⟨v, hv, hc⟩ := (mem_select _).mp hj
  obtain ⟨v', hv', ⟨rfl, rfl⟩ | ⟨-, rfl⟩⟩ := t.get_update_some hv
  · exact (mem_select _).mpr ⟨v', hv', h v' hv' hc⟩
  · exact (mem_select _).mpr ⟨_, hv', hc⟩

theorem select_erase (t : Table V) {c : V → Bool} :
    (t.erase k).select c = (t.select c).erase k := by
  ext j
  by_cases h : j = k <;> simp [get_erase, h]

theorem select_erase_subset (t : Table V) {c : V → Bool} :
    (t.erase k).select c ⊆ t.select c := by
  intro j hj
  obtain ⟨v, hv, hc⟩ := (mem_select _).mp hj
  rw [get_erase] at hv
  split at hv
  · cases hv
  · exact (mem_select _).mpr ⟨v, hv, hc⟩

theorem count_le_add {t : Table V} {a b c : V → Bool}
    (h : ∀ k v, t.get k = some v → c v = true → a v = true ∨ b v = true) :
    t.count c ≤ t.count a + t.count b := by
  refine (Finset.card_le_card fun k hk => ?_).trans (Finset.card_union_le _ _)
  obtain ⟨v, hv, hc⟩ := t.mem_select.mp hk
  rw [Finset.mem_union, mem_select, mem_select]
  rcases h k v hv hc with ha | hb
  · exact .inl ⟨v, hv, ha⟩
  · exact .inr ⟨v, hv, hb⟩

theorem count_add_le {t : Table V} {a b c : V → Bool} (ha : ∀ v, a v = true → c v = true)
    (hb : ∀ v, b v = true → c v = true) (hab : ∀ v, a v = true → b v = false) :
    t.count a + t.count b ≤ t.count c := by
  have hd : Disjoint (t.select a) (t.select b) := by
    refine Finset.disjoint_left.mpr fun k hk hk' => ?_
    obtain ⟨v, hv, hav⟩ := t.mem_select.mp hk
    obtain ⟨v', hv', hbv⟩ := t.mem_select.mp hk'
    obtain rfl := Option.some.inj (hv.symm.trans hv')
    simp [hab v hav] at hbv
  rw [count, count, ← Finset.card_union_of_disjoint hd]
  refine Finset.card_le_card fun k hk => ?_
  rcases Finset.mem_union.mp hk with hk | hk
  · obtain ⟨v, hv, h⟩ := t.mem_select.mp hk
    exact t.mem_select.mpr ⟨v, hv, ha v h⟩
  · obtain ⟨v, hv, h⟩ := t.mem_select.mp hk
    exact t.mem_select.mpr ⟨v, hv, hb v h⟩

theorem count_update_le (t : Table V) {c : V → Bool} :
    (t.update k f).count c ≤ (t.erase k).count c + 1 := by
  refine (Finset.card_le_card (t := insert k ((t.erase k).select c)) fun j hj => ?_).trans
    (Finset.card_insert_le _ _)
  by_cases h : j = k
  · simp [h]
  · simp only [mem_select, get_update_ne _ h] at hj
    simp [get_erase, h, hj]

theorem count_erase_le (t : Table V) {c : V → Bool} : (t.erase k).count c ≤ t.count c :=
  count_le t.select_erase_subset

theorem count_erase_lt {t : Table V} {c : V → Bool} (h : t.get k = some v) (hc : c v = true) :
    (t.erase k).count c + 1 = t.count c := by
  rw [count, select_erase]
  exact Finset.card_erase_add_one (t.mem_select.mpr ⟨v, h, hc⟩)

end Table

end Conc
