import Mathlib.Data.List.Basic
import Mathlib.Data.List.Sort
import Mathlib.Data.Set.Finite.Basic
import Mathlib.Data.Finset.Max
import Mathlib.Logic.Function.Basic

/-!
# Tables kept from a log

A log is applied record by record to tables of keyed rows. A record concerns some
keys of a table, and leaves the rows of the others. What such a table holds is
then what the records that concern a key say: the last of them, where each
overwrites the row, or the first, where none does. A query selects rows in an
order.
-/

namespace Kippu.Logged

variable {R κ ρ α : Type}

-- ---------------------------------------------------------------------------
-- What a log tells of a key
-- ---------------------------------------------------------------------------

/-- What the records of a log that concern a key say, each with its place, in order. -/
def said [DecidableEq κ] (concerns : R → Option κ) (tells : ℕ → R → α) (log : List R) (key : κ) :
    List α :=
  log.zipIdx.filterMap fun (r, n) => if concerns r = some key then some (tells n r) else none

variable {concerns : R → Option κ} {tells : ℕ → R → α} {log : List R} {r : R} {key : κ}

@[simp] theorem said_nil [DecidableEq κ] : said concerns tells [] key = [] := rfl

theorem said_snoc [DecidableEq κ] : said concerns tells (log ++ [r]) key =
    said concerns tells log key ++ if concerns r = some key then [tells log.length r] else [] := by
  rw [said, List.zipIdx_append, List.filterMap_append]
  congr 1
  simp only [List.zipIdx_singleton, Nat.zero_add]
  split <;> simp [*]

theorem mem_said [DecidableEq κ] {a : α} : a ∈ said concerns tells log key ↔
    ∃ n r, log[n]? = some r ∧ concerns r = some key ∧ tells n r = a := by
  simp only [said, List.mem_filterMap, Prod.exists, List.mem_zipIdx_iff_getElem?,
    Option.ite_none_right_eq_some, Option.some.injEq]
  exact ⟨fun ⟨r, n, h⟩ => ⟨n, r, h⟩, fun ⟨n, r, h⟩ => ⟨r, n, h⟩⟩

theorem zipIdx_ordered (log : List R) : log.zipIdx.Pairwise fun a b => a.2 < b.2 := by
  refine List.pairwise_map.mp ?_
  rw [List.zipIdx_map_snd]
  exact List.pairwise_lt_range'

theorem said_ordered [DecidableEq κ] : (said concerns (fun n _ => n) log key).Pairwise (· < ·) := by
  refine List.pairwise_filterMap.mpr ((zipIdx_ordered log).imp fun {a b} hab n hn m hm => ?_)
  obtain ⟨-, hn⟩ := Option.ite_none_right_eq_some.mp hn
  obtain ⟨-, hm⟩ := Option.ite_none_right_eq_some.mp hm
  rwa [← Option.some.inj hn, ← Option.some.inj hm]

theorem mem_keys_of_said [DecidableEq κ] {a : α} (h : a ∈ said concerns tells log key) :
    key ∈ log.filterMap concerns := by
  obtain ⟨n, r, hr, hkey, -⟩ := mem_said.mp h
  exact List.mem_filterMap.mpr ⟨r, List.mem_of_getElem? hr, hkey⟩

-- ---------------------------------------------------------------------------
-- One record
-- ---------------------------------------------------------------------------

/-- A record rewrites the rows of the keys it concerns, each as `new` allows, and no other. -/
structure Rewrites (concerned : κ → Prop) (t t' : κ → Option ρ) (new : κ → Option ρ → ρ → Prop) :
    Prop where
  changed : ∀ key, concerned key → ∃ row, t' key = some row ∧ new key (t key) row
  kept : ∀ key, ¬ concerned key → t' key = t key

theorem Rewrites.none {concerned : κ → Prop} {t : κ → Option ρ} {new : κ → Option ρ → ρ → Prop}
    (h : ∀ key, ¬ concerned key) : Rewrites concerned t t new :=
  ⟨fun key hkey => absurd hkey (h key), fun _ _ => rfl⟩

theorem Rewrites.one [DecidableEq κ] {concerned : κ → Prop} {t : κ → Option ρ}
    {new : κ → Option ρ → ρ → Prop} {key : κ} {row : ρ}
    (h : ∀ other, concerned other ↔ other = key) (hnew : new key (t key) row) :
    Rewrites concerned t (Function.update t key (some row)) new where
  changed other hother := by
    obtain rfl := (h other).mp hother
    exact ⟨row, Function.update_self .., hnew⟩
  kept other hother := Function.update_of_ne (fun heq => hother ((h other).mpr heq)) ..

variable {t t' : κ → Option ρ} {new : κ → Option ρ → ρ → Prop} {g : ρ → α}

/-- A table whose rows are overwritten holds what was last said. -/
theorem Rewrites.last [DecidableEq κ] (hw : Rewrites (fun key => concerns r = some key) t t' new)
    (hnew : ∀ key old row, new key old row → g row = tells log.length r)
    (ht : ∀ key, (t key).map g = (said concerns tells log key).getLast?) :
    ∀ key, (t' key).map g = (said concerns tells (log ++ [r]) key).getLast? := by
  intro key
  rw [said_snoc]
  by_cases hkey : concerns r = some key
  · obtain ⟨row, hrow, hsaid⟩ := hw.changed key hkey
    simp [hkey, hrow, hnew key _ row hsaid]
  · simp [hkey, hw.kept key hkey, ht key]

/-- A table whose rows are never overwritten holds what was first said. -/
theorem Rewrites.first [DecidableEq κ] (hw : Rewrites (fun key => concerns r = some key) t t' new)
    (hnew : ∀ key old row, concerns r = some key → new key old row →
      g row = (old.map g).getD (tells log.length r))
    (ht : ∀ key, (t key).map g = (said concerns tells log key).head?) :
    ∀ key, (t' key).map g = (said concerns tells (log ++ [r]) key).head? := by
  intro key
  rw [said_snoc]
  by_cases hkey : concerns r = some key
  · obtain ⟨row, hrow, hsaid⟩ := hw.changed key hkey
    rw [hrow, Option.map_some, hnew key _ row hkey hsaid, ht key, if_pos hkey, List.head?_append]
    cases (said concerns tells log key).head? <;> rfl
  · simp [hkey, hw.kept key hkey, ht key]

-- ---------------------------------------------------------------------------
-- Queries
-- ---------------------------------------------------------------------------

variable {β : Type} [LinearOrder β]

/-- The rows a query selects, in its order. -/
structure Selects (table : κ → Option ρ) (chosen : κ → ρ → Prop) (orderBy : κ → ρ → β)
    (rows : List (κ × ρ)) : Prop where
  mem : ∀ key row, (key, row) ∈ rows ↔ table key = some row ∧ chosen key row
  ordered : rows.Pairwise fun a b => orderBy a.1 a.2 < orderBy b.1 b.2

variable {table : κ → Option ρ} {chosen : κ → ρ → Prop} {orderBy : κ → ρ → β}
  {rows rows' : List (κ × ρ)}

theorem Selects.nodup (h : Selects table chosen orderBy rows) : rows.Nodup :=
  h.ordered.imp fun hab heq => absurd hab (by rw [heq]; exact lt_irrefl _)

theorem Selects.unique (h : Selects table chosen orderBy rows)
    (h' : Selects table chosen orderBy rows') : rows = rows' := by
  have hperm := (List.perm_ext_iff_of_nodup h.nodup h'.nodup).mpr
    fun x => (h.mem x.1 x.2).trans (h'.mem x.1 x.2).symm
  exact hperm.eq_of_pairwise (fun a b _ _ hab hba => absurd hba hab.not_gt) h.ordered h'.ordered

/-- A query of a table with finitely many rows has an answer, if its order tells them apart. -/
theorem Selects.exists [DecidableEq κ] {keys : List κ} (chosen : κ → ρ → Prop) (orderBy : κ → ρ → β)
    (hkeys : ∀ key row, table key = some row → key ∈ keys)
    (horder : ∀ key row key' row', table key = some row → chosen key row → table key' = some row' →
      chosen key' row' → orderBy key row = orderBy key' row' → key = key') :
    ∃ rows, Selects table chosen orderBy rows := by
  classical
  let held := (keys.dedup.filterMap fun key => (table key).map (key, ·)).filter
    fun x => chosen x.1 x.2
  have hmem : ∀ key row, (key, row) ∈ held ↔ table key = some row ∧ chosen key row := by
    intro key row
    simp only [held, List.mem_filter, List.mem_filterMap, List.mem_dedup, Option.map_eq_some_iff,
      Prod.mk.injEq, decide_eq_true_eq]
    constructor
    · rintro ⟨⟨key', -, row', h, rfl, rfl⟩, hchosen⟩
      exact ⟨h, hchosen⟩
    · rintro ⟨h, hchosen⟩
      exact ⟨⟨key, hkeys key row h, row, h, rfl, rfl⟩, hchosen⟩
  have hnodup : held.Nodup := by
    refine ((List.nodup_dedup keys).filterMap fun key key' x hx hx' => ?_).filter _
    obtain ⟨row, -, rfl⟩ := Option.map_eq_some_iff.mp hx
    obtain ⟨row', -, heq⟩ := Option.map_eq_some_iff.mp hx'
    exact (congrArg Prod.fst heq).symm
  let le : κ × ρ → κ × ρ → Bool := fun a b => orderBy a.1 a.2 ≤ orderBy b.1 b.2
  have htrans : ∀ a b c, le a b → le b c → le a c := fun a b c hab hbc =>
    decide_eq_true ((of_decide_eq_true hab).trans (of_decide_eq_true hbc))
  have htotal : ∀ a b, le a b || le b a := fun a b => by
    simpa [le] using le_total (orderBy a.1 a.2) (orderBy b.1 b.2)
  let sorted := held.mergeSort le
  have hsorted : sorted.Pairwise (le · ·) := List.pairwise_mergeSort htrans htotal held
  have hmem' : ∀ x, x ∈ sorted ↔ table x.1 = some x.2 ∧ chosen x.1 x.2 := fun x =>
    List.mem_mergeSort.trans (hmem x.1 x.2)
  refine ⟨sorted, fun key row => hmem' (key, row), ?_⟩
  refine (hsorted.and ((held.mergeSort_perm le).symm.nodup hnodup)).imp_of_mem ?_
  rintro ⟨key, row⟩ ⟨key', row'⟩ hx hx' ⟨hle, hne⟩
  obtain ⟨hrow, hchosen⟩ := (hmem' _).mp hx
  obtain ⟨hrow', hchosen'⟩ := (hmem' _).mp hx'
  refine lt_of_le_of_ne (of_decide_eq_true hle) fun heq => hne ?_
  obtain rfl := horder key row key' row' hrow hchosen hrow' hchosen' heq
  exact congrArg (Prod.mk key) (Option.some.inj (hrow.symm.trans hrow'))

theorem min_eq_head? {xs : List β} {values : Finset β} (hordered : xs.Pairwise (· < ·))
    (hmem : ∀ b, b ∈ values ↔ b ∈ xs) : values.min = (xs.head? : WithTop β) := by
  cases xs with
  | nil =>
    have hempty : values = ∅ := Finset.eq_empty_of_forall_notMem fun b hb => by
      simpa using (hmem b).mp hb
    rw [hempty]
    rfl
  | cons a xs =>
    refine le_antisymm (Finset.min_le ((hmem a).mpr List.mem_cons_self)) ?_
    refine Finset.le_min fun b hb => WithTop.coe_le_coe.mpr ?_
    cases List.mem_cons.mp ((hmem b).mp hb) with
    | inl heq => exact heq.ge
    | inr hrest => exact ((List.pairwise_cons.mp hordered).1 b hrest).le

theorem Selects.mem_map {project : κ → ρ → α} {told : κ → Option α} {keyOf : α → κ}
    {shown : α → Prop} (h : Selects table chosen orderBy rows)
    (htold : ∀ key, (table key).map (project key) = told key)
    (hkey : ∀ key row, keyOf (project key row) = key)
    (hshown : ∀ key row, chosen key row ↔ shown (project key row)) (a : α) :
    a ∈ rows.map (fun x => project x.1 x.2) ↔ told (keyOf a) = some a ∧ shown a := by
  simp only [List.mem_map, Prod.exists, h.mem, hshown, ← htold, Option.map_eq_some_iff]
  constructor
  · rintro ⟨key, row, ⟨hrow, ha⟩, rfl⟩
    exact ⟨⟨row, by rwa [hkey], by rw [hkey]⟩, ha⟩
  · rintro ⟨⟨row, hrow, heq⟩, ha⟩
    exact ⟨keyOf a, row, ⟨hrow, by rwa [heq]⟩, heq⟩

end Kippu.Logged
