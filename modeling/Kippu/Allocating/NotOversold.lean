import Kippu.Allocating.Runs

/-!
# No event is oversold

What is allocated grows only under the event's allocation lock, and only where one more
was counted to fit. Without the lock a hold ends, or the one process that issues a
ticket records what became of it: what is allocated then shrinks (`not_oversold`).
-/

namespace Kippu.Allocating

open Conc (Table)

variable {quota : ClassId → Option ℕ} {s s' s₀ : State} {c d : Call} {t : Task} {ask : Ask}
  {k : ClassId} {n n' : (ClassId → Bool) → ℕ}

def State.allocatedBut (s : State) (i : HoldId) (p : ClassId → Bool) : ℕ :=
  (s.holds.erase i).count (fun h => h.taken && p h.classId) +
    s.grants.count fun g => g.undertaken && p g.classId

/-- Whether so many are within the capacity while the event is active, and within the quotas. -/
def State.Within (quota : ClassId → Option ℕ) (n : (ClassId → Bool) → ℕ) (s : State) : Prop :=
  (s.ledger.status = .active → ∀ m ∈ s.ledger.maxCapacity, n (fun _ => true) ≤ m) ∧
    ∀ k q, quota k = some q → n (fun k' => k' = k) ≤ q

def State.Room (quota : ClassId → Option ℕ) (n : (ClassId → Bool) → ℕ) (k : ClassId)
    (s : State) : Prop :=
  (s.ledger.status = .active → ∀ m ∈ s.ledger.maxCapacity, n (fun _ => true) < m) ∧
    ∀ q, quota k = some q → n (fun k' => k' = k) < q

def State.Asks (s : State) (ask : Ask) (k : ClassId) : Prop :=
  ∀ i, ask = .take i → ∃ hold, s.holds.get i = some hold ∧ hold.classId = k

/-- Nothing allocated is missing from the counts of the class. -/
structure State.Covers (s : State) (quota : ClassId → Option ℕ) (k : ClassId)
    (counts : AllocationCounts) : Prop where
  event : s.allocated (fun _ => true) ≤ counts.eventHolds + counts.purchased + counts.granted
  ofClass : s.allocated (fun k' => k' = k) ≤
    counts.classHolds + counts.classPurchased + counts.classGranted
  quota : counts.quota = quota k

def State.Ok (quota : ClassId → Option ℕ) (s : State) : Task → Prop
  | .locked ask k => s.Asks ask k
  | .counted ask k counts => s.Asks ask k ∧ s.Covers quota k counts
  | .admitted (.take i) k => s.Asks (.take i) k ∧ s.Room quota (s.allocatedBut i) k
  | .admitted _ k => s.Room quota s.allocated k
  | .owned _ active => active = false → s.ledger.status ≠ .active
  | .checked capacity => s.ledger.status = .active → s.allocated (fun _ => true) ≤ capacity
  | .awaiting capacity => s.ledger.status = .active → s.allocated (fun _ => true) ≤ capacity
  | _ => True

structure Inv (quota : ClassId → Option ℕ) (s : State) : Prop where
  lock : ∀ c, (s.task c).Locked → s.lock = some c
  holder : ∀ c, s.lock = some c → (s.task c).Locked
  within : s.Within quota s.allocated
  tasks : ∀ c, s.Ok quota (s.task c)
  issuing : ∀ c i, s.task c = .issuing i →
    ∃ hold, s.holds.get i = some hold ∧ hold.status = .issuing
  issuer : ∀ c d i, s.task c = .issuing i → s.task d = .issuing i → c = d
  unissued : ∀ c i k, s.task c = .admitted (.take i) k → ∀ d, s.task d ≠ .issuing i
  granting : ∀ c g, s.task c = .granting g →
    ∃ grant, s.grants.get g = some grant ∧ grant.undertaken = true
  granter : ∀ c d g, s.task c = .granting g → s.task d = .granting g → c = d

-- ---------------------------------------------------------------------------
-- Counting
-- ---------------------------------------------------------------------------

theorem count_set_le {V : Type} (t : Table V) {i : ℕ} {v : V} {p : V → Bool} :
    (t.set i v).count p ≤ t.count p + if p v then 1 else 0 := by
  split
  next => exact t.count_set_le
  next hp => exact Table.count_le (t.select_set_of_not (by simpa using hp))

/-- A row changed counts where it did not count before it was changed. -/
theorem count_update_le {V : Type} {t : Table V} {i : ℕ} {v : V} {f : V → V} {p : V → Bool}
    (h : t.get i = some v) :
    (t.update i f).count p ≤ (t.erase i).count p + if p (f v) then 1 else 0 := by
  split
  next => exact t.count_update_le
  next hp =>
    refine Table.count_le fun j hj => ?_
    obtain ⟨x, hx, hpx⟩ := (Table.mem_select _).mp hj
    obtain ⟨y, hy, ⟨rfl, rfl⟩ | ⟨hne, rfl⟩⟩ := t.get_update_some hx
    · obtain rfl := Option.some.inj (h.symm.trans hy)
      exact absurd hpx hp
    · exact (Table.mem_select _).mpr ⟨_, by simpa [Table.get_erase, hne] using hy, hpx⟩

theorem State.allocatedBut_le (s : State) (i : HoldId) (p : ClassId → Bool) :
    s.allocatedBut i p ≤ s.allocated p :=
  Nat.add_le_add_right (Table.count_erase_le _) _

theorem Hold.taken_iff (h : Hold) : h.taken = true ↔ h.pending = true ∨ h.status = .confirmed := by
  simp only [Hold.taken, Hold.pending, decide_eq_true_eq]
  exact or_assoc.symm

theorem State.Counted.covers {counts : AllocationCounts} (hc : s.Counted quota k counts) :
    s.Covers quota k counts := by
  obtain ⟨hheld, hclassHeld, hpurchased, hclassPurchased, hgranted, hclassGranted, hquota⟩ := hc
  refine ⟨?_, ?_, hquota⟩
  · rw [hheld, hpurchased, hgranted]
    refine Nat.add_le_add (Table.count_le_add fun i hold _ h => ?_) (by simp)
    simpa [Hold.taken_iff] using h
  · rw [hclassHeld, hclassPurchased, hclassGranted]
    refine Nat.add_le_add (Table.count_le_add fun i hold _ h => ?_) (le_of_eq ?_)
    · obtain ⟨ht, hk⟩ : hold.taken = true ∧ hold.classId = k := by simpa using h
      simpa [hk] using hold.taken_iff.mp ht
    · simp [Bool.and_comm]

theorem State.Room.within (hr : s.Room quota n k) (hw : s.Within quota s.allocated)
    (hn : ∀ p, n p ≤ s.allocated p) (hn' : ∀ p, n' p ≤ n p + if p k then 1 else 0) :
    s.Within quota n' := by
  constructor
  · intro ha m hm
    have hlt := hr.1 ha m hm
    have hle := hn' fun _ => true
    simp only [↓reduceIte] at hle
    omega
  · intro k' q hq
    have hle := hn' fun x => x = k'
    rcases eq_or_ne k k' with rfl | hne
    · have hlt := hr.2 q hq
      simp only [decide_true, ↓reduceIte] at hle
      omega
    · simp only [decide_eq_true_eq, hne, ↓reduceIte] at hle
      exact (hle.trans (hn _)).trans (hw.2 k' q hq)

theorem Inv.findsOutstanding (h : Inv quota s) {i : HoldId} {hold : Hold}
    (hget : s.holds.get i = some hold) (hk : hold.classId = k)
    (hst : hold.status = .outstanding) : s.Room quota (s.allocatedBut i) k := by
  have hlt : ∀ p : ClassId → Bool, p k = true → s.allocatedBut i p < s.allocated p := by
    intro p hp
    have hcount := Table.count_erase_lt hget (c := fun h => h.taken && p h.classId)
      (by simp [Hold.taken, hst, hk, hp])
    simp only [State.allocatedBut, State.allocated]
    omega
  constructor
  · intro ha m hm
    exact (hlt _ rfl).trans_le (h.within.1 ha m hm)
  · intro q hq
    exact (hlt _ (by simp)).trans_le (h.within.2 k q hq)

theorem State.Covers.room {counts : AllocationCounts} (hc : s.Covers quota k counts)
    (hcap : s.ledger.status = .active → capacityHasRoom s.ledger counts = true)
    (hq : quotaHasRoom counts = true) : s.Room quota s.allocated k := by
  constructor
  · intro ha m hm
    have hr := hcap ha
    have he := hc.event
    rw [Option.mem_def] at hm
    simp only [capacityHasRoom, capacityRemaining, hm, Option.map_some, decide_eq_true_eq] at hr
    omega
  · intro q hk
    have he := hc.ofClass
    simp only [quotaHasRoom, quotaRemaining, hc.quota, hk, Option.map_some,
      decide_eq_true_eq] at hq
    omega

-- ---------------------------------------------------------------------------
-- What shrinks
-- ---------------------------------------------------------------------------

structure Shrinks (s s' : State) : Prop where
  allocated : ∀ p, s'.allocated p ≤ s.allocated p
  allocatedBut : ∀ i p, s'.allocatedBut i p ≤ s.allocatedBut i p
  classes : ∀ i hold, s.holds.get i = some hold →
    ∃ hold', s'.holds.get i = some hold' ∧ hold'.classId = hold.classId
  active : s'.ledger.status = .active → s.ledger.status = .active
  capacity : ∀ m' ∈ s'.ledger.maxCapacity, ∃ m ∈ s.ledger.maxCapacity, m ≤ m'

theorem Shrinks.within (hs : Shrinks s s') (h : s.Within quota s.allocated) :
    s'.Within quota s'.allocated := by
  constructor
  · intro ha m' hm'
    obtain ⟨m, hm, hle⟩ := hs.capacity m' hm'
    exact ((hs.allocated _).trans (h.1 (hs.active ha) m hm)).trans hle
  · intro k q hq
    exact (hs.allocated _).trans (h.2 k q hq)

theorem Shrinks.room (hs : Shrinks s s') (hn : ∀ p, n' p ≤ n p) (h : s.Room quota n k) :
    s'.Room quota n' k := by
  constructor
  · intro ha m' hm'
    obtain ⟨m, hm, hle⟩ := hs.capacity m' hm'
    exact ((hn _).trans_lt (h.1 (hs.active ha) m hm)).trans_le hle
  · intro q hq
    exact (hn _).trans_lt (h.2 q hq)

theorem Shrinks.asks (hs : Shrinks s s') (h : s.Asks ask k) : s'.Asks ask k := by
  intro i hi
  obtain ⟨hold, hget, rfl⟩ := h i hi
  exact hs.classes i hold hget

theorem Shrinks.ok (hs : Shrinks s s') (h : s.Ok quota t) : s'.Ok quota t := by
  cases t with
  | locked ask k => exact hs.asks h
  | counted ask k counts =>
    exact ⟨hs.asks h.1, (hs.allocated _).trans h.2.event, (hs.allocated _).trans h.2.ofClass,
      h.2.quota⟩
  | admitted ask k =>
    cases ask with
    | take i => exact ⟨hs.asks h.1, hs.room (hs.allocatedBut i) h.2⟩
    | place | reserve => exact hs.room hs.allocated h
  | owned capacity active => exact fun hf ha => h hf (hs.active ha)
  | checked capacity | awaiting capacity =>
    exact fun ha => (hs.allocated _).trans (h (hs.active ha))
  | idle | issuing i | granting g | decreasing capacity | found capacity event | ended => trivial

theorem Shrinks.of_holds {i : HoldId} {hold : Hold} {f : Hold → Hold}
    (hget : s.holds.get i = some hold) (hk : (f hold).classId = hold.classId)
    (hst : (f hold).taken = true → hold.taken = true) :
    Shrinks s (s.setHolds (s.holds.update i f)) := by
  have hsub : ∀ p : ClassId → Bool,
      (s.holds.update i f).select (fun h => h.taken && p h.classId) ⊆
        s.holds.select fun h => h.taken && p h.classId := by
    intro p
    refine Table.select_update_subset _ fun x hx hc => ?_
    obtain rfl := Option.some.inj (hget.symm.trans hx)
    rw [Bool.and_eq_true, hk] at hc
    simp [hst hc.1, hc.2]
  refine ⟨fun p => ?_, fun j p => ?_, fun j x hx => ?_, fun ha => ha, fun m hm => ⟨m, hm, le_rfl⟩⟩
  · exact Nat.add_le_add_right (Table.count_le (hsub p)) _
  · refine Nat.add_le_add_right (Table.count_le ?_) _
    simp only [State.setHolds, Table.select_erase]
    exact Finset.erase_subset_erase j (hsub p)
  · rcases eq_or_ne j i with rfl | hne
    · obtain rfl := Option.some.inj (hget.symm.trans hx)
      exact ⟨f hold, by simp [State.setHolds, hget], hk⟩
    · exact ⟨x, by simpa [State.setHolds, Table.get_update_ne _ hne] using hx, rfl⟩

theorem Shrinks.of_grants {grants : Table Granted}
    (h : ∀ p : ClassId → Bool, grants.select (fun g => g.undertaken && p g.classId) ⊆
      s.grants.select fun g => g.undertaken && p g.classId) :
    Shrinks s (s.setGrants grants) :=
  ⟨fun p => Nat.add_le_add_left (Table.count_le (h p)) _,
    fun _ p => Nat.add_le_add_left (Table.count_le (h p)) _, fun _ x hx => ⟨x, hx, rfl⟩,
    fun ha => ha, fun m hm => ⟨m, hm, le_rfl⟩⟩

theorem Shrinks.of_ledger {ledger : Event}
    (ha : ledger.status = .active → s.ledger.status = .active)
    (hm : ∀ m' ∈ ledger.maxCapacity, ∃ m ∈ s.ledger.maxCapacity, m ≤ m') :
    Shrinks s (s.setLedger ledger) :=
  ⟨fun _ => le_rfl, fun _ _ => le_rfl, fun _ x hx => ⟨x, hx, rfl⟩, ha, hm⟩

theorem Shrinks.goto (hs : Shrinks s s') (c : Call) (t : Task) : Shrinks s (s'.goto c t) :=
  ⟨hs.allocated, hs.allocatedBut, hs.classes, hs.active, hs.capacity⟩

theorem Shrinks.refl (s : State) : Shrinks s s :=
  ⟨fun _ => le_rfl, fun _ _ => le_rfl, fun _ x hx => ⟨x, hx, rfl⟩, id, fun m hm => ⟨m, hm, le_rfl⟩⟩

-- ---------------------------------------------------------------------------
-- Steps without the lock
-- ---------------------------------------------------------------------------

theorem goto_task (s : State) (c : Call) (t : Task) (d : Call) :
    (s.goto c t).task d = if d = c then t else s.task d := Function.update_apply _ _ _ _

/-- Without the lock a call ends, or does nothing, and no more is allocated. -/
theorem Inv.shrinks (h : Inv quota s) (hs : Shrinks s s') (hlock : s'.lock = s.lock)
    (htask : ∀ d, s'.task d = s.task d ∨ ¬ (s.task d).Locked ∧ s'.task d = .ended)
    (hissuing : ∀ d i, s'.task d = .issuing i → s.task d = .issuing i →
      ∃ hold, s'.holds.get i = some hold ∧ hold.status = .issuing)
    (hgranting : ∀ d g, s'.task d = .granting g → s.task d = .granting g →
      ∃ grant, s'.grants.get g = some grant ∧ grant.undertaken = true) :
    Inv quota s' := by
  have hsame : ∀ d, s'.task d ≠ .ended → s.task d = s'.task d :=
    fun d hd => ((htask d).resolve_right fun he => hd he.2).symm
  have hi : ∀ d i, s'.task d = .issuing i → s.task d = .issuing i :=
    fun d i hd => (hsame d (by simp [hd])).trans hd
  have hg : ∀ d g, s'.task d = .granting g → s.task d = .granting g :=
    fun d g hd => (hsame d (by simp [hd])).trans hd
  constructor
  case lock =>
    intro d hd
    rcases htask d with he | ⟨-, he⟩
    · exact hlock ▸ h.lock d (he ▸ hd)
    · simp [he, Task.Locked] at hd
  case holder =>
    intro d hd
    have hl := h.holder d (hlock ▸ hd)
    rcases htask d with he | ⟨hn, -⟩
    · exact he ▸ hl
    · exact absurd hl hn
  case within => exact hs.within h.within
  case tasks =>
    intro d
    rcases htask d with he | ⟨-, he⟩
    · exact he ▸ hs.ok (h.tasks d)
    · rw [he]
      trivial
  case issuing => exact fun d i hd => hissuing d i hd (hi d i hd)
  case issuer => exact fun d e i hd he => h.issuer d e i (hi d i hd) (hi e i he)
  case unissued =>
    intro d i k hd e he
    exact h.unissued d i k ((hsame d (by simp [hd])).trans hd) e (hi e i he)
  case granting => exact fun d g hd => hgranting d g hd (hg d g hd)
  case granter => exact fun d e g hd he => h.granter d e g (hg d g hd) (hg e g he)

theorem Inv.setLedger (h : Inv quota s) {ledger : Event}
    (ha : ledger.status = .active → s.ledger.status = .active)
    (hm : ∀ m' ∈ ledger.maxCapacity, ∃ m ∈ s.ledger.maxCapacity, m ≤ m') :
    Inv quota (s.setLedger ledger) :=
  h.shrinks (Shrinks.of_ledger ha hm) rfl (fun _ => .inl rfl) (fun d i _ => h.issuing d i)
    fun d g _ => h.granting d g

theorem Inv.holdEnds (h : Inv quota s) {i : HoldId} {hold : Hold} {status : HoldStatus}
    (hst : status = .lapsed ∨ status = .released) (hget : s.holds.get i = some hold)
    (ho : hold.status = .outstanding) :
    Inv quota (s.setHolds (s.holds.update i fun h => { h with status })) := by
  refine h.shrinks (Shrinks.of_holds hget rfl fun hx => ?_) rfl (fun _ => .inl rfl)
    (fun d j _ hj => ?_) fun d g _ => h.granting d g
  · rcases hst with rfl | rfl <;> simp [Hold.taken] at hx
  · obtain ⟨x, hx, hi⟩ := h.issuing d j hj
    have hne : j ≠ i := by
      rintro rfl
      obtain rfl := Option.some.inj (hget.symm.trans hx)
      simp [ho] at hi
    exact ⟨x, by simpa [State.setHolds, Table.get_update_ne _ hne] using hx, hi⟩

theorem Inv.stops (h : Inv quota s) (hc : ¬ (s.task c).Locked) (hs : Shrinks s s')
    (hlock : s'.lock = s.lock) (htask : s'.task = s.task)
    (hissuing : ∀ d i, d ≠ c → s.task d = .issuing i →
      ∃ hold, s'.holds.get i = some hold ∧ hold.status = .issuing)
    (hgranting : ∀ d g, d ≠ c → s.task d = .granting g →
      ∃ grant, s'.grants.get g = some grant ∧ grant.undertaken = true) :
    Inv quota (s'.goto c .ended) := by
  have hne : ∀ {d t}, (s'.goto c .ended).task d = t → t ≠ .ended → d ≠ c := by
    rintro d t ht htne rfl
    exact htne (by simpa [State.goto] using ht.symm)
  refine h.shrinks (hs.goto c .ended) hlock (fun d => ?_)
    (fun d i hd hi => hissuing d i (hne hd (by simp)) hi)
    (fun d g hd hg => hgranting d g (hne hd (by simp)) hg)
  rw [goto_task, htask]
  rcases eq_or_ne d c with rfl | hdc
  · exact .inr ⟨hc, by simp⟩
  · exact .inl (by simp [hdc])

/-- The one process that issues the ticket of a hold records what became of it. -/
theorem Inv.completes (h : Inv quota s) {i : HoldId} (hc : s.task c = .issuing i)
    {f : Hold → Hold} (hk : ∀ hold, (f hold).classId = hold.classId) :
    Inv quota ((s.setHolds (s.holds.update i f)).goto c .ended) := by
  obtain ⟨hold, hget, hst⟩ := h.issuing c i hc
  refine h.stops (by simp [hc, Task.Locked]) (Shrinks.of_holds hget (hk hold) fun _ => ?_) rfl rfl
    (fun d j hdc hj => ?_) fun d g _ => h.granting d g
  · simp [Hold.taken, hst]
  · have hne : j ≠ i := by
      rintro rfl
      exact hdc (h.issuer d c j hj hc)
    obtain ⟨x, hx, hi⟩ := h.issuing d j hj
    exact ⟨x, by simpa [State.setHolds, Table.get_update_ne _ hne] using hx, hi⟩

theorem Inv.grantCompletes (h : Inv quota s) {g : ℕ} (hc : s.task c = .granting g)
    {grants : Table Granted} (hne : ∀ j, j ≠ g → grants.get j = s.grants.get j)
    (hk : ∀ x y, grants.get g = some x → s.grants.get g = some y → x.classId = y.classId) :
    Inv quota ((s.setGrants grants).goto c .ended) := by
  obtain ⟨grant, hget, hu⟩ := h.granting c g hc
  refine h.stops (by simp [hc, Task.Locked]) (Shrinks.of_grants fun p j hj => ?_) rfl rfl
    (fun d i _ => h.issuing d i) fun d j hdc hj => ?_
  · obtain ⟨x, hx, hp⟩ := (Table.mem_select _).mp hj
    rw [Bool.and_eq_true] at hp
    rcases eq_or_ne j g with rfl | hjg
    · refine (Table.mem_select _).mpr ⟨grant, hget, ?_⟩
      rw [← hk x grant hx hget, hu, hp.2]
      rfl
    · exact (Table.mem_select _).mpr ⟨x, hne j hjg ▸ hx, by simp [hp]⟩
  · have hjg : j ≠ g := by
      rintro rfl
      exact hdc (h.granter d c j hj hc)
    obtain ⟨x, hx, hi⟩ := h.granting d j hj
    exact ⟨x, (hne j hjg).trans hx, hi⟩

-- ---------------------------------------------------------------------------
-- Steps under the lock
-- ---------------------------------------------------------------------------

theorem Task.Locked.ne_issuing (h : t.Locked) (i : HoldId) : t ≠ .issuing i := by
  rintro rfl
  exact h

theorem Task.Locked.ne_granting (h : t.Locked) (g : ℕ) : t ≠ .granting g := by
  rintro rfl
  exact h

theorem State.Ok.unlocked (ht : ¬ t.Locked) : s.Ok quota t := by
  cases t <;> simp [Task.Locked] at ht <;> trivial

theorem Inv.others (h : Inv quota s) (hc : (s.task c).Locked) (hne : d ≠ c) :
    ¬ (s.task d).Locked :=
  fun hd => hne (Option.some.inj ((h.lock d hd).symm.trans (h.lock c hc)))

theorem Inv.holds (h : Inv quota s) (hc : ∀ i, s.task c ≠ .issuing i)
    (hl : ∀ d, d ≠ c → ¬ (s.task d).Locked) (ht : t.Locked) (hok : s.Ok quota t)
    (hun : ∀ i k, t = .admitted (.take i) k → ∀ d, s.task d ≠ .issuing i) :
    Inv quota ({ s with lock := some c }.goto c t) := by
  have hs : Shrinks s ({ s with lock := some c }.goto c t) :=
    ⟨fun _ => le_rfl, fun _ _ => le_rfl, fun _ x hx => ⟨x, hx, rfl⟩, id,
      fun m hm => ⟨m, hm, le_rfl⟩⟩
  have htask : ∀ d, ({ s with lock := some c }.goto c t).task d = if d = c then t else s.task d :=
    goto_task _ c t
  have hi : ∀ d i, ({ s with lock := some c }.goto c t).task d = .issuing i →
      s.task d = .issuing i := by
    intro d i hd
    rw [htask] at hd
    split at hd
    · exact absurd hd (ht.ne_issuing i)
    · exact hd
  have hg : ∀ d g, ({ s with lock := some c }.goto c t).task d = .granting g →
      s.task d = .granting g := by
    intro d g hd
    rw [htask] at hd
    split at hd
    · exact absurd hd (ht.ne_granting g)
    · exact hd
  constructor
  case lock =>
    intro d hd
    rcases eq_or_ne d c with rfl | hne
    · rfl
    · rw [htask, if_neg hne] at hd
      exact absurd hd (hl d hne)
  case holder =>
    intro d hd
    obtain rfl : c = d := Option.some.inj hd
    rw [htask, if_pos rfl]
    exact ht
  case within => exact h.within
  case tasks =>
    intro d
    refine hs.ok ?_
    rw [htask]
    split
    · exact hok
    · exact h.tasks d
  case issuing => exact fun d i hd => h.issuing d i (hi d i hd)
  case issuer => exact fun d e i hd he => h.issuer d e i (hi d i hd) (hi e i he)
  case unissued =>
    intro d i k hd e he
    rw [htask] at hd
    split at hd
    · exact hun i k hd e (hi e i he)
    · exact h.unissued d i k hd e (hi e i he)
  case granting => exact fun d g hd => h.granting d g (hg d g hd)
  case granter => exact fun d e g hd he => h.granter d e g (hg d g hd) (hg e g he)

theorem Inv.takesLock (h : Inv quota s) (hc : s.task c = .idle) (hl : s.lock = none)
    (ht : t.Locked) (hok : s.Ok quota t) (hun : ∀ i k, t ≠ .admitted (.take i) k) :
    Inv quota ({ s with lock := some c }.goto c t) := by
  refine h.holds (by simp [hc]) (fun d _ hd => ?_) ht hok fun i k hi => absurd hi (hun i k)
  have := h.lock d hd
  simp [hl] at this

theorem Inv.goto (h : Inv quota s) (hc : (s.task c).Locked) (ht : t.Locked) (hok : s.Ok quota t)
    (hun : ∀ i k, t = .admitted (.take i) k → ∀ d, s.task d ≠ .issuing i) :
    Inv quota (s.goto c t) := by
  have hs : { s with lock := some c } = s := by rw [← h.lock c hc]
  exact hs ▸ h.holds hc.ne_issuing (fun d => h.others hc) ht hok hun

theorem Inv.unlock (h : Inv quota s) (hc : (s.task c).Locked) (ht : ¬ t.Locked)
    (htask : s'.task = s.task) (hw : s'.Within quota s'.allocated)
    (hissuing : ∀ i, (∃ d, s.task d = .issuing i) ∨ t = .issuing i →
      ∃ hold, s'.holds.get i = some hold ∧ hold.status = .issuing)
    (hgranting : ∀ g, (∃ d, s.task d = .granting g) ∨ t = .granting g →
      ∃ grant, s'.grants.get g = some grant ∧ grant.undertaken = true)
    (hi : ∀ i, t = .issuing i → ∀ d, s.task d ≠ .issuing i)
    (hg : ∀ g, t = .granting g → ∀ d, s.task d ≠ .granting g) : Inv quota (s'.unlock c t) := by
  have htask' : ∀ d, (s'.unlock c t).task d = if d = c then t else s.task d := by
    intro d
    rw [← htask]
    exact goto_task _ c t d
  have hunlocked : ∀ d, ¬ ((s'.unlock c t).task d).Locked := by
    intro d
    rw [htask']
    split
    · exact ht
    next hne => exact h.others hc hne
  constructor
  case lock => exact fun d hd => absurd hd (hunlocked d)
  case holder => exact fun d hd => by simp [State.unlock, State.goto] at hd
  case within => exact hw
  case tasks => exact fun d => State.Ok.unlocked (hunlocked d)
  case issuing =>
    intro d i hd
    rw [htask'] at hd
    split at hd
    · exact hissuing i (.inr hd)
    · exact hissuing i (.inl ⟨d, hd⟩)
  case issuer =>
    intro d e i hd he
    rw [htask'] at hd he
    split at hd <;> split at he
    · simp_all
    · exact absurd he (hi i hd e)
    · exact absurd hd (hi i he d)
    · exact h.issuer d e i hd he
  case unissued =>
    intro d i k hd
    exact absurd (by simp [hd, Task.Locked]) (hunlocked d)
  case granting =>
    intro d g hd
    rw [htask'] at hd
    split at hd
    · exact hgranting g (.inr hd)
    · exact hgranting g (.inl ⟨d, hd⟩)
  case granter =>
    intro d e g hd he
    rw [htask'] at hd he
    split at hd <;> split at he
    · simp_all
    · exact absurd he (hg g hd e)
    · exact absurd hd (hg g he d)
    · exact h.granter d e g hd he

theorem Inv.unissued_of (h : Inv quota s) {i : HoldId} {hold : Hold}
    (hget : s.holds.get i = some hold) (hst : hold.status ≠ .issuing) (d : Call) :
    s.task d ≠ .issuing i := by
  intro hd
  obtain ⟨x, hx, hi⟩ := h.issuing d i hd
  obtain rfl := Option.some.inj (hget.symm.trans hx)
  exact hst hi

theorem Inv.findsRoom (h : Inv quota s) {counts : AllocationCounts}
    (hc : s.task c = .counted ask k counts)
    (hcap : s.ledger.status = .active → capacityHasRoom s.ledger counts = true)
    (hq : quotaHasRoom counts = true) : s.Ok quota (.admitted ask k) := by
  obtain ⟨hasks, hcovers⟩ : s.Asks ask k ∧ s.Covers quota k counts := by
    simpa [hc, State.Ok] using h.tasks c
  have hr := hcovers.room hcap hq
  cases ask with
  | take i => exact ⟨hasks, (Shrinks.refl s).room (s.allocatedBut_le i) hr⟩
  | place | reserve => exact hr

theorem Inv.places (h : Inv quota s) {i : HoldId} (hc : s.task c = .admitted .place k)
    (hn : s.holds.get i = none) :
    Inv quota ((s.setHolds (s.holds.set i ⟨k, .outstanding⟩)).unlock c .ended) := by
  have hr : s.Room quota s.allocated k := by simpa [hc, State.Ok] using h.tasks c
  refine h.unlock (by simp [hc, Task.Locked]) (by simp [Task.Locked]) rfl ?_ (fun j hj => ?_)
    (fun g hg => ?_) (by simp) (by simp)
  · refine State.Room.within (s := s) hr h.within (fun _ => le_rfl) fun p => ?_
    have hle : (s.holds.set i ⟨k, .outstanding⟩).count (fun h => h.taken && p h.classId) ≤
        s.holds.count (fun h => h.taken && p h.classId) + if p k then 1 else 0 := count_set_le _
    simp only [State.allocated, State.setHolds]
    omega
  · obtain ⟨d, hd⟩ := hj.resolve_right (by simp)
    obtain ⟨x, hx, hst⟩ := h.issuing d j hd
    have hne : j ≠ i := by
      rintro rfl
      simp [hn] at hx
    exact ⟨x, (Table.get_set_ne _ hne).trans hx, hst⟩
  · obtain ⟨d, hd⟩ := hg.resolve_right (by simp)
    exact h.granting d g hd

theorem Inv.reserves (h : Inv quota s) {g : ℕ} (hc : s.task c = .admitted .reserve k)
    (hn : s.grants.get g = none) :
    Inv quota ((s.setGrants (s.grants.set g ⟨k, .pending⟩)).unlock c (.granting g)) := by
  have hr : s.Room quota s.allocated k := by simpa [hc, State.Ok] using h.tasks c
  have hne : ∀ {d j}, s.task d = .granting j → j ≠ g := by
    rintro d j hd rfl
    obtain ⟨x, hx, -⟩ := h.granting d j hd
    simp [hn] at hx
  refine h.unlock (by simp [hc, Task.Locked]) (by simp [Task.Locked]) rfl ?_ (fun i hi => ?_)
    (fun j hj => ?_) (by simp) (fun j hj d hd => ?_)
  · refine State.Room.within (s := s) hr h.within (fun _ => le_rfl) fun p => ?_
    have hle : (s.grants.set g ⟨k, .pending⟩).count (fun x => x.undertaken && p x.classId) ≤
        s.grants.count (fun x => x.undertaken && p x.classId) + if p k then 1 else 0 :=
      count_set_le _
    simp only [State.allocated, State.setGrants]
    omega
  · obtain ⟨d, hd⟩ := hi.resolve_right (by simp)
    exact h.issuing d i hd
  · rcases hj with ⟨d, hd⟩ | hj
    · obtain ⟨x, hx, hu⟩ := h.granting d j hd
      exact ⟨x, (Table.get_set_ne _ (hne hd)).trans hx, hu⟩
    · obtain rfl : g = j := by simpa using hj
      exact ⟨_, Table.get_set_self _, rfl⟩
  · obtain rfl : g = j := by simpa using hj
    exact hne hd rfl

theorem Inv.takes (h : Inv quota s) {i : HoldId} (hc : s.task c = .admitted (.take i) k) :
    Inv quota ((s.setHolds (s.holds.update i fun h => { h with status := .issuing })).unlock c
      (.issuing i)) := by
  obtain ⟨hasks, hr⟩ : s.Asks (.take i) k ∧ s.Room quota (s.allocatedBut i) k := by
    simpa [hc, State.Ok] using h.tasks c
  obtain ⟨hold, hget, rfl⟩ := hasks i rfl
  have hun := h.unissued c i _ hc
  refine h.unlock (by simp [hc, Task.Locked]) (by simp [Task.Locked]) rfl ?_ (fun j hj => ?_)
    (fun g hg => ?_) (fun j hj => ?_) (by simp)
  · refine State.Room.within (s := s) hr h.within (s.allocatedBut_le i) fun p => ?_
    have hle : (s.holds.update i fun h => { h with status := .issuing }).count
        (fun h => h.taken && p h.classId) ≤ (s.holds.erase i).count
          (fun h => h.taken && p h.classId) + if p hold.classId then 1 else 0 :=
      count_update_le hget
    simp only [State.allocated, State.allocatedBut, State.setHolds]
    omega
  · rcases hj with ⟨d, hd⟩ | hj
    · obtain ⟨x, hx, hst⟩ := h.issuing d j hd
      have hne : j ≠ i := by
        rintro rfl
        exact hun d hd
      exact ⟨x, (Table.get_update_ne _ hne).trans hx, hst⟩
    · obtain rfl : i = j := by simpa using hj
      exact ⟨{ hold with status := .issuing }, by simp [State.setHolds, hget], rfl⟩
  · obtain ⟨d, hd⟩ := hg.resolve_right (by simp)
    exact h.granting d g hd
  · obtain rfl : i = j := by simpa using hj
    exact hun

theorem Inv.accepts (h : Inv quota s) {capacity : ℕ} (hc : s.task c = .awaiting capacity) :
    s.ledger.status = .active →
      Inv quota (s.setLedger { s.ledger with maxCapacity := some capacity }) := by
  intro ha
  have hl : (s.task c).Locked := by simp [hc, Task.Locked]
  have hok : s.Ok quota (.awaiting capacity) := hc ▸ h.tasks c
  refine ⟨h.lock, h.holder, ⟨fun _ m hm => ?_, h.within.2⟩, fun d => ?_, h.issuing, h.issuer,
    h.unissued, h.granting, h.granter⟩
  · obtain rfl : capacity = m := by simpa [State.setLedger] using hm
    exact hok ha
  · rcases eq_or_ne d c with rfl | hne
    · show State.Ok quota _ (s.task d)
      rw [hc]
      exact hok
    · exact State.Ok.unlocked (h.others hl hne)

theorem Inv.ends (h : Inv quota s) (hc : (s.task c).Locked) : Inv quota (s.unlock c .ended) := by
  refine h.unlock hc (by simp [Task.Locked]) rfl h.within (fun i hi => ?_) (fun g hg => ?_)
    (by simp) (by simp)
  · obtain ⟨d, hd⟩ := hi.resolve_right (by simp)
    exact h.issuing d i hd
  · obtain ⟨d, hd⟩ := hg.resolve_right (by simp)
    exact h.granting d g hd

-- ---------------------------------------------------------------------------
-- Runs
-- ---------------------------------------------------------------------------

theorem Inv.step (h : Inv quota s) (hs : Step quota s s') : Inv quota s' := by
  cases hs with
  | holdEnds i status hst hget ho => exact h.holdEnds hst hget ho
  | confirms hc => exact h.completes hc fun _ => rfl
  | rejects hc =>
    refine h.completes hc fun hold => ?_
    unfold Hold.reject
    split <;> rfl
  | grantCompletes status hc =>
    refine h.grantCompletes hc (fun j hj => Table.get_update_ne _ hj) fun x y hx hy => ?_
    rw [Table.get_update_self, hy] at hx
    obtain rfl := Option.some.inj hx
    rfl
  | grantDeletes hc =>
    refine h.grantCompletes hc (fun j hj => by simp [Table.get_erase, hj]) fun x y hx _ => ?_
    simp [Table.get_erase] at hx
  | stops hc =>
    exact h.stops hc (Shrinks.refl s) rfl rfl (fun d i _ => h.issuing d i)
      fun d g _ => h.granting d g
  | ledgerIssues issued => exact h.setLedger id fun m hm => ⟨m, hm, le_rfl⟩
  | raised hm => exact h.setLedger id hm
  | statusChanges status hst => exact h.setLedger (fun ha => absurd ha hst) fun m hm =>
      ⟨m, hm, le_rfl⟩
  | locks ask k hc hl hasks => exact h.takesLock hc hl trivial hasks (by simp)
  | @counts c ask k counts hc hcounted =>
    have hasks : s.Asks ask k := by simpa [hc, State.Ok] using h.tasks c
    exact h.goto (by simp [hc, Task.Locked]) trivial ⟨hasks, hcounted.covers⟩ (by simp)
  | @findsOutstanding c i k counts hold hc hget ho =>
    have hok : s.Asks (.take i) k ∧ s.Covers quota k counts := by
      simpa [hc, State.Ok] using h.tasks c
    obtain ⟨x, hx, hk⟩ := hok.1 i rfl
    obtain rfl := Option.some.inj (hget.symm.trans hx)
    refine h.goto (by simp [hc, Task.Locked]) trivial ⟨hok.1, h.findsOutstanding hget hk ho⟩ ?_
    rintro j k' ⟨⟩
    exact h.unissued_of hget (by simp [ho])
  | findsRoom hc hended hcap hq =>
    refine h.goto (by simp [hc, Task.Locked]) trivial (h.findsRoom hc hcap hq) ?_
    rintro j k' ⟨⟩
    obtain ⟨hold, hget, hst⟩ := hended j rfl
    exact h.unissued_of hget (by rcases hst with hst | hst <;> simp [hst])
  | places hc hn => exact h.places hc hn
  | reserves hc hn => exact h.reserves hc hn
  | takes hc => exact h.takes hc
  | locksDecrease capacity hc hl => exact h.takesLock hc hl trivial trivial (by simp)
  | ownsEvent hc =>
    exact h.goto (by simp [hc, Task.Locked]) trivial (by simp [State.Ok]) (by simp)
  | getsEvent hc => exact h.goto (by simp [hc, Task.Locked]) trivial trivial (by simp)
  | @checks c capacity event k counts hc hcounted hle =>
    refine h.goto (by simp [hc, Task.Locked]) trivial (fun _ => ?_) (by simp)
    have he := hcounted.covers.event
    simp only [allocatedCount] at hle
    omega
  | @checksNothing c capacity hc =>
    have hok : s.Ok quota (.owned capacity false) := hc ▸ h.tasks c
    exact h.goto (by simp [hc, Task.Locked]) trivial (fun ha => absurd ha (hok rfl)) (by simp)
  | @submits c capacity hc =>
    have hok : s.Ok quota (.checked capacity) := hc ▸ h.tasks c
    exact h.goto (by simp [hc, Task.Locked]) trivial hok (by simp)
  | accepts hc ha => exact h.accepts hc ha
  | ends hc => exact h.ends hc

theorem count_empty {V : Type} {t : Table V} (h : ∀ i, t.get i = none) (p : V → Bool) :
    t.count p = 0 := by
  refine Finset.card_eq_zero.mpr (Finset.eq_empty_of_forall_notMem fun i hi => ?_)
  obtain ⟨v, hv, -⟩ := (Table.mem_select _).mp hi
  simp [h i] at hv

theorem State.Initial.inv (h : State.Initial s) : Inv quota s := by
  have hall : ∀ p, s.allocated p = 0 := by
    intro p
    simp [State.allocated, count_empty h.holds, count_empty h.grants]
  constructor
  case within => exact ⟨fun _ m _ => by simp [hall], fun k q _ => by simp [hall]⟩
  all_goals simp [h.task, h.lock, Task.Locked, State.Ok]

theorem Steps.inv (h₀ : State.Initial s₀) (hs : Steps quota s₀ s) : Inv quota s := by
  induction hs with
  | refl => exact h₀.inv
  | step _ hstep ih => exact ih.step hstep

/-- In every run: while the event is active no more is allocated than its capacity, and of no
class ever more than its quota. -/
theorem not_oversold (h₀ : State.Initial s₀) (hs : Steps quota s₀ s) :
    (s.ledger.status = .active →
        ∀ m ∈ s.ledger.maxCapacity, s.allocated (fun _ => true) ≤ m) ∧
      ∀ k q, quota k = some q → s.allocated (fun k' => k' = k) ≤ q :=
  (Steps.inv h₀ hs).within

def State.start : State := ⟨.empty, .empty, ⟨0, .active, some 1, 0, []⟩, none, fun _ => .idle⟩

theorem State.start_initial : State.Initial State.start :=
  ⟨rfl, fun _ => rfl, fun _ => rfl, fun _ => rfl⟩

/-- The one place of an event is held. -/
theorem not_oversold_one : ∃ s, Steps (fun _ => some 1) State.start s ∧
    s.allocated (fun _ => true) = 1 ∧ s.allocated (fun _ => true) ≤ 1 ∧
      s.allocated (fun k' => k' = 0) ≤ 1 := by
  have hcounts : State.start.Counted (fun _ => some 1) 0 ⟨0, 0, false, 0, 0, 0, 0, some 1⟩ :=
    ⟨rfl, rfl, rfl, rfl, rfl, rfl, rfl⟩
  have h₁ : Steps (fun _ => some 1) State.start _ :=
    Steps.refl.step (Step.locks (c := 1) .place 0 rfl rfl (by simp))
  have h₂ := h₁.step (Step.counts (c := 1) rfl hcounts)
  have h₃ := h₂.step (Step.findsRoom (c := 1) rfl (by simp) (fun _ => rfl) rfl)
  have h₄ := h₃.step (Step.places (c := 1) (i := 1) rfl rfl)
  obtain ⟨hcapacity, hquota⟩ := not_oversold State.start_initial h₄
  exact ⟨_, h₄, rfl, hcapacity rfl 1 rfl, hquota 0 1 rfl⟩

end Kippu.Allocating
