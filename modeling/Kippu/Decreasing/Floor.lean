import Kippu.Decreasing.Runs

/-!
# A decrease strands no buyer

Everything that is issued or promised claims one place of the event's capacity. What
claims a place grows only under the event's allocation lock, and so does the capacity
shrink, as long as the ledger accepts a decrease only while its transaction holds the
lock (`bears_promises`). A decrease accepted later finds holds placed since its check
(`late_decrease_strands`).
-/

namespace Kippu.Decreasing

open Conc (Table)

variable {late : Prop} {s s' s₀ : State} {c d : Call} {t : Task} {ask : Ask} {m : ℕ}

def Hold.claims (h : Hold) : Bool := h.pending || h.landed

def Granted.claims (g : Granted) : Bool := g.undertaken || g.landed

def State.claims (s : State) : ℕ := s.holds.count Hold.claims + s.grants.count Granted.claims

def State.claimsBut (s : State) (i : HoldId) : ℕ :=
  (s.holds.erase i).count Hold.claims + s.grants.count Granted.claims

def State.Room (s : State) (n : ℕ) : Prop :=
  s.ledger.status = .active → ∀ m ∈ s.ledger.maxCapacity, n ≤ m

def State.Ok (s : State) : Task → Prop
  | .counted _ counts => s.claims ≤ counts.granted + counts.purchased + counts.eventHolds
  | .admitted (.take i) => s.Room (s.claimsBut i + 1)
  | .admitted _ => s.Room (s.claims + 1)
  | .owned _ active => active = false → s.ledger.status ≠ .active
  | .checked capacity => s.ledger.status = .active → s.claims ≤ capacity
  | .awaiting capacity => s.ledger.status = .active → s.claims ≤ capacity
  | _ => True

structure Inv (s : State) : Prop where
  lock : ∀ c, (s.task c).Locked → s.lock = some c
  holder : ∀ c, s.lock = some c → (s.task c).Locked
  submitted : ∀ c capacity, s.submitted c = some capacity →
    s.task c = .awaiting capacity ∨ s.task c = .ended
  holds : ∀ i h, s.holds.get i = some h → h.landed = true →
    h.status = .issuing ∨ h.status = .confirmed
  grants : ∀ i g, s.grants.get i = some g → g.landed = true → g.undertaken = true
  room : s.Room s.claims
  tasks : ∀ c, s.Ok (s.task c)

-- ---------------------------------------------------------------------------
-- Counting places
-- ---------------------------------------------------------------------------

theorem State.issued_add_promised : s.issued + s.promised ≤ s.claims := by
  have hh : s.holds.count Hold.landed + s.holds.count (fun h => h.pending && !h.landed) ≤
      s.holds.count Hold.claims := by
    refine Table.count_add_le (fun h => ?_) (fun h => ?_) (fun h => ?_)
    all_goals cases hp : h.pending <;> cases hl : h.landed <;> simp [Hold.claims, hp, hl]
  have hg : s.grants.count Granted.landed + s.grants.count (fun g => g.undertaken && !g.landed) ≤
      s.grants.count Granted.claims := by
    refine Table.count_add_le (fun g => ?_) (fun g => ?_) (fun g => ?_)
    all_goals cases hu : g.undertaken <;> cases hl : g.landed <;> simp [Granted.claims, hu, hl]
  simp only [State.issued, State.promised, State.claims]
  omega

theorem Inv.counted (h : Inv s) {counts : AllocationCounts} (hc : s.Counted counts) :
    s.claims ≤ counts.granted + counts.purchased + counts.eventHolds := by
  obtain ⟨hheld, hpurchased, hgranted⟩ := hc
  have hh : s.holds.count Hold.claims ≤ counts.purchased + counts.eventHolds := by
    rw [hheld, hpurchased]
    refine Table.count_le_add fun i hold hget hclaims => ?_
    rcases Bool.or_eq_true _ _ ▸ hclaims with hp | hl
    · exact .inr hp
    · rcases h.holds i hold hget hl with hst | hst
      · exact .inr (by simp [Hold.pending, hst])
      · exact .inl (by simp [hst])
  have hg : s.grants.count Granted.claims ≤ counts.granted := by
    rw [hgranted]
    refine Finset.card_le_card fun i hi => ?_
    obtain ⟨g, hget, hclaims⟩ := (Table.mem_select _).mp hi
    refine (Table.mem_select _).mpr ⟨g, hget, ?_⟩
    rcases Bool.or_eq_true _ _ ▸ hclaims with hu | hl
    · exact hu
    · exact h.grants i g hget hl
  simp only [State.claims]
  omega

structure Shrinks (s s' : State) : Prop where
  claims : s'.claims ≤ s.claims
  claimsBut : ∀ i, s'.claimsBut i ≤ s.claimsBut i
  active : s'.ledger.status = .active → s.ledger.status = .active
  capacity : ∀ m' ∈ s'.ledger.maxCapacity, ∃ m ∈ s.ledger.maxCapacity, m ≤ m'

theorem Shrinks.room (h : Shrinks s s') {n n' : ℕ} (hn : n' ≤ n) (hr : s.Room n) : s'.Room n' := by
  intro ha m' hm'
  obtain ⟨m, hm, hle⟩ := h.capacity m' hm'
  exact (hn.trans (hr (h.active ha) m hm)).trans hle

theorem Shrinks.ok (h : Shrinks s s') (ht : s.Ok t) : s'.Ok t := by
  cases t with
  | counted ask counts => exact h.claims.trans ht
  | admitted ask =>
    cases ask with
    | take i => exact h.room (Nat.succ_le_succ (h.claimsBut i)) ht
    | place | reserve => exact h.room (Nat.succ_le_succ h.claims) ht
  | owned capacity active => exact fun hf ha => ht hf (h.active ha)
  | checked capacity | awaiting capacity => exact fun ha => h.claims.trans (ht (h.active ha))
  | idle | locked | decreasing | found | ended => trivial

theorem Shrinks.of_holds {holds : Table Hold}
    (h : holds.select Hold.claims ⊆ s.holds.select Hold.claims) : Shrinks s (s.setHolds holds) where
  claims := Nat.add_le_add_right (Table.count_le h) _
  claimsBut i := by
    refine Nat.add_le_add_right (Table.count_le ?_) _
    simp only [State.setHolds, Table.select_erase]
    exact Finset.erase_subset_erase i h
  active ha := ha
  capacity m hm := ⟨m, hm, le_rfl⟩

theorem Shrinks.of_grants {grants : Table Granted}
    (h : grants.select Granted.claims ⊆ s.grants.select Granted.claims) :
    Shrinks s (s.setGrants grants) where
  claims := Nat.add_le_add_left (Table.count_le h) _
  claimsBut _ := Nat.add_le_add_left (Table.count_le h) _
  active ha := ha
  capacity m hm := ⟨m, hm, le_rfl⟩

-- ---------------------------------------------------------------------------
-- Steps without the lock
-- ---------------------------------------------------------------------------

theorem Inv.shrinks (h : Inv s) (hs : Shrinks s s') (hlock : s'.lock = s.lock)
    (htask : s'.task = s.task) (hsub : ∀ c k, s'.submitted c = some k → s.submitted c = some k)
    (hholds : ∀ i h, s'.holds.get i = some h → h.landed = true →
      h.status = .issuing ∨ h.status = .confirmed)
    (hgrants : ∀ i g, s'.grants.get i = some g → g.landed = true → g.undertaken = true) :
    Inv s' where
  lock c hc := by
    rw [htask] at hc
    rw [hlock]
    exact h.lock c hc
  holder c hc := by
    rw [hlock] at hc
    rw [htask]
    exact h.holder c hc
  submitted c k hk := by
    rw [htask]
    exact h.submitted c k (hsub c k hk)
  holds := hholds
  grants := hgrants
  room := hs.room hs.claims h.room
  tasks c := by
    rw [htask]
    exact hs.ok (h.tasks c)

theorem Inv.changeHold (h : Inv s) {i : HoldId} {x : Hold} (hget : s.holds.get i = some x)
    {f : Hold → Hold} (hclaims : (f x).claims = true → x.claims = true)
    (hlanded : (f x).landed = true → (f x).status = .issuing ∨ (f x).status = .confirmed) :
    Inv (s.setHolds (s.holds.update i f)) := by
  refine h.shrinks (Shrinks.of_holds (Table.select_update_subset _ fun x' hx hc => ?_)) rfl rfl
    (fun _ _ hk => hk) (fun j x' hx hl => ?_) h.grants
  · obtain rfl := Option.some.inj (hget.symm.trans hx)
    exact hclaims hc
  · obtain ⟨y, hy, ⟨rfl, rfl⟩ | ⟨-, rfl⟩⟩ := Table.get_update_some _ hx
    · obtain rfl := Option.some.inj (hget.symm.trans hy)
      exact hlanded hl
    · exact h.holds j x' hy hl

theorem Inv.changeGrant (h : Inv s) {i : ℕ} {x : Granted} (hget : s.grants.get i = some x)
    {f : Granted → Granted} (hclaims : (f x).claims = true → x.claims = true)
    (hlanded : (f x).landed = true → (f x).undertaken = true) :
    Inv (s.setGrants (s.grants.update i f)) := by
  refine h.shrinks (Shrinks.of_grants (Table.select_update_subset _ fun x' hx hc => ?_)) rfl rfl
    (fun _ _ hk => hk) h.holds (fun j x' hx hl => ?_)
  · obtain rfl := Option.some.inj (hget.symm.trans hx)
    exact hclaims hc
  · obtain ⟨y, hy, ⟨rfl, rfl⟩ | ⟨-, rfl⟩⟩ := Table.get_update_some _ hx
    · obtain rfl := Option.some.inj (hget.symm.trans hy)
      exact hlanded hl
    · exact h.grants j x' hy hl

-- ---------------------------------------------------------------------------
-- Steps under the lock
-- ---------------------------------------------------------------------------

theorem State.Ok.unlocked (ht : ¬ t.Locked) : s.Ok t := by
  cases t <;> simp [Task.Locked] at ht <;> trivial

theorem Inv.others (h : Inv s) (hc : (s.task c).Locked) (hne : d ≠ c) : ¬ (s.task d).Locked :=
  fun hd => hne (Option.some.inj ((h.lock d hd).symm.trans (h.lock c hc)))

theorem Inv.goto (h : Inv s) (hc : (s.task c).Locked) (ht : t.Locked) (hok : s.Ok t)
    (hsub : ∀ k, s.submitted c = some k → t = .awaiting k) : Inv (s.goto c t) where
  lock d hd := by
    rcases eq_or_ne d c with rfl | hne
    · exact h.lock d hc
    · exact h.lock d (by simpa [State.goto, Function.update_of_ne hne] using hd)
  holder d hd := by
    obtain rfl := Option.some.inj ((h.lock c hc).symm.trans hd)
    simpa [State.goto] using ht
  submitted d k hk := by
    rcases eq_or_ne d c with rfl | hne
    · exact .inl (by simpa [State.goto] using hsub k hk)
    · simpa [State.goto, Function.update_of_ne hne] using h.submitted d k hk
  holds := h.holds
  grants := h.grants
  room := h.room
  tasks d := by
    show s.Ok _
    rcases eq_or_ne d c with rfl | hne
    · simpa [State.goto] using hok
    · simpa [State.goto, Function.update_of_ne hne] using h.tasks d

theorem Inv.unlock (h : Inv s) (hc : (s.task c).Locked) (htask : s'.task = s.task)
    (hsub : s'.submitted = s.submitted) (hroom : s'.Room s'.claims)
    (hholds : ∀ i h, s'.holds.get i = some h → h.landed = true →
      h.status = .issuing ∨ h.status = .confirmed)
    (hgrants : ∀ i g, s'.grants.get i = some g → g.landed = true → g.undertaken = true) :
    Inv (s'.unlock c) where
  lock d hd := by
    rcases eq_or_ne d c with rfl | hne
    · simp [State.unlock, State.goto, Task.Locked] at hd
    · exact absurd (by simpa [State.unlock, State.goto, Function.update_of_ne hne, htask] using hd)
        (h.others hc hne)
  holder d hd := by simp [State.unlock, State.goto] at hd
  submitted d k hk := by
    rcases eq_or_ne d c with rfl | hne
    · exact .inr (by simp [State.unlock, State.goto])
    · have hk : s'.submitted d = some k := hk
      simpa [State.unlock, State.goto, Function.update_of_ne hne, htask] using
        h.submitted d k (hsub ▸ hk)
  holds := hholds
  grants := hgrants
  room := hroom
  tasks d := by
    rcases eq_or_ne d c with rfl | hne
    · simp [State.unlock, State.goto, State.Ok]
    · refine State.Ok.unlocked ?_
      simpa [State.unlock, State.goto, Function.update_of_ne hne, htask] using h.others hc hne

theorem Inv.takesLock (h : Inv s) (hc : s.task c = .idle) (hl : s.lock = none) (ht : t.Locked)
    (hok : s.Ok t) : Inv ({ s with lock := some c }.goto c t) where
  lock d hd := by
    rcases eq_or_ne d c with rfl | hne
    · rfl
    · have := h.lock d (by simpa [State.goto, Function.update_of_ne hne] using hd)
      simp [hl] at this
  holder d hd := by
    obtain rfl : c = d := by simpa [State.goto] using hd
    simpa [State.goto] using ht
  submitted d k hk := by
    rcases eq_or_ne d c with rfl | hne
    · have := h.submitted d k hk
      simp [hc] at this
    · simpa [State.goto, Function.update_of_ne hne] using h.submitted d k hk
  holds := h.holds
  grants := h.grants
  room := h.room
  tasks d := by
    show s.Ok _
    rcases eq_or_ne d c with rfl | hne
    · simpa [State.goto] using hok
    · simpa [State.goto, Function.update_of_ne hne] using h.tasks d

theorem Inv.not_submitted (h : Inv s) (hc : s.task c = t) (ht : t.Locked)
    (hne : ∀ k, t ≠ .awaiting k) {k : ℕ} (hk : s.submitted c = some k) : False := by
  subst hc
  rcases h.submitted c k hk with hw | he
  · exact hne k hw
  · simp [he, Task.Locked] at ht

theorem State.hasRoom {counts : AllocationCounts}
    (hc : s.claims ≤ counts.granted + counts.purchased + counts.eventHolds)
    (hroom : s.ledger.status = .active → capacityHasRoom s.event counts = true) :
    s.Room (s.claims + 1) := by
  intro ha m hm
  have hr := hroom ha
  rw [Option.mem_def] at hm
  simp only [capacityHasRoom, capacityRemaining, State.event, hm, Option.map_some,
    decide_eq_true_eq] at hr
  omega

theorem Inv.findsOutstanding (h : Inv s) {i : HoldId} {hold : Hold}
    (hget : s.holds.get i = some hold) (hst : hold.status = .outstanding) :
    s.Room (s.claimsBut i + 1) := by
  have hcount := Table.count_erase_lt hget (c := Hold.claims)
    (by simp [Hold.claims, Hold.pending, hst])
  have hle : s.claimsBut i + 1 ≤ s.claims := by
    simp only [State.claimsBut, State.claims]
    omega
  exact fun ha m hm => hle.trans (h.room ha m hm)

theorem Inv.findsRoom (h : Inv s) (hc : s.task c = .counted ask counts)
    (hroom : s.ledger.status = .active → capacityHasRoom s.event counts = true) :
    s.Ok (.admitted ask) := by
  have hcounts : s.Ok (.counted ask counts) := hc ▸ h.tasks c
  have hr := State.hasRoom hcounts hroom
  cases ask with
  | take i =>
    refine fun ha m hm => le_trans ?_ (hr ha m hm)
    exact Nat.succ_le_succ (Nat.add_le_add_right (Table.count_erase_le _) _)
  | place | reserve => exact hr

theorem Inv.places (h : Inv s) (hc : s.task c = .admitted .place) (i : HoldId) :
    Inv ((s.setHolds (s.holds.set i ⟨.outstanding, false⟩)).unlock c) := by
  have hr : s.Room (s.claims + 1) := by simpa [hc, State.Ok] using h.tasks c
  refine h.unlock (by simp [hc, Task.Locked]) rfl rfl (fun ha m hm => ?_) (fun j x hx hl => ?_)
    h.grants
  · refine le_trans ?_ (hr ha m hm)
    have := Table.count_set_le s.holds (k := i) (v := ⟨.outstanding, false⟩) (c := Hold.claims)
    simp only [State.claims, State.setHolds]
    omega
  · simp only [State.setHolds, Table.get_set] at hx
    split at hx
    · obtain rfl := Option.some.inj hx
      simp at hl
    · exact h.holds j x hx hl

theorem Inv.reserves (h : Inv s) (hc : s.task c = .admitted .reserve) (i : ℕ) :
    Inv ((s.setGrants (s.grants.set i ⟨.pending, false⟩)).unlock c) := by
  have hr : s.Room (s.claims + 1) := by simpa [hc, State.Ok] using h.tasks c
  refine h.unlock (by simp [hc, Task.Locked]) rfl rfl (fun ha m hm => ?_) h.holds
    (fun j x hx hl => ?_)
  · refine le_trans ?_ (hr ha m hm)
    have := Table.count_set_le s.grants (k := i) (v := ⟨.pending, false⟩) (c := Granted.claims)
    simp only [State.claims, State.setGrants]
    omega
  · simp only [State.setGrants, Table.get_set] at hx
    split at hx
    · obtain rfl := Option.some.inj hx
      simp at hl
    · exact h.grants j x hx hl

theorem Inv.takes (h : Inv s) {i : HoldId} (hc : s.task c = .admitted (.take i)) :
    Inv ((s.setHolds (s.holds.update i fun x => { x with status := .issuing })).unlock c) := by
  have hr : s.Room (s.claimsBut i + 1) := by simpa [hc, State.Ok] using h.tasks c
  refine h.unlock (by simp [hc, Task.Locked]) rfl rfl (fun ha m hm => ?_) (fun j x hx hl => ?_)
    h.grants
  · refine le_trans ?_ (hr ha m hm)
    have := Table.count_update_le s.holds (k := i) (f := fun x => { x with status := .issuing })
      (c := Hold.claims)
    simp only [State.claims, State.claimsBut, State.setHolds]
    omega
  · obtain ⟨x', hx', ⟨rfl, rfl⟩ | ⟨-, rfl⟩⟩ := Table.get_update_some _ hx
    · exact .inl rfl
    · exact h.holds j x hx' hl

theorem Inv.checks (h : Inv s) {counts : AllocationCounts} {event : Event} {capacity : ℕ}
    (hc : s.Counted counts) (hle : allocatedCount event counts ≤ capacity) :
    s.Ok (.checked capacity) := by
  intro _
  have := h.counted hc
  simp only [allocatedCount] at hle
  omega

theorem Inv.submits (h : Inv s) {capacity : ℕ} (hc : s.task c = .checked capacity) :
    Inv ((s.submit c (some capacity)).goto c (.awaiting capacity)) := by
  have hok : s.Ok (.checked capacity) := hc ▸ h.tasks c
  have hl : (s.task c).Locked := by simp [hc, Task.Locked]
  constructor
  · intro d hd
    rcases eq_or_ne d c with rfl | hne
    · exact h.lock d hl
    · exact h.lock d (by simpa [State.submit, State.goto, Function.update_of_ne hne] using hd)
  · intro d hd
    obtain rfl := Option.some.inj ((h.lock c hl).symm.trans hd)
    simp [State.goto, Task.Locked]
  · intro d k hk
    rcases eq_or_ne d c with rfl | hne
    · refine .inl ?_
      obtain rfl : capacity = k := by simpa [State.submit, State.goto] using hk
      simp [State.goto]
    · simpa [State.submit, State.goto, Function.update_of_ne hne] using
        h.submitted d k (by simpa [State.submit, State.goto, Function.update_of_ne hne] using hk)
  · exact h.holds
  · exact h.grants
  · exact h.room
  · intro d
    show s.Ok _
    rcases eq_or_ne d c with rfl | hne
    · simpa [State.submit, State.goto, State.Ok] using hok
    · simpa [State.submit, State.goto, Function.update_of_ne hne] using h.tasks d

theorem Inv.decided (h : Inv s) (c : Call) : Inv (s.submit c none) where
  lock := h.lock
  holder := h.holder
  submitted d k hk := by
    rcases eq_or_ne d c with rfl | hne
    · simp [State.submit] at hk
    · exact h.submitted d k (by simpa [State.submit, Function.update_of_ne hne] using hk)
  holds := h.holds
  grants := h.grants
  room := h.room
  tasks := h.tasks

theorem Inv.accepts (h : Inv s) {capacity : ℕ} (hs : s.submitted c = some capacity)
    (ha : s.ledger.status = .active) (hl : s.lock = some c) :
    Inv (s.setCapacity (some capacity)) := by
  have hc : s.task c = .awaiting capacity := by
    rcases h.submitted c capacity hs with hw | he
    · exact hw
    · have := h.holder c hl
      simp [he, Task.Locked] at this
  have hok : s.Ok (.awaiting capacity) := hc ▸ h.tasks c
  refine ⟨h.lock, h.holder, h.submitted, h.holds, h.grants, fun _ m hm => ?_, fun d => ?_⟩
  · obtain rfl : capacity = m := by simpa [State.setCapacity] using hm
    exact hok ha
  · show State.Ok _ (s.task d)
    rcases eq_or_ne d c with rfl | hne
    · rw [hc]
      exact hok
    · exact State.Ok.unlocked (h.others (by simp [hc, Task.Locked]) hne)

theorem Inv.raised (h : Inv s) {maxCapacity : Option ℕ}
    (hm : ∀ m ∈ maxCapacity, ∃ m' ∈ s.ledger.maxCapacity, m' ≤ m) :
    Inv (s.setCapacity maxCapacity) :=
  h.shrinks ⟨le_rfl, fun _ => le_rfl, id, hm⟩ rfl rfl (fun _ _ hk => hk) h.holds h.grants

-- ---------------------------------------------------------------------------
-- Runs
-- ---------------------------------------------------------------------------

theorem State.claims_le : s.claims ≤ s.issued + s.promised := by
  have hh : s.holds.count Hold.claims ≤
      s.holds.count Hold.landed + s.holds.count (fun h => h.pending && !h.landed) := by
    refine Table.count_le_add fun i x _ hc => ?_
    cases hl : x.landed
    · exact .inr (by simpa [Hold.claims, hl] using hc)
    · exact .inl rfl
  have hg : s.grants.count Granted.claims ≤
      s.grants.count Granted.landed + s.grants.count (fun g => g.undertaken && !g.landed) := by
    refine Table.count_le_add fun i x _ hc => ?_
    cases hl : x.landed
    · exact .inr (by simpa [Granted.claims, hl] using hc)
    · exact .inl rfl
  simp only [State.issued, State.promised, State.claims]
  omega

theorem Inv.initial (h : s.Initial) : Inv s where
  lock c hc := by simp [h.task, Task.Locked] at hc
  holder c hc := by simp [h.lock] at hc
  submitted c k hk := by simp [h.submitted] at hk
  holds := h.holds
  grants := h.grants
  room ha m hm := State.claims_le.trans (h.bears ha m hm)
  tasks c := by simp [h.task, State.Ok]

theorem Inv.step (h : Inv s) (hs : Step False s s') : Inv s' := by
  cases hs with
  | holdEnds i status hst hget ho =>
    refine h.changeHold hget (fun _ => by simp [Hold.claims, Hold.pending, ho]) fun hl => ?_
    rcases h.holds i _ hget hl with hs | hs <;> simp [ho] at hs
  | holdConfirmed i hget hl =>
    exact h.changeHold hget (fun _ => by simp [Hold.claims, hl]) fun _ => .inr rfl
  | holdReleased i hget hst hl =>
    exact h.changeHold hget (fun _ => by simp [Hold.claims, Hold.pending, hst]) (by simp [hl])
  | holdLands i hget hst =>
    exact h.changeHold hget (fun _ => by simp [Hold.claims, Hold.pending, hst]) fun _ => .inl hst
  | @grantCompletes x i status hget hrej hkept =>
    refine h.changeGrant hget (fun hc => ?_) (fun hl => ?_)
    · by_contra hno
      have hx : x.status = .rejected ∧ x.landed = false := by
        simpa [Granted.claims, Granted.undertaken] using hno
      simp [Granted.claims, Granted.undertaken, hkept hx.1, hx.2] at hc
    · have hl : x.landed = true := hl
      simp only [Granted.undertaken, ne_eq, decide_eq_true_eq]
      intro hr
      simp [hrej hr] at hl
  | grantLands i hget hu =>
    exact h.changeGrant hget (fun _ => by simp [Granted.claims, hu]) fun _ => hu
  | raised hm => exact h.raised hm
  | statusChanges status hst =>
    exact h.shrinks ⟨le_rfl, fun _ => le_rfl, fun ha => absurd ha hst, fun m hm => ⟨m, hm, le_rfl⟩⟩
      rfl rfl (fun _ _ hk => hk) h.holds h.grants
  | locks ask hc hl => exact h.takesLock hc hl trivial trivial
  | counts hc hcount =>
    exact h.goto (by simp [hc, Task.Locked]) trivial (h.counted hcount) fun k hk =>
      (h.not_submitted hc trivial (by simp) hk).elim
  | findsOutstanding hc hget hst =>
    exact h.goto (by simp [hc, Task.Locked]) trivial (h.findsOutstanding hget hst) fun k hk =>
      (h.not_submitted hc trivial (by simp) hk).elim
  | findsRoom hc _ hroom =>
    exact h.goto (by simp [hc, Task.Locked]) trivial (h.findsRoom hc hroom) fun k hk =>
      (h.not_submitted hc trivial (by simp) hk).elim
  | places hc _ => exact h.places hc _
  | reserves hc _ => exact h.reserves hc _
  | takes hc => exact h.takes hc
  | locksDecrease capacity hc hl => exact h.takesLock hc hl trivial trivial
  | ownsEvent hc _ =>
    exact h.goto (by simp [hc, Task.Locked]) trivial (by simp [State.Ok]) fun k hk =>
      (h.not_submitted hc trivial (by simp) hk).elim
  | getsEvent hc =>
    exact h.goto (by simp [hc, Task.Locked]) trivial trivial fun k hk =>
      (h.not_submitted hc trivial (by simp) hk).elim
  | checks hc hcount hle =>
    exact h.goto (by simp [hc, Task.Locked]) trivial (h.checks hcount hle) fun k hk =>
      (h.not_submitted hc trivial (by simp) hk).elim
  | @checksNothing c capacity hc =>
    have hok : s.Ok (.owned capacity false) := hc ▸ h.tasks c
    exact h.goto (by simp [hc, Task.Locked]) trivial (fun ha => absurd ha (hok rfl)) fun k hk =>
      (h.not_submitted hc trivial (by simp) hk).elim
  | submits hc => exact h.submits hc
  | accepts hs ha _ _ hl => exact (h.accepts hs ha (hl.resolve_left id)).decided _
  | refuses hs => exact h.decided _
  | ends hc => exact h.unlock hc rfl rfl h.room h.holds h.grants

theorem Inv.steps (h : Inv s) (hs : Steps False s s') : Inv s' := by
  induction hs with
  | refl => exact h
  | step _ hs ih => exact ih.step hs

/-- In every run in which the ledger accepts a decrease only while its transaction holds the event's
allocation lock: an active event's capacity bears the tickets issued, the holds outstanding or
issuing and the granted issuances undertaken. -/
theorem bears_promises (h₀ : State.Initial s₀) (hs : Steps False s₀ s) : s.Bears :=
  fun ha m hm => State.issued_add_promised.trans (((Inv.initial h₀).steps hs).room ha m hm)

def State.start : State :=
  ⟨.empty, .empty, ⟨0, .active, some 1, 0, []⟩, none, fun _ => .idle, fun _ => none⟩

theorem State.start_initial : State.Initial State.start :=
  ⟨rfl, fun _ => rfl, fun _ => rfl, by simp [State.start], by simp [State.start], fun _ _ hm => by
    obtain rfl := Option.some.inj hm
    decide⟩

def noCounts : AllocationCounts := ⟨0, 0, false, 0, 0, 0, 0, none⟩

theorem State.start_counted : State.start.Counted noCounts := ⟨rfl, rfl, rfl⟩

/-- A hold is placed. -/
theorem bears_promises_one : ∃ s, Steps False State.start s ∧ s.promised = 1 ∧ s.Bears := by
  have h₁ : Steps False State.start _ := Steps.refl.step (Step.locks (c := 1) .place rfl rfl)
  have h₂ := h₁.step (Step.counts (c := 1) rfl State.start_counted)
  have h₃ := h₂.step (Step.findsRoom (c := 1) rfl trivial fun _ => rfl)
  have h₄ := h₃.step (Step.places (c := 1) (i := 1) rfl rfl)
  exact ⟨_, h₄, rfl, bears_promises State.start_initial h₄⟩

/-- A decrease that nothing stands against is submitted and ends without a verdict; a hold is placed,
and the ledger accepts the decrease. -/
theorem late_decrease_strands : ¬ ∀ s₀ s : State, State.Initial s₀ → Steps True s₀ s → s.Bears := by
  intro h
  have h₁ : Steps True State.start _ := Steps.refl.step (Step.locksDecrease (c := 1) 0 rfl rfl)
  have h₂ := h₁.step (Step.ownsEvent (c := 1) rfl fun m _ => Nat.zero_le m)
  have h₃ := h₂.step (Step.getsEvent (c := 1) rfl)
  have h₄ := h₃.step (Step.checks (c := 1) rfl State.start_counted le_rfl)
  have h₅ := h₄.step (Step.submits (c := 1) rfl)
  have h₆ := h₅.step (Step.ends (c := 1) trivial)
  have h₇ := h₆.step (Step.locks (c := 2) .place rfl rfl)
  have h₈ := h₇.step (Step.counts (c := 2) rfl State.start_counted)
  have h₉ := h₈.step (Step.findsRoom (c := 2) rfl trivial fun _ => rfl)
  have h₁₀ := h₉.step (Step.places (c := 2) (i := 1) rfl rfl)
  have h₁₁ := h₁₀.step (Step.accepts (c := 1) rfl rfl (by decide) (fun m _ => Nat.zero_le m)
    (.inl trivial))
  exact absurd (h _ _ State.start_initial h₁₁ rfl 0 rfl) (by decide)

end Kippu.Decreasing
