import Kippu.Recording.Runs

/-!
# Recorded statuses move forward

A status that is not open is the provider's for good, and whoever records another one
has an older answer. Only `reconcile` records the answer `open`, and while it does so
only of checkouts still recorded open, what a hold has open changes only under the
hold's lock.
-/

namespace Kippu.Recording

variable {stale : Prop} {s s' s₀ : State} {c d : Call} {i : HoldId} {j k : HostedId} {t : Task}
  {h x : Hosted} {remote status : HostedCheckoutStatus} {old : Replaced}

-- ---------------------------------------------------------------------------
-- The invariant
-- ---------------------------------------------------------------------------

/-- A hold's lock is a call's, and what the hold has open is at most one checkout it knows. -/
structure State.Holds (s : State) (c : Call) (i : HoldId) (j : Option HostedId) : Prop where
  lock : s.lock i = some c
  opened : ∀ k, s.hosted k = some ⟨i, .opened⟩ → j = some k

def State.Final (s : State) (j : HostedId) (status : HostedCheckoutStatus) : Prop :=
  status ≠ .opened ∧ s.provider j = some status

def State.Ok (s : State) (c : Call) : Task → Prop
  | .paying i j => s.Holds c i (some j)
  | .payTold i j remote => s.Holds c i (some j) ∧ (remote ≠ .opened → s.Final j remote)
  | .creating i old | .created i old _ =>
    s.Holds c i (old.map Prod.fst) ∧ ∀ p ∈ old, s.Final p.1 p.2
  | .cancelTold j remote => s.Final j remote
  | .told j remote => remote ≠ .opened → s.Final j remote
  | _ => True

structure Inv (s : State) : Prop where
  rows : ∀ j h, s.hosted j = some h → h.status ≠ .opened → s.Final j h.status
  single : ∀ i j k, s.hosted j = some ⟨i, .opened⟩ → s.hosted k = some ⟨i, .opened⟩ → j = k
  tasks : ∀ c, s.Ok c (s.task c)
  refused : s.refused = false

structure Rely (c : Call) (s s' : State) : Prop where
  final : ∀ j status, s.Final j status → s'.Final j status
  lock : ∀ i, s.lock i = some c → s'.lock i = some c
  opened : ∀ i k, s.lock i = some c → s'.hosted k = some ⟨i, .opened⟩ →
    s.hosted k = some ⟨i, .opened⟩

theorem Rely.holds (hr : Rely c s s') {j : Option HostedId} (h : s.Holds c i j) : s'.Holds c i j :=
  ⟨hr.lock i h.lock, fun k hk => h.opened k (hr.opened i k h.lock hk)⟩

theorem Rely.ok (hr : Rely c s s') (h : s.Ok c t) : s'.Ok c t := by
  cases t with
  | paying i j => exact hr.holds h
  | payTold i j remote => exact ⟨hr.holds h.1, fun hne => hr.final j remote (h.2 hne)⟩
  | creating i old => exact ⟨hr.holds h.1, fun p hp => hr.final p.1 p.2 (h.2 p hp)⟩
  | created i old j => exact ⟨hr.holds h.1, fun p hp => hr.final p.1 p.2 (h.2 p hp)⟩
  | cancelTold j remote => exact hr.final j remote h
  | told j remote => exact fun hne => hr.final j remote (h hne)
  | idle | cancelling | reconciling | ended => trivial

-- ---------------------------------------------------------------------------
-- Recording an answer
-- ---------------------------------------------------------------------------

/-- An answer not older than what is recorded. -/
def State.Fresh (s : State) (j : HostedId) (remote : HostedCheckoutStatus) : Prop :=
  s.Final j remote ∨ remote = .opened ∧ ∀ h, s.hosted j = some h → h.status = .opened

theorem record_hosted (hx : (s.record j remote).hosted k = some x) :
    ∃ h, s.hosted k = some h ∧ (x = h ∨ k = j ∧ x = { h with status := remote }) := by
  simp only [State.record, Function.update_apply] at hx
  split at hx
  · rename_i hk
    obtain ⟨h, hh, rfl⟩ := Option.map_eq_some_iff.mp hx
    exact ⟨h, hk ▸ hh, .inr ⟨hk, rfl⟩⟩
  · exact ⟨x, hx, .inl rfl⟩

theorem Inv.record_settled (hi : Inv s) (hf : s.Fresh j remote) (hk : s.hosted k = some h)
    (hst : h.status ≠ .opened) : (s.record j remote).hosted k = some h := by
  by_cases hkj : k = j
  · subst hkj
    have hrow := hi.rows k h hk hst
    have hsame : remote = h.status := by
      cases hf with
      | inl hfinal =>
        have hprovider := hfinal.2
        rw [hrow.2, Option.some.injEq] at hprovider
        exact hprovider.symm
      | inr hopen => exact absurd (hopen.2 h hk) hst
    simp [State.record, hk, hsame]
  · simp [State.record, hkj, hk]

theorem record_opened (hf : s.Fresh j remote)
    (hk : (s.record j remote).hosted k = some ⟨i, .opened⟩) : s.hosted k = some ⟨i, .opened⟩ := by
  obtain ⟨h, hh, hx | ⟨rfl, hx⟩⟩ := record_hosted hk
  · exact hx ▸ hh
  · cases hf with
    | inl hfinal =>
      rw [Hosted.mk.injEq] at hx
      exact absurd hx.2.symm hfinal.1
    | inr hopen =>
      have hstatus := hopen.2 h hh
      rw [hopen.1] at hx
      rw [hh, hx, ← hstatus]

theorem record_rely (hf : s.Fresh j remote) (c : Call) : Rely c s (s.record j remote) :=
  ⟨fun _ _ h => h, fun _ h => h, fun _ _ _ h => record_opened hf h⟩

theorem Inv.record_rows (hi : Inv s) (hf : s.Fresh j remote)
    (hk : (s.record j remote).hosted k = some x) (hst : x.status ≠ .opened) :
    s.Final k x.status := by
  obtain ⟨h, hh, rfl | ⟨rfl, rfl⟩⟩ := record_hosted hk
  · exact hi.rows k x hh hst
  · cases hf with
    | inl hfinal => exact hfinal
    | inr hopen => exact absurd hopen.1 hst

-- ---------------------------------------------------------------------------
-- Steps
-- ---------------------------------------------------------------------------

structure RowsKept (s s' : State) : Prop where
  settled : ∀ j h, s.hosted j = some h → h.status ≠ .opened → s'.hosted j = some h
  rows : ∀ j h, s'.hosted j = some h → h.status ≠ .opened → s'.Final j h.status
  single : ∀ i j k, s'.hosted j = some ⟨i, .opened⟩ → s'.hosted k = some ⟨i, .opened⟩ → j = k

theorem Inv.same (hi : Inv s) (hrows : s'.hosted = s.hosted)
    (hfinal : ∀ j status, s.Final j status → s'.Final j status) : RowsKept s s' where
  settled _ _ hj _ := hrows ▸ hj
  rows j h hj hst := hfinal j h.status (hi.rows j h (hrows ▸ hj) hst)
  single i j k hj hk := hi.single i j k (hrows ▸ hj) (hrows ▸ hk)

theorem Inv.record (hi : Inv s) (hf : s.Fresh j remote) : RowsKept s (s.record j remote) where
  settled _ _ hk hst := hi.record_settled hf hk hst
  rows _ _ hk hst := hi.record_rows hf hk hst
  single i _ _ hk hl := hi.single i _ _ (record_opened hf hk) (record_opened hf hl)

/-- A step of one call: what it does to the rows, and what the others and it know afterwards. -/
theorem Inv.step_of (hi : Inv s) (hrows : RowsKept s s')
    (hothers : ∀ d, d ≠ c → Rely d s s' ∧ s'.task d = s.task d) (hok : s'.Ok c (s'.task c))
    (hrefused : s'.refused = false) : RowsKept s s' ∧ Inv s' := by
  refine ⟨hrows, hrows.rows, hrows.single, fun d => ?_, hrefused⟩
  by_cases hd : d = c
  · exact hd ▸ hok
  · obtain ⟨hr, htask⟩ := hothers d hd
    rw [htask]
    exact hr.ok (hi.tasks d)

theorem Inv.goto (hi : Inv s) (hrows : s'.hosted = s.hosted)
    (hfinal : ∀ j status, s.Final j status → s'.Final j status)
    (hlock : ∀ d, d ≠ c → ∀ i, s.lock i = some d → s'.lock i = some d)
    (htask : ∀ d, d ≠ c → s'.task d = s.task d) (hok : s'.Ok c (s'.task c))
    (hrefused : s'.refused = false) : RowsKept s s' ∧ Inv s' :=
  hi.step_of (hi.same hrows hfinal)
    (fun d hd => ⟨⟨hfinal, hlock d hd, fun _ _ _ hk => hrows ▸ hk⟩, htask d hd⟩) hok hrefused

theorem goto_task_ne (s : State) (t : Task) (hd : d ≠ c) : (s.goto c t).task d = s.task d :=
  Function.update_of_ne hd ..

theorem goto_task (s : State) (c : Call) (t : Task) : (s.goto c t).task c = t :=
  Function.update_self ..

theorem goto_rely (s : State) (c : Call) (t : Task) : Rely c s (s.goto c t) :=
  ⟨fun _ _ h => h, fun _ h => h, fun _ _ _ h => h⟩

theorem unlock_lock (hd : d ≠ c) (h : s.lock i = some d) : (s.unlock c).lock i = some d := by
  simp [State.unlock, h, hd]

theorem lockHold_lock (hfree : s.lock i = none) {i' : HoldId} (h : s.lock i' = some d) :
    (s.lockHold c i).lock i' = some d := by
  by_cases hi : i' = i
  · subst hi
    rw [hfree] at h
    cases h
  · simpa [State.lockHold, hi] using h

theorem setProvider_final (hj : s.provider j = some .opened ∨ s.provider j = none)
    (h : s.Final k status) : (s.setProvider j remote).Final k status := by
  refine ⟨h.1, ?_⟩
  have hne : k ≠ j := by
    rintro rfl
    rw [h.2] at hj
    rcases hj with hj | hj
    · exact h.1 (Option.some.inj hj)
    · cases hj
  simp [State.setProvider, hne, h.2]

theorem cancelled_final (hj : s.provider j = some status) (h : s.Final k remote) :
    (s.setProvider j (cancelled status)).Final k remote := by
  by_cases hk : k = j
  · subst hk
    have hsame : status = remote := Option.some.inj (hj.symm.trans h.2)
    subst hsame
    refine ⟨h.1, ?_⟩
    cases status with
    | opened => exact absurd rfl h.1
    | paid | expired | cancelled => simp [State.setProvider, cancelled]
  · exact ⟨h.1, by simpa [State.setProvider, hk] using h.2⟩

theorem cancelled_ne (status : HostedCheckoutStatus) : cancelled status ≠ .opened := by
  cases status <;> simp [cancelled]

theorem Inv.moves (hi : Inv s) (hok : s.Ok c t) :
    RowsKept s (s.goto c t) ∧ Inv (s.goto c t) := by
  refine hi.goto (c := c) rfl (fun _ _ h => h) (fun _ _ _ h => h)
    (fun d hd => goto_task_ne s t hd) ?_ hi.refused
  rw [goto_task]
  exact (goto_rely _ c t).ok hok

theorem Inv.leaves (hi : Inv s) (hok : ∀ u : State, u.Ok c t) :
    RowsKept s ((s.unlock c).goto c t) ∧ Inv ((s.unlock c).goto c t) := by
  refine hi.goto (c := c) rfl (fun _ _ h => h) (fun d hd i => unlock_lock hd)
    (fun d hd => goto_task_ne _ t hd) ?_ hi.refused
  rw [goto_task]
  exact hok _

theorem Inv.locks (hi : Inv s) (hfree : s.lock i = none)
    (hok : (s.lockHold c i).Ok c t) :
    RowsKept s ((s.lockHold c i).goto c t) ∧ Inv ((s.lockHold c i).goto c t) := by
  refine hi.goto (c := c) rfl (fun _ _ h => h) (fun d _ i' => lockHold_lock hfree)
    (fun d hd => goto_task_ne _ t hd) ?_ hi.refused
  rw [goto_task]
  exact (goto_rely _ c t).ok hok

theorem Inv.answers (hi : Inv s)
    (hfinal : ∀ k status, s.Final k status → (s.setProvider j remote).Final k status)
    (hok : (s.setProvider j remote).Ok c t) :
    RowsKept s ((s.setProvider j remote).goto c t) ∧
      Inv ((s.setProvider j remote).goto c t) := by
  refine hi.goto (c := c) rfl hfinal (fun _ _ _ h => h) (fun d hd => goto_task_ne _ t hd) ?_
    hi.refused
  rw [goto_task]
  exact (goto_rely _ c t).ok hok

theorem Inv.records (hi : Inv s) (hf : s.Fresh j remote) {l : HoldId → Option Call}
    (hlock : ∀ d, d ≠ c → ∀ i, s.lock i = some d → l i = some d) (hok : ∀ u : State, u.Ok c t) :
    RowsKept s ({ s.record j remote with lock := l }.goto c t) ∧
      Inv ({ s.record j remote with lock := l }.goto c t) := by
  have hrecord := hi.record hf
  refine hi.step_of (c := c) ⟨hrecord.settled, hrecord.rows, hrecord.single⟩ (fun d hd => ?_) ?_
    hi.refused
  · have hr := record_rely hf d
    exact ⟨⟨hr.final, hlock d hd, hr.opened⟩, goto_task_ne _ _ hd⟩
  · rw [goto_task]
    exact hok _

-- ---------------------------------------------------------------------------
-- `pay` records a new checkout
-- ---------------------------------------------------------------------------

theorem recordOld_opened (hold : ∀ p ∈ old, s.Final p.1 p.2)
    (hk : (s.recordOld old).hosted k = some ⟨i, .opened⟩) : s.hosted k = some ⟨i, .opened⟩ := by
  cases old with
  | none => exact hk
  | some p => exact record_opened (.inl (hold p rfl)) hk

theorem Inv.recordOld (hi : Inv s) (hold : ∀ p ∈ old, s.Final p.1 p.2) :
    RowsKept s (s.recordOld old) := by
  cases old with
  | none => exact hi.same rfl fun _ _ h => h
  | some p => exact hi.record (.inl (hold p rfl))

theorem recordOld_closed (hheld : s.Holds c i (old.map Prod.fst))
    (hold : ∀ p ∈ old, s.Final p.1 p.2) (k : HostedId) :
    (s.recordOld old).hosted k ≠ some ⟨i, .opened⟩ := by
  intro hk
  have hknown := hheld.opened k (recordOld_opened hold hk)
  cases old with
  | none => cases hknown
  | some p =>
    have hp : p.1 = k := Option.some.inj hknown
    subst hp
    have hstatus : (s.record p.1 p.2).hosted p.1 = some ⟨i, .opened⟩ := hk
    simp only [State.record, Function.update_self, Option.map_eq_some_iff, Hosted.mk.injEq]
      at hstatus
    obtain ⟨_, _, _, hopen⟩ := hstatus
    exact (hold p rfl).1 hopen

theorem recordOld_provider (s : State) (old : Replaced) :
    (s.recordOld old).provider = s.provider := by
  cases old <;> rfl

theorem recordOld_lock (s : State) (old : Replaced) : (s.recordOld old).lock = s.lock := by
  cases old <;> rfl

theorem recordOld_task (s : State) (old : Replaced) : (s.recordOld old).task = s.task := by
  cases old <;> rfl

theorem recordOld_refused (s : State) (old : Replaced) :
    (s.recordOld old).refused = s.refused := by
  cases old <;> rfl

theorem recordOld_none (hj : s.hosted j = none) : (s.recordOld old).hosted j = none := by
  cases old with
  | none => exact hj
  | some p =>
    simp only [State.recordOld, State.record, Function.update_apply]
    split
    · rename_i hp
      simp [← hp, hj]
    · exact hj

theorem create_hosted (hk : (s.create j i).hosted k = some x) :
    k = j ∧ x = ⟨i, .opened⟩ ∨ k ≠ j ∧ s.hosted k = some x := by
  by_cases hkj : k = j
  · subst hkj
    simp only [State.create, Function.update_self, Option.some.injEq] at hk
    exact .inl ⟨rfl, hk.symm⟩
  · exact .inr ⟨hkj, by simpa [State.create, hkj] using hk⟩

theorem RowsKept.create {u : State} (hu : RowsKept s u) (hj : u.hosted j = none)
    (hclosed : ∀ k, u.hosted k ≠ some ⟨i, .opened⟩) : RowsKept s (u.create j i) where
  settled k h hk hst := by
    have hkept := hu.settled k h hk hst
    have hkj : k ≠ j := by
      rintro rfl
      rw [hj] at hkept
      cases hkept
    simpa [State.create, hkj] using hkept
  rows k h hk hst := by
    obtain ⟨_, rfl⟩ | ⟨_, hk⟩ := create_hosted hk
    · exact absurd rfl hst
    · exact hu.rows k h hk hst
  single i' k l hk hl := by
    obtain ⟨rfl, hx⟩ | ⟨_, hk'⟩ := create_hosted hk <;>
      obtain ⟨rfl, hy⟩ | ⟨_, hl'⟩ := create_hosted hl
    · rfl
    · obtain ⟨rfl, _⟩ := Hosted.mk.injEq .. ▸ hx
      exact absurd hl' (hclosed l)
    · obtain ⟨rfl, _⟩ := Hosted.mk.injEq .. ▸ hy
      exact absurd hk' (hclosed k)
    · exact hu.single i' k l hk' hl'

theorem Inv.commits (hi : Inv s) (htask : s.task c = .created i old j) (hj : s.hosted j = none) :
    RowsKept s ((((s.recordOld old).create j i).unlock c).goto c .ended) ∧
      Inv ((((s.recordOld old).create j i).unlock c).goto c .ended) := by
  have hok := hi.tasks c
  rw [htask] at hok
  obtain ⟨hheld, hold⟩ := hok
  have hkept := (hi.recordOld hold).create (recordOld_none hj) (recordOld_closed hheld hold)
  refine hi.step_of (c := c) ⟨hkept.settled, hkept.rows, hkept.single⟩ (fun d hd => ⟨?_, ?_⟩) ?_ ?_
  · refine ⟨fun k status h => ⟨h.1, ?_⟩, fun i' hl => unlock_lock hd ?_, fun i' k hl hk => ?_⟩
    · exact (congrFun (recordOld_provider s old) k).trans h.2
    · exact (congrFun (recordOld_lock s old) i').trans hl
    · obtain ⟨rfl, hx⟩ | ⟨_, hk⟩ := create_hosted hk
      -- the new checkout's hold is locked by this call
      · obtain ⟨rfl, _⟩ := Hosted.mk.injEq .. ▸ hx
        exact absurd (Option.some.inj (hl.symm.trans hheld.lock)) hd
      · exact recordOld_opened hold hk
  · exact (goto_task_ne _ _ hd).trans (congrFun (recordOld_task s old) d)
  · rw [goto_task]
    trivial
  · exact (recordOld_refused s old).trans hi.refused

-- ---------------------------------------------------------------------------
-- Every step, and runs
-- ---------------------------------------------------------------------------

theorem Inv.step (hi : Inv s) (h : Step False s s') : RowsKept s s' ∧ Inv s' := by
  cases h with
  | settles j status hj =>
    have hfinal : ∀ k st, s.Final k st → (s.setProvider j status).Final k st :=
      fun _ _ h => setProvider_final (.inl hj) h
    have hrows : RowsKept s (s.setProvider j status) := hi.same rfl hfinal
    have hr (c : Call) : Rely c s (s.setProvider j status) :=
      ⟨hfinal, fun _ h => h, fun _ _ _ h => h⟩
    exact ⟨hrows, hrows.rows, hrows.single, fun c => (hr c).ok (hi.tasks c), hi.refused⟩
  | payFinds c i j htask hfree hj =>
    refine hi.locks hfree ⟨Function.update_self .., fun k hk => ?_⟩
    rw [hi.single i j k hj hk]
  | payFindsNone c i htask hfree hnone =>
    exact hi.locks hfree
      ⟨⟨Function.update_self .., fun k hk => absurd hk (hnone k)⟩, fun _ hp => by cases hp⟩
  | @payRetrieves i j remote c htask hremote =>
    have hok := hi.tasks c
    rw [htask] at hok
    exact hi.moves ⟨hok, fun hne => ⟨hne, hremote⟩⟩
  | payReturns c htask => exact hi.leaves fun _ => trivial
  | @payFindsPaid i j c htask =>
    have hok := hi.tasks c
    rw [htask] at hok
    exact hi.records (.inl (hok.2 nofun)) (fun d hd i => unlock_lock hd) fun _ => trivial
  | @payGoesOn i j remote c htask hopen _ =>
    have hok := hi.tasks c
    rw [htask] at hok
    refine hi.moves ⟨hok.1, fun p hp => ?_⟩
    cases hp
    exact hok.2 hopen
  | @creates i old j c htask hj =>
    have hfinal : ∀ k st, s.Final k st → (s.setProvider j .opened).Final k st :=
      fun _ _ h => setProvider_final (.inr hj) h
    have hok := hi.tasks c
    rw [htask] at hok
    have hr : Rely c s (s.setProvider j .opened) := ⟨hfinal, fun _ h => h, fun _ _ _ h => h⟩
    exact hi.answers hfinal ⟨hr.holds hok.1, fun p hp => hfinal p.1 p.2 (hok.2 p hp)⟩
  | commits c htask hj _ => exact hi.commits htask hj
  | commitFails c htask hfits =>
    have hok := hi.tasks c
    rw [htask] at hok
    exact absurd (fun k hk => absurd hk (recordOld_closed hok.1 hok.2 k)) hfits
  | cancels c i j htask hfree hj => exact hi.locks hfree trivial
  | sweeps c j htask hj => exact hi.moves trivial
  | @cancelAnswers j status c htask hj =>
    exact hi.answers (fun _ _ h => cancelled_final hj h)
      ⟨cancelled_ne status, Function.update_self ..⟩
  | @cancelRecords j remote c htask _ =>
    have hok := hi.tasks c
    rw [htask] at hok
    exact hi.records (.inl hok) (fun d hd i => unlock_lock hd) fun _ => trivial
  | cancelFindsPaid c htask => exact hi.leaves fun _ => trivial
  | prompted c j htask hj => exact hi.moves trivial
  | retrieves c htask hj => exact hi.moves fun hne => ⟨hne, hj⟩
  | @recordsOpen j h c htask hj hst _ =>
    have hopen : h.status = .opened := hst.resolve_left id
    refine hi.records (.inr ⟨rfl, fun h' hj' => ?_⟩) (fun _ _ _ h => h) fun _ => trivial
    exact Option.some.inj (hj.symm.trans hj') ▸ hopen
  | @recordFails j h c htask hj hst hfits =>
    have hopen : h.status = .opened := hst.resolve_left id
    have hj : s.hosted j = some ⟨h.hold, .opened⟩ := by rw [hj, ← hopen]
    exact absurd (fun k hk => hi.single h.hold k j hk hj) hfits
  | @records j remote c htask hne =>
    have hok := hi.tasks c
    rw [htask] at hok
    exact hi.records (.inl (hok hne)) (fun _ _ _ h => h) fun _ => trivial
  | stops c => exact hi.leaves fun _ => trivial

theorem State.Initial.inv (h : s.Initial) : Inv s where
  rows j x hj := by
    rw [h.hosted j] at hj
    cases hj
  single i j k hj := by
    rw [h.hosted j] at hj
    cases hj
  tasks c := by
    rw [h.task c]
    trivial
  refused := h.refused

theorem Inv.steps (hi : Inv s) (h : Steps False s s') : Inv s' ∧ Forward s s' := by
  induction h with
  | refl => exact ⟨hi, fun _ _ hj _ => hj, hi.single, hi.refused⟩
  | step _ hstep ih =>
    obtain ⟨hi', hforward⟩ := ih
    obtain ⟨hkept, hnext⟩ := hi'.step hstep
    exact ⟨hnext, fun j h hj hst => hkept.settled j h (hforward.settled j h hj hst) hst,
      hkept.single, hnext.refused⟩

/-- While `reconcile` records `open` only of checkouts that are recorded open, recorded statuses
move forward, from any state of any run. -/
theorem forward_only (h₀ : s₀.Initial) (h : Steps False s₀ s) (h' : Steps False s s') :
    Forward s s' :=
  ((h₀.inv.steps h).1.steps h').2

def beginning : State := ⟨fun _ => none, fun _ => none, fun _ => none, fun _ => .idle, false⟩

theorem beginning_initial : beginning.Initial := ⟨fun _ => rfl, fun _ => rfl, fun _ => rfl, rfl⟩

/-- A checkout is created, and cancelled by a sweep. -/
theorem forward_only_cancelled :
    ∃ s s', s.hosted 1 = some ⟨0, .opened⟩ ∧ s'.hosted 1 = some ⟨0, .cancelled⟩ ∧
      Forward s s' := by
  have hpaying : Steps False beginning _ :=
    Steps.refl.step (.payFindsNone 0 0 rfl rfl fun _ => nofun)
  have hcreated := hpaying.step (.creates (j := 1) 0 rfl rfl)
  have hopened := hcreated.step (.commits 0 rfl rfl fun _ hk => by cases hk)
  have hswept : Steps False hopened.last _ := Steps.refl.step (.sweeps 1 1 rfl rfl)
  have hanswered := hswept.step (.cancelAnswers 1 rfl rfl)
  have hcancelled := hanswered.step (.cancelRecords 1 rfl nofun)
  exact ⟨_, _, rfl, rfl, forward_only beginning_initial hopened hcancelled⟩

/-- `reconcile` reads `open`, a sweep cancels the checkout, and the older answer is recorded over
it: the checkout is open again. Or the checkout expires and `pay` replaces it, and recording the
older answer fails. -/
theorem recorded_open_again :
    ∃ s s' s'', Steps True beginning s ∧ Steps True s s' ∧ Steps True beginning s'' ∧
      s.hosted 1 = some ⟨0, .cancelled⟩ ∧ s'.hosted 1 = some ⟨0, .opened⟩ ∧
      ¬ Forward s s' ∧ s''.hosted 1 = some ⟨0, .expired⟩ ∧ s''.refused = true := by
  have hpaying : Steps True beginning _ :=
    Steps.refl.step (.payFindsNone 0 0 rfl rfl fun _ => nofun)
  have hcreated := hpaying.step (.creates (j := 1) 0 rfl rfl)
  have hopened := hcreated.step (.commits 0 rfl rfl fun _ hk => by cases hk)
  have hprompted := hopened.step (.prompted 1 1 rfl rfl)
  have hread := hprompted.step (.retrieves 1 rfl rfl)
  -- a sweep
  have hswept := hread.step (.sweeps 2 1 rfl rfl)
  have hanswered := hswept.step (.cancelAnswers 2 rfl rfl)
  have hcancelled := hanswered.step (.cancelRecords 2 rfl nofun)
  have hnone (k : HostedId) : hcancelled.last.hosted k ≠ some ⟨0, .opened⟩ := by
    by_cases hk : k = 1
    · subst hk
      nofun
    · simp [Steps.last, State.goto, State.unlock, State.record, State.setProvider, State.create,
        State.recordOld, State.lockHold, beginning, hk]
  have hagain : Steps True hcancelled.last _ := Steps.refl.step
    (.recordsOpen 1 rfl rfl (.inl trivial) fun k hk => absurd hk (hnone k))
  -- a second payment
  have hexpired := hread.step (.settles 1 .expired rfl)
  have hfound := hexpired.step (.payFinds 2 0 1 rfl rfl rfl)
  have htold := hfound.step (.payRetrieves 2 rfl rfl)
  have hgoes := htold.step (.payGoesOn 2 rfl nofun nofun)
  have hreplacing := hgoes.step (.creates (j := 2) 2 rfl rfl)
  have hreplaced := hreplacing.step (.commits 2 rfl rfl fun k hk => by
    by_cases hk₁ : k = 1
    · subst hk₁
      cases hk
    · simp [State.goto, State.unlock, State.record, State.setProvider, State.create,
        State.recordOld, State.lockHold, beginning, hk₁] at hk)
  have hrefused := hreplaced.step
    (.recordFails 1 rfl rfl (.inl trivial) fun h => absurd (h 2 rfl) (by decide))
  refine ⟨_, _, _, hcancelled, hagain, hrefused, rfl, rfl, fun h => ?_, rfl, rfl⟩
  exact absurd (h.settled 1 ⟨0, .cancelled⟩ rfl nofun) nofun

end Kippu.Recording
