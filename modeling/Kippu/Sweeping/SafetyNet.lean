import Kippu.Sweeping.Runs

/-!
# A sweep handles what was paid

A checkout recorded as anything but open has that status at the provider for good, and
one recorded as paid has a sale or a refund: `takePlace` commits both together. Only
`pay`, which records a checkout it finds paid before it is reconciled, leaves one that
no sweep selects (`found_paid_unhandled`). Every other that the provider reports with the
hold it was created for is handled (`sweep_handles`), also one paid while the sweep runs.
-/

namespace Kippu.Sweeping

variable {finds : HostedId → Prop} {names : HostedId → Option HoldId} {s s' s₀ s₁ : State}
  {c d : Call} {j k : HostedId} {t : Task} {h x : Hosted} {remote : HostedCheckoutStatus}

structure Fine (finds : HostedId → Prop) (s : State) (j : HostedId)
    (status : HostedCheckoutStatus) : Prop where
  provider : status ≠ .opened → s.provider j = status
  paid : status = .paid → s.handled j ∨ finds j

def State.Ok (s : State) : Task → Prop
  | .payTold j remote => remote ≠ .opened → s.provider j = remote
  | .told j remote _ => remote ≠ .opened → s.provider j = remote
  | .cancelTold j remote _ => remote ≠ .opened ∧ s.provider j = remote
  | .reconciling j (.sweeps _) => s.provider j = .paid
  | _ => True

structure Inv (finds : HostedId → Prop) (s : State) : Prop where
  rows : ∀ j h, s.hosted j = some h → Fine finds s j h.status
  tasks : ∀ c, s.Ok (s.task c)

/-- The provider's statuses are settled, what is handled stays so, and a row keeps its hold. -/
structure Later (s s' : State) : Prop where
  provider : ∀ j, s.provider j ≠ .opened → s'.provider j = s.provider j
  handled : ∀ j, s.handled j → s'.handled j
  hold : ∀ j h, s.hosted j = some h → ∃ h', s'.hosted j = some h' ∧ h'.hold = h.hold

theorem Later.fine (hl : Later s s') {status : HostedCheckoutStatus} (h : Fine finds s j status) :
    Fine finds s' j status where
  provider hne := by
    have hp := h.provider hne
    exact (hl.provider j (hp ▸ hne)).trans hp
  paid hst := (h.paid hst).imp_left (hl.handled j)

theorem Later.ok (hl : Later s s') (h : s.Ok t) : s'.Ok t := by
  have hkeep : ∀ {j : HostedId} {r : HostedCheckoutStatus}, r ≠ .opened → s.provider j = r →
      s'.provider j = r := fun hne hp => (hl.provider _ (hp ▸ hne)).trans hp
  cases t with
  | payTold j r => exact fun hne => hkeep hne (h hne)
  | told j r after => exact fun hne => hkeep hne (h hne)
  | cancelTold j r after => exact ⟨h.1, hkeep h.1 h.2⟩
  | reconciling j after =>
    cases after with
    | ends => trivial
    | sweeps todo => exact hkeep (by simp) h
  | _ => trivial

theorem After.ok (after : After) : s.Ok after.task := by cases after <;> trivial

-- ---------------------------------------------------------------------------
-- What each write leaves
-- ---------------------------------------------------------------------------

theorem Later.of_hosted (hp : s'.provider = s.provider) (hh : ∀ j, s.handled j → s'.handled j)
    (hr : s'.hosted = s.hosted) : Later s s' :=
  ⟨fun j _ => congrFun hp j, hh, fun _ h hj => ⟨h, hr ▸ hj, rfl⟩⟩

theorem Later.refl (s : State) : Later s s := .of_hosted rfl (fun _ h => h) rfl

theorem Later.trans {s'' : State} (h : Later s s') (h' : Later s' s'') : Later s s'' where
  provider j hne := by
    have hp := h.provider j hne
    exact (h'.provider j (hp ▸ hne)).trans hp
  handled j hj := h'.handled j (h.handled j hj)
  hold j x hx := by
    obtain ⟨y, hy, hhold⟩ := h.hold j x hx
    obtain ⟨z, hz, hhold'⟩ := h'.hold j y hy
    exact ⟨z, hz, hhold'.trans hhold⟩

theorem later_goto (s : State) (c : Call) (t : Task) : Later s (s.goto c t) :=
  .of_hosted rfl (fun _ h => h) rfl

theorem later_setHold (s : State) (i : HoldId) (status : HoldStatus) :
    Later s (s.setHold i status) := .of_hosted rfl (fun _ h => h) rfl

theorem later_releaseHold (s : State) (i : HoldId) (status : HoldStatus) :
    Later s (s.releaseHold i status) := by
  unfold State.releaseHold
  split
  · exact later_setHold s i status
  · exact .refl s

theorem later_record (s : State) (j : HostedId) (status : HostedCheckoutStatus) :
    Later s (s.record j status) := by
  refine ⟨fun _ _ => rfl, fun _ h => h, fun k x hx => ?_⟩
  simp only [State.record, Function.update_apply]
  split
  next hk => exact ⟨{ x with status }, by simp [← hk, hx], rfl⟩
  next => exact ⟨x, hx, rfl⟩

theorem later_create {i : HoldId} (hj : s.hosted j = none) : Later s (s.create j i) := by
  refine ⟨fun _ _ => rfl, fun _ h => h, fun k x hx => ⟨x, ?_, rfl⟩⟩
  have hne : k ≠ j := by
    rintro rfl
    simp [hj] at hx
  simpa [State.create, Function.update_of_ne hne] using hx

theorem later_entitle (s : State) (j : HostedId) : Later s (s.entitle j) :=
  .of_hosted rfl (fun _ h => h.imp_right (Finset.mem_insert_of_mem ·)) rfl

theorem later_addSale (s : State) (j : HostedId) : Later s (s.addSale j) :=
  .of_hosted rfl (fun _ h => h.imp_left (Finset.mem_insert_of_mem ·)) rfl

theorem later_setProvider (s : State) {j : HostedId} (status : HostedCheckoutStatus)
    (hj : s.provider j = .opened) : Later s (s.setProvider j status) := by
  refine ⟨fun k hk => ?_, fun _ h => h, fun _ x hx => ⟨x, hx, rfl⟩⟩
  have hne : k ≠ j := by
    rintro rfl
    exact hk hj
  simp [State.setProvider, Function.update_of_ne hne]

theorem record_hosted (hx : (s.record j remote).hosted k = some x) :
    ∃ h, s.hosted k = some h ∧ (x = h ∨ k = j ∧ x.status = remote) := by
  simp only [State.record, Function.update_apply] at hx
  split at hx
  next hk =>
    obtain ⟨h, hh, rfl⟩ := Option.map_eq_some_iff.mp hx
    exact ⟨h, hk ▸ hh, .inr ⟨hk, rfl⟩⟩
  next => exact ⟨x, hx, .inl rfl⟩

theorem create_hosted {i : HoldId} (hx : (s.create j i).hosted k = some x) :
    s.hosted k = some x ∨ x.status = .opened := by
  simp only [State.create, Function.update_apply] at hx
  split at hx
  · obtain rfl := Option.some.inj hx
    exact .inr rfl
  · exact .inl hx

theorem releaseHold_hosted (s : State) (i : HoldId) (status : HoldStatus) :
    (s.releaseHold i status).hosted = s.hosted := by
  unfold State.releaseHold
  split <;> rfl

theorem releaseHold_task (s : State) (i : HoldId) (status : HoldStatus) :
    (s.releaseHold i status).task = s.task := by
  unfold State.releaseHold
  split <;> rfl

theorem Takes.spec (h : Takes s j s') : Later s s' ∧ s'.handled j ∧ s'.task = s.task ∧
    s'.hosted = (s.record j .paid).hosted := by
  have hentitled : ((s.record j .paid).entitle j).handled j :=
    .inr (Finset.mem_insert_self j s.refunds)
  have hlater := later_record s j .paid
  cases h with
  | handled hj => exact ⟨hlater, hj, rfl, rfl⟩
  | @refused x status hx hno hst =>
    have hrel := later_releaseHold ((s.record j .paid).entitle j) x.hold status
    exact ⟨(hlater.trans (later_entitle _ j)).trans hrel, hrel.handled j hentitled,
      releaseHold_task _ _ _, releaseHold_hosted _ _ _⟩
  | placeGone => exact ⟨hlater.trans (later_entitle _ j), hentitled, rfl, rfl⟩
  | taken =>
    exact ⟨(hlater.trans (later_addSale _ j)).trans (later_setHold _ _ _),
      .inl (Finset.mem_insert_self j s.sales), rfl, rfl⟩

-- ---------------------------------------------------------------------------
-- The invariant
-- ---------------------------------------------------------------------------

theorem Inv.later (hi : Inv finds s) (hl : Later s s')
    (hrows : ∀ j x, s'.hosted j = some x → s.hosted j = some x ∨ Fine finds s' j x.status)
    (htasks : ∀ d, s'.task d = s.task d ∨ s'.Ok (s'.task d)) : Inv finds s' where
  rows j x hx := (hrows j x hx).elim (fun h => hl.fine (hi.rows j x h)) id
  tasks d := (htasks d).elim (fun h => h ▸ hl.ok (hi.tasks d)) id

theorem Inv.goto (hi : Inv finds s) (hl : Later s s') (htask : s'.task = s.task)
    (hrows : ∀ j x, s'.hosted j = some x → s.hosted j = some x ∨ Fine finds s' j x.status)
    (hok : s'.Ok t) : Inv finds (s'.goto c t) := by
  have hl' := later_goto s' c t
  refine hi.later (hl.trans hl') (fun j x hx => (hrows j x hx).imp_right hl'.fine) fun d => ?_
  simp only [State.goto, Function.update_apply]
  split
  · exact .inr (hl'.ok hok)
  · exact .inl (congrFun htask d)

theorem Inv.moves (hi : Inv finds s) (hok : s.Ok t) : Inv finds (s.goto c t) :=
  hi.goto (.refl s) rfl (fun _ _ hx => .inl hx) hok

theorem Inv.records (hi : Inv finds s) (hl : Later s s') (htask : s'.task = s.task)
    (hrows : s'.hosted = (s.record j remote).hosted) (hfine : Fine finds s' j remote)
    (hok : s'.Ok t) : Inv finds (s'.goto c t) := by
  refine hi.goto hl htask (fun k x hx => ?_) hok
  rw [hrows] at hx
  obtain ⟨y, hy, rfl | ⟨rfl, rfl⟩⟩ := record_hosted hx
  · exact .inl hy
  · exact .inr hfine

theorem later_replaces {i : HoldId} (hk : s.hosted k = none) :
    Later s ((s.record j remote).create k i) := by
  refine (later_record s j remote).trans (later_create ?_)
  simp only [State.record, Function.update_apply]
  split
  next he => simp [← he, hk]
  next => exact hk

theorem Inv.payReplaces (hi : Inv finds s) {i : HoldId} (hc : s.task c = .payTold j remote)
    (hr : remote ≠ .opened) (hp : remote ≠ .paid) (hk : s.hosted k = none) :
    Inv finds (((s.record j remote).create k i).goto c .ended) := by
  have hok : s.Ok (.payTold j remote) := hc ▸ hi.tasks c
  refine hi.goto (later_replaces hk) rfl (fun l x hx => ?_) trivial
  rcases create_hosted hx with hx | hst
  · obtain ⟨y, hy, rfl | ⟨rfl, rfl⟩⟩ := record_hosted hx
    · exact .inl hy
    · exact .inr ⟨fun _ => hok hr, fun he => absurd he hp⟩
  · exact .inr ⟨fun hne => absurd hst hne, fun he => by simp [hst] at he⟩

theorem Inv.step (hi : Inv finds s) (hs : Step finds names s s') : Inv finds s' := by
  cases hs with
  | held | holdEnds | issued =>
    exact hi.later (later_setHold _ _ _) (fun _ _ hx => .inl hx) fun _ => .inl rfl
  | rejected =>
    exact hi.later ((later_entitle _ _).trans (later_setHold _ _ _)) (fun _ _ hx => .inl hx)
      fun _ => .inl rfl
  | cancellationRefund =>
    exact hi.later (later_entitle _ _) (fun _ _ hx => .inl hx) fun _ => .inl rfl
  | settles status hp =>
    exact hi.later (later_setProvider s status hp) (fun _ _ hx => .inl hx) fun _ => .inl rfl
  | pays | payReturns | cancels | selects | next | returns | prompted | stops =>
    exact hi.moves trivial
  | @cancelFindsPaid c j after hc =>
    have hok : s.Ok (.cancelTold j .paid after) := hc ▸ hi.tasks c
    cases after with
    | ends => exact hi.moves trivial
    | sweeps todo => exact hi.moves hok.2
  | otherHold => exact hi.moves (After.ok _)
  | payCreates _ _ _ hj =>
    refine hi.goto (later_create hj) rfl (fun l x hx => ?_) trivial
    refine (create_hosted hx).imp_right fun hst => ?_
    exact ⟨fun hne => absurd hst hne, fun he => by simp [hst] at he⟩
  | payRetrieves | retrieves => exact hi.moves fun _ => rfl
  | @payFindsPaid c j hc hf =>
    have hok : s.Ok (.payTold j .paid) := hc ▸ hi.tasks c
    exact hi.records (later_record s j .paid) rfl rfl ⟨fun _ => hok (by simp), fun _ => .inr hf⟩
      trivial
  | payReplaces hc hr hp _ hk => exact hi.payReplaces hc hr hp hk
  | @cancelOpen c j after hc hp =>
    refine hi.goto (later_setProvider s .cancelled hp) rfl (fun _ _ hx => .inl hx) ?_
    exact ⟨by simp, by simp [State.setProvider]⟩
  | cancelSettled hc hp => exact hi.moves ⟨hp, rfl⟩
  | @cancelReleases c j r x status hc hr hx hst =>
    have hok : s.Ok (.cancelTold j r .ends) := hc ▸ hi.tasks c
    have hl := (later_record s j r).trans (later_releaseHold _ x.hold status)
    exact hi.records hl (releaseHold_task _ _ _) (releaseHold_hosted _ _ _)
      (hl.fine ⟨fun _ => hok.2, fun he => absurd he hr⟩) trivial
  | @sweepRecords c j r todo hc hr =>
    have hok : s.Ok (.cancelTold j r (.sweeps todo)) := hc ▸ hi.tasks c
    exact hi.records (later_record s j r) rfl rfl ⟨fun _ => hok.2, fun he => absurd he hr⟩ trivial
  | @records c j r after hc hr =>
    have hok : s.Ok (.told j r after) := hc ▸ hi.tasks c
    exact hi.records (later_record s j r) rfl rfl ⟨hok, fun he => absurd he hr⟩ after.ok
  | @takes c j after s'' hc ht =>
    have hok : s.Ok (.told j .paid after) := hc ▸ hi.tasks c
    obtain ⟨hl, hhandled, htask, hrows⟩ := ht.spec
    have hpaid : s.provider j = .paid := hok (by simp)
    have hpaid' : s''.provider j = .paid := (hl.provider j (by simp [hpaid])).trans hpaid
    exact hi.records hl htask hrows ⟨fun _ => hpaid', fun _ => .inl hhandled⟩ after.ok

theorem Steps.inv (h₀ : State.Initial s₀) (hs : Steps finds names s₀ s) : Inv finds s := by
  induction hs with
  | refl => exact ⟨fun j x hx => by simp [h₀.hosted] at hx, fun c => by simp [h₀.task, State.Ok]⟩
  | step _ hstep ih => exact ih.step hstep

-- ---------------------------------------------------------------------------
-- A sweep
-- ---------------------------------------------------------------------------

/-- Whether a sweep that has selected the checkout has yet to look at it, or has failed. -/
def Task.Awaits (j : HostedId) : Task → Prop
  | .sweeping todo => j ∈ todo
  | .cancelling k (.sweeps todo) => j = k ∨ j ∈ todo
  | .cancelTold k _ (.sweeps todo) => j = k ∨ j ∈ todo
  | .reconciling k (.sweeps todo) => j = k ∨ j ∈ todo
  | .told k remote (.sweeps todo) => j = k ∧ remote = .paid ∨ j ∈ todo
  | .idle => False
  | .swept => False
  | _ => True

/-- The provider reports the checkout with its hold. If paid, it is handled or yet to be
looked at. -/
structure Due (names : HostedId → Option HoldId) (c : Call) (j : HostedId) (s : State) :
    Prop where
  named : ∃ h, s.hosted j = some h ∧ names j = some h.hold
  awaits : (s.provider j ≠ .opened ∧ s.provider j ≠ .paid) ∨ s.handled j ∨ (s.task c).Awaits j

theorem Due.named_later (hd : Due names c j s) (hl : Later s s') :
    ∃ h, s'.hosted j = some h ∧ names j = some h.hold := by
  obtain ⟨h, hh, hname⟩ := hd.named
  obtain ⟨h', hh', hhold⟩ := hl.hold j h hh
  exact ⟨h', hh', hhold ▸ hname⟩

theorem Later.settled (hl : Later s s') (h : s.provider j ≠ .opened ∧ s.provider j ≠ .paid) :
    s'.provider j ≠ .opened ∧ s'.provider j ≠ .paid := by
  rwa [hl.provider j h.1]

theorem Due.later (hd : Due names c j s) (hl : Later s s') (htask : s'.task = s.task) :
    Due names c j s' :=
  ⟨hd.named_later hl, hd.awaits.imp hl.settled (.imp (hl.handled j) fun ha => htask ▸ ha)⟩

theorem Due.goto (hd : Due names c j s) (hl : Later s s') (htask : s'.task = s.task)
    (hgo : d = c → (s.task d).Awaits j →
      (s'.provider j ≠ .opened ∧ s'.provider j ≠ .paid) ∨ s'.handled j ∨ t.Awaits j) :
    Due names c j (s'.goto d t) := by
  refine ⟨hd.named_later (hl.trans (later_goto s' d t)), ?_⟩
  rcases hd.awaits with hu | hh | ha
  · exact .inl (hl.settled hu)
  · exact .inr (.inl (hl.handled j hh))
  · rcases eq_or_ne d c with rfl | hne
    · simpa [State.goto, State.handled] using hgo rfl ha
    · exact .inr (.inr (by simpa [State.goto, Function.update_of_ne hne.symm, htask] using ha))

theorem After.awaits {after : After} (h : ∀ todo, after = .sweeps todo → j ∈ todo) :
    after.task.Awaits j := by
  cases after with
  | ends => trivial
  | sweeps todo => exact h todo rfl

theorem Due.step (hd : Due names c j s) (hi : Inv finds s) (hs : Step finds names s s') :
    Due names c j s' := by
  cases hs with
  | held | holdEnds | issued => exact hd.later (later_setHold _ _ _) rfl
  | rejected => exact hd.later ((later_entitle _ _).trans (later_setHold _ _ _)) rfl
  | cancellationRefund => exact hd.later (later_entitle _ _) rfl
  | settles status hp => exact hd.later (later_setProvider s status hp) rfl
  | pays hc | cancels hc | prompted hc | selects _ hc =>
    exact hd.goto (.refl s) rfl fun _ ha => by simp [hc, Task.Awaits] at ha
  | payCreates hc _ _ hj =>
    exact hd.goto (later_create hj) rfl fun _ ha => by simp [hc, Task.Awaits] at ha
  | payRetrieves | payReturns | stops => exact hd.goto (.refl s) rfl fun _ _ => .inr (.inr trivial)
  | payFindsPaid => exact hd.goto (later_record _ _ _) rfl fun _ _ => .inr (.inr trivial)
  | payReplaces _ _ _ _ hk => exact hd.goto (later_replaces hk) rfl fun _ _ => .inr (.inr trivial)
  | next hc =>
    exact hd.goto (.refl s) rfl fun _ ha => .inr (.inr (by simpa [hc, Task.Awaits] using ha))
  | returns hc => exact hd.goto (.refl s) rfl fun _ ha => by simp [hc, Task.Awaits] at ha
  | @cancelOpen d k after hc hp =>
    refine hd.goto (later_setProvider s .cancelled hp) rfl fun _ ha => .inr (.inr ?_)
    cases after with
    | ends => trivial
    | sweeps todo => simpa [hc, Task.Awaits] using ha
  | @cancelSettled d k after hc hp =>
    refine hd.goto (.refl s) rfl fun _ ha => .inr (.inr ?_)
    cases after with
    | ends => trivial
    | sweeps todo => simpa [hc, Task.Awaits] using ha
  | cancelReleases status =>
    exact hd.goto ((later_record _ _ _).trans (later_releaseHold _ _ _)) (releaseHold_task _ _ _)
      fun _ _ => .inr (.inr trivial)
  | @sweepRecords d k r todo hc hr =>
    have hok : s.Ok (.cancelTold k r (.sweeps todo)) := hc ▸ hi.tasks d
    refine hd.goto (later_record s k r) rfl fun _ ha => ?_
    have ha : j = k ∨ j ∈ todo := by simpa [hc, Task.Awaits] using ha
    rcases ha with rfl | ha
    -- the provider has it as expired or cancelled, for good
    · exact .inl (by simpa [State.record, hok.2] using ⟨hok.1, hr⟩)
    · exact .inr (.inr ha)
  | @cancelFindsPaid d k after hc =>
    refine hd.goto (.refl s) rfl fun _ ha => .inr (.inr ?_)
    cases after with
    | ends => trivial
    | sweeps todo => simpa [hc, Task.Awaits] using ha
  | @retrieves d k after h hc hh hname =>
    have hok : s.Ok (.reconciling k after) := hc ▸ hi.tasks d
    refine hd.goto (.refl s) rfl fun _ ha => .inr (.inr ?_)
    cases after with
    | ends => trivial
    | sweeps todo =>
      have ha : j = k ∨ j ∈ todo := by simpa [hc, Task.Awaits] using ha
      exact ha.imp_left fun he => ⟨he, hok⟩
  | @otherHold d k after h hc hh hname =>
    refine hd.goto (.refl s) rfl fun _ ha => .inr (.inr (After.awaits ?_))
    rintro todo rfl
    have ha : j = k ∨ j ∈ todo := by simpa [hc, Task.Awaits] using ha
    refine ha.resolve_left ?_
    rintro rfl
    obtain ⟨h', hh', hname'⟩ := hd.named
    obtain rfl := Option.some.inj (hh.symm.trans hh')
    exact hname hname'
  | @records d k r after hc hr =>
    refine hd.goto (later_record s k r) rfl fun _ ha => .inr (.inr (After.awaits ?_))
    rintro todo rfl
    simpa [hc, Task.Awaits, hr] using ha
  | @takes d k after s'' hc ht =>
    obtain ⟨hl, hhandled, htask, -⟩ := ht.spec
    refine hd.goto hl htask fun _ ha => .inr ?_
    rcases eq_or_ne j k with rfl | hne
    · exact .inl hhandled
    · refine .inr (After.awaits ?_)
      rintro todo rfl
      simpa [hc, Task.Awaits, hne] using ha

/-- In every run: a checkout whose hold was lapsed or released when a sweep selected, and which is
paid when the sweep returns with no error, then has a sale or a refund, unless `pay` found it
already paid. -/
theorem sweep_handles (h₀ : State.Initial s₀) (h₁ : Steps finds names s₀ s)
    (hs : Swept finds names s s') (hover : s.Over j) (hpaid : s'.provider j = .paid)
    (hf : ¬ finds j) (hnames : ∀ h, s.hosted j = some h → names j = some h.hold) :
    s'.handled j := by
  obtain ⟨c, todo, -, htodo, hrun, hc⟩ := hs
  have hi := Steps.inv h₀ h₁
  obtain ⟨h, hh, -⟩ := id hover
  have hstart : Due names c j (s.goto c (.sweeping todo)) := by
    refine ⟨⟨h, hh, hnames h hh⟩, ?_⟩
    have hfine := hi.rows j h hh
    by_cases hst : h.status = .opened
    · refine .inr (.inr ?_)
      have hmem : j ∈ todo := (htodo j).mpr ⟨hover, h.hold, by rw [hh, ← hst]⟩
      simpa [State.goto, Task.Awaits] using hmem
    · by_cases hp : h.status = .paid
      · exact .inr (.inl ((hfine.paid hp).resolve_right hf))
      · exact .inl (hfine.provider hst ▸ ⟨hst, hp⟩)
  have hend : Inv finds s' ∧ Due names c j s' := by
    clear hc hpaid
    induction hrun with
    | refl => exact ⟨hi.moves trivial, hstart⟩
    | step _ hstep ih => exact ⟨ih.1.step hstep, ih.2.step ih.1 hstep⟩
  rcases hend.2.awaits with hu | hh' | ha
  · exact absurd hpaid hu.2
  · exact hh'
  · simp [hc, Task.Awaits] at ha

def State.start : State := ⟨fun _ => none, fun _ => none, fun _ => .opened, ∅, ∅, fun _ => .idle⟩

theorem State.start_initial : State.Initial State.start := ⟨fun _ => rfl, fun _ => rfl⟩

def State.lapsed : State :=
  (((State.start.setHold 0 .outstanding).create 0 0).goto 1 .ended).setHold 0 .lapsed

theorem State.lapsed_run : Steps finds names State.start State.lapsed := by
  have h₁ : Steps finds names State.start _ := Steps.refl.step (Step.held (i := 0) rfl)
  have h₂ := h₁.step (Step.payCreates (c := 1) (i := 0) (j := 0) rfl rfl
    (by simp [State.setHold, State.start]) rfl)
  exact h₂.step (Step.holdEnds (i := 0) .lapsed rfl (.inl rfl))

theorem State.lapsed_selects : State.lapsed.Selects [0] := by
  intro j
  rw [List.mem_singleton]
  constructor
  · rintro rfl
    exact ⟨⟨⟨0, .opened⟩, rfl, .inl rfl⟩, 0, rfl⟩
  · rintro ⟨-, i, hi⟩
    by_contra hne
    simp [State.lapsed, State.setHold, State.goto, State.create, State.start,
      Function.update_of_ne hne] at hi

/-- A checkout is paid before the sweep cancels it, and the sweep takes it. -/
theorem sweep_handles_one :
    ∃ s', Swept (fun _ => False) (fun _ => some 0) State.lapsed s' ∧ s'.handled 0 := by
  have h₁ : Steps (fun _ => False) (fun _ => some 0) (State.lapsed.goto 2 (.sweeping [0])) _ :=
    Steps.refl.step (Step.next (c := 2) rfl)
  have h₂ := h₁.step (Step.settles (j := 0) .paid rfl)
  have h₃ := h₂.step (Step.cancelSettled (c := 2) rfl (by decide))
  have h₄ := h₃.step (Step.cancelFindsPaid (c := 2) rfl)
  have h₅ := h₄.step (Step.retrieves (c := 2) (h := ⟨0, .opened⟩) rfl rfl rfl)
  have h₆ := h₅.step (Step.takes (c := 2) rfl (.taken (j := 0) (h := ⟨0, .opened⟩) rfl (by decide)
    rfl (by decide) (by decide)))
  have h₇ := h₆.step (Step.returns (c := 2) rfl)
  have hs : Swept (fun _ => False) (fun _ => some 0) State.lapsed _ :=
    ⟨2, [0], rfl, State.lapsed_selects, h₇, rfl⟩
  refine ⟨_, hs, sweep_handles State.start_initial State.lapsed_run hs
    ⟨⟨0, .opened⟩, rfl, .inl rfl⟩ rfl id fun h hh => ?_⟩
  obtain rfl : Hosted.mk 0 .opened = h := Option.some.inj hh
  rfl

/-- `pay` finds its hold's checkout paid and records it; it fails before the checkout is reconciled,
and the hold lapses. -/
theorem found_paid_run : ∃ s, Steps (fun _ => True) (fun _ => some 0) State.start s ∧
    s.task 3 = .idle ∧ s.hosted = Function.update (fun _ => none) 0 (some ⟨0, .paid⟩) ∧
      s.holds 0 = some .lapsed ∧ s.provider 0 = .paid ∧ s.sales = ∅ ∧ s.refunds = ∅ := by
  have h₁ : Steps (fun _ => True) (fun _ => some 0) State.start _ :=
    Steps.refl.step (Step.held (i := 0) rfl)
  have h₂ := h₁.step (Step.payCreates (c := 1) (i := 0) (j := 0) rfl rfl
    (by simp [State.setHold, State.start]) rfl)
  have h₃ := h₂.step (Step.pays (c := 2) (j := 0) (i := 0) rfl rfl rfl)
  have h₄ := h₃.step (Step.settles (j := 0) .paid rfl)
  have h₅ := h₄.step (Step.payRetrieves (c := 2) (j := 0) rfl)
  have h₆ := h₅.step (Step.payFindsPaid (c := 2) (j := 0) rfl trivial)
  have h₇ := h₆.step (Step.stops (c := 2))
  have h₈ := h₇.step (Step.holdEnds (i := 0) .lapsed rfl (.inl rfl))
  refine ⟨_, h₈, rfl, ?_, rfl, rfl, rfl, rfl⟩
  funext j
  by_cases hj : j = 0
  · subst hj
    rfl
  · simp [State.record, State.setHold, State.goto, State.setProvider, State.create, State.start,
      Function.update_of_ne hj]

/-- No sweep selects it again, though the provider names its hold. -/
theorem found_paid_unhandled : ¬ ∀ s s' j, Steps (fun _ => True) (fun _ => some 0) State.start s →
    Swept (fun _ => True) (fun _ => some 0) s s' → s.Over j → s'.Over j →
      s'.provider j = .paid → s'.handled j := by
  intro hall
  obtain ⟨s, hs, hidle, hhosted, hhold, hpaid, hsales, hrefunds⟩ := found_paid_run
  have hselects : s.Selects [] := by
    intro j
    refine iff_of_false (by simp) ?_
    rintro ⟨-, i, hi⟩
    rw [hhosted, Function.update_apply] at hi
    split at hi <;> simp at hi
  have hgo : (s.goto 3 (.sweeping [])).task 3 = .sweeping [] := by simp [State.goto]
  have hswept : Swept (fun _ => True) (fun _ => some 0) s _ :=
    ⟨3, [], hidle, hselects, Steps.refl.step (Step.returns hgo), by simp [State.goto]⟩
  have hover : s.Over 0 := ⟨⟨0, .paid⟩, by simp [hhosted], .inl hhold⟩
  rcases hall _ _ 0 hs hswept hover hover hpaid with h | h
  · simp [State.goto, hsales] at h
  · simp [State.goto, hrefunds] at h

end Kippu.Sweeping
