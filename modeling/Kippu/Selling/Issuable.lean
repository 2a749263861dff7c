import Kippu.Selling.Runs

/-!
# Whatever can be sold can be issued

An event is of the organiser whose call created it, and its link, once there, names that
organiser. So long as nothing is sellable before it is linked, every hold's event is
linked, and the lookup of its sale finds what it looks for.
-/

namespace Kippu.Selling

variable {late : Prop} {s s' : State} {c d : Call} {o o' : OrganiserId} {e : EventId}
variable {a : AccountId} {row : TicketClass} {h : Hold}

structure Origins (s : State) : Prop where
  injective : ∀ {o o' a}, s.account o = some a → s.account o' = some a → o = o'
  accepted : ∀ {c o e}, s.task c = .accepted o e → s.Owned o e ∧ s.organiser e = none
  recorded : ∀ {c o e}, s.task c = .recorded o e → s.Owned o e ∧ s.organiser e = some o
  once : ∀ {c d o o' e}, s.task c = .accepted o e → s.task d = .accepted o' e → c = d
  linked : ∀ {e}, s.owner e = none → s.organiser e = none

structure Sold (s : State) : Prop where
  sellable : ∀ {e}, s.Sellable e → s.Recorded e
  held : ∀ {i h}, s.holds i = some h →
    s.Recorded h.event ∧ ∃ row, s.classes h.classId = some row ∧ row.event = h.event
  known : ∀ {i h}, s.holds i = some h → h.sale ≠ .unknown

-- ---------------------------------------------------------------------------
-- What stays
-- ---------------------------------------------------------------------------

theorem goto_eq (h : (s.goto c t).task d = t') : d = c ∧ t = t' ∨ d ≠ c ∧ s.task d = t' := by
  by_cases hd : d = c
  · subst hd
    exact .inl ⟨rfl, by simpa [State.goto] using h⟩
  · exact .inr ⟨hd, by simpa [State.goto, hd] using h⟩

theorem owned_of (howner : ∀ e a, s.owner e = some a → s'.owner e = some a)
    (haccount : ∀ o a, s.account o = some a → s'.account o = some a) (h : s.Owned o e) :
    s'.Owned o e := by
  obtain ⟨a, he, ho⟩ := h
  exact ⟨a, howner e a he, haccount o a ho⟩

theorem create_owner {b : AccountId} (hnone : s.owner e = none) (e' : EventId) (a : AccountId)
    (h : s.owner e' = some a) : (s.create e b).owner e' = some a := by
  have hne : e' ≠ e := by
    rintro rfl
    rw [hnone] at h
    cases h
  simpa [State.create, hne] using h

theorem Step.keeps (h : Step late s s') :
    (∀ e, s.Recorded e → s'.Recorded e) ∧
      ∀ i row, s.classes i = some row → ∃ row', s'.classes i = some row' ∧ row'.event = row.event := by
  have hgoto : ∀ {t : State} {c task'}, t.task = s.task →
      (∀ o e, s.task c ≠ .recorded o e) → ∀ e, s.Recorded e → (t.goto c task').Recorded e := by
    rintro t c task' htask hnot e ⟨d, o, hd⟩
    have hne : d ≠ c := by
      rintro rfl
      exact hnot o e hd
    exact ⟨d, o, by simpa [State.goto, hne, htask] using hd⟩
  have hset : ∀ {j : ClassId} {new : TicketClass},
      (∀ row, s.classes j = some row → new.event = row.event) →
      ∀ i row, s.classes i = some row →
        ∃ row', (s.setClass j new).classes i = some row' ∧ row'.event = row.event := by
    intro j new hnew i row hi
    by_cases hij : i = j
    · subst hij
      exact ⟨new, by simp [State.setClass], hnew row hi⟩
    · exact ⟨row, by simpa [State.setClass, hij] using hi, rfl⟩
  have hsame : ∀ i row, s.classes i = some row →
      ∃ row', s.classes i = some row' ∧ row'.event = row.event := fun _ row hi => ⟨row, hi, rfl⟩
  cases h with
  | provisions | foreign | places | pays | issues => exact ⟨fun _ h => h, hsame⟩
  | accepts c o e hidle => exact ⟨hgoto rfl fun _ _ h => (by rw [hidle] at h; cases h), hsame⟩
  | inserts c hc => exact ⟨hgoto rfl fun _ _ h => (by rw [hc] at h; cases h), hsame⟩
  | stops c hc => exact ⟨hgoto rfl fun _ _ h => (by rw [hc] at h; cases h), hsame⟩
  | defines i o row hnone =>
    refine ⟨fun _ h => h, hset fun r hr => ?_⟩
    rw [hnone] at hr
    cases hr
  | setsPrice i o price hrow =>
    refine ⟨fun _ h => h, hset fun r hr => ?_⟩
    rw [hrow] at hr
    cases hr
    rfl
  | setsAsset o e asset cleared =>
    refine ⟨fun _ h => h, fun i row hi => ?_⟩
    refine ⟨if cleared i then { row with price := none } else row, by simp [State.setAsset, hi], ?_⟩
    split <;> rfl

-- ---------------------------------------------------------------------------
-- Origins
-- ---------------------------------------------------------------------------

theorem Origins.frame (hs : Origins s) (howner : s'.owner = s.owner)
    (haccount : s'.account = s.account) (horganiser : s'.organiser = s.organiser)
    (htask : ∀ d t, s'.task d = t → t = s.task d ∨ t = .stopped) : Origins s' := by
  have hold : ∀ {d t}, s'.task d = t → t ≠ .stopped → s.task d = t := fun h hne =>
    ((htask _ _ h).resolve_right hne).symm
  have howned : ∀ {o e}, s.Owned o e → s'.Owned o e := fun {o e} ⟨a, he, ho⟩ =>
    ⟨a, by rw [howner]; exact he, by rw [haccount]; exact ho⟩
  exact {
    injective := by rw [haccount]; exact hs.injective
    accepted := fun h => by
      obtain ⟨howns, hnone⟩ := hs.accepted (hold h nofun)
      exact ⟨howned howns, by rw [horganiser]; exact hnone⟩
    recorded := fun h => by
      obtain ⟨howns, hlink⟩ := hs.recorded (hold h nofun)
      exact ⟨howned howns, by rw [horganiser]; exact hlink⟩
    once := fun h h' => hs.once (hold h nofun) (hold h' nofun)
    linked := by rw [howner, horganiser]; exact hs.linked }

theorem Origins.provision (hs : Origins s) (hnone : s.account o = none)
    (hfresh : ∀ o', s.account o' ≠ some a) : Origins (s.provision o a) := by
  have haccount : ∀ o' b, s.account o' = some b → (s.provision o a).account o' = some b := by
    intro o' b h
    have hne : o' ≠ o := by
      rintro rfl
      rw [hnone] at h
      cases h
    simpa [State.provision, hne] using h
  have howned : ∀ {o' e}, s.Owned o' e → (s.provision o a).Owned o' e :=
    owned_of (fun _ _ h => h) haccount
  exact {
    injective := fun {o₁ o₂ b} h₁ h₂ => by
      by_cases ho₁ : o₁ = o <;> by_cases ho₂ : o₂ = o
      · rw [ho₁, ho₂]
      · subst ho₁
        simp only [State.provision, Function.update_self, Option.some.injEq,
          Function.update_of_ne ho₂] at h₁ h₂
        subst h₁
        exact absurd h₂ (hfresh o₂)
      · subst ho₂
        simp only [State.provision, Function.update_self, Option.some.injEq,
          Function.update_of_ne ho₁] at h₁ h₂
        subst h₂
        exact absurd h₁ (hfresh o₁)
      · simp only [State.provision, Function.update_of_ne ho₁, Function.update_of_ne ho₂] at h₁ h₂
        exact hs.injective h₁ h₂
    accepted := fun h => ⟨howned (hs.accepted h).1, (hs.accepted h).2⟩
    recorded := fun h => ⟨howned (hs.recorded h).1, (hs.recorded h).2⟩
    once := hs.once
    linked := hs.linked }

theorem Origins.create (hs : Origins s) (hnone : s.owner e = none) : Origins (s.create e a) where
  injective := hs.injective
  accepted h := ⟨owned_of (create_owner hnone) (fun _ _ h => h) (hs.accepted h).1, (hs.accepted h).2⟩
  recorded h := ⟨owned_of (create_owner hnone) (fun _ _ h => h) (hs.recorded h).1, (hs.recorded h).2⟩
  once := hs.once
  linked := fun {e'} h => by
    by_cases he : e' = e
    · subst he
      simp [State.create] at h
    · exact hs.linked (by simpa [State.create, he] using h)

theorem Origins.accept (hs : Origins s) (haccount : s.account o = some a)
    (hnone : s.owner e = none) : Origins ((s.create e a).goto c (.accepted o e)) := by
  have hc := hs.create (a := a) hnone
  have hother : ∀ {d o'}, s.task d ≠ .accepted o' e := fun {d o'} hd => by
    obtain ⟨⟨b, hb, -⟩, -⟩ := hs.accepted hd
    rw [hnone] at hb
    cases hb
  exact {
    injective := hc.injective
    accepted := fun h => by
      rcases goto_eq h with ⟨-, heq⟩ | ⟨-, hold⟩
      · cases heq
        exact ⟨⟨a, by simp [State.goto, State.create], haccount⟩, hs.linked hnone⟩
      · exact hc.accepted hold
    recorded := fun h => by
      rcases goto_eq h with ⟨-, heq⟩ | ⟨-, hold⟩
      · cases heq
      · exact hc.recorded hold
    once := fun h h' => by
      rcases goto_eq h with ⟨rfl, heq⟩ | ⟨-, hold⟩
      · cases heq
        rcases goto_eq h' with ⟨rfl, -⟩ | ⟨-, hold'⟩
        · rfl
        · exact absurd hold' hother
      · rcases goto_eq h' with ⟨-, heq'⟩ | ⟨-, hold'⟩
        · cases heq'
          exact absurd hold hother
        · exact hs.once hold hold'
    linked := hc.linked }

theorem Origins.link (hs : Origins s) (hc : s.task c = .accepted o e) :
    Origins ((s.link e o).goto c (.recorded o e)) := by
  obtain ⟨howned, hnone⟩ := hs.accepted hc
  have hlink : (s.link e o).organiser e = some o := by simp [State.link, hnone]
  have hothers : ∀ {e'}, e' ≠ e → (s.link e o).organiser e' = s.organiser e' := fun he => by
    simp [State.link, he]
  exact {
    injective := hs.injective
    accepted := fun {d o' e'} h => by
      rcases goto_eq h with ⟨-, heq⟩ | ⟨hd, hold⟩
      · cases heq
      · have he : e' ≠ e := by
          rintro rfl
          exact hd (hs.once hold hc)
        exact ⟨(hs.accepted hold).1, (hothers he).trans (hs.accepted hold).2⟩
    recorded := fun {d o' e'} h => by
      rcases goto_eq h with ⟨-, heq⟩ | ⟨-, hold⟩
      · cases heq
        exact ⟨howned, hlink⟩
      · have he : e' ≠ e := by
          rintro rfl
          rw [(hs.recorded hold).2] at hnone
          cases hnone
        exact ⟨(hs.recorded hold).1, (hothers he).trans (hs.recorded hold).2⟩
    once := fun h h' => by
      rcases goto_eq h with ⟨-, heq⟩ | ⟨-, hold⟩
      · cases heq
      · rcases goto_eq h' with ⟨-, heq'⟩ | ⟨-, hold'⟩
        · cases heq'
        · exact hs.once hold hold'
    linked := fun {e'} h => by
      have he : e' ≠ e := by
        rintro rfl
        obtain ⟨b, hb, -⟩ := howned
        rw [show s.owner e' = none from h] at hb
        cases hb
      exact (hothers he).trans (hs.linked h) }

theorem Origins.step (hs : Origins s) (h : Step late s s') : Origins s' := by
  cases h with
  | provisions o a hnone hfresh => exact hs.provision hnone hfresh
  | foreign e a hnone => exact hs.create hnone
  | accepts c o e _ haccount hnone => exact hs.accept haccount hnone
  | inserts c hc => exact hs.link hc
  | stops c hc =>
    refine hs.frame rfl rfl rfl fun d t h => ?_
    rcases goto_eq h with ⟨-, heq⟩ | ⟨-, hold⟩
    · exact .inr heq.symm
    · exact .inl hold.symm
  | defines | setsPrice | setsAsset | places | pays | issues =>
    exact hs.frame rfl rfl rfl fun _ _ h => .inl h.symm

-- ---------------------------------------------------------------------------
-- Sales
-- ---------------------------------------------------------------------------

theorem Sold.frame (hs : Sold s) (hkeeps : ∀ e, s.Recorded e → s'.Recorded e)
    (hclasses : s'.classes = s.classes) (hasset : s'.asset = s.asset)
    (hholds : s'.holds = s.holds) : Sold s' where
  sellable := fun {e} he => by
    refine hkeeps e (hs.sellable ?_)
    simpa only [State.Sellable, hclasses, hasset] using he
  held := fun {i x} hx => by
    rw [hholds] at hx
    obtain ⟨hrecorded, hrow⟩ := hs.held hx
    exact ⟨hkeeps _ hrecorded, by rw [hclasses]; exact hrow⟩
  known := by rw [hholds]; exact hs.known

theorem Sold.organise (hs : Sold s) (hkeeps : ∀ e, s.Recorded e → s'.Recorded e)
    (hclasses : ∀ i row, s.classes i = some row →
      ∃ row', s'.classes i = some row' ∧ row'.event = row.event)
    (hallowed : Allowed False s s') (hholds : s'.holds = s.holds) : Sold s' where
  sellable := fun {e} he => by
    refine hkeeps e ?_
    rcases hallowed e he with hold | hrecorded | hfalse
    · exact hs.sellable hold
    · exact hrecorded
    · exact hfalse.elim
  held := fun {i x} hx => by
    rw [hholds] at hx
    obtain ⟨hrecorded, row, hrow, hevent⟩ := hs.held hx
    obtain ⟨row', hrow', hevent'⟩ := hclasses _ row hrow
    exact ⟨hkeeps _ hrecorded, row', hrow', hevent'.trans hevent⟩
  known := by rw [hholds]; exact hs.known

theorem Sold.hold (hs : Sold s) (hrecorded : s.Recorded h.event)
    (hclass : ∃ row, s.classes h.classId = some row ∧ row.event = h.event)
    (hknown : h.sale ≠ .unknown) : Sold (s.setHold i h) where
  sellable := hs.sellable
  held := fun {j x} hx => by
    by_cases hj : j = i
    · subst hj
      obtain rfl : h = x := by simpa [State.setHold] using hx
      exact ⟨hrecorded, hclass⟩
    · exact hs.held (by simpa [State.setHold, hj] using hx)
  known := fun {j x} hx => by
    by_cases hj : j = i
    · subst hj
      obtain rfl : h = x := by simpa [State.setHold] using hx
      exact hknown
    · exact hs.known (by simpa [State.setHold, hj] using hx)

theorem Sold.issue (hs : Sold s) (ho : Origins s) (hx : s.holds i = some h) :
    s.issue h ≠ .unknown := by
  obtain ⟨⟨c, o, hc⟩, row, hrow, hevent⟩ := hs.held hx
  have hlink := (ho.recorded hc).2
  have hfound : (some row).filter (·.event = h.event) = some row := by simp [Option.filter, hevent]
  unfold State.issue
  rw [hlink, hrow, hfound]
  nofun

theorem Sold.step (hs : Sold s) (ho : Origins s) (hstep : Step False s s') : Sold s' := by
  obtain ⟨hkeeps, hclasses⟩ := hstep.keeps
  cases hstep with
  | provisions | foreign | accepts | inserts | stops => exact hs.frame hkeeps rfl rfl rfl
  | defines i o row hnone horganiser howned hallowed =>
    exact hs.organise hkeeps hclasses hallowed rfl
  | setsPrice i o price hrow howned hallowed => exact hs.organise hkeeps hclasses hallowed rfl
  | setsAsset o e asset cleared howned hallowed =>
    exact hs.organise hkeeps hclasses hallowed rfl
  | places i k asset hnone hrow hpurchased hprice hasset =>
    exact hs.hold (hs.sellable ⟨⟨asset, hasset⟩, k, _, hrow, rfl, hpurchased, hprice⟩)
      ⟨_, hrow, rfl⟩ nofun
  | pays i hx => exact hs.hold (hs.held hx).1 (hs.held hx).2 nofun
  | issues i hx => exact hs.hold (hs.held hx).1 (hs.held hx).2 (hs.issue ho hx)

-- ---------------------------------------------------------------------------
-- Runs
-- ---------------------------------------------------------------------------

theorem State.Initial.origins (h : s.Initial) : Origins s where
  injective := fun {o o' a} ho => by
    rw [h.account] at ho
    cases ho
  accepted := fun {c o e} hc => by
    rw [h.task] at hc
    cases hc
  recorded := fun {c o e} hc => by
    rw [h.task] at hc
    cases hc
  once := fun {c d o o' e} hc => by
    rw [h.task] at hc
    cases hc
  linked := fun {e} _ => h.organiser e

theorem State.Initial.sold (h : s.Initial) : Sold s where
  sellable := fun {e} ⟨_, i, row, hrow, _⟩ => by
    rw [h.classes] at hrow
    cases hrow
  held := fun {i x} hx => by
    rw [h.holds] at hx
    cases hx
  known := fun {i x} hx => by
    rw [h.holds] at hx
    cases hx

theorem Origins.steps (ho : Origins s) (h : Steps late s s') : Origins s' := by
  induction h with
  | refl => exact ho
  | step _ hstep ih => exact ih.step hstep

theorem Sold.steps (hs : Sold s) (ho : Origins s) (h : Steps False s s') : Sold s' := by
  induction h with
  | refl => exact hs
  | step hsteps hstep ih => exact ih.step (ho.steps hsteps) hstep

/-- In every run in which an event becomes sellable only once its creation is linked: whatever can be
sold can be issued. -/
theorem sold_is_issuable (h₀ : s₀.Initial) (h : Steps False s₀ s) : s.Issuable := by
  have ho := h₀.origins.steps h
  have hs := h₀.sold.steps h₀.origins h
  refine ⟨fun o e howned hsellable => ?_, fun i x hx => hs.known hx⟩
  obtain ⟨c, o', hc⟩ := hs.sellable hsellable
  obtain ⟨⟨a, howner, haccount⟩, hlink⟩ := ho.recorded hc
  obtain ⟨b, howner', haccount'⟩ := howned
  rw [howner] at howner'
  cases howner'
  rw [hlink, ho.injective haccount haccount']

-- ---------------------------------------------------------------------------
-- An event that is not linked
-- ---------------------------------------------------------------------------

def beginning : State where
  owner _ := none
  account _ := none
  organiser _ := none
  classes _ := none
  asset _ := none
  holds _ := none
  task _ := .idle

theorem beginning_initial : beginning.Initial :=
  ⟨fun _ => rfl, fun _ => rfl, fun _ => rfl, fun _ => rfl, fun _ => rfl, fun _ => rfl⟩

def standing : TicketClass := ⟨5, 1, .purchased, some 40⟩

/-- The event is created and linked, and a ticket of it sold. -/
theorem sold_is_issuable_one : ∃ s, Steps False beginning s ∧
    s.holds 3 = some ⟨5, 2, .relayed 1⟩ ∧ s.Issuable := by
  have hprovisioned : Steps False beginning _ := Steps.refl.step
    (.provisions 1 9 rfl (fun _ => nofun) fun _ => nofun)
  have haccepted := hprovisioned.step (.accepts 0 1 5 rfl (a := 9) rfl rfl)
  have hlinked := haccepted.step (.inserts 0 rfl)
  have hasset := hlinked.step (.setsAsset 1 5 7 (fun _ => false) ⟨9, rfl, rfl⟩
    fun e ⟨_, i, row, hrow, _⟩ => nomatch hrow)
  have hrecorded : hasset.last.Recorded 5 := ⟨0, 1, rfl⟩
  have hdefined := hasset.step (.defines 2 1 standing rfl rfl ⟨9, rfl, rfl⟩
    fun e ⟨⟨asset, he⟩, _⟩ => ?_)
  · have hclass : hdefined.last.classes 2 = some standing := rfl
    have hplaced := hdefined.step (.places 3 2 7 rfl hclass rfl nofun rfl)
    have hpaid := hplaced.step (.pays 3 (h := ⟨5, 2, .unpaid⟩) rfl rfl)
    have hissued := hpaid.step (.issues 3 (h := ⟨5, 2, .paid⟩) rfl rfl)
    exact ⟨_, hissued, rfl, sold_is_issuable beginning_initial hissued⟩
  · by_cases h : e = 5
    · subst h
      exact .inr (.inl hrecorded)
    · simp [State.setClass, State.setAsset, State.goto, State.link, State.create,
        State.provision, beginning, h] at he

/-- The `INSERT` fails after the ledger accepted the event: the organiser sells a ticket of it, which
is paid, and whose sale is rejected. -/
theorem paid_and_rejected : ∃ s, Steps True beginning s ∧ s.Owned 1 5 ∧ s.Sellable 5 ∧
    s.organiser 5 = none ∧ s.holds 3 = some ⟨5, 2, .unknown⟩ ∧ ¬ s.Issuable := by
  have hprovisioned : Steps True beginning _ := Steps.refl.step
    (.provisions 1 9 rfl (fun _ => nofun) fun _ => nofun)
  have haccepted := hprovisioned.step (.accepts 0 1 5 rfl (a := 9) rfl rfl)
  have hstopped := haccepted.step (.stops 0 rfl)
  have hasset := hstopped.step (.setsAsset 1 5 7 (fun _ => false) ⟨9, rfl, rfl⟩
    fun _ _ => .inr (.inr trivial))
  have hdefined := hasset.step (.defines 2 1 standing rfl rfl ⟨9, rfl, rfl⟩
    fun _ _ => .inr (.inr trivial))
  have hclass : hdefined.last.classes 2 = some standing := rfl
  have hplaced := hdefined.step (.places 3 2 7 rfl hclass rfl nofun rfl)
  have hpaid := hplaced.step (.pays 3 (h := ⟨5, 2, .unpaid⟩) rfl rfl)
  have hissued := hpaid.step (.issues 3 (h := ⟨5, 2, .paid⟩) rfl rfl)
  refine ⟨_, hissued, ⟨9, rfl, rfl⟩, ⟨⟨7, rfl⟩, 2, standing, rfl, rfl, rfl, nofun⟩, rfl, rfl,
    fun h => h.known 3 ⟨5, 2, .unknown⟩ rfl rfl⟩

end Kippu.Selling
