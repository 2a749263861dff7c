import Kippu.Finishing.Runs

/-!
# Which runs submit, and what settles them

Whoever works on the schedule holds its run lock, and the schedule is `running` while
one of its runs is at work or settled. Unless it is running, refused or finished, no
submission of its current setting can land any more, nor was one refused
(`State.Quiet`); so a claim starts from a quiet schedule, and its one submission is
made with every earlier one out of the way.

The audit log is read by the schedule's id, which it keeps when it is set again.
`settle` therefore takes a run refused before for the current one
(`settles_by_earlier_refusal`), unless no such refusal is there (`settled_refused`).
-/

namespace Kippu.Finishing

variable {operationLifetime : ℕ} {may : State → Prop} {good : Prop} {s s' s₀ : State}
  {p q : Proc} {t : Task} {op : Operation} {row : AuditRow} {claim : Claim} {at_ : ℕ}

/-- The submission can land no more, and was not refused as far as the audit log knows. -/
def AuditRow.Over (operationLifetime clock : ℕ) (row : AuditRow) : Prop :=
  (row.verdict ≠ none ∨ row.recordedAt + operationLifetime ≤ clock) ∧ row.outcome ≠ .rejected

def State.Quiet (operationLifetime : ℕ) (s : State) : Prop :=
  ∀ op row, s.audit op = some row → row.setting = s.row.setting →
    row.Over operationLifetime s.clock

def State.Current (s : State) (row : AuditRow) : Prop :=
  row.setting = s.row.setting ∧ row.run = s.row.run

def State.RunRefused (s : State) : Prop :=
  ∃ op row, s.audit op = some row ∧ row.run = s.row.run ∧ row.verdict = some false

/-- The claim was made of the schedule as it was last set, by the current run. -/
structure State.Made (s : State) (claim : Claim) : Prop where
  due : claim.row.due claim.at_
  reads : s.Reads claim.at_
  setting : claim.row.setting = s.row.setting
  run : claim.row.run + 1 = s.row.run

/-- What a process knows where it is; `good` runs know what they settle as refused. -/
def State.Ok (operationLifetime : ℕ) (good : Prop) (s : State) : Task → Prop
  | .idle => True
  | .due at_ => s.Reads at_
  | .claiming at_ => s.Reads at_
  | .finishing claim => s.row.status = .running ∧ s.Made claim ∧ s.Quiet operationLifetime
  | .signing op => s.row.status = .running ∧ (∃ row, s.audit op = some row ∧ s.Current row) ∧
      ∀ op' row, op' ≠ op → s.audit op' = some row → row.setting = s.row.setting →
        row.Over operationLifetime s.clock
  | .awaiting op => s.row.status = .running ∧ ∃ row, s.audit op = some row ∧ s.Current row
  | .refused => s.row.status = .running
  | .recording status => s.row.status = .running ∧ (status = .finished ∨ status = .refused)
  | .reading => True
  | .settling => s.row.status = .running
  | .judging => s.row.status = .running
  | .settled status => s.row.status = .running ∧ (status = .finished ∨
      status = .scheduled ∧ s.Quiet operationLifetime ∨
      status = .refused ∧ (good → s.RunRefused))
  | .unlocking => True

structure State.RowOk (s : State) (row : AuditRow) : Prop where
  setting : row.setting ≤ s.row.setting
  due : row.claim.row.due row.claim.at_
  reads : s.Reads row.claim.at_
  rejected : row.outcome = .rejected → row.verdict = some false
  settled : row.outcome = .settled → row.verdict = some true
  current : row.outcome = .rejected → row.setting = s.row.setting → row.run = s.row.run

structure Inv (operationLifetime : ℕ) (good : Prop) (s : State) : Prop where
  lock : ∀ p, (s.task p).Locked → s.lock = some p
  tasks : ∀ p, s.Ok operationLifetime good (s.task p)
  rows : ∀ op row, s.audit op = some row → s.RowOk row
  quiet : s.row.status = .scheduled ∨ s.row.status = .cancelled → s.Quiet operationLifetime

theorem Inv.initial (h : s.Initial) : Inv operationLifetime good s where
  lock p hp := by simp [h.task, Task.Locked] at hp
  tasks p := by simp [h.task, State.Ok]
  rows op row hrow := by simp [h.audit] at hrow
  quiet _ op row hrow := by simp [h.audit] at hrow

-- ---------------------------------------------------------------------------
-- Time and verdicts
-- ---------------------------------------------------------------------------

structure Ages (s s' : State) : Prop where
  status : s'.row.status = s.row.status
  setting : s'.row.setting = s.row.setting
  run : s'.row.run = s.row.run
  clock : s.clock ≤ s'.clock
  audit : ∀ op row, s.audit op = some row → ∃ verdict,
    (row.verdict ≠ none → verdict = row.verdict) ∧ s'.audit op = some { row with verdict }
  none_ : ∀ op, s.audit op = none → s'.audit op = none

theorem Ages.back (h : Ages s s') (hrow : s'.audit op = some row) :
    ∃ row', s.audit op = some row' ∧ row = { row' with verdict := row.verdict } ∧
      (row'.verdict ≠ none → row.verdict = row'.verdict) := by
  cases hs : s.audit op with
  | none =>
    rw [h.none_ op hs] at hrow
    cases hrow
  | some row' =>
    obtain ⟨verdict, hv, heq⟩ := h.audit op row' hs
    obtain rfl := Option.some.inj (heq.symm.trans hrow)
    exact ⟨row', rfl, rfl, hv⟩

theorem Ages.reads (h : Ages s s') (hr : s.Reads at_) : s'.Reads at_ :=
  Nat.le_trans hr (Nat.add_le_add_right h.clock _)

theorem Ages.over (h : Ages s s') (hrow : s'.audit op = some row)
    (ho : ∀ row', s.audit op = some row' → row'.setting = row.setting →
      row'.Over operationLifetime s.clock) : row.Over operationLifetime s'.clock := by
  obtain ⟨row', hrow', heq, hv⟩ := h.back hrow
  obtain ⟨hdead, hrej⟩ := ho row' hrow' (by rw [heq]; rfl)
  refine ⟨?_, by rw [heq]; exact hrej⟩
  rcases hdead with hd | hd
  · exact .inl (by rw [hv hd]; exact hd)
  · exact .inr (by rw [heq]; exact hd.trans h.clock)

theorem Ages.quiet (h : Ages s s') (hq : s.Quiet operationLifetime) :
    s'.Quiet operationLifetime := fun op _ hrow hset =>
  h.over hrow fun row' hrow' hset' => hq op row' hrow' (hset'.trans (hset.trans h.setting))

theorem Ages.current (h : Ages s s') (hc : ∃ row, s.audit op = some row ∧ s.Current row) :
    ∃ row, s'.audit op = some row ∧ s'.Current row := by
  obtain ⟨row, hrow, hset, hrun⟩ := hc
  obtain ⟨verdict, -, heq⟩ := h.audit op row hrow
  exact ⟨_, heq, hset.trans h.setting.symm, hrun.trans h.run.symm⟩

theorem Ages.runRefused (h : Ages s s') (hr : s.RunRefused) : s'.RunRefused := by
  obtain ⟨op, row, hrow, hrun, hv⟩ := hr
  obtain ⟨verdict, hkept, heq⟩ := h.audit op row hrow
  exact ⟨op, _, heq, hrun.trans h.run.symm, (hkept (by simp [hv])).trans hv⟩

theorem Ages.ok (h : Ages s s') (ht : s.Ok operationLifetime good t) :
    s'.Ok operationLifetime good t := by
  cases t with
  | idle | reading | unlocking => trivial
  | due | claiming => exact h.reads ht
  | finishing claim =>
    obtain ⟨hrun, hm, hq⟩ := ht
    exact ⟨h.status.trans hrun, ⟨hm.due, h.reads hm.reads, hm.setting.trans h.setting.symm,
      hm.run.trans h.run.symm⟩, h.quiet hq⟩
  | signing op =>
    obtain ⟨hrun, hc, ho⟩ := ht
    refine ⟨h.status.trans hrun, h.current hc, fun op' row hne hrow hset => ?_⟩
    exact h.over hrow fun row' hrow' hset' =>
      ho op' row' hne hrow' (hset'.trans (hset.trans h.setting))
  | awaiting op => exact ⟨h.status.trans ht.1, h.current ht.2⟩
  | refused | settling | judging => exact h.status.trans ht
  | recording status => exact ⟨h.status.trans ht.1, ht.2⟩
  | settled status =>
    refine ⟨h.status.trans ht.1, ?_⟩
    rcases ht.2 with hst | ⟨hst, hq⟩ | ⟨hst, hr⟩
    · exact .inl hst
    · exact .inr (.inl ⟨hst, h.quiet hq⟩)
    · exact .inr (.inr ⟨hst, fun hg => h.runRefused (hr hg)⟩)

theorem Ages.rowOk (h : Ages s s') (hrows : ∀ op row, s.audit op = some row → s.RowOk row)
    (hrow : s'.audit op = some row) : s'.RowOk row := by
  obtain ⟨row', hrow', heq, hv⟩ := h.back hrow
  have hr := hrows op row' hrow'
  have hcl : row.claim = row'.claim := by rw [heq]
  have hout : row.outcome = row'.outcome := by rw [heq]
  have hset : row.setting = row'.setting := congrArg (·.row.setting) hcl
  have hrun : row.run = row'.run := congrArg (·.row.run + 1) hcl
  constructor
  · rw [hset, h.setting]
    exact hr.setting
  · rw [hcl]
    exact hr.due
  · rw [hcl]
    exact h.reads hr.reads
  · intro ho
    have hf := hr.rejected (hout ▸ ho)
    rw [hv (by simp [hf]), hf]
  · intro ho
    have hf := hr.settled (hout ▸ ho)
    rw [hv (by simp [hf]), hf]
  · intro ho hc
    rw [hrun, h.run]
    exact hr.current (hout ▸ ho) (hset.symm.trans (hc.trans h.setting))

theorem Ages.frame (hclock : s.clock ≤ s'.clock) (haudit : s'.audit = s.audit)
    (hstatus : s'.row.status = s.row.status) (hsetting : s'.row.setting = s.row.setting)
    (hrun : s'.row.run = s.row.run) : Ages s s' where
  status := hstatus
  setting := hsetting
  run := hrun
  clock := hclock
  audit op row hrow := ⟨row.verdict, fun _ => rfl, by rw [haudit]; exact hrow⟩
  none_ op hn := by rw [haudit]; exact hn

theorem Ages.verdict {finished : Bool} (hrow : s.audit op = some row) (hv : row.verdict = none)
    (b : Bool) :
    Ages s ({ s with finished }.put op { row with verdict := some b }) where
  status := rfl
  setting := rfl
  run := rfl
  clock := le_rfl
  audit op' row' hrow' := by
    rcases eq_or_ne op' op with rfl | hne
    · obtain rfl := Option.some.inj (hrow.symm.trans hrow')
      exact ⟨some b, fun hn => absurd hv hn, by simp [State.put]⟩
    · exact ⟨row'.verdict, fun _ => rfl,
        by simpa [State.put, Function.update_of_ne hne] using hrow'⟩
  none_ op' hn := by
    rcases eq_or_ne op' op with rfl | hne
    · simp [hn] at hrow
    · simpa [State.put, Function.update_of_ne hne] using hn

theorem State.Ok.same (h : s.Ok operationLifetime good t) (hrow : s'.row = s.row)
    (haudit : s'.audit = s.audit) (hclock : s'.clock = s.clock) : s'.Ok operationLifetime good t :=
  (Ages.frame hclock.ge haudit (by rw [hrow]) (by rw [hrow]) (by rw [hrow])).ok h

-- ---------------------------------------------------------------------------
-- Steps of the process that holds the run lock
-- ---------------------------------------------------------------------------

theorem State.Ok.unlocked (h : s.Ok operationLifetime good t) (ht : ¬ t.Locked)
    (hclock : s'.clock = s.clock) : s'.Ok operationLifetime good t := by
  cases t with
  | due at_ => simpa [State.Ok, State.Reads, hclock] using h
  | idle => trivial
  | _ => simp [Task.Locked] at ht

theorem Inv.move (h : Inv operationLifetime good s) (hp : (s.task p).Locked)
    (htask : s'.task = s.task) (hlock : s'.lock = s.lock) (hclock : s'.clock = s.clock)
    (ht : s'.Ok operationLifetime good t) (hrows : ∀ op row, s'.audit op = some row → s'.RowOk row)
    (hquiet : s'.row.status = .scheduled ∨ s'.row.status = .cancelled →
      s'.Quiet operationLifetime) : Inv operationLifetime good (s'.goto p t) where
  lock q hq := by
    show s'.lock = some q
    rcases eq_or_ne q p with rfl | hne
    · rw [hlock]
      exact h.lock q hp
    · rw [hlock]
      exact h.lock q (by simpa [State.goto, Function.update_of_ne hne, htask] using hq)
  tasks q := by
    refine State.Ok.same (s := s') ?_ rfl rfl rfl
    rcases eq_or_ne q p with rfl | hne
    · simpa [State.goto] using ht
    · have hq : ¬ (s.task q).Locked := fun hq =>
        hne (Option.some.inj ((h.lock q hq).symm.trans (h.lock p hp)))
      simpa [State.goto, Function.update_of_ne hne, htask] using (h.tasks q).unlocked hq hclock
  rows op row hrow := { hrows op row hrow with }
  quiet := hquiet

theorem Inv.goto (h : Inv operationLifetime good s) (hp : (s.task p).Locked)
    (ht : s.Ok operationLifetime good t) : Inv operationLifetime good (s.goto p t) :=
  h.move hp rfl rfl rfl ht h.rows h.quiet

theorem Inv.put (h : Inv operationLifetime good s) (hp : (s.task p).Locked)
    (hrun : s.row.status = .running) (hrow : s.RowOk row)
    (ht : (s.put op row).Ok operationLifetime good t) :
    Inv operationLifetime good ((s.put op row).goto p t) := by
  refine h.move hp rfl rfl rfl ht (fun op' row' hrow' => ?_) (fun hst => ?_)
  · suffices hok : s.RowOk row' from { hok with }
    rcases eq_or_ne op' op with rfl | hne
    · obtain rfl : row = row' := by simpa [State.put] using hrow'
      exact hrow
    · exact h.rows op' row' (by simpa [State.put, Function.update_of_ne hne] using hrow')
  · have hst : s.row.status = .scheduled ∨ s.row.status = .cancelled := hst
    simp [hrun] at hst

theorem Inv.setStatus (h : Inv operationLifetime good s) (hp : (s.task p).Locked)
    (hquiet : status = .scheduled ∨ status = .cancelled → s.Quiet operationLifetime) :
    Inv operationLifetime good ((s.setRow { s.row with status }).goto p .unlocking) := by
  refine h.move hp rfl rfl rfl trivial (fun op row hrow => ?_) hquiet
  have := h.rows op row hrow
  exact { this with }

theorem Inv.claims (h : Inv operationLifetime good s) (hp : s.task p = .claiming at_)
    (hdue : s.row.due at_) : Inv operationLifetime good
      ((s.setRow { s.row with status := .running, run := s.row.run + 1 }).goto p
        (.finishing ⟨s.row, at_⟩)) := by
  have hquiet := h.quiet (.inl hdue.1)
  have hreads : s.Reads at_ := by simpa [hp, State.Ok] using h.tasks p
  refine h.move (by simp [hp, Task.Locked]) rfl rfl rfl ⟨rfl, ⟨hdue, hreads, rfl, rfl⟩, hquiet⟩
    (fun op row hrow => ?_) (by simp [State.setRow])
  have hrow' := h.rows op row hrow
  -- the schedule was quiet, so nothing of this setting is refused
  exact { hrow' with current := fun hr hset => absurd hr (hquiet op row hrow hset).2 }

theorem Inv.audits (h : Inv operationLifetime good s) (hp : s.task p = .finishing claim) :
    Inv operationLifetime good
      ((s.put op ⟨.pending, at_, claim, false, none⟩).goto p (.signing op)) := by
  obtain ⟨hrun, hmade, hquiet⟩ : s.Ok operationLifetime good (.finishing claim) := hp ▸ h.tasks p
  refine h.put (by simp [hp, Task.Locked]) hrun
    ⟨hmade.setting.le, hmade.due, hmade.reads, by simp, by simp, by simp⟩
    ⟨hrun, ⟨⟨.pending, at_, claim, false, none⟩, by simp [State.put], hmade.setting, hmade.run⟩,
      fun op' row' hne hrow' => ?_⟩
  exact hquiet op' row' (by simpa [State.put, Function.update_of_ne hne] using hrow')

theorem Inv.outcome (h : Inv operationLifetime good s) (hp : (s.task p).Locked)
    (hrun : s.row.status = .running) (hrow : s.audit op = some row) (hcur : s.Current row)
    {row' : AuditRow} (hclaim : row'.claim = row.claim) (hverdict : row'.verdict = row.verdict)
    (hrejected : row'.outcome = .rejected → row.verdict = some false)
    (hsettled : row'.outcome = .settled → row.verdict = some true)
    (ht : (s.put op row').Ok operationLifetime good t) :
    Inv operationLifetime good ((s.put op row').goto p t) := by
  have hr := h.rows op row hrow
  refine h.put hp hrun ⟨?_, ?_, ?_, ?_, ?_, ?_⟩ ht
  · simpa [AuditRow.setting, hclaim] using hr.setting
  · simpa [hclaim] using hr.due
  · simpa [hclaim] using hr.reads
  · simpa [hverdict] using hrejected
  · simpa [hverdict] using hsettled
  · intro _ _
    simpa [AuditRow.run, hclaim] using hcur.2

-- ---------------------------------------------------------------------------
-- Steps of the others
-- ---------------------------------------------------------------------------

theorem Inv.ages (h : Inv operationLifetime good s) (ha : Ages s s')
    (hlock : s'.lock = s.lock) (htask : s'.task = s.task) :
    Inv operationLifetime good s' where
  lock p hp := by
    rw [htask] at hp
    rw [hlock]
    exact h.lock p hp
  tasks p := by
    rw [htask]
    exact ha.ok (h.tasks p)
  rows op row hrow := ha.rowOk h.rows hrow
  quiet hst := by
    rw [ha.status] at hst
    exact ha.quiet (h.quiet hst)

theorem State.Ok.at_rest (h : s.Ok operationLifetime good t) (hst : s.row.status ≠ .running)
    (hclock : s'.clock = s.clock) : s'.Ok operationLifetime good t := by
  cases t with
  | idle | reading | unlocking => trivial
  | due | claiming => simpa [State.Ok, State.Reads, hclock] using h
  | refused | settling | judging => exact absurd h hst
  | _ => exact absurd h.1 hst

theorem Inv.schedules (h : Inv operationLifetime good s) (hst : s.row.status ≠ .running)
    (finishAt : ℕ) : Inv operationLifetime good
      (s.setRow ⟨finishAt, .scheduled, false, s.row.setting + 1, s.row.run⟩) where
  lock := h.lock
  tasks p := (h.tasks p).at_rest hst rfl
  rows op row hrow := by
    have hr := h.rows op row hrow
    refine { hr with setting := Nat.le_succ_of_le hr.setting, current := fun _ hset => ?_ }
    exact absurd (hset.symm.trans_le hr.setting) (Nat.not_succ_le_self _)
  quiet _ op row hrow hset :=
    absurd (hset.symm.trans_le (h.rows op row hrow).setting) (Nat.not_succ_le_self _)

theorem Inv.cancels (h : Inv operationLifetime good s) (hst : s.row.status = .scheduled) :
    Inv operationLifetime good (s.setRow { s.row with status := .cancelled }) where
  lock := h.lock
  tasks p := (h.tasks p).at_rest (by simp [hst]) rfl
  rows op row hrow := { h.rows op row hrow with }
  quiet _ := h.quiet (.inl hst)

theorem Inv.unlock (h : Inv operationLifetime good s) (p : Proc) :
    Inv operationLifetime good (s.unlock p) where
  lock q hq := by
    rcases eq_or_ne q p with rfl | hne
    · simp [State.unlock, State.goto, Task.Locked] at hq
    · have hlock := h.lock q
        (by simpa [State.unlock, State.goto, Function.update_of_ne hne] using hq)
      simp [State.unlock, State.goto, hlock, hne]
  tasks q := by
    refine State.Ok.same (s := s) ?_ rfl rfl rfl
    rcases eq_or_ne q p with rfl | hne
    · simp [State.unlock, State.goto, State.Ok]
    · simpa [State.unlock, State.goto, Function.update_of_ne hne] using h.tasks q
  rows op row hrow := { h.rows op row hrow with }
  quiet := h.quiet

theorem Inv.takes (h : Inv operationLifetime good s) (hlock : s.lock = none)
    (ht : s.Ok operationLifetime good t) :
    Inv operationLifetime good ({ s with lock := some p }.goto p t) where
  lock q hq := by
    rcases eq_or_ne q p with rfl | hne
    · rfl
    · have := h.lock q (by simpa [State.goto, Function.update_of_ne hne] using hq)
      simp [hlock] at this
  tasks q := by
    refine State.Ok.same (s := s) ?_ rfl rfl rfl
    rcases eq_or_ne q p with rfl | hne
    · simpa [State.goto] using ht
    · simpa [State.goto, Function.update_of_ne hne] using h.tasks q
  rows op row hrow := { h.rows op row hrow with }
  quiet := h.quiet

theorem Inv.readsClock (h : Inv operationLifetime good s) (hp : s.task p = .idle)
    (hr : s.Reads at_) : Inv operationLifetime good (s.goto p (.due at_)) where
  lock q hq := by
    rcases eq_or_ne q p with rfl | hne
    · simp [State.goto, Task.Locked] at hq
    · exact h.lock q (by simpa [State.goto, Function.update_of_ne hne] using hq)
  tasks q := by
    refine State.Ok.same (s := s) ?_ rfl rfl rfl
    rcases eq_or_ne q p with rfl | hne
    · simpa [State.goto, State.Ok] using hr
    · simpa [State.goto, Function.update_of_ne hne] using h.tasks q
  rows op row hrow := { h.rows op row hrow with }
  quiet := h.quiet

-- ---------------------------------------------------------------------------
-- Runs
-- ---------------------------------------------------------------------------

/-- When nothing is refused and nothing may land, the schedule is quiet: the ledger's clock is at
most the margin behind. -/
theorem Inv.quiet_of_expired (h : Inv operationLifetime good s)
    (hrefused : ¬ s.Refused) (hreads : s.Reads at_)
    (hexpired : ∀ op row, s.audit op = some row → ¬ row.MayLand operationLifetime at_) :
    s.Quiet operationLifetime := by
  intro op row hrow _
  have hr := h.rows op row hrow
  refine ⟨?_, fun ho => hrefused ⟨op, row, hrow, ho⟩⟩
  have hmay := hexpired op row hrow
  cases ho : row.outcome with
  | settled => exact .inl (by simp [hr.settled ho])
  | rejected => exact .inl (by simp [hr.rejected ho])
  | pending | failed =>
    refine .inr ?_
    simp only [AuditRow.MayLand, ho, true_and, or_true, true_or, Nat.not_lt] at hmay
    simp only [State.Reads] at hreads
    omega

theorem Inv.findsRefused (h : Inv operationLifetime good s) (hrefused : s.Refused)
    (hbefore : ¬ s.RefusedBefore) : s.RunRefused := by
  obtain ⟨op, row, hrow, ho⟩ := hrefused
  have hset : row.setting = s.row.setting := by
    by_contra hne
    exact hbefore ⟨op, row, hrow, ho, hne⟩
  have hr := h.rows op row hrow
  exact ⟨op, row, hrow, hr.current ho hset, hr.rejected ho⟩

theorem Inv.step (h : Inv operationLifetime good s) (hs : Step operationLifetime may s s')
    (hgood : good → ∀ s, may s → ¬ s.RefusedBefore) : Inv operationLifetime good s' := by
  have hok := h.tasks
  cases hs with
  | ticks hclock => exact h.ages (Ages.frame hclock rfl rfl rfl rfl) rfl rfl
  | finishedElsewhere => exact h.ages (Ages.frame le_rfl rfl rfl rfl rfl) rfl rfl
  | salesElsewhere => exact h.ages (Ages.frame le_rfl rfl rfl rfl rfl) rfl rfl
  | schedules finishAt hst => exact h.schedules hst finishAt
  | cancels hst => exact h.cancels hst
  | notices hr hst hd => exact h.ages (Ages.frame le_rfl rfl rfl rfl rfl) rfl rfl
  | readsClock hp hr => exact h.readsClock hp hr
  | @locksDue p at_ hp hl =>
    have := hok p
    rw [hp] at this
    exact h.takes hl this
  | claims hp hd => exact h.claims hp hd
  | releases hp hc => exact h.ages (Ages.frame le_rfl rfl rfl rfl rfl) rfl rfl
  | @refusedEarly p claim hp =>
    have := hok p
    rw [hp] at this
    exact h.goto (by simp [hp, Task.Locked]) ⟨this.1, .inr rfl⟩
  | audits hp hn hr => exact h.audits hp
  | @submits p op row hp hrow =>
    obtain ⟨hrun, ⟨row', hrow', hcur⟩, -⟩ : s.Ok operationLifetime good (.signing op) := hp ▸ hok p
    obtain rfl := Option.some.inj (hrow.symm.trans hrow')
    have hr := h.rows op row hrow
    exact h.outcome (by simp [hp, Task.Locked]) hrun hrow hcur rfl rfl hr.rejected hr.settled
      ⟨hrun, { row with submitted := true }, by simp [State.put], hcur⟩
  | accepts hrow hc hf =>
    exact h.ages (Ages.verdict hrow hc.2.1 true) rfl rfl
  | refuses hrow hsub hv => exact h.ages (Ages.verdict hrow hv false) rfl rfl
  | @hearsAccepted p op row outcome hp hrow hv ho =>
    obtain ⟨hrun, row', hrow', hcur⟩ : s.Ok operationLifetime good (.awaiting op) := hp ▸ hok p
    obtain rfl := Option.some.inj (hrow.symm.trans hrow')
    refine h.outcome (by simp [hp, Task.Locked]) hrun hrow hcur rfl rfl (fun hrej => ?_)
      (fun _ => hv) ⟨hrun, .inl rfl⟩
    rcases ho with rfl | rfl
    · cases hrej
    · exact (h.rows op row hrow).rejected hrej
  | @hearsRefused p op row outcome hp hrow hv ho =>
    obtain ⟨hrun, row', hrow', hcur⟩ : s.Ok operationLifetime good (.awaiting op) := hp ▸ hok p
    obtain rfl := Option.some.inj (hrow.symm.trans hrow')
    refine h.outcome (by simp [hp, Task.Locked]) hrun hrow hcur rfl rfl (fun _ => hv)
      (fun hset => ?_) hrun
    rcases ho with rfl | rfl
    · cases hset
    · exact (h.rows op row hrow).settled hset
  | @loses p op row hp hrow =>
    have hcur : s.row.status = .running ∧ ∃ row, s.audit op = some row ∧ s.Current row := by
      rcases hp with hp | hp
      · obtain ⟨hrun, hc, -⟩ : s.Ok operationLifetime good (.signing op) := hp ▸ hok p
        exact ⟨hrun, hc⟩
      · exact (hp ▸ hok p : s.Ok operationLifetime good (.awaiting op))
    obtain ⟨hrun, row', hrow', hcur⟩ := hcur
    obtain rfl := Option.some.inj (hrow.symm.trans hrow')
    exact h.outcome (by rcases hp with hp | hp <;> simp [hp, Task.Locked]) hrun hrow hcur rfl rfl
      (by simp) (by simp) trivial
  | @reopens p hp | @reopensNothing p hp =>
    have := hok p
    rw [hp] at this
    exact h.move (by simp [hp, Task.Locked]) rfl rfl rfl
      ⟨this, .inr rfl⟩ (fun op row hrow => { h.rows op row hrow with }) h.quiet
  | @records p status hp =>
    obtain ⟨-, hst⟩ : s.Ok operationLifetime good (.recording status) := hp ▸ hok p
    refine h.setStatus (by simp [hp, Task.Locked]) (fun hq => ?_)
    rcases hst with rfl | rfl <;> simp at hq
  | locksRunning hp hl => exact h.takes hl trivial
  | readsRow hp hst => exact h.goto (by simp [hp, Task.Locked]) hst
  | @findsFinished p hp hf =>
    have := hok p
    rw [hp] at this
    exact h.goto (by simp [hp, Task.Locked]) ⟨this, .inl rfl⟩
  | @findsUnfinished p hp hf =>
    have := hok p
    rw [hp] at this
    exact h.goto (by simp [hp, Task.Locked]) this
  | @findsRefused p hp hr hmay =>
    have := hok p
    rw [hp] at this
    exact h.goto (by simp [hp, Task.Locked])
      ⟨this, .inr (.inr ⟨rfl, fun hg => h.findsRefused hr (hgood hg s hmay)⟩)⟩
  | @findsExpired p at_ hp hr hreads hexp =>
    have := hok p
    rw [hp] at this
    exact h.goto (by simp [hp, Task.Locked])
      ⟨this, .inr (.inl ⟨rfl, h.quiet_of_expired hr hreads hexp⟩)⟩
  | settleReopens hp hc => exact h.ages (Ages.frame le_rfl rfl rfl rfl rfl) rfl rfl
  | @settles p status hp =>
    obtain ⟨-, hst⟩ : s.Ok operationLifetime good (.settled status) := hp ▸ hok p
    refine h.setStatus (by simp [hp, Task.Locked]) (fun hq => ?_)
    rcases hst with rfl | ⟨rfl, hquiet⟩ | ⟨rfl, -⟩
    · simp at hq
    · exact hquiet
    · simp at hq
  | ends hp => exact h.goto hp trivial
  | unlocks | stops => exact h.unlock _

theorem Inv.steps (h : Inv operationLifetime good s) (hs : Steps operationLifetime may s s')
    (hgood : good → ∀ s, may s → ¬ s.RefusedBefore) : Inv operationLifetime good s' := by
  induction hs with
  | refl => exact h
  | step _ hs ih => exact ih.step hs hgood

def State.Submits (s s' : State) (op : Operation) (row : AuditRow) : Prop :=
  s.audit op = some row ∧ row.submitted = false ∧
    ∃ row', s'.audit op = some row' ∧ row'.submitted = true

theorem Step.submitter (hs : Step operationLifetime may s s') (hsub : s.Submits s' op row) :
    ∃ p, s.task p = .signing op := by
  obtain ⟨hrow, hno, row', hrow', hyes⟩ := hsub
  have hput : ∀ {op' old new}, Function.update s.audit op' (some new) op = some row' →
      s.audit op' = some old → new.submitted = old.submitted → False := by
    intro op' old new h hold hnew
    rcases eq_or_ne op op' with rfl | hne
    · obtain rfl := Option.some.inj (hrow.symm.trans hold)
      obtain rfl : new = row' := by simpa using h
      simp [hnew, hno] at hyes
    · have := hrow.symm.trans (by simpa [Function.update_of_ne hne] using h)
      obtain rfl := Option.some.inj this
      simp [hno] at hyes
  have hkeep : s.audit op = some row' → False := by
    intro h
    obtain rfl := Option.some.inj (hrow.symm.trans h)
    simp [hno] at hyes
  cases hs with
  | @submits p op' row' hp hr =>
    rcases eq_or_ne op' op with rfl | hne
    · exact ⟨p, hp⟩
    · exact absurd (by simpa [State.put, State.goto, Function.update_of_ne hne.symm] using hrow')
        hkeep
  | @audits p claim op' at_ hp hn _ =>
    rcases eq_or_ne op op' with rfl | hne
    · simp [hn] at hrow
    · exact absurd (by simpa [State.put, State.goto, Function.update_of_ne hne] using hrow') hkeep
  | accepts hr | refuses hr | hearsAccepted _ hr | hearsRefused _ hr | loses _ hr =>
    exact (hput hrow' hr rfl).elim
  | _ => exact (hkeep hrow').elim

theorem Inv.lock_unique (h : Inv operationLifetime good s) (hp : (s.task p).Locked)
    (hq : (s.task q).Locked) : p = q :=
  Option.some.inj ((h.lock p hp).symm.trans (h.lock q hq))

/-- A submission is made with every earlier one of its setting out of the way. -/
theorem Inv.submits (h : Inv operationLifetime good s) (hp : s.task p = .signing op)
    (hrow : s.audit op = some row) {op' : Operation} {row' : AuditRow} (hne : op' ≠ op)
    (hrow' : s.audit op' = some row') (hset : row'.setting = row.setting) :
    ¬ row'.CanBeAccepted operationLifetime s.clock := by
  obtain ⟨-, ⟨_, hcur, hc⟩, hothers⟩ : s.Ok operationLifetime good (.signing op) := hp ▸ h.tasks p
  obtain rfl := Option.some.inj (hrow.symm.trans hcur)
  rintro ⟨-, hv, hclock⟩
  rcases (hothers op' row' hne hrow' (hset.trans hc.1)).1 with hd | hd
  · exact hd hv
  · exact absurd hd (Nat.not_le.mpr hclock)

/-- How a cancelled schedule goes on: cancelled, or set again. -/
def State.StaysCancelled (s s' : State) : Prop :=
  s'.row.status = .cancelled ∧ s'.row.setting = s.row.setting ∧ s'.row.run = s.row.run ∧
    ∀ op row', s'.audit op = some row' → row'.submitted = true →
      ∃ row, s.audit op = some row ∧ row.submitted = true

theorem Step.setting_le (hs : Step operationLifetime may s s') :
    s.row.setting ≤ s'.row.setting := by
  cases hs <;> simp [State.setRow, State.goto, State.put, State.unlock]

theorem State.StaysCancelled.put (hst : s.row.status = .cancelled) (hrow : s.audit op = some row)
    {new : AuditRow} (hnew : new.submitted = row.submitted) : s.StaysCancelled (s.put op new) := by
  refine ⟨hst, rfl, rfl, fun op' row' hrow' hsub => ?_⟩
  rcases eq_or_ne op' op with rfl | hne
  · obtain rfl : new = row' := by simpa [State.put] using hrow'
    exact ⟨row, hrow, hnew ▸ hsub⟩
  · exact ⟨row', by simpa [State.put, Function.update_of_ne hne] using hrow', hsub⟩

theorem Inv.cancelled (h : Inv operationLifetime good s) (hs : Step operationLifetime may s s')
    (hst : s.row.status = .cancelled) :
    s.StaysCancelled s' ∨ s'.row.setting = s.row.setting + 1 := by
  have hkeep : s'.row = s.row → s'.audit = s.audit → s.StaysCancelled s' := fun hrow haudit =>
    ⟨by rw [hrow, hst], by rw [hrow], by rw [hrow], fun op row hr hsub => ⟨row, haudit ▸ hr, hsub⟩⟩
  have hrest : ∀ p, s.Ok operationLifetime good (s.task p) := h.tasks
  have hno : ∀ {P : Prop}, s.row.status = .running → P := by simp [hst]
  cases hs with
  | schedules => exact .inr rfl
  | cancels hsch => simp [hst] at hsch
  | notices _ hsch _ => simp [hst] at hsch
  | claims _ hd => simp [Schedule.due, hst] at hd
  | @audits p claim op at_ hp _ _ => exact hno (hp ▸ hrest p : s.Ok _ _ (.finishing claim)).1
  | @submits p op row hp _ => exact hno (hp ▸ hrest p : s.Ok _ _ (.signing op)).1
  | accepts hr _ _ => exact .inl (State.StaysCancelled.put hst hr rfl)
  | refuses hr _ _ => exact .inl (State.StaysCancelled.put hst hr rfl)
  | hearsAccepted hp hr _ _ => exact .inl (State.StaysCancelled.put hst hr rfl)
  | hearsRefused hp hr _ _ => exact .inl (State.StaysCancelled.put hst hr rfl)
  | loses hp hr => exact .inl (State.StaysCancelled.put hst hr rfl)
  | @records p status hp => exact hno (hp ▸ hrest p : s.Ok _ _ (.recording status)).1
  | @settles p status hp => exact hno (hp ▸ hrest p : s.Ok _ _ (.settled status)).1
  | _ => exact .inl (hkeep rfl rfl)

theorem Inv.stays_cancelled (h : Inv operationLifetime good s)
    (hs : Steps operationLifetime may s s') (hgood : good → ∀ s, may s → ¬ s.RefusedBefore)
    (hst : s.row.status = .cancelled) :
    s.StaysCancelled s' ∨ s.row.setting < s'.row.setting := by
  induction hs with
  | refl => exact .inl ⟨hst, rfl, rfl, fun op row hr hsub => ⟨row, hr, hsub⟩⟩
  | @step s₁ s₂ hs₁ hs ih =>
    rcases ih with ⟨hst₁, hset, hrun, hsub⟩ | hlt
    · rcases (h.steps hs₁ hgood).cancelled hs hst₁ with ⟨hst₂, hset₂, hrun₂, hsub₂⟩ | hnew
      · refine .inl ⟨hst₂, hset₂.trans hset, hrun₂.trans hrun, fun op row hr hs' => ?_⟩
        obtain ⟨row₁, hr₁, hs₁'⟩ := hsub₂ op row hr hs'
        exact hsub op row₁ hr₁ hs₁'
      · exact .inr (by omega)
    · exact .inr (hlt.trans_le hs.setting_le)

/-- In every run: no two processes run or settle the schedule at one time; what is submitted was
claimed when scheduled, noticed and due, and every earlier submission of its setting can be accepted
no more; and a schedule that is cancelled stays so, neither claimed nor submitted, until it is set
again. -/
theorem finish_safe (h₀ : State.Initial s₀)
    (hs : Steps operationLifetime (fun _ => True) s₀ s) :
    (∀ p q, (s.task p).Locked → (s.task q).Locked → p = q) ∧
    (∀ s' op row, Step operationLifetime (fun _ => True) s s' → s.Submits s' op row →
      row.claim.row.due row.claim.at_ ∧ s.Reads row.claim.at_ ∧
      ∀ op' row', op' ≠ op → s.audit op' = some row' → row'.setting = row.setting →
        ¬ row'.CanBeAccepted operationLifetime s.clock) ∧
    ∀ s', Steps operationLifetime (fun _ => True) s s' → s.row.status = .cancelled →
      s.StaysCancelled s' ∨ s.row.setting < s'.row.setting := by
  have h₁ : Inv operationLifetime False s₀ := Inv.initial h₀
  have h := h₁.steps hs False.elim
  refine ⟨fun p q hp hq => h.lock_unique hp hq, fun s' op row hstep hsub => ?_,
    fun s' hs' hst => h.stays_cancelled hs' False.elim hst⟩
  obtain ⟨p, hp⟩ := hstep.submitter hsub
  have hr := h.rows op row hsub.1
  exact ⟨hr.due, hr.reads, fun op' row' hne hrow' hset => h.submits hp hsub.1 hne hrow' hset⟩

-- ---------------------------------------------------------------------------
-- A run that the ledger refuses
-- ---------------------------------------------------------------------------

def State.start : State :=
  ⟨⟨0, .scheduled, false, 0, 0⟩, none, fun _ => .idle, fun _ => none, false, none, 0⟩

theorem State.start_initial : State.Initial State.start :=
  ⟨rfl, rfl, rfl, fun _ => rfl, fun _ => rfl⟩

def State.signingRun : State :=
  ⟨⟨0, .running, true, 0, 1⟩, some 1, Function.update (fun _ => .idle) 1 (.signing 1),
    Function.update (fun _ => none) 1
      (some ⟨.pending, 0, ⟨⟨0, .scheduled, true, 0, 0⟩, 0⟩, false, none⟩), false, none, 0⟩

theorem signing_run : Steps 100 may State.start State.signingRun := by
  have h₁ : Steps 100 may State.start _ := Steps.refl.step
    (Step.notices (show State.start.Reads 0 from Nat.zero_le _) rfl (Nat.zero_le _))
  have h₂ := h₁.step (Step.readsClock (p := 1) rfl (show State.Reads _ 0 from Nat.zero_le _))
  have h₃ := h₂.step (Step.locksDue (p := 1) rfl rfl)
  have h₄ := h₃.step (Step.claims (p := 1) rfl ⟨rfl, rfl, le_rfl⟩)
  have h₅ := h₄.step (Step.audits (p := 1) rfl (show State.audit _ 1 = none from rfl)
    (show State.Reads _ 0 from Nat.zero_le _))
  simpa [State.goto, State.put, State.setRow, State.start, State.signingRun] using h₅

/-- The first run submits. -/
theorem finish_safe_one : ∃ s s' row, Steps 100 (fun _ => True) State.start s ∧
    Step 100 (fun _ => True) s s' ∧ s.Submits s' 1 row ∧ row.claim.row.due row.claim.at_ := by
  have hrun : Steps 100 (fun _ => True) State.start State.signingRun := signing_run
  have h := (finish_safe State.start_initial hrun).2.1
  have hstep : Step 100 (fun _ => True) State.signingRun _ :=
    Step.submits (p := 1) rfl (show State.signingRun.audit 1 = some _ from rfl)
  refine ⟨_, _, _, hrun, hstep, ⟨rfl, rfl, ?_⟩, (h _ 1 _ hstep ⟨rfl, rfl, ?_⟩).1⟩
  all_goals exact ⟨_, rfl, rfl⟩

end Kippu.Finishing
