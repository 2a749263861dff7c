import Kippu.Reports.Runs

/-!
# A report sent again

A report id is stored once, and its row stays as it is: whatever is revoked meanwhile,
a report sent again adds nothing. It is answered the row first stored as far as it is
authorised once more, by what the session and the grants are by then.
-/

namespace Kippu.Reports

open Derived

def State.Holds (s : State) (n : ℕ) (row : ReportRow) : Prop :=
  s.reports n = some row ∨ ∃ c passed, s.task c = .inserting n row passed

structure Inv (s : State) : Prop where
  lt : ∀ {n row}, s.Holds n row → n < s.next
  ids : ∀ {n m row row'}, s.Holds n row → s.Holds m row' → row.reportId = row'.reportId → n = m
  fresh : ∀ {c n row passed}, s.task c = .inserting n row passed → s.reports n = none
  once : ∀ {c d n row row' passed passed'}, s.task c = .inserting n row passed →
    s.task d = .inserting n row' passed' → c = d
  /-- What is answered is stored. -/
  answered : ∀ {c report}, s.task c = .answered (.ok report) →
    ∃ n row, s.reports n = some row ∧ row.publicReport = report

variable {overtaken : Prop} {s s' : State} {c d : Call} {n m : ℕ} {row row' : ReportRow}
variable {operator : OperatorPrincipal} {input : AdmissionReportInput}
variable {sessionRevokedAt : Option Time} {requestId : String} {report : AdmissionReport}

-- ---------------------------------------------------------------------------
-- One step
-- ---------------------------------------------------------------------------

theorem goto_task (s : State) (c : Call) (t : Task) : (s.goto c t).task c = t :=
  Function.update_self ..

theorem goto_task_ne (s : State) (t : Task) (hd : d ≠ c) : (s.goto c t).task d = s.task d :=
  Function.update_of_ne hd ..

theorem goto_eq (h : (s.goto c t).task d = t') : d = c ∧ t = t' ∨ d ≠ c ∧ s.task d = t' := by
  by_cases hd : d = c
  · subst hd
    rw [goto_task] at h
    exact .inl ⟨rfl, h⟩
  · rw [goto_task_ne s t hd] at h
    exact .inr ⟨hd, h⟩

theorem passTask_inserting {limit : ℕ} {t : Task}
    (h : s.passTask limit t = .inserting n row passed) :
    ∃ passed', t = .inserting n row passed' ∧ passed = (passed' || s.passes limit n) := by
  unfold State.passTask at h
  split at h
  · cases h
    exact ⟨_, rfl, rfl⟩
  · rename_i hnot
    exact absurd h (hnot _ _ _)

theorem passTask_answered {limit : ℕ} {t : Task} (h : s.passTask limit t = .answered r) :
    t = .answered r := by
  unfold State.passTask at h
  split at h
  · cases h
  · exact h

theorem Inv.frame (hi : Inv s) (hreports : s'.reports = s.reports) (hnext : s.next ≤ s'.next)
    (htask : ∀ c n row passed, s'.task c = .inserting n row passed →
      ∃ passed', s.task c = .inserting n row passed')
    (hanswered : ∀ c report, s'.task c = .answered (.ok report) →
      s.task c = .answered (.ok report) ∨
        ∃ n row, s.reports n = some row ∧ row.publicReport = report) : Inv s' := by
  have hholds : ∀ {n row}, s'.Holds n row → s.Holds n row := by
    rintro n row (hn | ⟨c, passed, hc⟩)
    · exact .inl (by rwa [hreports] at hn)
    · obtain ⟨passed', hc'⟩ := htask c n row passed hc
      exact .inr ⟨c, passed', hc'⟩
  exact {
    lt := fun h => (hi.lt (hholds h)).trans_le hnext
    ids := fun h h' => hi.ids (hholds h) (hholds h')
    fresh := fun h => by
      obtain ⟨passed', hc⟩ := htask _ _ _ _ h
      rw [hreports]
      exact hi.fresh hc
    once := fun h h' => by
      obtain ⟨_, hc⟩ := htask _ _ _ _ h
      obtain ⟨_, hd⟩ := htask _ _ _ _ h'
      exact hi.once hc hd
    answered := fun h => by
      rw [hreports]
      cases hanswered _ _ h with
      | inl hold => exact hi.answered hold
      | inr hstored => exact hstored }

theorem Inv.goes (hi : Inv s) (hnext : s.next ≤ next') (t : Task)
    (ht : ∀ n row passed, t ≠ .inserting n row passed)
    (hanswered : ∀ report, t = .answered (.ok report) →
      ∃ n row, s.reports n = some row ∧ row.publicReport = report) :
    Inv ({ s with next := next' }.goto c t) := by
  refine hi.frame rfl hnext (fun d n row passed h => ?_) fun d report h => ?_
  · rcases goto_eq h with ⟨-, heq⟩ | ⟨-, hd⟩
    · exact absurd heq (ht n row passed)
    · exact ⟨passed, hd⟩
  · rcases goto_eq h with ⟨-, heq⟩ | ⟨-, hd⟩
    · exact .inr (hanswered report heq)
    · exact .inl hd

theorem reportOf_none (h : s.reportOf reportId = none) (hn : n < s.next)
    (hrow : s.reports n = some row) : row.reportId ≠ reportId := by
  intro heq
  have hnone := List.findSome?_eq_none_iff.mp h n (List.mem_range.mpr hn)
  simp [hrow, heq] at hnone

theorem reportOf_some (h : s.reportOf reportId = some row) :
    row.reportId = reportId ∧ ∃ n, s.reports n = some row := by
  obtain ⟨n, -, hn⟩ := List.exists_of_findSome?_eq_some h
  obtain ⟨hrow, hid⟩ := Option.filter_eq_some_iff.mp hn
  exact ⟨of_decide_eq_true hid, n, hrow⟩

theorem store_inserting {now : Time}
    (h : s.store operator requestId input now = .ok (.inserting row)) :
    s.reportOf input.reportId = none ∧ row.reportId = input.reportId := by
  unfold State.store at h
  split at h
  · rename_i hnone
    cases h
    exact ⟨hnone, rfl⟩
  · split at h <;> cases h

theorem store_found {now : Time}
    (h : s.store operator requestId input now = .ok (.found report)) :
    ∃ n row, s.reports n = some row ∧ row.publicReport = report := by
  unfold State.store at h
  split at h
  · cases h
  · rename_i row hrow
    split at h
    · cases h
      obtain ⟨n, hn⟩ := (reportOf_some hrow).2
      exact ⟨n, row, hn, rfl⟩
    · cases h

theorem Inv.insert (hi : Inv s) (hnone : s.reportOf row.reportId = none)
    (hfree : s.Free row.reportId) : Inv (s.draw.goto c (.inserting s.next row false)) := by
  have hcases : ∀ {n r}, (s.draw.goto c (.inserting s.next row false)).Holds n r →
      n = s.next ∧ r = row ∨ s.Holds n r ∧ r.reportId ≠ row.reportId := by
    rintro n r (hn | ⟨d, passed, hd⟩)
    · exact .inr ⟨.inl hn, reportOf_none hnone (hi.lt (.inl hn)) hn⟩
    · rcases goto_eq hd with ⟨-, heq⟩ | ⟨-, hold⟩
      · cases heq
        exact .inl ⟨rfl, rfl⟩
      · exact .inr ⟨.inr ⟨d, passed, hold⟩, hfree d n r passed hold⟩
  have hnumber : ∀ {d n r passed}, s.task d = .inserting n r passed → n ≠ s.next :=
    fun h => Nat.ne_of_lt (hi.lt (.inr ⟨_, _, h⟩))
  exact {
    lt := fun h => by
      rcases hcases h with ⟨rfl, -⟩ | ⟨hold, -⟩
      · exact Nat.lt_succ_self _
      · exact Nat.lt_succ_of_lt (hi.lt hold)
    ids := fun h h' heq => by
      rcases hcases h with ⟨rfl, rfl⟩ | ⟨hold, hne⟩
      · rcases hcases h' with ⟨rfl, -⟩ | ⟨-, hne'⟩
        · rfl
        · exact absurd heq.symm hne'
      · rcases hcases h' with ⟨-, rfl⟩ | ⟨hold', -⟩
        · exact absurd heq hne
        · exact hi.ids hold hold' heq
    fresh := fun h => by
      rcases goto_eq h with ⟨-, heq⟩ | ⟨-, hold⟩
      · cases heq
        by_contra hsome
        obtain ⟨r, hr⟩ := Option.ne_none_iff_exists'.mp hsome
        exact absurd (hi.lt (.inl hr)) (Nat.lt_irrefl _)
      · exact hi.fresh hold
    once := fun h h' => by
      rcases goto_eq h with ⟨rfl, heq⟩ | ⟨-, hold⟩
      · cases heq
        rcases goto_eq h' with ⟨rfl, -⟩ | ⟨-, hold'⟩
        · rfl
        · exact absurd rfl (hnumber hold')
      · rcases goto_eq h' with ⟨-, heq'⟩ | ⟨-, hold'⟩
        · cases heq'
          exact absurd rfl (hnumber hold)
        · exact hi.once hold hold'
    answered := fun h => by
      rcases goto_eq h with ⟨-, heq⟩ | ⟨-, hold⟩
      · cases heq
      · exact hi.answered hold }

theorem Inv.commit (hi : Inv s) (hc : s.task c = .inserting n row passed) :
    Inv ((s.commit n row).goto c (.answered (.ok row.publicReport))) := by
  have hreports : ∀ {m r}, (s.commit n row).reports m = some r →
      m = n ∧ r = row ∨ m ≠ n ∧ s.reports m = some r := by
    intro m r hm
    by_cases heq : m = n
    · subst heq
      exact .inl ⟨rfl, by simpa [State.commit] using hm.symm⟩
    · exact .inr ⟨heq, by simpa [State.commit, heq] using hm⟩
  have hholds : ∀ {m r},
      ((s.commit n row).goto c (.answered (.ok row.publicReport))).Holds m r → s.Holds m r := by
    rintro m r (hm | ⟨d, passed, hd⟩)
    · rcases hreports hm with ⟨rfl, rfl⟩ | ⟨-, hold⟩
      · exact .inr ⟨c, _, hc⟩
      · exact .inl hold
    · rcases goto_eq hd with ⟨-, heq⟩ | ⟨-, hold⟩
      · cases heq
      · exact .inr ⟨d, passed, hold⟩
  exact {
    lt := fun h => hi.lt (hholds h)
    ids := fun h h' => hi.ids (hholds h) (hholds h')
    fresh := fun {d m r passed} h => by
      rcases goto_eq h with ⟨-, heq⟩ | ⟨hd, hold⟩
      · cases heq
      · have hm : m ≠ n := by
          rintro rfl
          exact hd (hi.once hold hc)
        simpa [State.goto, State.commit, hm] using hi.fresh hold
    once := fun h h' => by
      rcases goto_eq h with ⟨-, heq⟩ | ⟨-, hold⟩
      · cases heq
      · rcases goto_eq h' with ⟨-, heq⟩ | ⟨-, hold'⟩
        · cases heq
        · exact hi.once hold hold'
    answered := fun {d report} h => by
      rcases goto_eq h with ⟨-, heq⟩ | ⟨-, hold⟩
      · cases heq
        exact ⟨n, row, by simp [State.goto, State.commit], rfl⟩
      · obtain ⟨m, r, hm, hr⟩ := hi.answered hold
        have hne : m ≠ n := by
          rintro rfl
          rw [hi.fresh hc] at hm
          cases hm
        exact ⟨m, r, by simpa [State.goto, State.commit, hne] using hm, hr⟩ }

theorem Inv.step (hi : Inv s) (h : Step overtaken s s') : Inv s' := by
  cases h with
  | ticks | grants | revokesGrant | opensSession | revokesSessions =>
    exact hi.frame rfl le_rfl (fun _ _ _ passed h => ⟨passed, h⟩) fun _ _ h => .inl h
  | enters | authorises | fails => exact hi.goes le_rfl _ nofun nofun
  | refuses => exact hi.goes le_rfl _ nofun nofun
  | inserts c at_ htask hfree hat hstore =>
    obtain ⟨hnone, hid⟩ := store_inserting hstore
    exact hi.insert (by rwa [hid]) (by rwa [hid])
  | finds c at_ htask hfree hstore =>
    refine hi.goes (Nat.le_succ _) _ nofun fun report heq => ?_
    cases heq
    exact store_found hstore
  | conflicts => exact hi.goes (Nat.le_succ _) _ nofun nofun
  | commits c htask => exact hi.commit htask
  | reads limit =>
    refine hi.frame rfl le_rfl (fun c n row passed h => ?_) fun c report h => ?_
    · obtain ⟨passed', hc, -⟩ := passTask_inserting h
      exact ⟨passed', hc⟩
    · exact .inl (passTask_answered h)

theorem State.Initial.inv (h : s.Initial) : Inv s := by
  have hholds : ∀ {n row}, ¬ s.Holds n row := by
    rintro n row (hn | ⟨c, passed, hc⟩)
    · rw [h.reports n] at hn
      cases hn
    · rw [h.task c] at hc
      cases hc
  exact {
    lt := fun hn => absurd hn hholds
    ids := fun hn => absurd hn hholds
    fresh := fun hc => absurd (.inr ⟨_, _, hc⟩) hholds
    once := fun hc => absurd (.inr ⟨_, _, hc⟩) hholds
    answered := fun {c report} hc => by
      rw [h.task c] at hc
      cases hc }

-- ---------------------------------------------------------------------------
-- Runs
-- ---------------------------------------------------------------------------

theorem Inv.reports_step (hi : Inv s) (h : Step overtaken s s') (hn : s.reports n = some row) :
    s'.reports n = some row := by
  cases h with
  | commits c htask hpassed =>
    rename_i m r passed
    have hne : n ≠ m := by
      rintro rfl
      rw [hi.fresh htask] at hn
      cases hn
    simpa [State.goto, State.commit, hne] using hn
  | _ => exact hn

theorem Inv.steps (hi : Inv s) (h : Steps overtaken s s') :
    Inv s' ∧ ∀ n row, s.reports n = some row → s'.reports n = some row := by
  induction h with
  | refl => exact ⟨hi, fun _ _ hn => hn⟩
  | step _ hstep ih =>
    exact ⟨ih.1.step hstep, fun n row hn => ih.1.reports_step hstep (ih.2 n row hn)⟩

theorem Inv.reportOf (hi : Inv s) (hn : s.reports n = some row) :
    s.reportOf row.reportId = some row := by
  cases hfound : s.reportOf row.reportId with
  | none => exact absurd rfl (reportOf_none hfound (hi.lt (.inl hn)) hn)
  | some r =>
    obtain ⟨hid, m, hm⟩ := reportOf_some hfound
    obtain rfl := hi.ids (.inl hm) (.inl hn) hid
    rw [hm] at hn
    exact hn

/-- A report is covered: its session was not revoked, nor some grant of the gate, before the pass
was presented. -/
def State.Covers (s : State) (operator : OperatorPrincipal) (input : AdmissionReportInput)
    (sessionRevokedAt : Option Time) : Prop :=
  (∀ t ∈ sessionRevokedAt, input.presentedAt < t) ∧
    ∃ grant ∈ s.grants, grant.isOf operator input = true ∧
      ∀ t ∈ grant.revokedAt, input.presentedAt < t

theorem authorise_ok_iff :
    s.authorise operator input sessionRevokedAt = .ok () ↔
      s.Covers operator input sessionRevokedAt := by
  have hsession : ¬ sessionRevokedAt.any (¬ input.presentedAt < ·) = true ↔
      ∀ t ∈ sessionRevokedAt, input.presentedAt < t := by
    cases sessionRevokedAt with
    | none => simp
    | some t => simp
  have hgrants : (s.grants.filter (·.isOf operator input)).any (·.covers input) = true ↔
      ∃ grant ∈ s.grants, grant.isOf operator input = true ∧
        ∀ t ∈ grant.revokedAt, input.presentedAt < t := by
    simp only [List.any_eq_true, List.mem_filter, and_assoc]
    refine exists_congr fun grant => and_congr_right fun _ => and_congr_right fun _ => ?_
    unfold GrantRow.covers
    cases grant.revokedAt with
    | none => simp
    | some t => simp
  unfold State.authorise State.Covers
  rw [← hsession, ← hgrants]
  split
  · rename_i h
    exact ⟨nofun, fun hcovers => absurd h hcovers.1⟩
  · rename_i h
    dsimp only
    split
    · rename_i hnone
      simp [hnone]
    · split
      · rename_i hnot
        exact ⟨nofun, fun hcovers => absurd hcovers.2 hnot⟩
      · rename_i hcovered
        exact ⟨fun _ => ⟨h, not_not.mp hcovered⟩, fun _ => rfl⟩

/-- After a report was answered once, by whatever run: the same report sent again by its operator,
through a session the router admits, is answered the same exactly if it is covered once more, and
in any case adds nothing. -/
theorem resent_iff (h₀ : s₀.Initial) (h : Steps True s₀ s)
    (hanswered : s.task c = .answered (.ok report))
    (hentering : Steps True s entering)
    (hadmits : entering.authenticated i = some (operator, revokedAt))
    (hoperator : operator.operatorId = report.operator)
    (hauthorising : Steps True entering authorising) (hstoring : Steps True authorising storing)
    (requestId : String) (now : Time) :
    (reportAdmission entering authorising storing i requestId report.toAdmissionReportInput now =
        some (.ok (.found report)) ↔
      authorising.Covers operator report.toAdmissionReportInput revokedAt) ∧
    ∀ row, reportAdmission entering authorising storing i requestId report.toAdmissionReportInput
      now ≠ some (.ok (.inserting row)) := by
  have hi := (h₀.inv.steps h).1
  obtain ⟨n, row, hrow, rfl⟩ := hi.answered hanswered
  obtain ⟨hi₁, hkept₁⟩ := hi.steps hentering
  obtain ⟨hi₂, hkept₂⟩ := hi₁.steps hauthorising
  obtain ⟨hi₃, hkept₃⟩ := hi₂.steps hstoring
  have hstored := hkept₃ n row (hkept₂ n row (hkept₁ n row hrow))
  have hstore : storing.store operator requestId row.toAdmissionReportInput now =
      .ok (.found row.publicReport) := by
    unfold State.store
    rw [hi₃.reportOf hstored]
    simp [hoperator]
  have hrecord : reportAdmission entering authorising storing i requestId
      row.toAdmissionReportInput now =
      some (authorising.authorise operator row.toAdmissionReportInput revokedAt >>= fun _ =>
        .ok (.found row.publicReport)) := by
    simp only [reportAdmission, hadmits, Option.map_some, record, hstore]
  rw [← authorise_ok_iff, hrecord]
  cases authorising.authorise operator row.toAdmissionReportInput revokedAt with
  | ok => exact ⟨by simp [bind, Except.bind], fun _ => by simp [bind, Except.bind]⟩
  | error e => exact ⟨by simp [bind, Except.bind], fun _ => by simp [bind, Except.bind]⟩

-- ---------------------------------------------------------------------------
-- A gate whose clock is ahead
-- ---------------------------------------------------------------------------

def beginning : State where
  grants := []
  sessions _ := none
  reports _ := none
  next := 1
  task _ := .idle
  walk := ⟨none, none, 0, 0, []⟩
  clock := 1000

theorem beginning_initial : beginning.Initial := ⟨fun _ => rfl, fun _ => rfl, rfl, rfl⟩

def northGrant : GrantRow := ⟨2, 1, 7, ["north"], none⟩

def northSession : SessionRow := ⟨2, 1, 100000, none⟩

/-- A pass presented at 5000 by the gate's clock, which is 4 s ahead of Kippu's. -/
def northReport : AdmissionReport :=
  ⟨⟨"report", 7, "north", 5, 6, some 9, .admitted (.settled 3), 5000, 5000⟩, 2, 1000⟩

theorem northReport_answered : ∃ s, Steps True beginning s ∧
    s.task 0 = .answered (.ok northReport) ∧ s.sessions 1 = some northSession ∧
    s.grants = [northGrant] ∧ s.clock = 1000 := by
  have h₁ : Steps True beginning _ := Steps.refl.step (.opensSession 1 northSession rfl rfl)
  have h₂ := h₁.step (.grants northGrant rfl)
  have h₃ := h₂.step (.enters 0 1 "request" northReport.toAdmissionReportInput rfl rfl)
  have h₄ := h₃.step (.authorises 0 rfl rfl)
  have h₅ := h₄.step (.inserts 0 1000 rfl (fun d n row passed hd => ?_) le_rfl rfl)
  · exact ⟨_, h₅.step (.commits 0 rfl fun _ => trivial), rfl, rfl, rfl, rfl⟩
  · by_cases h : d = 0
    · subst h
      cases hd
    · simp [State.goto, beginning, h] at hd

/-- A report is sent twice, and nothing is revoked. -/
theorem resent_iff_live : ∃ s, Steps True beginning s ∧
    s.task 0 = .answered (.ok northReport) ∧
    reportAdmission s s s 1 "again" northReport.toAdmissionReportInput 1000 =
      some (.ok (.found northReport)) := by
  obtain ⟨s, hs, hanswered, hsession, hgrants, hclock⟩ := northReport_answered
  have hadmits : s.authenticated 1 = some (⟨2, 1, 1⟩, none) := by
    simp [State.authenticated, hsession, northSession, hclock]
  have hcovers : s.Covers ⟨2, 1, 1⟩ northReport.toAdmissionReportInput none := by
    refine ⟨nofun, northGrant, by simp [hgrants], rfl, nofun⟩
  exact ⟨s, hs, hanswered,
    (resent_iff beginning_initial hs hanswered .refl hadmits rfl .refl .refl "again" 1000).1.mpr
      hcovers⟩

/-- The grant is revoked at 2000, before the pass was presented by the gate's clock: the report,
answered before, is refused when it is sent again. -/
theorem resent_refused : ∃ s s', Steps True beginning s ∧
    s.task 0 = .answered (.ok northReport) ∧ Steps True s s' ∧
    s'.authenticated 1 = some (⟨2, 1, 1⟩, none) ∧
    reportAdmission s' s' s' 1 "again" northReport.toAdmissionReportInput 3000 =
      some (.error .grantRevoked) := by
  obtain ⟨s, hs, hanswered, hsession, hgrants, hclock⟩ := northReport_answered
  have hlater : Steps True s _ := Steps.refl.step (.ticks 2000 (by rw [hclock]; decide))
  have hrevoked := hlater.step (.revokesGrant 0 2000 le_rfl)
  have hadmits : hrevoked.last.authenticated 1 = some (⟨2, 1, 1⟩, none) := by
    simp [Steps.last, State.authenticated, hsession, northSession]
  refine ⟨s, _, hs, hanswered, hrevoked, hadmits, ?_⟩
  have hrefused : hrevoked.last.authorise ⟨2, 1, 1⟩ northReport.toAdmissionReportInput none =
      .error .grantRevoked := by
    have hgrant : hrevoked.last.grants = [northGrant.revoke 2000] := by
      simp [Steps.last, hgrants]
    unfold State.authorise
    rw [hgrant]
    rfl
  simp only [Steps.last] at hadmits hrefused
  simp only [reportAdmission, hadmits, Option.map_some, record, hrefused]
  rfl

end Kippu.Reports
