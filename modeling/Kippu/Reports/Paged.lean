import Kippu.Reports.Resent

/-!
# Paging loses no report

A walk is given, once each, the reports committed between where it began and where it
reads from next, as long as no report becomes visible there: every `INSERT` that runs
while a page goes beyond its number fails.
-/

namespace Kippu.Reports

open Derived

variable {overtaken : Prop} {s s' : State} {c : Call} {n limit : ℕ} {row : ReportRow}

def State.Wanted (s : State) (n : ℕ) (row : ReportRow) : Prop :=
  s.reports n = some row ∧ (s.walk.query 0).selects row = true ∧ s.walk.start < n

/-- A walk was given what it was to be given, up to where it reads from next, once each and in
order; when a page is empty, that is all. -/
structure Exact (s : State) : Prop where
  once : (s.walk.returned.map Prod.fst).Pairwise (· < ·)
  returned : ∀ n row, (n, row) ∈ s.walk.returned ↔ s.Wanted n row ∧ n ≤ s.walk.after
  upToDate : ∀ limit, 0 < limit → (s.list (s.walk.query limit)).reports = [] →
    ∀ n row, s.Wanted n row → (n, row) ∈ s.walk.returned

-- ---------------------------------------------------------------------------
-- Pages
-- ---------------------------------------------------------------------------

theorem mem_beyond (hi : Inv s) {q : AdmissionReportQuery} : (n, row) ∈ s.beyond q ↔
    s.reports n = some row ∧ q.after < n ∧ q.selects row = true := by
  unfold State.beyond
  rw [List.mem_filterMap]
  constructor
  · rintro ⟨m, -, hm⟩
    obtain ⟨r, hr, heq⟩ := Option.map_eq_some_iff.mp hm
    cases heq
    obtain ⟨hrow, hp⟩ := Option.filter_eq_some_iff.mp hr
    simp only [Bool.and_eq_true, decide_eq_true_eq] at hp
    exact ⟨hrow, hp⟩
  · rintro ⟨hrow, hafter, hselects⟩
    refine ⟨n, List.mem_range.mpr (hi.lt (.inl hrow)), ?_⟩
    simp [hrow, hafter, hselects]

theorem beyond_ascends (q : AdmissionReportQuery) :
    (s.beyond q).Pairwise fun a b => a.1 < b.1 := by
  unfold State.beyond
  refine List.Pairwise.filterMap _ (fun a b hab x hx y hy => ?_) List.pairwise_lt_range
  obtain ⟨r, -, rfl⟩ := Option.map_eq_some_iff.mp hx
  obtain ⟨r', -, rfl⟩ := Option.map_eq_some_iff.mp hy
  exact hab

theorem next_cases (q : AdmissionReportQuery) :
    ((s.list q).reports = [] ∧ (s.list q).next = q.after) ∨
      ∃ last ∈ (s.beyond q).take q.limit, (s.list q).next = last.1 ∧
        ∀ x ∈ s.beyond q, x ∈ (s.beyond q).take q.limit ↔ x.1 ≤ last.1 := by
  have hasc := beyond_ascends (s := s) q
  simp only [State.list]
  cases hlast : ((s.beyond q).take q.limit).getLast? with
  | none => exact .inl ⟨List.getLast?_eq_none_iff.mp hlast, rfl⟩
  | some last =>
    refine .inr ⟨last, List.mem_of_getLast? hlast, rfl, fun x hx => ?_⟩
    obtain ⟨front, hfront⟩ := List.getLast?_eq_some_iff.mp hlast
    rw [← List.take_append_drop q.limit (s.beyond q), hfront] at hasc hx
    obtain ⟨htake, -, hdrop⟩ := List.pairwise_append.mp hasc
    rw [hfront]
    constructor
    · intro hmem
      cases List.mem_append.mp hmem with
      | inl hin => exact le_of_lt ((List.pairwise_append.mp htake).2.2 x hin last (by simp))
      | inr hin => rw [List.mem_singleton.mp hin]
    · intro hle
      cases List.mem_append.mp hx with
      | inl hin => exact hin
      | inr hin => exact absurd (hdrop last (by simp) x hin) (Nat.not_lt.mpr hle)

-- ---------------------------------------------------------------------------
-- The walk
-- ---------------------------------------------------------------------------

/-- What carries a walk: numbers drawn later are beyond it, and the running `INSERT`s whose numbers
it has gone beyond are marked. -/
structure WalkInv (s : State) : Prop where
  start : s.walk.start ≤ s.walk.after
  after : s.walk.start < s.walk.after → s.walk.after < s.next
  marks : ∀ {c n row passed}, s.task c = .inserting n row passed → s.walk.start < n →
    n ≤ s.walk.after → passed = true
  once : (s.walk.returned).Pairwise fun a b => a.1 < b.1
  returned : ∀ n row, (n, row) ∈ s.walk.returned ↔ s.Wanted n row ∧ n ≤ s.walk.after

theorem WalkInv.frame (hw : WalkInv s) (hreports : s'.reports = s.reports)
    (hwalk : s'.walk = s.walk) (hnext : s.next ≤ s'.next)
    (htask : ∀ c n row passed, s'.task c = .inserting n row passed →
      s.task c = .inserting n row passed ∨ n = s.next) : WalkInv s' where
  start := by rw [hwalk]; exact hw.start
  after := by rw [hwalk]; exact fun h => (hw.after h).trans_le hnext
  marks := by
    intro c n row passed hc
    rw [hwalk]
    intro hstart hafter
    cases htask c n row passed hc with
    | inl hold => exact hw.marks hold hstart hafter
    | inr hnew =>
      subst hnew
      exact absurd (hw.after (hstart.trans_le hafter)) (Nat.not_lt.mpr hafter)
  once := by rw [hwalk]; exact hw.once
  returned := by
    intro n row
    unfold State.Wanted
    rw [hwalk, hreports]
    exact hw.returned n row

theorem WalkInv.goes (hw : WalkInv s) (hnext : s.next ≤ next') (t : Task)
    (ht : ∀ n row passed, t = .inserting n row passed → n = s.next) :
    WalkInv ({ s with next := next' }.goto c t) := by
  refine hw.frame rfl rfl hnext fun d n row passed h => ?_
  rcases goto_eq h with ⟨-, heq⟩ | ⟨-, hd⟩
  · exact .inr (ht n row passed heq)
  · exact .inl hd

theorem WalkInv.commit (hw : WalkInv s) (hc : s.task c = .inserting n row passed)
    (hpassed : passed = false) :
    WalkInv ((s.commit n row).goto c (.answered (.ok row.publicReport))) where
  start := hw.start
  after := hw.after
  marks := by
    intro d m r passed' h hstart hafter
    rcases goto_eq h with ⟨-, heq⟩ | ⟨-, hd⟩
    · cases heq
    · exact hw.marks hd hstart hafter
  once := hw.once
  returned := by
    intro m r
    refine (hw.returned m r).trans ?_
    have hbeyond : ¬ (s.walk.start < n ∧ n ≤ s.walk.after) := fun ⟨hstart, hafter⟩ => by
      rw [hw.marks hc hstart hafter] at hpassed
      cases hpassed
    unfold State.Wanted
    by_cases hm : m = n
    · subst hm
      constructor
      · rintro ⟨⟨-, -, hstart⟩, hafter⟩
        exact absurd ⟨hstart, hafter⟩ hbeyond
      · rintro ⟨⟨-, -, hstart⟩, hafter⟩
        exact absurd ⟨hstart, hafter⟩ hbeyond
    · simp [State.goto, State.commit, hm]

theorem WalkInv.readPage (hw : WalkInv s) (hi : Inv s) (limit : ℕ) :
    WalkInv (s.readPage limit) := by
  have hwalk : (s.readPage limit).walk = s.walk.read (s.list (s.walk.query limit)) := rfl
  rcases next_cases (s := s) (s.walk.query limit) with
    ⟨hempty, hnext⟩ | ⟨last, hlast, hnext, hreach⟩
  · have hsame : (s.readPage limit).walk = s.walk := by
      rw [hwalk]
      unfold Walk.read
      rw [hempty, hnext, List.append_nil]
      rfl
    exact {
      start := by rw [hsame]; exact hw.start
      after := by rw [hsame]; exact hw.after
      marks := by
        intro c n row passed hc hstart hafter
        rw [hsame] at hstart hafter
        obtain ⟨passed', hold, rfl⟩ := passTask_inserting hc
        rw [hw.marks hold hstart hafter]
        rfl
      once := by rw [hsame]; exact hw.once
      returned := by
        intro n row
        unfold State.Wanted
        rw [hsame]
        exact hw.returned n row }
  · obtain ⟨hcommitted, hbeyond, -⟩ := (mem_beyond hi).mp (List.mem_of_mem_take hlast)
    have hafter' : (s.readPage limit).walk.after = last.1 := hnext
    exact {
      start := by
        rw [hafter']
        exact hw.start.trans (le_of_lt hbeyond)
      after := by
        rw [hafter']
        exact fun _ => hi.lt (.inl hcommitted)
      marks := by
        intro c n row passed hc hstart hafter
        rw [hafter'] at hafter
        obtain ⟨passed', hold, rfl⟩ := passTask_inserting hc
        by_cases hbehind : n ≤ s.walk.after
        · rw [hw.marks hold hstart hbehind]
          rfl
        · have hne : n ≠ last.1 := by
            rintro rfl
            rw [hi.fresh hold] at hcommitted
            cases hcommitted
          have hpasses : s.passes limit n = true := by
            simp only [State.passes, Bool.and_eq_true, decide_eq_true_eq, List.any_eq_true]
            exact ⟨hstart, last, hlast, lt_of_le_of_ne hafter hne⟩
          rw [hpasses, Bool.or_true]
      once := by
        refine List.pairwise_append.mpr ⟨hw.once, (beyond_ascends _).take, fun a ha b hb => ?_⟩
        have hle := ((hw.returned a.1 a.2).mp ha).2
        have hlt := ((mem_beyond hi).mp (List.mem_of_mem_take hb)).2.1
        exact hle.trans_lt hlt
      returned := by
        intro n row
        rw [hafter']
        show (n, row) ∈ s.walk.returned ++ (s.beyond (s.walk.query limit)).take limit ↔
          s.Wanted n row ∧ n ≤ last.1
        rw [List.mem_append, hw.returned]
        constructor
        · rintro (⟨hwanted, hle⟩ | hpage)
          · exact ⟨hwanted, hle.trans (le_of_lt hbeyond)⟩
          · have hmem := List.mem_of_mem_take hpage
            obtain ⟨hrow, hgt, hselects⟩ := (mem_beyond hi).mp hmem
            exact ⟨⟨hrow, hselects, hw.start.trans_lt hgt⟩, (hreach _ hmem).mp hpage⟩
        · rintro ⟨hwanted, hle⟩
          by_cases hbehind : n ≤ s.walk.after
          · exact .inl ⟨hwanted, hbehind⟩
          · have hmem : (n, row) ∈ s.beyond (s.walk.query limit) :=
              (mem_beyond hi).mpr ⟨hwanted.1, Nat.lt_of_not_le hbehind, hwanted.2.1⟩
            exact .inr ((hreach _ hmem).mpr hle) }

theorem WalkInv.step (hw : WalkInv s) (hi : Inv s) (h : Step False s s') : WalkInv s' := by
  cases h with
  | ticks | grants | revokesGrant | opensSession | revokesSessions =>
    exact hw.frame rfl rfl le_rfl fun _ _ _ _ h => .inl h
  | enters | authorises | refuses | fails => exact hw.goes le_rfl _ nofun
  | finds | conflicts => exact hw.goes (Nat.le_succ _) _ nofun
  | inserts =>
    refine hw.goes (Nat.le_succ _) _ fun n row passed heq => ?_
    cases heq
    rfl
  | commits c htask hpassed => exact hw.commit htask (Bool.eq_false_iff.mpr hpassed)
  | reads limit => exact hw.readPage hi limit

theorem State.Initial.walkInv (h : s.Initial) : WalkInv s where
  start := h.after.symm.le
  after hlt := absurd h.after (Nat.ne_of_gt hlt)
  marks := by
    intro c n row passed hc
    rw [h.task c] at hc
    cases hc
  once := by
    rw [h.returned]
    exact .nil
  returned := by
    intro n row
    unfold State.Wanted
    simp [h.returned, h.reports n]

theorem WalkInv.steps (hw : WalkInv s) (hi : Inv s) (h : Steps False s s') : WalkInv s' := by
  induction h with
  | refl => exact hw
  | step h hstep ih => exact ih.step (hi.steps h).1 hstep

theorem WalkInv.exact (hw : WalkInv s) (hi : Inv s) : Exact s where
  once := List.pairwise_map.mpr hw.once
  returned := hw.returned
  upToDate := by
    intro limit hlimit hempty n row hwanted
    refine (hw.returned n row).mpr ⟨hwanted, ?_⟩
    by_contra hle
    have hmem : (n, row) ∈ s.beyond (s.walk.query limit) :=
      (mem_beyond hi).mpr ⟨hwanted.1, Nat.lt_of_not_le hle, hwanted.2.1⟩
    have htake : (s.beyond (s.walk.query limit)).take limit = [] := hempty
    cases List.take_eq_nil_iff.mp htake with
    | inl hzero => exact absurd hzero (Nat.ne_of_gt hlimit)
    | inr hnil =>
      rw [hnil] at hmem
      cases hmem

/-- In every run in which no `INSERT` commits that ran while a page went beyond its number: a walk
is given each report once, and none becomes visible behind it. -/
theorem pages_lose_none (h₀ : s₀.Initial) (h : Steps False s₀ s) :
    Exact s ∧ ∀ s' n row, Step False s s' → s.reports n = none → s'.reports n = some row →
      s.walk.start < n → s.walk.after < n := by
  have hi := (h₀.inv.steps h).1
  have hw := h₀.walkInv.steps h₀.inv h
  refine ⟨hw.exact hi, fun s' n row hstep hnone hvisible hstart => ?_⟩
  cases hstep with
  | commits c htask hpassed =>
    rename_i m r passed
    by_cases hn : n = m
    · subst hn
      by_contra hle
      exact hpassed (hw.marks htask hstart (Nat.le_of_not_lt hle))
    · simp [State.goto, State.commit, hn, hnone] at hvisible
  | _ => cases hnone.symm.trans hvisible

-- ---------------------------------------------------------------------------
-- Two reports at once
-- ---------------------------------------------------------------------------

def secondReport : AdmissionReport :=
  { northReport with reportId := "second" }

def northRow : ReportRow := ⟨northReport, 1, 1, "request"⟩
def secondRow : ReportRow := ⟨secondReport, 1, 1, "request"⟩

theorem both_inserting (overtaken : Prop) : ∃ s, Steps overtaken beginning s ∧
    s.task 0 = .inserting 1 northRow false ∧ s.task 1 = .inserting 2 secondRow false ∧
    s.reports = (fun _ => none) ∧ s.next = 3 ∧ s.walk = beginning.walk := by
  have h₁ : Steps overtaken beginning _ :=
    Steps.refl.step (.opensSession 1 northSession rfl rfl)
  have h₂ := h₁.step (.grants northGrant rfl)
  have h₃ := h₂.step (.enters 0 1 "request" northReport.toAdmissionReportInput rfl rfl)
  have h₄ := h₃.step (.authorises 0 rfl rfl)
  have h₅ := h₄.step (.inserts 0 1000 rfl (fun d n row passed hd => ?_) le_rfl rfl)
  · have h₆ := h₅.step (.enters 1 1 "request" secondReport.toAdmissionReportInput rfl rfl)
    have h₇ := h₆.step (.authorises 1 rfl rfl)
    have h₈ := h₇.step (.inserts 1 1000 rfl (fun d n row passed hd => ?_) le_rfl rfl)
    · exact ⟨_, h₈, rfl, rfl, rfl, rfl, rfl⟩
    · by_cases h : d = 1
      · subst h
        cases hd
      · by_cases h' : d = 0
        · subst h'
          cases hd
          decide
        · simp [State.goto, State.draw, beginning, h, h'] at hd
  · by_cases h : d = 0
    · subst h
      cases hd
    · simp [State.goto, beginning, h] at hd

/-- Two reports commit, and then a page is read. -/
theorem pages_lose_none_two : ∃ s, Steps False beginning s ∧
    s.walk.returned = [(1, northRow), (2, secondRow)] ∧ Exact s := by
  obtain ⟨⟨grants, sessions, reports, next, task, walk, clock⟩, hs, hfirst, hsecond, hreports,
    hnext, hwalk⟩ := both_inserting False
  dsimp only at hfirst hsecond hreports hnext hwalk
  subst hreports hnext hwalk
  have h₁ := hs.step (.commits 0 hfirst nofun)
  have h₂ := h₁.step (.commits 1 (n := 2) hsecond nofun)
  have h₃ := h₂.step (.reads DEFAULT_REPORT_PAGE)
  exact ⟨_, h₃, rfl, (pages_lose_none beginning_initial h₃).1⟩

/-- The second of two commits, a page is read, and then the first commits: its report is behind the
walk, and is never returned. -/
theorem page_passes_one : ∃ s s', Steps True beginning s ∧ Step True s s' ∧
    s.walk.returned = [(2, secondRow)] ∧ s.walk.after = 2 ∧
    s.reports 1 = none ∧ s'.reports 1 = some northRow ∧
    (s'.list (s'.walk.query DEFAULT_REPORT_PAGE)).reports = [] ∧ ¬ Exact s' := by
  obtain ⟨⟨grants, sessions, reports, next, task, walk, clock⟩, hs, hfirst, hsecond, hreports,
    hnext, hwalk⟩ := both_inserting True
  dsimp only at hfirst hsecond hreports hnext hwalk
  subst hreports hnext hwalk
  have h₁ := hs.step (.commits 1 hsecond nofun)
  have h₂ := h₁.step (.reads DEFAULT_REPORT_PAGE)
  have hmarked : h₂.last.task 0 = .inserting 1 northRow true := by
    show State.passTask _ _ (task 0) = _
    rw [hfirst]
    rfl
  have h₃ : Step True h₂.last _ := .commits 0 hmarked fun _ => trivial
  refine ⟨_, _, h₂, h₃, rfl, rfl, rfl, rfl, rfl, fun hexact => ?_⟩
  have hmem := hexact.upToDate DEFAULT_REPORT_PAGE (by decide) rfl 1 northRow
    ⟨rfl, rfl, Nat.zero_lt_one⟩
  cases List.mem_singleton.mp hmem

end Kippu.Reports
