import Kippu.Derived.AdmissionFlags

/-!
# One pass at two gates

A flag lists the other reports of its pass. Reports are gathered by pass id alone,
while a pass is told from others by its ticket and its id: what is listed is of one
pass exactly as long as no other ticket's report carries the id.
-/

namespace Kippu.Derived

variable {reads : CopyReads} {limits : RulesConfig} {organiserId : OrganiserId}
variable {reports own : List StoredAdmissionReport} {report other : StoredAdmissionReport}
variable {flag : AdmissionFlag}

def relatedOf (other : StoredAdmissionReport) : RelatedReport :=
  ⟨other.reportId, other.gate, other.operator, outcomeOf other, other.receivedAt⟩

/-- The reports as the table keys them: by sequence, and by report id. -/
structure Keyed (reports : List StoredAdmissionReport) : Prop where
  sequence : ∀ report ∈ reports, ∀ other ∈ reports, report.sequence = other.sequence →
    report = other
  reportId : ∀ report ∈ reports, ∀ other ∈ reports, report.reportId = other.reportId →
    report = other

def AdmissionFlag.Another (flag : AdmissionFlag) (other : StoredAdmissionReport) : Prop :=
  other.reportId ≠ flag.reportId ∧ other.ticket = flag.ticket ∧ other.passId = flag.passId

/-- A flag speaks only of its pass: whatever it lists is another report of the pass, and the cause
rests on one that admitted it. -/
def AdmissionFlag.OfOnePass (flag : AdmissionFlag) (reports : List StoredAdmissionReport) : Prop :=
  (∀ related ∈ flag.otherReports, ∃ other ∈ reports, relatedOf other = related ∧
    flag.Another other) ∧
  (flag.cause = .samePassAtTwoGates → ∃ other ∈ reports, flag.Another other ∧
    other.verdict.isAdmitted = true)

-- ---------------------------------------------------------------------------
-- What is flagged
-- ---------------------------------------------------------------------------

def Unrecorded (reads : CopyReads) (limits : RulesConfig) (report : StoredAdmissionReport) :
    Prop :=
  report.verdict = .admitted .failed ∧
    (∀ row ∈ consumedPass (reads.report report.sequence) report.ticket report.passId,
      reads.current.nextSequence ≤ row.sequence) ∧
    ∃ time ∈ (freshnessOf reads.current).lastRecordedAt,
      report.presentedAt + limits.maxPassWindow + limits.maxRecordingLag < time

/-- A report is flagged that the ledger rejected, that a clock outside the tolerance sent, or whose
pass can no longer be recorded. -/
def ToFlag (reads : CopyReads) (limits : RulesConfig) (report : StoredAdmissionReport) : Prop :=
  (∃ code, report.verdict = .admitted (.rejected code)) ∨
    GATE_CLOCK_TOLERANCE_MS < ((report.deviceClock : ℤ) - report.receivedAt).natAbs ∨
    Unrecorded reads limits report

theorem errorCode_isSome :
    errorCode report ≠ none ↔ ∃ code, report.verdict = .admitted (.rejected code) := by
  unfold errorCode
  split
  · rename_i code hverdict
    simp [hverdict]
  · rename_i hnot
    simpa using hnot

theorem not_any_lt {row : Option PassRow} :
    ¬ row.any (·.sequence < n) = true ↔ ∀ r ∈ row, n ≤ r.sequence := by
  cases row with
  | none => simp
  | some r => simp

theorem any_lt {time : Option Time} : time.any (deadline < ·) = true ↔ ∃ t ∈ time, deadline < t := by
  cases time with
  | none => simp
  | some t => simp

theorem recordingDeadline_isSome :
    recordingDeadline reads limits report ≠ none ↔ Unrecorded reads limits report := by
  unfold recordingDeadline Unrecorded
  split
  · rename_i hverdict
    rw [← not_any_lt, ← any_lt]
    dsimp only
    split
    · rename_i h
      exact ⟨fun _ => ⟨hverdict, h⟩, fun _ => Option.some_ne_none _⟩
    · rename_i h
      exact ⟨fun hne => absurd rfl hne, fun ⟨_, hboth⟩ => absurd hboth h⟩
  · rename_i hnot
    simp only [ne_eq, not_true_eq_false, false_iff]
    rintro ⟨hverdict, -⟩
    exact hnot hverdict

theorem clockOutside_iff : clockOutside report = true ↔
    GATE_CLOCK_TOLERANCE_MS < ((report.deviceClock : ℤ) - report.receivedAt).natAbs := by
  unfold clockOutside clockDrift
  exact decide_eq_true_iff

theorem flagOf_isSome : (flagOf reads limits own report).isSome ↔ ToFlag reads limits report := by
  have hiff : ¬(errorCode report = none ∧ ¬clockOutside report = true ∧
      recordingDeadline reads limits report = none) ↔ ToFlag reads limits report := by
    rw [ToFlag, ← errorCode_isSome, ← clockOutside_iff, ← recordingDeadline_isSome]
    tauto
  rw [← hiff]
  unfold flagOf
  split
  · rename_i hnone
    simp [hnone]
  · rename_i hsome
    simpa using hsome

-- ---------------------------------------------------------------------------
-- What a flag lists
-- ---------------------------------------------------------------------------

theorem flagOf_eq (h : flagOf reads limits own report = some flag) :
    flag.reportId = report.reportId ∧ flag.ticket = report.ticket ∧
      flag.passId = report.passId ∧
      flag.otherReports = (own.filter fun other =>
        other.passId = report.passId ∧ other.sequence ≠ report.sequence).map relatedOf ∧
      flag.cause = (causeOf reads limits (own.filter fun other =>
        other.passId = report.passId ∧ other.sequence ≠ report.sequence) report).1 := by
  unfold flagOf at h
  split at h
  · cases h
  · cases h
    exact ⟨rfl, rfl, rfl, rfl, rfl⟩

theorem causeOf_samePass {others : List StoredAdmissionReport}
    (h : (causeOf reads limits others report).1 = .samePassAtTwoGates) :
    ∃ other ∈ others, other.verdict.isAdmitted = true := by
  unfold causeOf at h
  split at h
  · cases h
  split at h
  · cases h
  split at h
  · rename_i hadmitted
    exact List.any_eq_true.mp hadmitted.2
  split at h
  · dsimp only at h
    split at h <;> cases h
  · split at h <;> cases h

/-- A flagged report's flag is of one pass if and only if no report of another ticket, among those
gathered, carries the pass id. -/
theorem ofOnePass_iff (hkeyed : Keyed own) (hreport : report ∈ own)
    (h : flagOf reads limits own report = some flag) :
    flag.OfOnePass own ↔ ∀ other ∈ own, other.passId = report.passId →
      other.ticket = report.ticket := by
  obtain ⟨hid, hticket, hpass, hothers, hcause⟩ := flagOf_eq h
  constructor
  · rintro ⟨hlisted, -⟩ other hother hpassId
    by_contra hne
    have hsequence : other.sequence ≠ report.sequence := fun heq =>
      hne (by rw [hkeyed.sequence other hother report hreport heq])
    have hmem : relatedOf other ∈ flag.otherReports := by
      rw [hothers]
      exact List.mem_map_of_mem (List.mem_filter.mpr ⟨hother, by simpa using ⟨hpassId, hsequence⟩⟩)
    obtain ⟨same, hsame, hrelated, -, hsameTicket, -⟩ := hlisted _ hmem
    -- The report listed is known by its id.
    have heq := hkeyed.reportId same hsame other hother (congrArg RelatedReport.reportId hrelated)
    rw [heq, hticket] at hsameTicket
    exact hne hsameTicket
  · intro hsame
    have hanother : ∀ other ∈ own.filter (fun other =>
        other.passId = report.passId ∧ other.sequence ≠ report.sequence), flag.Another other := by
      intro other hother
      obtain ⟨hmem, hp⟩ := List.mem_filter.mp hother
      obtain ⟨hpassId, hsequence⟩ := of_decide_eq_true hp
      refine ⟨fun heq => hsequence ?_, by rw [hsame other hmem hpassId, hticket],
        by rw [hpassId, hpass]⟩
      rw [hkeyed.reportId other hmem report hreport (heq.trans hid)]
    constructor
    · intro related hrelated
      rw [hothers] at hrelated
      obtain ⟨other, hother, rfl⟩ := List.mem_map.mp hrelated
      exact ⟨other, (List.mem_filter.mp hother).1, rfl, hanother other hother⟩
    · intro hsamePass
      rw [hcause] at hsamePass
      obtain ⟨other, hother, hadmitted⟩ := causeOf_samePass hsamePass
      exact ⟨other, (List.mem_filter.mp hother).1, hanother other hother, hadmitted⟩

/-- Every flag of an event is of one pass if and only if no report flagged has its pass id carried
by a report of another ticket. -/
theorem flags_ofOnePass_iff (reads : CopyReads) (limits : RulesConfig)
    (reports : List StoredAdmissionReport) (organiserId : OrganiserId) (hkeyed : Keyed reports) :
    (∀ flag ∈ (matchAdmissionFlags reads limits reports organiserId).flags,
      flag.OfOnePass (reports.filter (·.organiserId = organiserId))) ↔
    ∀ report ∈ reports, report.organiserId = organiserId → ToFlag reads limits report →
      ∀ other ∈ reports, other.organiserId = organiserId → other.passId = report.passId →
        other.ticket = report.ticket := by
  have hown : Keyed (reports.filter (·.organiserId = organiserId)) :=
    ⟨fun r hr o ho => hkeyed.sequence r (List.mem_of_mem_filter hr) o (List.mem_of_mem_filter ho),
      fun r hr o ho => hkeyed.reportId r (List.mem_of_mem_filter hr) o (List.mem_of_mem_filter ho)⟩
  constructor
  · intro hflags report hreport horganiser hto other hother hotherOrganiser hpassId
    have hmem : report ∈ reports.filter (·.organiserId = organiserId) :=
      List.mem_filter.mpr ⟨hreport, by simpa using horganiser⟩
    obtain ⟨flag, hflag⟩ := Option.isSome_iff_exists.mp (flagOf_isSome.mpr hto)
    have hone := hflags flag (List.mem_filterMap.mpr ⟨report, hmem, hflag⟩)
    exact (ofOnePass_iff hown hmem hflag).mp hone other
      (List.mem_filter.mpr ⟨hother, by simpa using hotherOrganiser⟩) hpassId
  · intro hsame flag hflag
    obtain ⟨report, hmem, hof⟩ := List.mem_filterMap.mp hflag
    obtain ⟨hreport, horganiser⟩ := List.mem_filter.mp hmem
    have hto := flagOf_isSome.mp (Option.isSome_of_mem hof)
    refine (ofOnePass_iff hown hmem hof).mpr fun other hother hpassId => ?_
    obtain ⟨hotherMem, hotherOrganiser⟩ := List.mem_filter.mp hother
    exact hsame report hreport (by simpa using horganiser) hto other hotherMem
      (by simpa using hotherOrganiser) hpassId

-- ---------------------------------------------------------------------------
-- Two tickets, one pass id
-- ---------------------------------------------------------------------------

def passReport (sequence : ℕ) (reportId : String) (ticket : TicketId)
    (submission : AdmissionSubmission) : StoredAdmissionReport where
  sequence := sequence
  reportId := reportId
  organiserId := 1
  operator := 2
  gate := "north"
  ticket := ticket
  passId := 6
  holder := some 9
  verdict := .admitted submission
  presentedAt := 100
  deviceClock := 100
  receivedAt := 100

def emptyReads : CopyReads := ⟨⟨0, 0, .empty, .empty⟩, fun _ => ⟨0, 0, .empty, .empty⟩⟩

theorem keyed_pair (h : a.sequence ≠ b.sequence) (h' : a.reportId ≠ b.reportId) :
    Keyed [a, b] := by
  constructor
  · simp [h, h.symm]
  · simp [h', h'.symm]

/-- Two reports of one pass, both of ticket 5. -/
theorem flags_ofOnePass_iff_one_ticket :
    ∃ reports, reports.map StoredAdmissionReport.ticket = [5, 5] ∧
      ∀ flag ∈ (matchAdmissionFlags emptyReads ⟨60, 100⟩ reports 1).flags,
        flag.OfOnePass (reports.filter (·.organiserId = 1)) := by
  refine ⟨[passReport 1 "a" 5 (.settled 3), passReport 2 "b" 5 (.rejected "ERR-PassReplayed")],
    rfl, ?_⟩
  refine (flags_ofOnePass_iff emptyReads ⟨60, 100⟩ _ 1 (keyed_pair (by decide) (by decide))).mpr ?_
  simp [passReport]

/-- A pass of ticket 5, admitted, and one of ticket 7 that the ledger rejected have one id: the
second is flagged as if presented at two gates. -/
theorem same_pass_of_two_tickets :
    Keyed [passReport 1 "a" 5 (.settled 3), passReport 2 "b" 7 (.rejected "ERR-PassReplayed")] ∧
    ∃ flag ∈ (matchAdmissionFlags emptyReads ⟨60, 100⟩
      [passReport 1 "a" 5 (.settled 3), passReport 2 "b" 7 (.rejected "ERR-PassReplayed")] 1).flags,
      flag.cause = .samePassAtTwoGates ∧ flag.ticket = 7 ∧
      flag.otherReports.map RelatedReport.reportId = ["a"] ∧
      ¬ flag.OfOnePass [passReport 1 "a" 5 (.settled 3),
        passReport 2 "b" 7 (.rejected "ERR-PassReplayed")] := by
  refine ⟨keyed_pair (by decide) (by decide), _, List.mem_singleton_self _, rfl, rfl, rfl, ?_⟩
  rintro ⟨-, hcause⟩
  obtain ⟨other, hother, ⟨hid, hticket, -⟩, -⟩ := hcause rfl
  simp only [List.mem_cons, List.not_mem_nil, or_false] at hother
  rcases hother with rfl | rfl
  · cases hticket
  · exact hid rfl

end Kippu.Derived
