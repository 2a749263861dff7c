import Kippu.Derived.AdmissionFlags

/-!
# A pass not recorded

A `not-recorded` flag is raised once the copy has read a record later than the pass
could be recorded at; the clock does not go back, so that no record after it can
record the pass, and the copy holds whatever one before it did.
-/

namespace Kippu.Derived

variable {config : RulesConfig} {log : LogReader} {s : Services}

-- ---------------------------------------------------------------------------
-- The copy's position
-- ---------------------------------------------------------------------------

theorem lastRecordedAt_eq (h : ReadTo log [ledgerFacts s] .empty db)
    (hlast : time ∈ (freshnessOf db).lastRecordedAt) :
    ∃ n record, n + 1 = db.nextSequence ∧ log.records[n]? = some record ∧
      record.recordedAt = time := by
  simp only [freshnessOf] at hlast
  split at hlast
  · cases hlast
  · rename_i n hn
    obtain ⟨row, hrow, htime⟩ := Option.map_eq_some_iff.mp hlast
    rw [h.copied.rows n (by omega)] at hrow
    obtain ⟨record, hrecord, rfl⟩ := Option.map_eq_some_iff.mp hrow
    exact ⟨n, record, hn.symm, hrecord, htime⟩

theorem ReadTo.consumed (h : ReadTo log [ledgerFacts s] .empty db) :
    Consumed (log.records.take db.nextSequence) db.copy := by
  have hproject := Consumed.empty.project (s := s) h.copied.fold
  simpa using hproject

theorem mem_take_iff {records : List LogRecord} {n m : ℕ} {record : LogRecord} :
    (records.take m)[n]? = some record ↔ n < m ∧ records[n]? = some record := by
  rw [List.getElem?_take]
  split
  · simp [*]
  · simp [*]

theorem consumedPass_of_read {pass : PassId} (h : ReadTo log [ledgerFacts s] .empty db)
    (hn : n < db.nextSequence) (hrecord : log.records[n]? = some record)
    (hkey : record.consumes = some (ticket, pass)) :
    ∃ row, consumedPass db ticket pass = some row ∧ row.sequence = n :=
  h.consumed.held n record _ (mem_take_iff.mpr ⟨hn, hrecord⟩) hkey

-- ---------------------------------------------------------------------------
-- The ledger's clock
-- ---------------------------------------------------------------------------

theorem PassRules.recordedAt_le {pass : PassId} (hrules : PassRules config log.records)
    (hpresented : PresentedInWindow log.records ticket pass presentedAt)
    (hrecord : record ∈ log.records) (hkey : record.consumes = some (ticket, pass)) :
    record.recordedAt ≤ presentedAt + config.maxPassWindow + config.maxRecordingLag := by
  unfold LogRecord.consumes at hkey
  split at hkey
  · rename_i recorded hentry
    cases hkey
    have hbegin := hpresented record hrecord recorded hentry rfl rfl
    have hwindow := hrules.window record hrecord recorded hentry
    have hlag := hrules.lag record hrecord recorded hentry
    exact hlag.trans
      (Nat.add_le_add_right (hwindow.trans (Nat.add_le_add_right hbegin _)) _)
  · cases hkey

theorem PassRules.recordedAt_mono (hrules : PassRules config log.records) {i j : ℕ}
    {earlier later : LogRecord} (hi : log.records[i]? = some earlier)
    (hj : log.records[j]? = some later) (hij : i ≤ j) :
    earlier.recordedAt ≤ later.recordedAt := by
  obtain ⟨hil, rfl⟩ := List.getElem?_eq_some_iff.mp hi
  obtain ⟨hjl, rfl⟩ := List.getElem?_eq_some_iff.mp hj
  cases Nat.lt_or_eq_of_le hij with
  | inl hlt => exact List.pairwise_iff_getElem.mp hrules.clock i j hil hjl hlt
  | inr heq => subst heq; exact le_rfl

/-- Once a later record than the deadline was read, no record from there on records the pass. -/
theorem PassRules.lt_of_deadline_lt {read record : LogRecord} {pass : PassId} {i n : ℕ}
    (hrules : PassRules config log.records)
    (hpresented : PresentedInWindow log.records ticket pass presentedAt)
    (hread : log.records[n]? = some read)
    (hlate : presentedAt + config.maxPassWindow + config.maxRecordingLag < read.recordedAt)
    (hi : log.records[i]? = some record) (hkey : record.consumes = some (ticket, pass)) :
    i < n := by
  by_contra hle
  have hdeadline := hrules.recordedAt_le hpresented (List.mem_of_getElem? hi) hkey
  have hmono := hrules.recordedAt_mono hread hi (Nat.le_of_not_lt hle)
  exact absurd (hmono.trans hdeadline) (not_le_of_gt hlate)

theorem window_of_accepted {l : Ledger} {record : LogRecord} {pass : AccessPass}
    (h : l.accept config registrationAccount record = some l')
    (hentry : record.entry = .pass pass) :
    pass.notAfter ≤ pass.notBefore + config.maxPassWindow ∧
      record.recordedAt ≤ pass.notAfter + config.maxRecordingLag := by
  unfold Ledger.accept at h
  rw [hentry] at h
  cases hevent : record.event with
  | none => simp [hevent] at h
  | some numbered =>
    cases hpresented : record.presentedAt with
    | none => simp [hevent, hpresented] at h
    | some presentedAt =>
      simp only [hevent, hpresented] at h
      unfold Ledger.acceptPass at h
      split at h
      · split at h
        · rename_i hrules
          obtain ⟨-, -, -, -, hwindow, hlag, -⟩ := hrules
          exact ⟨Nat.sub_le_iff_le_add'.mp hwindow, hlag⟩
        · cases h
      · cases h

theorem windows_of_accepted {records : List LogRecord} {l : Ledger} {pass : AccessPass}
    (h : l.run config registrationAccount records = some l') (hrecord : record ∈ records)
    (hentry : record.entry = .pass pass) :
    pass.notAfter ≤ pass.notBefore + config.maxPassWindow ∧
      record.recordedAt ≤ pass.notAfter + config.maxRecordingLag := by
  induction records generalizing l with
  | nil => cases hrecord
  | cons first rest ih =>
    obtain ⟨l₁, hfirst, hrest⟩ := Option.bind_eq_some_iff.mp h
    cases List.mem_cons.mp hrecord with
    | inl heq =>
      subst heq
      exact window_of_accepted hfirst hentry
    | inr hlater => exact ih hrest hlater

theorem passRules_of_accepted {records : List LogRecord} {l : Ledger}
    (h : l.run config registrationAccount records = some l')
    (hclock : records.Pairwise fun earlier later => earlier.recordedAt ≤ later.recordedAt) :
    PassRules config records where
  window _ hrecord _ hentry := (windows_of_accepted h hrecord hentry).1
  lag _ hrecord _ hentry := (windows_of_accepted h hrecord hentry).2
  clock := hclock

-- ---------------------------------------------------------------------------
-- A flag
-- ---------------------------------------------------------------------------

variable {reads : CopyReads} {report : StoredAdmissionReport}

theorem recordingDeadline_eq (h : recordingDeadline reads config report = some deadline) :
    deadline = report.presentedAt + config.maxPassWindow + config.maxRecordingLag ∧
      (∀ row, consumedPass (reads.report report.sequence) report.ticket report.passId = some row →
        (freshnessOf reads.current).records ≤ row.sequence) ∧
      ∃ time ∈ (freshnessOf reads.current).lastRecordedAt, deadline < time := by
  unfold recordingDeadline at h
  split at h
  · dsimp only at h
    split at h
    · rename_i hraised
      cases h
      obtain ⟨hrecorded, hlate⟩ := hraised
      obtain ⟨time, htime, hlt⟩ := (Option.any_eq_true _ _).mp hlate
      refine ⟨rfl, fun row hrow => ?_, time, htime, by simpa using hlt⟩
      simpa [hrow] using hrecorded
    · cases h
  · cases h

theorem causeOf_ne_notRecorded (h : recordingDeadline reads config report = none) :
    (causeOf reads config others report).1 ≠ .notRecorded := by
  unfold causeOf
  rw [h, if_neg (by simp)]
  split
  · simp
  · split
    · simp
    · split
      · dsimp only
        split <;> simp
      · split <;> simp

theorem flagOf_notRecorded {flag : AdmissionFlag} (h : flagOf reads config own report = some flag)
    (hcause : flag.cause = .notRecorded) :
    flag.ticket = report.ticket ∧ flag.passId = report.passId ∧
      flag.presentedAt = report.presentedAt ∧
      ∃ deadline, recordingDeadline reads config report = some deadline := by
  unfold flagOf at h
  split at h
  · cases h
  · cases h
    refine ⟨rfl, rfl, rfl, ?_⟩
    cases hdeadline : recordingDeadline reads config report with
    | some deadline => exact ⟨deadline, rfl⟩
    | none => exact absurd hcause (causeOf_ne_notRecorded hdeadline)

/-- Whatever the copy's position, and however far it was read on before a report's pass was looked
up: a report flagged not recorded is of a pass that no record of the log records, before that
position or ever after it, and one whose pass the copy holds at that position is not flagged so. -/
theorem not_recorded_is_final (config : RulesConfig) (log : LogReader) (s : Services)
    (hrules : PassRules config log.records) (reads : CopyReads) (hreads : reads.Of log s)
    (reports : List StoredAdmissionReport) (organiserId : OrganiserId) (flag : AdmissionFlag)
    (hflag : flag ∈ (matchAdmissionFlags reads config reports organiserId).flags) :
    (flag.cause = .notRecorded →
      PresentedInWindow log.records flag.ticket flag.passId flag.presentedAt →
        ∀ record ∈ log.records, record.consumes ≠ some (flag.ticket, flag.passId)) ∧
      ((consumedPass reads.current flag.ticket flag.passId).isSome → flag.cause ≠ .notRecorded) := by
  obtain ⟨report, -, hof⟩ := List.mem_filterMap.mp hflag
  -- A record the copy had read at its position is there when the pass is looked up.
  have hlooked : flag.cause = .notRecorded → ∀ n record, n < reads.current.nextSequence →
      log.records[n]? = some record → record.consumes ≠ some (flag.ticket, flag.passId) := by
    intro hcause n record hn hrecord hkey
    obtain ⟨hticket, hpass, -, deadline, hdeadline⟩ := flagOf_notRecorded hof hcause
    rw [hticket, hpass] at hkey
    obtain ⟨row, hrow, hsequence⟩ := consumedPass_of_read (hreads.report report.sequence)
      (hn.trans_le (hreads.later report.sequence)) hrecord hkey
    have hle := (recordingDeadline_eq hdeadline).2.1 row hrow
    rw [hsequence] at hle
    exact absurd hn (not_lt_of_ge hle)
  constructor
  · intro hcause hpresented record hrecord hkey
    obtain ⟨hticket, hpass, hpresentedAt, deadline, hdeadline⟩ := flagOf_notRecorded hof hcause
    obtain ⟨rfl, -, time, htime, hlate⟩ := recordingDeadline_eq hdeadline
    obtain ⟨n, last, hn, hlast, rfl⟩ := lastRecordedAt_eq hreads.current htime
    obtain ⟨i, hi⟩ := List.mem_iff_getElem?.mp hrecord
    rw [← hpresentedAt] at hlate
    have hin := hrules.lt_of_deadline_lt hpresented hlast hlate hi hkey
    exact hlooked hcause i record (by omega) hi hkey
  · intro hheld hcause
    obtain ⟨row, hrow⟩ := Option.isSome_iff_exists.mp hheld
    obtain ⟨record, hrecord, hkey⟩ := hreads.current.consumed.recorded _ row hrow
    obtain ⟨hn, hrecord⟩ := mem_take_iff.mp hrecord
    exact hlooked hcause _ record hn hrecord hkey

def lateEvent : LogReader where
  records := [⟨1, 500, some (1, 0), none, .command 1 7 (.createEvent 1 2 none [] none)⟩]
  continuation cursor :=
    if cursor = LOG_START then
      [⟨1, 500, some (1, 0), none, .command 1 7 (.createEvent 1 2 none [] none)⟩]
    else []
  start := rfl
  after n record h := by
    match n with
    | 0 => cases h; rfl
    | _ + 1 => simp at h

def lateServices : Services where
  getEvent _ _ := .ok ⟨7, .active, none, 0, []⟩
  registrationAccount _ := .error "ERR-InvalidRegistration"

def lateRead : ReaderDb Copy where
  cursor := 1
  nextSequence := 1
  log := Conc.Table.empty.set 0
    ⟨1, 500, some 1, some 0, "createEvent", some 1, none⟩
  copy := ((Copy.empty.project lateServices 0 lateEvent.records).toOption).getD .empty

theorem reads_late : ReadTo lateEvent [ledgerFacts lateServices] .empty lateRead where
  copied := {
    le := le_rfl
    ids := rfl
    rows := by
      intro i hi
      match i with
      | 0 => rfl
      | _ + 1 => exact absurd hi (by simp [lateRead])
    fold := rfl }
  cursor := rfl

def failedReport : StoredAdmissionReport where
  sequence := 1
  reportId := "report"
  organiserId := 1
  operator := 2
  gate := "north"
  ticket := 5
  passId := 6
  holder := some 9
  verdict := .admitted .failed
  presentedAt := 100
  deviceClock := 100
  receivedAt := 100

theorem not_recorded_is_final_late_event :
    lateEvent.records.all (fun record => record.consumes ≠ some (5, 6)) = true := by
  have hrun : Ledger.empty.run ⟨60, 100⟩ lateServices.registrationAccount lateEvent.records =
      some (Ledger.empty.setEvent 1 ⟨7, .active, none, 0, []⟩) := rfl
  have hrules : PassRules ⟨60, 100⟩ lateEvent.records :=
    passRules_of_accepted hrun (List.pairwise_singleton _ _)
  have hpresented : PresentedInWindow lateEvent.records 5 6 100 := by
    intro record hrecord pass hentry
    obtain rfl := List.mem_singleton.mp hrecord
    cases hentry
  have hmatched : (matchAdmissionFlags ⟨lateRead, fun _ => lateRead⟩ ⟨60, 100⟩ [failedReport]
      1).flags.map (fun flag => (flag.cause, flag.ticket, flag.passId, flag.presentedAt)) =
        [(.notRecorded, 5, 6, 100)] := by decide
  obtain ⟨flag, hflag, hfields⟩ := List.mem_map.mp (hmatched ▸ List.mem_singleton_self _)
  have hfinal := not_recorded_is_final ⟨60, 100⟩ lateEvent lateServices hrules
    ⟨lateRead, fun _ => lateRead⟩ ⟨reads_late, fun _ => reads_late, fun _ => le_rfl⟩
    [failedReport] 1 flag hflag
  obtain ⟨hcause, hticket, hpass, hpresentedAt⟩ : flag.cause = .notRecorded ∧ flag.ticket = 5 ∧
      flag.passId = 6 ∧ flag.presentedAt = 100 := by
    simpa using hfields
  rw [hticket, hpass, hpresentedAt] at hfinal
  simpa using hfinal.1 hcause hpresented

end Kippu.Derived
