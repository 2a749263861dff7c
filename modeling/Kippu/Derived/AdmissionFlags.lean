import Kippu.Derived.ExactlyOnce
import Kippu.Derived.Frames

/-!
# Admission flags

Each report of an admission is matched with the ledger's outcome for its pass, as
the gate and the copy have it, and one that was refused, or never recorded, is
flagged with its cause. The copy's position is read first; what the queries read
afterwards may be of a later one.
-/

namespace Kippu.Derived

open Conc

abbrev OperatorId := ℕ

def GATE_CLOCK_TOLERANCE_MS : ℕ := 10000

-- ---------------------------------------------------------------------------
-- Reports and flags
-- ---------------------------------------------------------------------------

inductive AdmissionSubmission
  | settled (cursor : Cursor)
  | rejected (errorCode : String)
  | failed

inductive AdmissionVerdict
  | admitted (submission : AdmissionSubmission)
  | refused (reason : String)

def AdmissionVerdict.isAdmitted : AdmissionVerdict → Bool
  | .admitted _ => true
  | .refused _ => false

/-- A report as stored. `sequence` tells reports apart. -/
structure StoredAdmissionReport where
  sequence : ℕ
  reportId : String
  organiserId : OrganiserId
  operator : OperatorId
  gate : String
  ticket : TicketId
  passId : PassId
  holder : Option AccountId
  verdict : AdmissionVerdict
  presentedAt : Time
  deviceClock : Time
  receivedAt : Time

inductive RelatedOutcome
  | settled
  | rejected
  | failed
  | refusedAtGate

def outcomeOf (report : StoredAdmissionReport) : RelatedOutcome :=
  match report.verdict with
  | .refused _ => .refusedAtGate
  | .admitted (.settled _) => .settled
  | .admitted (.rejected _) => .rejected
  | .admitted .failed => .failed

structure RelatedReport where
  reportId : String
  gate : String
  operator : OperatorId
  outcome : RelatedOutcome
  receivedAt : Time

structure FlagTransfer where
  fromHolder : AccountId
  toHolder : AccountId
  recordedAt : Time
  sequence : ℕ

inductive AdmissionFlagCause
  | samePassAtTwoGates
  | transferBeforeRecording
  | gateClockOutsideTolerance
  | notRecorded
  | unexplained
  deriving DecidableEq

structure AdmissionFlag where
  reportId : String
  gate : String
  operator : OperatorId
  ticket : TicketId
  passId : PassId
  refusal : Option String
  cause : AdmissionFlagCause
  presentedAt : Time
  deviceClock : Time
  receivedAt : Time
  clockDrift : ℤ
  recordingDeadline : Option Time
  otherReports : List RelatedReport
  transfers : List FlagTransfer

-- ---------------------------------------------------------------------------
-- What the copy answers
-- ---------------------------------------------------------------------------

structure CopyFreshness where
  cursor : Cursor
  records : ℕ
  lastRecordedAt : Option Time

/-- The copy's head: `derived_log` is joined at `next_sequence - 1`. -/
def freshnessOf (db : ReaderDb Copy) : CopyFreshness where
  cursor := db.cursor
  records := db.nextSequence
  lastRecordedAt :=
    match db.nextSequence with
    | 0 => none
    | n + 1 => (db.log.get n).map LogRow.recordedAt

def consumedPass (db : ReaderDb Copy) (ticket : TicketId) (pass : PassId) : Option PassRow :=
  db.copy.passes (ticket, pass)

def transfersFrom (db : ReaderDb Copy) (ticket : TicketId) (since : ℤ) : List FlagTransfer :=
  (List.range db.nextSequence).filterMap fun n =>
    (db.copy.transfers n).bind fun row =>
      if row.ticketId = ticket ∧ since ≤ row.recordedAt then
        some ⟨row.fromHolder, row.toHolder, row.recordedAt, n⟩
      else none

/-- The committed store when the copy's position is read, and when each report's query is. -/
structure CopyReads where
  current : ReaderDb Copy
  report : ℕ → ReaderDb Copy

-- ---------------------------------------------------------------------------
-- Matching
-- ---------------------------------------------------------------------------

variable (reads : CopyReads) (limits : RulesConfig)

def clockDrift (report : StoredAdmissionReport) : ℤ := report.deviceClock - report.receivedAt

def clockOutside (report : StoredAdmissionReport) : Bool :=
  GATE_CLOCK_TOLERANCE_MS < (clockDrift report).natAbs

def errorCode (report : StoredAdmissionReport) : Option String :=
  match report.verdict with
  | .admitted (.rejected errorCode) => some errorCode
  | _ => none

/-- The ledger time after which a failed submission's pass can no longer be recorded, once the
copy has passed it and holds no record of the pass. A report does not carry its pass's
`notAfter`, only a time in the pass's window. -/
def recordingDeadline (report : StoredAdmissionReport) : Option Time :=
  match report.verdict with
  | .admitted .failed =>
    let freshness := freshnessOf reads.current
    let consumed := consumedPass (reads.report report.sequence) report.ticket report.passId
    let recorded := consumed.any (·.sequence < freshness.records)
    let deadline := report.presentedAt + limits.maxPassWindow + limits.maxRecordingLag
    if ¬recorded ∧ freshness.lastRecordedAt.any (deadline < ·) then some deadline else none
  | _ => none

/-- The transfers away from a pass's holder, recorded no earlier than it was presented less the
tolerance. -/
def transfersAway (report : StoredAdmissionReport) (holder : AccountId) : List FlagTransfer :=
  (transfersFrom (reads.report report.sequence) report.ticket
    ((report.presentedAt : ℤ) - GATE_CLOCK_TOLERANCE_MS)).filter fun transfer =>
      transfer.sequence < (freshnessOf reads.current).records ∧ transfer.fromHolder = holder

/-- The cause a flagged report is flagged with, and the transfers that explain it. -/
def causeOf (others : List StoredAdmissionReport) (report : StoredAdmissionReport) :
    AdmissionFlagCause × List FlagTransfer :=
  if (recordingDeadline reads limits report).isSome then (.notRecorded, [])
  else match errorCode report with
    | none => (.gateClockOutsideTolerance, [])
    | some code =>
      if code = "ERR-PassReplayed" ∧ others.any (·.verdict.isAdmitted) then
        (.samePassAtTwoGates, [])
      else match code, report.holder with
        | "ERR-InvalidPass", some holder =>
          let transfers := transfersAway reads report holder
          (if transfers = [] then .unexplained else .transferBeforeRecording, transfers)
        | _, _ =>
          if code = "ERR-PassExpired" ∧ clockOutside report then (.gateClockOutsideTolerance, [])
          else (.unexplained, [])

def flagOf (own : List StoredAdmissionReport) (report : StoredAdmissionReport) :
    Option AdmissionFlag :=
  if errorCode report = none ∧ ¬clockOutside report ∧ recordingDeadline reads limits report = none
  then none
  else
    let others := own.filter fun other =>
      other.passId = report.passId ∧ other.sequence ≠ report.sequence
    let (cause, transfers) := causeOf reads limits others report
    some {
      reportId := report.reportId
      gate := report.gate
      operator := report.operator
      ticket := report.ticket
      passId := report.passId
      refusal := errorCode report
      cause := cause
      presentedAt := report.presentedAt
      deviceClock := report.deviceClock
      receivedAt := report.receivedAt
      clockDrift := clockDrift report
      recordingDeadline := recordingDeadline reads limits report
      otherReports := others.map fun other =>
        ⟨other.reportId, other.gate, other.operator, outcomeOf other, other.receivedAt⟩
      transfers := transfers }

structure MatchedFlags where
  flags : List AdmissionFlag
  freshness : CopyFreshness

/-- An organiser's flags for an event, from every report for it in the order received. -/
def matchAdmissionFlags (reports : List StoredAdmissionReport) (organiserId : OrganiserId) :
    MatchedFlags :=
  let own := reports.filter (·.organiserId = organiserId)
  ⟨own.filterMap (flagOf reads limits own), freshnessOf reads.current⟩

-- ---------------------------------------------------------------------------
-- The log
-- ---------------------------------------------------------------------------

structure PassRules (config : RulesConfig) (records : List LogRecord) : Prop where
  window : ∀ record ∈ records, ∀ pass, record.entry = .pass pass →
    pass.notAfter ≤ pass.notBefore + config.maxPassWindow
  lag : ∀ record ∈ records, ∀ pass, record.entry = .pass pass →
    record.recordedAt ≤ pass.notAfter + config.maxRecordingLag
  clock : records.Pairwise fun earlier later => earlier.recordedAt ≤ later.recordedAt

/-- A pass was presented no earlier than its window began, as far as the log has it. -/
def PresentedInWindow (records : List LogRecord) (ticket : TicketId) (pass : PassId)
    (presentedAt : Time) : Prop :=
  ∀ record ∈ records, ∀ recorded, record.entry = .pass recorded → recorded.ticket = ticket →
    recorded.id = pass → recorded.notBefore ≤ presentedAt

structure CopyReads.Of (reads : CopyReads) (log : LogReader) (s : Services) : Prop where
  current : ReadTo log [ledgerFacts s] .empty reads.current
  report : ∀ n, ReadTo log [ledgerFacts s] .empty (reads.report n)
  later : ∀ n, reads.current.nextSequence ≤ (reads.report n).nextSequence

end Kippu.Derived
