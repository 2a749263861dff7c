import Kippu.Derived.AdmissionFlags
import Mathlib.Logic.Function.Basic

/-!
# Recording and paging admission reports

An operator's report is authorised by the operator's session and grants, and then
stored by one `INSERT`, which takes its number when it starts and becomes visible when
it commits. Whoever reads reports pages by the number. Beside them, grants are made and
revoked, and sessions opened and revoked.
-/

namespace Kippu.Reports

open Derived

/-- A call: each runs once. -/
abbrev Call := ℕ
abbrev SessionId := ℕ

def REVOKED_OPERATOR_REPORTING_MS : Time := 24 * 60 * 60 * 1000

def DEFAULT_REPORT_PAGE : ℕ := 500

-- ---------------------------------------------------------------------------
-- Rows
-- ---------------------------------------------------------------------------

structure AdmissionReportInput where
  reportId : String
  event : EventId
  gate : String
  ticket : TicketId
  passId : PassId
  holder : Option AccountId
  verdict : AdmissionVerdict
  presentedAt : Time
  deviceClock : Time

structure AdmissionReport extends AdmissionReportInput where
  operator : OperatorId
  receivedAt : Time

/-- A row of `admission_reports`, but for its number. -/
structure ReportRow extends AdmissionReport where
  organiserId : OrganiserId
  sessionId : SessionId
  requestId : String

/-- `publicReport`: none of the store's bookkeeping. -/
abbrev ReportRow.publicReport (row : ReportRow) : AdmissionReport := row.toAdmissionReport

/-- A row of `operator_grants`, but for its window: ended grants count. -/
structure GrantRow where
  operatorId : OperatorId
  organiserId : OrganiserId
  event : EventId
  gates : List String
  revokedAt : Option Time

/-- An operator's row of `sessions`. -/
structure SessionRow where
  operatorId : OperatorId
  organiserId : OrganiserId
  expiresAt : Time
  revokedAt : Option Time

structure OperatorPrincipal where
  operatorId : OperatorId
  organiserId : OrganiserId
  sessionId : SessionId

inductive Refusal
  | sessionRevoked
  | notGranted
  | grantRevoked
  | reportExists
  deriving DecidableEq

def Refusal.message : Refusal → String
  | .sessionRevoked => "the session was revoked before the pass was presented"
  | .notGranted => "the operator was never granted this gate of the event"
  | .grantRevoked => "the grant for this gate was revoked before the pass was presented"
  | .reportExists => "another report already has this report id"

def Refusal.code : Refusal → String
  | .sessionRevoked => "UNAUTHORIZED"
  | .notGranted | .grantRevoked => "FORBIDDEN"
  | .reportExists => "CONFLICT"

def Refusal.reason : Refusal → Option String
  | .sessionRevoked => none
  | .notGranted => some "not-granted"
  | .grantRevoked => some "grant-revoked"
  | .reportExists => some "report-exists"

inductive Task
  | idle
  /-- The router admitted its session, which may be revoked since some time. -/
  | entered (operator : OperatorPrincipal) (sessionRevokedAt : Option Time) (requestId : String)
      (input : AdmissionReportInput)
  | authorised (operator : OperatorPrincipal) (requestId : String) (input : AdmissionReportInput)
  /-- Its `INSERT` runs. `passed`: a page read since then went beyond its number. -/
  | inserting (n : ℕ) (row : ReportRow) (passed : Bool)
  | answered (answer : Except Refusal AdmissionReport)

/-- Who pages: the filters, where it began, where it reads from next and what it was given. -/
structure Walk where
  event : Option EventId
  passId : Option PassId
  start : ℕ
  after : ℕ
  returned : List (ℕ × ReportRow)

structure State where
  /-- In the order they were made. -/
  grants : List GrantRow
  sessions : SessionId → Option SessionRow
  /-- The reports committed, by number, all below the next one. -/
  reports : ℕ → Option ReportRow
  next : ℕ
  task : Call → Task
  walk : Walk
  clock : Time

-- ---------------------------------------------------------------------------
-- The router
-- ---------------------------------------------------------------------------

/-- `authenticate`, and for a session revoked within the last day `authenticateRevokedOperator`. -/
def State.authenticated (s : State) (i : SessionId) : Option (OperatorPrincipal × Option Time) :=
  match s.sessions i with
  | none => none
  | some row =>
    match row.revokedAt with
    | none =>
      if s.clock < row.expiresAt then some (⟨row.operatorId, row.organiserId, i⟩, none) else none
    | some revokedAt =>
      if s.clock < revokedAt + REVOKED_OPERATOR_REPORTING_MS then
        some (⟨row.operatorId, row.organiserId, i⟩, some revokedAt)
      else none

-- ---------------------------------------------------------------------------
-- `record`
-- ---------------------------------------------------------------------------

def GrantRow.isOf (operator : OperatorPrincipal) (input : AdmissionReportInput)
    (grant : GrantRow) : Bool :=
  grant.operatorId = operator.operatorId && grant.organiserId = operator.organiserId &&
    grant.event = input.event && grant.gates.contains input.gate

/-- Not revoked, or only after the pass was presented. -/
def GrantRow.covers (input : AdmissionReportInput) (grant : GrantRow) : Bool :=
  grant.revokedAt.all (input.presentedAt < ·)

def State.authorise (s : State) (operator : OperatorPrincipal) (input : AdmissionReportInput)
    (sessionRevokedAt : Option Time) : Except Refusal Unit :=
  if sessionRevokedAt.any (¬ input.presentedAt < ·) then .error .sessionRevoked
  else
    let grants := s.grants.filter (·.isOf operator input)
    if grants = [] then .error .notGranted
    else if ¬ grants.any (·.covers input) then .error .grantRevoked
    else .ok ()

def State.reportOf (s : State) (reportId : String) : Option ReportRow :=
  (List.range s.next).findSome? fun n => (s.reports n).filter (·.reportId = reportId)

/-- What the `INSERT` of an authorised report comes to: a new row, which has yet to be committed,
or nothing, where the report id is taken; then the row that has it is read. -/
inductive Stored
  | inserting (row : ReportRow)
  | found (report : AdmissionReport)

def State.store (s : State) (operator : OperatorPrincipal) (requestId : String)
    (input : AdmissionReportInput) (now : Time) : Except Refusal Stored :=
  match s.reportOf input.reportId with
  | none =>
    .ok (.inserting
      ⟨⟨input, operator.operatorId, now⟩, operator.organiserId, operator.sessionId, requestId⟩)
  | some row =>
    if row.operator = operator.operatorId then .ok (.found row.publicReport)
    else .error .reportExists

/-- `record`, whose statements may see different states. -/
def record (authorising storing : State) (operator : OperatorPrincipal) (requestId : String)
    (input : AdmissionReportInput) (sessionRevokedAt : Option Time) (now : Time) :
    Except Refusal Stored := do
  authorising.authorise operator input sessionRevokedAt
  storing.store operator requestId input now

/-- A call of `reportAdmission`, if the router admits its session. -/
def reportAdmission (entering authorising storing : State) (i : SessionId) (requestId : String)
    (input : AdmissionReportInput) (now : Time) : Option (Except Refusal Stored) :=
  (entering.authenticated i).map fun (operator, sessionRevokedAt) =>
    record authorising storing operator requestId input sessionRevokedAt now

-- ---------------------------------------------------------------------------
-- `list`
-- ---------------------------------------------------------------------------

structure AdmissionReportQuery where
  event : Option EventId
  passId : Option PassId
  after : ℕ
  limit : ℕ

def AdmissionReportQuery.selects (q : AdmissionReportQuery) (row : ReportRow) : Bool :=
  q.event.all (· = row.event) && q.passId.all (· = row.passId)

/-- The committed reports a query selects, whatever its limit, in order. -/
def State.beyond (s : State) (q : AdmissionReportQuery) : List (ℕ × ReportRow) :=
  (List.range s.next).filterMap fun n =>
    ((s.reports n).filter fun row => q.after < n && q.selects row).map (n, ·)

structure AdmissionReportPage where
  reports : List (ℕ × ReportRow)
  next : ℕ

def State.list (s : State) (q : AdmissionReportQuery) : AdmissionReportPage :=
  let reports := (s.beyond q).take q.limit
  ⟨reports, (reports.getLast?.map Prod.fst).getD q.after⟩

def Walk.query (w : Walk) (limit : ℕ) : AdmissionReportQuery := ⟨w.event, w.passId, w.after, limit⟩

def Walk.read (w : Walk) (page : AdmissionReportPage) : Walk :=
  { w with after := page.next, returned := w.returned ++ page.reports }

/-- Whether a number, above where the walk began, is below that of one of the first reports, up to
the page's limit, that the walk has yet to read. -/
def State.passes (s : State) (limit n : ℕ) : Bool :=
  s.walk.start < n && ((s.beyond (s.walk.query limit)).take limit).any (n < ·.1)

def State.passTask (s : State) (limit : ℕ) : Task → Task
  | .inserting n row passed => .inserting n row (passed || s.passes limit n)
  | task => task

-- ---------------------------------------------------------------------------
-- Steps
-- ---------------------------------------------------------------------------

def State.goto (s : State) (c : Call) (t : Task) : State :=
  { s with task := Function.update s.task c t }

def State.draw (s : State) : State := { s with next := s.next + 1 }

def State.commit (s : State) (n : ℕ) (row : ReportRow) : State :=
  { s with reports := Function.update s.reports n (some row) }

/-- No running `INSERT` has the report id: one that has would be waited for. -/
def State.Free (s : State) (reportId : String) : Prop :=
  ∀ c n row passed, s.task c = .inserting n row passed → row.reportId ≠ reportId

def GrantRow.revoke (at_ : Time) (grant : GrantRow) : GrantRow :=
  if grant.revokedAt = none then { grant with revokedAt := some at_ } else grant

def SessionRow.revoke (at_ : Time) (row : SessionRow) : SessionRow :=
  if row.revokedAt = none then { row with revokedAt := some at_ } else row

def State.revokeSessions (s : State) (picked : SessionId → Bool) (at_ : Time) : State :=
  { s with sessions := fun i =>
      (s.sessions i).map fun row => if picked i then row.revoke at_ else row }

def State.readPage (s : State) (limit : ℕ) : State :=
  { s with
    walk := s.walk.read (s.list (s.walk.query limit))
    task := fun c => s.passTask limit (s.task c) }

/-- One step, where an `INSERT` that a page has passed commits only if `overtaken` says so. -/
inductive Step (overtaken : Prop) (s : State) : State → Prop
  | ticks (t : Time) : s.clock ≤ t → Step overtaken s { s with clock := t }
  | grants (grant : GrantRow) : grant.revokedAt = none →
      Step overtaken s { s with grants := s.grants ++ [grant] }
  | revokesGrant (g : ℕ) (at_ : Time) : at_ ≤ s.clock →
      Step overtaken s { s with grants := s.grants.modify g (·.revoke at_) }
  | opensSession (i : SessionId) (row : SessionRow) : s.sessions i = none → row.revokedAt = none →
      Step overtaken s { s with sessions := Function.update s.sessions i (some row) }
  /-- `revokeSessions`, or `signOut`. -/
  | revokesSessions (picked : SessionId → Bool) (at_ : Time) : at_ ≤ s.clock →
      Step overtaken s (s.revokeSessions picked at_)
  -- `record`
  | enters (c : Call) (i : SessionId) (requestId : String) (input : AdmissionReportInput) :
      s.task c = .idle → s.authenticated i = some (operator, sessionRevokedAt) →
      Step overtaken s (s.goto c (.entered operator sessionRevokedAt requestId input))
  | authorises (c : Call) : s.task c = .entered operator sessionRevokedAt requestId input →
      s.authorise operator input sessionRevokedAt = .ok () →
      Step overtaken s (s.goto c (.authorised operator requestId input))
  | refuses (c : Call) : s.task c = .entered operator sessionRevokedAt requestId input →
      s.authorise operator input sessionRevokedAt = .error e →
      Step overtaken s (s.goto c (.answered (.error e)))
  | inserts (c : Call) (at_ : Time) : s.task c = .authorised operator requestId input →
      s.Free input.reportId → at_ ≤ s.clock →
      s.store operator requestId input at_ = .ok (.inserting row) →
      Step overtaken s (s.draw.goto c (.inserting s.next row false))
  | finds (c : Call) (at_ : Time) : s.task c = .authorised operator requestId input →
      s.Free input.reportId → s.store operator requestId input at_ = .ok (.found report) →
      Step overtaken s (s.draw.goto c (.answered (.ok report)))
  | conflicts (c : Call) (at_ : Time) : s.task c = .authorised operator requestId input →
      s.Free input.reportId → s.store operator requestId input at_ = .error e →
      Step overtaken s (s.draw.goto c (.answered (.error e)))
  | commits (c : Call) : s.task c = .inserting n row passed → (passed = true → overtaken) →
      Step overtaken s ((s.commit n row).goto c (.answered (.ok row.publicReport)))
  /-- A statement fails, or the process stops. -/
  | fails (c : Call) : Step overtaken s (s.goto c .idle)
  /-- A page is read. -/
  | reads (limit : ℕ) : Step overtaken s (s.readPage limit)

inductive Steps (overtaken : Prop) (s : State) : State → Prop
  | refl : Steps overtaken s s
  | step : Steps overtaken s s' → Step overtaken s' s'' → Steps overtaken s s''

def Steps.last (_ : Steps overtaken s s') : State := s'

structure State.Initial (s : State) : Prop where
  reports : ∀ n, s.reports n = none
  task : ∀ c, s.task c = .idle
  after : s.walk.after = s.walk.start
  returned : s.walk.returned = []

end Kippu.Reports
