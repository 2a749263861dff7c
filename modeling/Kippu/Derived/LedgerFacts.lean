import Kippu.Derived.Projection

/-!
# Ledger facts

The derived copy's tables of ledger facts, the projection that keeps them from
the log, and what the queries read back from a row. A row carries its table's
`CHECK` constraints; key and reference constraints fail the statement that
breaks them, and so does a text that PostgreSQL cannot store. The record's own
row in `derived_log` is there before the projection runs, so references to it
always hold.
-/

namespace Kippu.Derived

-- ---------------------------------------------------------------------------
-- Tables
-- ---------------------------------------------------------------------------

structure EventRow where
  owner : AccountId
  status : EventStatus
  maxCapacity : Option ℕ
  issued : ℕ
  zones : List Zone
  metadataLocator : Option Locator
  sequence : ℕ

inductive PolicyKind
  | single
  | multiple
  | unlimited
  deriving DecidableEq

structure TicketRow where
  eventId : EventId
  holder : AccountId
  classId : ClassId
  provenance : Provenance
  zoneId : ZoneId
  placementKind : ZoneKind
  position : Option String
  discriminator : Option ℕ
  policyKind : PolicyKind
  policyMax : Option ℕ
  policyUntil : Option Time
  cannotResale : Bool
  cannotTransfer : Bool
  attendances : ℕ
  sequence : ℕ
  position_check : placementKind = .seated ↔ position.isSome
  discriminator_check : placementKind = .unseated ↔ discriminator.isSome
  policyMax_check : policyKind = .multiple ↔ policyMax.isSome
  policyUntil_check : policyKind ≠ .single ∨ policyUntil = none

structure AttendanceRow where
  eventId : EventId
  count : ℕ
  lastRecordedAt : Time
  sequence : ℕ
  count_check : 0 < count

structure TransferRow where
  eventId : EventId
  ticketId : TicketId
  fromHolder : AccountId
  toHolder : AccountId
  recordedAt : Time

structure CredentialRow where
  registration : Registration
  sequence : ℕ

structure PassRow where
  eventId : EventId
  holder : AccountId
  notBefore : Time
  notAfter : Time
  presentedAt : Time
  recordedAt : Time
  sequence : ℕ

/-- The tables of ledger facts, each by its primary key. -/
structure Copy where
  events : EventId → Option EventRow
  tickets : TicketId → Option TicketRow
  attendance : TicketId → Option AttendanceRow
  transfers : ℕ → Option TransferRow
  credentials : AccountId × CredentialId → Option CredentialRow
  passes : TicketId × PassId → Option PassRow

def Copy.empty : Copy :=
  ⟨fun _ => none, fun _ => none, fun _ => none, fun _ => none, fun _ => none, fun _ => none⟩

-- ---------------------------------------------------------------------------
-- What the queries read
-- ---------------------------------------------------------------------------

def EventRow.event (row : EventRow) : Event :=
  ⟨row.owner, row.status, row.maxCapacity, row.issued, row.zones⟩

def TicketRow.placement (row : TicketRow) : Placement :=
  match h : row.placementKind with
  | .seated => .seated (row.position.get (row.position_check.mp h))
  | .unseated => .unseated (row.discriminator.get (row.discriminator_check.mp h))

def TicketRow.policy (row : TicketRow) : AttendancePolicy :=
  match h : row.policyKind with
  | .single => .single
  | .multiple => .multiple (row.policyMax.get (row.policyMax_check.mp h)) row.policyUntil
  | .unlimited => .unlimited row.policyUntil

def TicketRow.ticket (row : TicketRow) : Ticket where
  event := row.eventId
  holder := row.holder
  classId := row.classId
  provenance := row.provenance
  zone := row.zoneId
  placement := row.placement
  policy := row.policy
  restrictions := ⟨row.cannotResale, row.cannotTransfer⟩
  attendances := row.attendances

-- ---------------------------------------------------------------------------
-- Statements
-- ---------------------------------------------------------------------------

/-- A record no projection applies, a point query the ledger did not answer, and a statement that
PostgreSQL refuses. -/
inductive ProjectionError
  | unprojectable (cursor : Cursor) (reason : String)
  | ledgerQuery (code : String) (what : String)
  | refused

abbrev Applied := Except ProjectionError

/-- What a statement answers: how many rows it changed, and the tables after it. -/
abbrev Statement := Copy → Applied (ℕ × Copy)

def exactlyOne (record : LogRecord) (statement : Statement) (c : Copy) : Applied Copy := do
  let (rowCount, c') ← statement c
  if rowCount = 1 then
    return c'
  throw (.unprojectable record.cursor s!"expected to change one row, changed {rowCount}")

def updateEvent (i : EventId) (f : EventRow → EventRow) : Statement := fun c =>
  match c.events i with
  | some row => .ok (1, { c with events := Function.update c.events i (some (f row)) })
  | none => .ok (0, c)

def storable (text : String) : Bool := text.toList.all (· ≠ '\x00')

def insertEvent (i : EventId) (row : EventRow) : Statement := fun c =>
  if row.metadataLocator.all storable then
    match c.events i with
    | some _ => .error .refused
    | none => .ok (1, { c with events := Function.update c.events i (some row) })
  else .error .refused

def updateTicket (event : EventId) (i : TicketId) (f : TicketRow → TicketRow) : Statement := fun c =>
  match c.tickets i with
  | some row =>
    if row.eventId = event then
      .ok (1, { c with tickets := Function.update c.tickets i (some (f row)) })
    else .ok (0, c)
  | none => .ok (0, c)

def insertTicket (i : TicketId) (row : TicketRow) : Statement := fun c =>
  match c.tickets i, c.events row.eventId with
  | none, some _ => .ok (1, { c with tickets := Function.update c.tickets i (some row) })
  | _, _ => .error .refused

def insertTransfer (sequence : ℕ) (row : TransferRow) : Statement := fun c =>
  match c.transfers sequence, c.events row.eventId, c.tickets row.ticketId with
  | none, some _, some _ =>
    .ok (1, { c with transfers := Function.update c.transfers sequence (some row) })
  | _, _, _ => .error .refused

/-- `ON CONFLICT (account, credential) DO NOTHING`. -/
def insertCredential (key : AccountId × CredentialId) (row : CredentialRow) : Statement := fun c =>
  match c.credentials key with
  | some _ => .ok (0, c)
  | none => .ok (1, { c with credentials := Function.update c.credentials key (some row) })

/-- `ON CONFLICT (ticket_id) DO UPDATE` counts one more. -/
def upsertAttendance (i : TicketId) (event : EventId) (recordedAt : Time) (sequence : ℕ) :
    Statement := fun c =>
  match c.attendance i, c.events event, c.tickets i with
  | some row, _, _ =>
    .ok (1, { c with
      attendance := Function.update c.attendance i
        (some ⟨row.eventId, row.count + 1, recordedAt, sequence, Nat.succ_pos _⟩) })
  | none, some _, some _ =>
    .ok (1, { c with
      attendance := Function.update c.attendance i
        (some ⟨event, 1, recordedAt, sequence, Nat.one_pos⟩) })
  | _, _, _ => .error .refused

def insertPass (key : TicketId × PassId) (row : PassRow) : Statement := fun c =>
  match c.passes key, c.events row.eventId, c.tickets key.1 with
  | none, some _, some _ => .ok (1, { c with passes := Function.update c.passes key (some row) })
  | _, _, _ => .error .refused

-- ---------------------------------------------------------------------------
-- The projection
-- ---------------------------------------------------------------------------

/-- What the projection asks outside the log: the ledger's point query, as it answers while the
record with a sequence is applied, and the profile's reading of a registration. -/
structure Services where
  getEvent : ℕ → EventId → Except String Event
  registrationAccount : RegistrationAccount

def placementKind : Placement → ZoneKind
  | .seated _ => .seated
  | .unseated _ => .unseated

def position : Placement → Option String
  | .seated position => some position
  | .unseated _ => none

def discriminator : Placement → Option ℕ
  | .seated _ => none
  | .unseated discriminator => some discriminator

def policyKind : AttendancePolicy → PolicyKind
  | .single => .single
  | .multiple .. => .multiple
  | .unlimited _ => .unlimited

def policyMax : AttendancePolicy → Option ℕ
  | .multiple max _ => some max
  | _ => none

def policyUntil : AttendancePolicy → Option Time
  | .single => none
  | .multiple _ validUntil => validUntil
  | .unlimited validUntil => validUntil

def IssueTicket.row (input : IssueTicket) (sequence : ℕ) : TicketRow where
  eventId := input.event
  holder := input.holder
  classId := input.classId
  provenance := input.provenance
  zoneId := input.zone
  placementKind := Derived.placementKind input.placement
  position := Derived.position input.placement
  discriminator := Derived.discriminator input.placement
  policyKind := Derived.policyKind input.policy
  policyMax := Derived.policyMax input.policy
  policyUntil := Derived.policyUntil input.policy
  cannotResale := input.restrictions.cannotResale || input.restrictions.cannotTransfer
  cannotTransfer := input.restrictions.cannotTransfer
  attendances := 0
  sequence := sequence
  position_check := by cases input.placement <;> simp [Derived.placementKind, Derived.position]
  discriminator_check := by
    cases input.placement <;> simp [Derived.placementKind, Derived.discriminator]
  policyMax_check := by cases input.policy <;> simp [Derived.policyKind, Derived.policyMax]
  policyUntil_check := by cases input.policy <;> simp [Derived.policyKind, Derived.policyUntil]

def applyRegistration (s : Services) (sequence : ℕ) (record : LogRecord) (account : AccountId)
    (registration : Registration) (c : Copy) : Applied Copy :=
  match s.registrationAccount registration with
  | .error code =>
    throw (.unprojectable record.cursor s!"the registration does not decode: {code}")
  | .ok named =>
    if named.1 ≠ account then
      throw (.unprojectable record.cursor "the registration names another account")
    else do
      let (_, c') ← insertCredential named ⟨registration, sequence⟩ c
      return c'

def applyCommand (s : Services) (sequence : ℕ) (record : LogRecord) (command : Command) (c : Copy) :
    Applied Copy :=
  match command with
  | .createEvent event _ capacity zones metadata =>
    match s.getEvent sequence event with
    | .error code => throw (.ledgerQuery code s!"getEvent({event})")
    | .ok answer =>
      exactlyOne record
        (insertEvent event ⟨answer.owner, .active, capacity, 0, zones, metadata, sequence⟩) c
  | .setEventStatus event status =>
    exactlyOne record
      (updateEvent event fun row => { row with status := status, sequence := sequence }) c
  | .setEventCapacity event capacity =>
    exactlyOne record
      (updateEvent event fun row => { row with maxCapacity := capacity, sequence := sequence }) c
  | .addZone event zone =>
    exactlyOne record
      (updateEvent event fun row => { row with zones := row.zones ++ [zone], sequence := sequence })
      c
  | .removeZone event zone =>
    exactlyOne record
      (updateEvent event fun row =>
        { row with zones := row.zones.filter (·.id ≠ zone), sequence := sequence }) c
  | .issueTicket input => do
    let c' ← exactlyOne record (insertTicket input.ticket (input.row sequence)) c
    exactlyOne record
      (updateEvent input.event fun row => { row with issued := row.issued + 1, sequence := sequence })
      c'
  | .transferTicket event ticket receiver =>
    match (c.tickets ticket).filter (·.eventId = event) with
    | none =>
      throw (.unprojectable record.cursor "the copy holds no such ticket in the event")
    | some previous => do
      let c' ← exactlyOne record
        (updateTicket event ticket fun row => { row with holder := receiver, sequence := sequence })
        c
      exactlyOne record
        (insertTransfer sequence ⟨event, ticket, previous.holder, receiver, record.recordedAt⟩) c'
  | .removeRestriction event ticket restriction =>
    match restriction with
    | .other name => throw (.unprojectable record.cursor s!"unknown restriction {name}")
    | .cannotResale =>
      exactlyOne record
        (updateTicket event ticket fun row =>
          { row with cannotResale := false, sequence := sequence }) c
    | .cannotTransfer =>
      exactlyOne record
        (updateTicket event ticket fun row =>
          { row with cannotTransfer := false, sequence := sequence }) c
  | .registerCredential account registration =>
    applyRegistration s sequence record account registration c
  | .other kind => throw (.unprojectable record.cursor s!"unknown command kind {kind.quote}")

def applyAttendance (sequence : ℕ) (record : LogRecord) (pass : AccessPass) (c : Copy) :
    Applied Copy :=
  match record.event with
  | none => throw (.unprojectable record.cursor "an access pass record names no event")
  | some (event, _) => do
    let c₁ ← exactlyOne record
      (updateTicket event pass.ticket fun row =>
        { row with attendances := row.attendances + 1, sequence := sequence }) c
    let c₂ ← exactlyOne record
      (upsertAttendance pass.ticket event record.recordedAt sequence) c₁
    match record.presentedAt with
    | none => throw (.unprojectable record.cursor "an access pass record carries no presentedAt")
    | some presentedAt =>
      exactlyOne record
        (insertPass (pass.ticket, pass.id)
          ⟨event, pass.holder, pass.notBefore, pass.notAfter, presentedAt, record.recordedAt,
            sequence⟩) c₂

/-- The ledger-facts projection, applied to one record. -/
def ledgerFacts (s : Services) (sequence : ℕ) (record : LogRecord) (c : Copy) : Applied Copy :=
  match record.entry with
  | .command _ _ command => applyCommand s sequence record command c
  | .pass pass => applyAttendance sequence record pass c
  | .other => throw (.unprojectable record.cursor "the entry is neither command nor pass")

/-- The projection folded over a log whose first record has sequence `n`. -/
def Copy.project (s : Services) (n : ℕ) (c : Copy) : List LogRecord → Applied Copy :=
  Derived.project [ledgerFacts s] n c

theorem Copy.project_cons :
    Copy.project s n c (record :: log) =
      (ledgerFacts s n record c).bind fun c' => Copy.project s (n + 1) c' log := by
  simp only [Copy.project, Derived.project, applyAll]
  cases ledgerFacts s n record c <;> rfl

-- ---------------------------------------------------------------------------
-- The copy and the ledger
-- ---------------------------------------------------------------------------

/-- The copy reads as the ledger: events, tickets and attendances. -/
structure Copy.Equals (c : Copy) (l : Ledger) : Prop where
  events : ∀ i, (c.events i).map EventRow.event = l.events i
  tickets : ∀ i, (c.tickets i).map TicketRow.ticket = l.tickets i
  attendance : ∀ i, ((c.attendance i).map AttendanceRow.count).getD 0 =
    ((l.tickets i).map Ticket.attendances).getD 0

/-- The ledger answers every point query, with its state at that record or later. -/
def Services.Answers (s : Services) (config : RulesConfig) (log : List LogRecord) : Prop :=
  ∀ n < log.length, ∃ later l, log.take (n + 1) <+: later ∧
    Ledger.empty.run config s.registrationAccount later = some l ∧
    ∀ event e, l.events event = some e → s.getEvent n event = .ok e

def LogRecord.consumes (record : LogRecord) : Option (TicketId × PassId) :=
  match record.entry with
  | .pass pass => some (pass.ticket, pass.id)
  | _ => none

def LogRecord.storable (record : LogRecord) : Bool :=
  match record.entry with
  | .command _ _ (.createEvent _ _ _ _ metadata) => metadata.all Derived.storable
  | _ => true

def LogRecord.issuesUntransferable (ticket : TicketId) (record : LogRecord) : Bool :=
  match record.entry with
  | .command _ _ (.issueTicket input) => input.ticket = ticket && input.restrictions.cannotTransfer
  | _ => false

def LogRecord.removes (ticket : TicketId) (restriction : Restriction) (record : LogRecord) : Bool :=
  match record.entry with
  | .command _ _ (.removeRestriction _ t r) => t = ticket && r = restriction
  | _ => false

/-- No pass id of a ticket is recorded twice. -/
def PassesOnce (log : List LogRecord) : Prop := (log.filterMap LogRecord.consumes).Nodup

instance : Decidable (PassesOnce log) := inferInstanceAs (Decidable (List.Nodup _))

def LocatorsStorable (log : List LogRecord) : Prop := ∀ r ∈ log, r.storable = true

instance : Decidable (LocatorsStorable log) := inferInstanceAs (Decidable (∀ r ∈ log, _))

/-- A ticket issued as not transferable and freed for resale is freed for transfer by name too. -/
def FreedByName (log : List LogRecord) : Prop :=
  ∀ ticket, log.any (·.issuesUntransferable ticket) → log.any (·.removes ticket .cannotResale) →
    log.any (·.removes ticket .cannotTransfer)

end Kippu.Derived
